import Downstream.Proofs.Pattern.Stops

/-!
# One pass finds the preferred matches

The pass of `Downstream.Pattern.Search` answers at each place of a text where the match ends that
is preferred there, and `Expr.ends_eq` says that this is the first of `Expr.stops`.

The invariant of the pass is `Machine.before`: it is the machine of a pattern before the places seen
so far, given what follows the pattern answers there. A step over a place keeps it, and the outcome
of the step, resolved by what follows at that place, is the first answer among the places where the
pattern can stop (`Machine.step_before`).
-/

namespace Downstream.Pattern

/-! ## Answers at places -/

/-- The answers `answer`, but `e` at the place `c`. -/
def answerAt (c : Cursor) (e : End) (answer : Cursor → End) (d : Cursor) : End :=
  if d = c then e else answer d

@[simp] theorem answerAt_self (c : Cursor) (e : End) (answer : Cursor → End) :
    answerAt c e answer c = e := if_pos rfl

theorem answerAt_of_ne {c d : Cursor} (h : d ≠ c) (e : End) (answer : Cursor → End) :
    answerAt c e answer d = answer d := if_neg h

@[simp] theorem answerAt_answer (c : Cursor) (answer : Cursor → End) :
    answerAt c (answer c) answer = answer := by
  funext d
  by_cases h : d = c
  · rw [h, answerAt_self]
  · rw [answerAt_of_ne h]

theorem findSome?_flatMap {α β γ : Type} (l : List α) (f : α → List β) (g : β → Option γ) :
    (l.flatMap f).findSome? g = l.findSome? fun a => (f a).findSome? g := by
  induction l with
  | nil => rfl
  | cons a l ih =>
    rw [List.flatMap_cons, List.findSome?_append, ih, List.findSome?_cons]
    cases (f a).findSome? g <;> rfl

theorem findSome?_congr {α β : Type} {l : List α} {f g : α → Option β}
    (h : ∀ a ∈ l, f a = g a) : l.findSome? f = l.findSome? g := by
  induction l with
  | nil => rfl
  | cons a l ih =>
    rw [List.findSome?_cons, List.findSome?_cons, h a List.mem_cons_self,
      ih fun b hb => h b (List.mem_cons_of_mem a hb)]

/-- Without an answer at `c`, the answers are those at the other places. -/
theorem findSome?_answerAt_none (c : Cursor) (answer : Cursor → End) (l : List Cursor) :
    l.findSome? (answerAt c none answer) = (l.filter (· ≠ c)).findSome? answer := by
  induction l with
  | nil => rfl
  | cons d l ih =>
    by_cases h : d = c
    · rw [List.findSome?_cons, h, answerAt_self, ih]
      simp
    · rw [List.findSome?_cons, answerAt_of_ne h, ih, List.filter_cons_of_pos (by simpa using h),
        List.findSome?_cons]

/-! ## The invariant -/

/-- A pattern before the places `seen`, if what follows it answers `answer` there. -/
def Machine.before (seen : List Cursor) : Expr → (answer : Cursor → End) → Machine
  | .empty, _ => empty
  | .scalar set, answer => scalar set ((seen.take 4).map answer)
  | .octet set, answer => octet set (seen.head?.bind answer)
  | .look l, _ => look l
  | .seq a b, answer =>
    seq (before seen a fun c => (b.stops c).findSome? answer) (before seen b answer)
  | .alt a b, answer => alt (before seen a answer) (before seen b answer)
  | .plus greedy a, answer =>
    plus greedy
      (before seen a fun c => (rounds greedy a.stops c.after.length c).findSome? answer)

theorem Machine.before_nil (e : Expr) (answer : Cursor → End) :
    Machine.before [] e answer = Machine.ofExpr e := by
  induction e generalizing answer with
  | empty => rfl
  | scalar set => rfl
  | octet set => rfl
  | look l => rfl
  | seq a b iha ihb => rw [before, iha, ihb, ofExpr]
  | alt a b iha ihb => rw [before, iha, ihb, ofExpr]
  | plus greedy a ih => rw [before, ih, ofExpr]

/-- The answers behind one part are the answers at the ends of the part that follows. -/
theorem findSome?_stops_flatMap {c : Cursor} (a : Expr) (f : Cursor → List Cursor)
    (hf : ∀ d e, e ∈ f d → d.Reaches e) (v : End) (answer : Cursor → End) :
    ((a.stops c).flatMap f).findSome? (answerAt c v answer) =
      (a.stops c).findSome? (answerAt c ((f c).findSome? (answerAt c v answer))
        fun d => (f d).findSome? answer) := by
  rw [findSome?_flatMap]
  refine findSome?_congr fun d hd => ?_
  by_cases hdc : d = c
  · rw [hdc, answerAt_self]
  · rw [answerAt_of_ne hdc]
    refine findSome?_congr fun e he => ?_
    exact answerAt_of_ne ((a.stops_reaches hd).ne_of_ne hdc (hf d e he)) v answer

theorem findSome?_rounds (greedy : Bool) (a : Expr) (c : Cursor) (answer : Cursor → End) :
    (rounds greedy a.stops c.after.length c).findSome? answer =
      let again := ((a.stops c).filter (· ≠ c)).findSome? fun d =>
        (rounds greedy a.stops d.after.length d).findSome? answer
      if greedy then again <|> answer c else answer c <|> again := by
  rw [rounds_length fun _ _ h => a.stops_reaches h]
  cases greedy
  · simp only [Bool.false_eq_true, if_false, List.findSome?_cons, findSome?_flatMap]
    cases answer c <;> rfl
  · simp only [if_true, List.findSome?_append, findSome?_flatMap, List.findSome?_singleton,
      Option.orElse_eq_orElse, Option.orElse_eq_or]

/-- At the place itself a round is the last one; elsewhere more rounds may follow it. -/
theorem findSome?_stops_plus (greedy : Bool) (a : Expr) (c : Cursor) (v : End)
    (answer : Cursor → End) :
    ((Expr.plus greedy a).stops c).findSome? (answerAt c v answer) =
      (a.stops c).findSome? (answerAt c v fun d =>
        (rounds greedy a.stops d.after.length d).findSome? answer) := by
  rw [Expr.stops, findSome?_stops_flatMap a _ ?reach]
  case reach =>
    intro d e he
    split at he
    next hdc =>
      rw [List.mem_singleton] at he
      exact he ▸ hdc ▸ Cursor.Reaches.refl d
    next => exact rounds_reaches (fun _ _ h => a.stops_reaches h) he
  refine findSome?_congr fun d _ => ?_
  by_cases hdc : d = c
  · rw [hdc, answerAt_self, answerAt_self, if_pos rfl, List.findSome?_singleton, answerAt_self]
  · rw [answerAt_of_ne hdc, answerAt_of_ne hdc, if_neg hdc]

/-- The character at a place is passed to the answer behind it, one of the four places seen last. -/
theorem Machine.resolve_step_scalar (set : Unicode.CharSet) (c : Cursor) (v : End)
    (answer : Cursor → End) :
    ((before c.later (.scalar set) answer).step c).1.resolve v =
      ((Expr.scalar set).stops c).findSome? (answerAt c v answer) := by
  simp only [before, step, Outcome.resolve, Expr.stops]
  cases hdec : Utf8.decode? c.after with
  | none => rfl
  | some p =>
    obtain ⟨char, width⟩ := p
    obtain ⟨hpos, hle, hlen⟩ := Utf8.decode?_width hdec
    have hnext : ((c.later.take 4).map answer)[width - 1]? = some (answer (c.skip width)) := by
      rw [List.getElem?_map, List.getElem?_take_of_lt (by omega),
        Cursor.getElem?_later (by omega), Nat.sub_add_cancel hpos, Option.map_some]
    by_cases hset : set.has char.toNat = true
    · simp only [Option.bind_eq_bind, Option.bind_some, hset, if_true, hnext]
      rw [List.findSome?_singleton, answerAt_of_ne (Cursor.skip_ne hpos c)]
    · simp [hset]

/-- The byte at a place is passed to the answer at the place seen last. -/
theorem Machine.resolve_step_octet (set : Unicode.CharSet) (c : Cursor) (v : End)
    (answer : Cursor → End) :
    ((before c.later (.octet set) answer).step c).1.resolve v =
      ((Expr.octet set).stops c).findSome? (answerAt c v answer) := by
  simp only [before, step, Outcome.resolve, Expr.stops]
  cases hafter : c.after with
  | nil => rfl
  | cons b rest =>
    have hnext : c.later.head? = some (c.skip 1) := by
      rw [List.head?_eq_getElem?, Cursor.getElem?_later (by simp [hafter])]
    by_cases hset : set.has b.toNat = true
    · simp [hset, hnext, answerAt_of_ne (Cursor.skip_ne Nat.one_pos c)]
    · simp [hset]

/-- **A step over a place keeps the invariant**, and its outcome is the first answer at the places
where the pattern can stop, whatever follows answers at the place itself. -/
theorem Machine.step_before (e : Expr) (c : Cursor) (answer : Cursor → End) :
    (∀ v, ((before c.later e answer).step c).1.resolve v =
        (e.stops c).findSome? (answerAt c v answer)) ∧
      ((before c.later e answer).step c).2 (answer c) = before (c :: c.later) e answer := by
  induction e generalizing answer with
  | empty => exact ⟨fun v => by simp [before, step, Outcome.resolve, Expr.stops], rfl⟩
  | scalar set =>
    refine ⟨fun v => resolve_step_scalar set c v answer, ?_⟩
    simp only [before, step, List.take_succ_cons, List.map_cons, ← List.map_take, List.take_take]
    rfl
  | octet set => exact ⟨fun v => resolve_step_octet set c v answer, rfl⟩
  | look l =>
    refine ⟨fun v => ?_, rfl⟩
    by_cases hl : l.holds c = true
    · simp [before, step, Outcome.resolve, Expr.stops, hl]
    · simp [before, step, Outcome.resolve, Expr.stops, hl]
  | seq a b iha ihb =>
    obtain ⟨hb, hb'⟩ := ihb answer
    obtain ⟨ha, ha'⟩ := iha fun d => (b.stops d).findSome? answer
    refine ⟨fun v => ?_, ?_⟩
    · simp only [before, step, Outcome.resolve_andThen, Expr.stops]
      rw [findSome?_stops_flatMap a b.stops (fun _ _ h => b.stops_reaches h), ha, hb]
    · simp only [before, step, seq.injEq]
      refine ⟨?_, hb'⟩
      rw [hb, answerAt_answer]
      exact ha'
  | alt a b iha ihb =>
    obtain ⟨ha, ha'⟩ := iha answer
    obtain ⟨hb, hb'⟩ := ihb answer
    refine ⟨fun v => ?_, ?_⟩
    · simp only [before, step, Outcome.resolve_orElse, Expr.stops]
      rw [ha, hb, List.findSome?_append, Option.orElse_eq_orElse, Option.orElse_eq_or]
    · simp only [before, step, alt.injEq]
      exact ⟨ha', hb'⟩
  | plus greedy a ih =>
    obtain ⟨ha, ha'⟩ := ih fun d => (rounds greedy a.stops d.after.length d).findSome? answer
    refine ⟨fun v => ?_, ?_⟩
    · simp only [before, step]
      rw [ha, findSome?_stops_plus]
    · simp only [before, step, plus.injEq, true_and]
      rw [ha, findSome?_answerAt_none, ← ha', findSome?_rounds]

/-! ## The pass -/

/-- The places from `c` on, the nearest first. -/
def Cursor.onward (c : Cursor) : List Cursor :=
  c :: c.later

theorem Cursor.allAux_eq (offset : Nat) (before text : Bytes) (acc : List Cursor) :
    allAux offset before text acc = (onward ⟨offset, before, text⟩).reverse ++ acc := by
  induction text generalizing offset before acc with
  | nil => rfl
  | cons b rest ih =>
    rw [allAux, ih, onward, onward, later_cons]
    simp

/-- The start of a text. -/
def Cursor.start (text : Bytes) : Cursor :=
  ⟨0, [], text⟩

/-- The end of the match that is preferred at a place. -/
def Expr.end? (e : Expr) (c : Cursor) : End :=
  (e.stops c).head?.map Cursor.offset

theorem Expr.end?_eq_findSome? (e : Expr) (c : Cursor) :
    e.end? c = (e.stops c).findSome? fun d => some d.offset := by
  unfold end?
  cases e.stops c <;> rfl

/-- A place taken into the pass adds its answer and keeps the invariant. -/
theorem Pass.extend_before (e : Expr) (c : Cursor) (ends : List End) :
    Pass.extend ⟨Machine.before c.later e fun d => some d.offset, ends⟩ c =
      ⟨Machine.before c.onward e fun d => some d.offset, e.end? c :: ends⟩ := by
  obtain ⟨ho, hf⟩ := Machine.step_before e c fun d => some d.offset
  simp only [extend, mk.injEq, List.cons.injEq, and_true]
  refine ⟨hf, ?_⟩
  rw [ho, answerAt_answer c fun d => some d.offset, Expr.end?_eq_findSome?]

theorem Pass.foldr_extend (e : Expr) (c : Cursor) :
    c.onward.foldr (fun d p => Pass.extend p d) (Pass.mk (Machine.ofExpr e) []) =
      Pass.mk (Machine.before c.onward e fun d => some d.offset) (c.onward.map e.end?) := by
  obtain ⟨offset, before, text⟩ := c
  induction text generalizing offset before with
  | nil =>
    have hlater : Cursor.later ⟨offset, before, []⟩ = [] := rfl
    rw [Cursor.onward, List.foldr_cons, hlater, List.foldr_nil,
      ← Machine.before_nil e fun d => some d.offset, ← hlater, Pass.extend_before, Cursor.onward,
      List.map_cons, hlater, List.map_nil]
  | cons b rest ih =>
    have hlater := Cursor.later_cons offset before b rest
    rw [← Cursor.onward] at hlater
    rw [Cursor.onward, List.foldr_cons, hlater, ih, ← hlater, Pass.extend_before, Cursor.onward,
      List.map_cons]

/-- **The pass finds the preferred match at every place.** -/
theorem Expr.ends_eq (e : Expr) (text : Bytes) :
    e.ends text = (Cursor.start text).onward.map e.end? := by
  rw [ends, Cursor.all, Cursor.allAux_eq, List.append_nil, List.foldl_reverse]
  exact congrArg Pass.ends (Pass.foldr_extend e _)

end Downstream.Pattern
