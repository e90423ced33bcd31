import Downstream.Proofs.Pattern.Stops

/-!
# What a pattern matches

`Expr.CanMatch e c d` says that `e` matches what stands between the places `c` and `d`, with one rule
for each form of a pattern; it knows no preferences and no end of a search. `Expr.stops` lists where
matches can end in the order of preference, and it lists all of these places and no others
(`Expr.mem_stops_iff`). So where it lists none there is no match at all (`Expr.stops_eq_nil_iff`).
-/

namespace Downstream.Pattern.Expr

/-- A pattern matches what stands between two places. -/
inductive CanMatch : Expr → Cursor → Cursor → Prop
  | empty {c : Cursor} : CanMatch .empty c c
  | scalar {set : Unicode.CharSet} {c : Cursor} {char : Char} {width : Nat}
    (decoded : Utf8.decode? c.after = some (char, width)) (has : set.has char.toNat = true) :
    CanMatch (.scalar set) c (c.skip width)
  | octet {set : Unicode.CharSet} {c : Cursor} {b : UInt8} {rest : Bytes}
    (after : c.after = b :: rest) (has : set.has b.toNat = true) : CanMatch (.octet set) c (c.skip 1)
  | look {l : Look} {c : Cursor} (holds : l.holds c = true) : CanMatch (.look l) c c
  | seq {a b : Expr} {c d e : Cursor} (first : CanMatch a c d) (second : CanMatch b d e) :
    CanMatch (.seq a b) c e
  | left {a b : Expr} {c d : Cursor} (here : CanMatch a c d) : CanMatch (.alt a b) c d
  | right {a b : Expr} {c d : Cursor} (here : CanMatch b c d) : CanMatch (.alt a b) c d
  | once {greedy : Bool} {a : Expr} {c d : Cursor} (round : CanMatch a c d) :
    CanMatch (.plus greedy a) c d
  | again {greedy : Bool} {a : Expr} {c d e : Cursor} (round : CanMatch a c d)
    (more : CanMatch (.plus greedy a) d e) : CanMatch (.plus greedy a) c e

variable {greedy : Bool} {a : Expr} {c d : Cursor}

/-! ## Rounds of a part -/

/-- The ends of further rounds are the ends of all rounds, or the place itself. -/
theorem canMatch_of_mem_rounds (ha : ∀ {c d}, d ∈ a.stops c → CanMatch a c d) {fuel : Nat}
    (h : d ∈ rounds greedy a.stops fuel c) : d = c ∨ CanMatch (.plus greedy a) c d := by
  induction fuel generalizing c with
  | zero => exact Or.inl (List.mem_singleton.1 h)
  | succ fuel ih =>
    rcases mem_rounds_succ.1 h with rfl | ⟨e, he, -, hd⟩
    · exact Or.inl rfl
    · rcases ih hd with rfl | hmore
      · exact Or.inr (.once (ha he))
      · exact Or.inr (.again (ha he) hmore)

theorem mem_rounds_length : d ∈ rounds greedy a.stops c.after.length c ↔
    d = c ∨ ∃ e ∈ a.stops c, e ≠ c ∧ d ∈ rounds greedy a.stops e.after.length e := by
  rw [rounds_length fun _ _ h => a.stops_reaches h]
  cases greedy <;> simp [and_assoc, or_comm]

theorem mem_stops_plus : d ∈ (plus greedy a).stops c ↔
    ∃ e ∈ a.stops c, (e = c ∧ d = c) ∨ (e ≠ c ∧ d ∈ rounds greedy a.stops e.after.length e) := by
  rw [stops, List.mem_flatMap]
  refine exists_congr fun e => and_congr_right fun _ => ?_
  by_cases he : e = c <;> simp [he]

/-- All rounds together are further rounds, if only of one. -/
theorem mem_rounds_of_mem_stops_plus (h : d ∈ (plus greedy a).stops c) :
    d ∈ rounds greedy a.stops c.after.length c := by
  obtain ⟨e, he, ⟨-, rfl⟩ | ⟨hne, hd⟩⟩ := mem_stops_plus.1 h
  · exact mem_rounds_length.2 (Or.inl rfl)
  · exact mem_rounds_length.2 (Or.inr ⟨e, he, hne, hd⟩)

/-! ## All matches are listed -/

theorem canMatch_of_mem_stops (e : Expr) (h : d ∈ e.stops c) : CanMatch e c d := by
  induction e generalizing c d with
  | empty =>
    obtain rfl := List.mem_singleton.1 h
    exact .empty
  | scalar set =>
    unfold stops at h
    split at h
    next char width hdec =>
      split at h
      next hset =>
        obtain rfl := List.mem_singleton.1 h
        exact .scalar hdec hset
      · cases h
    · cases h
  | octet set =>
    unfold stops at h
    split at h
    next b rest hafter =>
      split at h
      next hset =>
        obtain rfl := List.mem_singleton.1 h
        exact .octet hafter hset
      · cases h
    · cases h
  | look l =>
    unfold stops at h
    split at h
    next hl =>
      obtain rfl := List.mem_singleton.1 h
      exact .look hl
    · cases h
  | seq a b iha ihb =>
    obtain ⟨x, hx, hd⟩ := List.mem_flatMap.1 h
    exact .seq (iha hx) (ihb hd)
  | alt a b iha ihb =>
    rcases List.mem_append.1 h with h | h
    · exact .left (iha h)
    · exact .right (ihb h)
  | plus greedy a ih =>
    obtain ⟨x, hx, ⟨rfl, rfl⟩ | ⟨-, hd⟩⟩ := mem_stops_plus.1 h
    · exact .once (ih hx)
    · rcases canMatch_of_mem_rounds ih hd with rfl | hmore
      · exact .once (ih hx)
      · exact .again (ih hx) hmore

theorem mem_stops_of_canMatch {e : Expr} (h : CanMatch e c d) : d ∈ e.stops c := by
  induction h with
  | empty => exact List.mem_singleton.2 rfl
  | scalar decoded has => simp [stops, decoded, has]
  | octet after has => simp [stops, after, has]
  | look holds => simp [stops, holds]
  | seq _ _ ih ih' => exact List.mem_flatMap.2 ⟨_, ih, ih'⟩
  | left _ ih => exact List.mem_append_left _ ih
  | right _ ih => exact List.mem_append_right _ ih
  | @once greedy a c d _ ih =>
    refine mem_stops_plus.2 ⟨d, ih, ?_⟩
    by_cases hd : d = c
    · exact Or.inl ⟨hd, hd⟩
    · exact Or.inr ⟨hd, mem_rounds_length.2 (Or.inl rfl)⟩
  | @again greedy a c d e _ _ ih ihmore =>
    by_cases hd : d = c
    · exact hd ▸ ihmore
    · exact mem_stops_plus.2 ⟨d, ih, Or.inr ⟨hd, mem_rounds_of_mem_stops_plus ihmore⟩⟩

/-- **The places where a match can end are all listed**, and no others are. -/
theorem mem_stops_iff {e : Expr} : d ∈ e.stops c ↔ CanMatch e c d :=
  ⟨e.canMatch_of_mem_stops, mem_stops_of_canMatch⟩

theorem stops_eq_nil_iff {e : Expr} : e.stops c = [] ↔ ∀ d, ¬CanMatch e c d := by
  rw [List.eq_nil_iff_forall_not_mem]
  exact forall_congr' fun d => not_congr mem_stops_iff

end Downstream.Pattern.Expr
