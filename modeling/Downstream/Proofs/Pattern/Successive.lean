import Downstream.Proofs.Pattern.Meaning
import Downstream.Proofs.Pattern.Scan

/-!
# The matches of a pattern, one after the other

`Expr.matches` lists the matches that one pass finds. What it lists is said here without the pass,
in terms of what matches where, with all of the text as context.

* `Expr.LeftmostFirst e text start sp`: of the matches that start at `start` or later, `sp` is the
  preferred one at the first place that has any.
* `Expr.Successive e text start last l`: the matches `l` are found one after the other from `start`
  on. Each search starts at the end of the match before, `last`. If it finds only the empty text
  there, this does not count, and the search goes on one byte later. At the end nothing is left to
  be found.
* There is exactly one such list, for every pattern and every text (`Expr.successive_iff`), and it
  has at most one match more than the text has bytes (`Expr.Successive.length_le`).
* `Rewritten r text place l out`: the matches `l` are in order and apart, and `out` is what `text`
  becomes from `place` on if `r` is put in place of each. `splice` does so
  (`Expr.Successive.rewritten`).
-/

namespace Downstream.Pattern

/-- The place of a text behind its first `n` bytes. -/
def Cursor.ofOffset (text : Bytes) (n : Nat) : Cursor :=
  ⟨n, (text.take n).reverse, text.drop n⟩

theorem Cursor.skip_start (text : Bytes) (n : Nat) :
    (Cursor.start text).skip n = .ofOffset text n := by
  simp [skip, start, ofOffset]

namespace Expr

/-! ## Leftmost-first matches -/

/-- No match starts at a place. -/
def Unmatched (e : Expr) (text : Bytes) (place : Nat) : Prop :=
  ∀ d, ¬e.CanMatch (.ofOffset text place) d

/-- Of the matches that start where `sp` does, `sp` is the preferred one. -/
structure Preferred (e : Expr) (text : Bytes) (sp : Span) : Prop where
  start_le : sp.start ≤ text.length
  stop_eq : e.end? (.ofOffset text sp.start) = some sp.stop

/-- Of the matches that start at `start` or later, `sp` is the preferred one at the first place that
has any. -/
structure LeftmostFirst (e : Expr) (text : Bytes) (start : Nat) (sp : Span) : Prop where
  le_start : start ≤ sp.start
  unmatched : ∀ place, start ≤ place → place < sp.start → e.Unmatched text place
  preferred : e.Preferred text sp

/-- The matches that are found one after the other from `start` on, if the match before ended at
`last`. -/
inductive Successive (e : Expr) (text : Bytes) :
    (start : Nat) → (last : Option Nat) → List Span → Prop
  | nil {start : Nat} {last : Option Nat}
    (unmatched : ∀ place, start ≤ place → place ≤ text.length → e.Unmatched text place) :
    Successive e text start last []
  | cons {start : Nat} {last : Option Nat} {sp : Span} {rest : List Span}
    (first : e.LeftmostFirst text start sp) (counts : sp.start = sp.stop → last ≠ some sp.stop)
    (more : Successive e text sp.stop (some sp.stop) rest) : Successive e text start last (sp :: rest)
  /-- An empty match where the one before ended does not count. -/
  | skip {start place : Nat} {l : List Span} (first : e.LeftmostFirst text start ⟨place, place⟩)
    (more : Successive e text (place + 1) (some place) l) : Successive e text start (some place) l

variable {e : Expr} {text : Bytes} {start : Nat} {last : Option Nat} {sp sp' : Span}
  {l l' : List Span}

theorem end?_eq_none_iff {place : Nat} :
    e.end? (.ofOffset text place) = none ↔ e.Unmatched text place := by
  rw [end?, Option.map_eq_none_iff, List.head?_eq_none_iff, stops_eq_nil_iff]
  rfl

namespace Preferred

theorem not_unmatched (h : e.Preferred text sp) : ¬e.Unmatched text sp.start := fun hn => by
  have hend := h.stop_eq
  rw [end?_eq_none_iff.2 hn] at hend
  cases hend

theorem unique (h : e.Preferred text sp) (h' : e.Preferred text sp') (hstart : sp.start = sp'.start) :
    sp = sp' := by
  obtain ⟨start, stop⟩ := sp
  obtain ⟨start', stop'⟩ := sp'
  obtain rfl : start = start' := hstart
  obtain rfl : stop = stop' := Option.some.inj (h.stop_eq.symm.trans h'.stop_eq)
  rfl

/-- A match ends in the text, and not before it starts. -/
theorem stop_bounds (h : e.Preferred text sp) : sp.start ≤ sp.stop ∧ sp.stop ≤ text.length := by
  obtain ⟨d, hd, hstop⟩ := Option.map_eq_some_iff.1 h.stop_eq
  obtain ⟨n, hn, rfl⟩ := e.stops_reaches (List.mem_of_mem_head? hd)
  have hstart := h.start_le
  have hlen : n ≤ text.length - sp.start := by
    rw [← List.length_drop]
    exact hn
  have hsum : sp.start + n = sp.stop := hstop
  omega

end Preferred

namespace LeftmostFirst

theorem of_succ (h : e.LeftmostFirst text (start + 1) sp) (hstart : e.Unmatched text start) :
    e.LeftmostFirst text start sp where
  le_start := Nat.le_of_succ_le h.le_start
  unmatched place hle hlt := by
    rcases Nat.eq_or_lt_of_le hle with rfl | hle
    · exact hstart
    · exact h.unmatched place hle hlt
  preferred := h.preferred

theorem of_preferred (h : e.Preferred text sp) : e.LeftmostFirst text sp.start sp where
  le_start := Nat.le_refl _
  unmatched _ hle hlt := absurd hlt (Nat.not_lt.2 hle)
  preferred := h

theorem unique (h : e.LeftmostFirst text start sp) (h' : e.LeftmostFirst text start sp') :
    sp = sp' := by
  refine h.preferred.unique h'.preferred ?_
  rcases Nat.lt_trichotomy sp.start sp'.start with hlt | heq | hlt
  · exact absurd (h'.unmatched _ h.le_start hlt) h.preferred.not_unmatched
  · exact heq
  · exact absurd (h.unmatched _ h'.le_start hlt) h'.preferred.not_unmatched

end LeftmostFirst

/-! ## Successive matches -/

namespace Successive

/-- Where there is no match at a place, one can go on behind it. -/
theorem of_succ (h : e.Successive text (start + 1) last l) (hstart : e.Unmatched text start) :
    e.Successive text start last l := by
  cases h with
  | nil unmatched =>
    refine .nil fun place hle hlen => ?_
    rcases Nat.eq_or_lt_of_le hle with rfl | hle
    · exact hstart
    · exact unmatched place hle hlen
  | cons first counts more => exact .cons (first.of_succ hstart) counts more
  | skip first more => exact .skip (first.of_succ hstart) more

/-- **There is at most one way to go through a text.** -/
theorem unique (h : e.Successive text start last l) (h' : e.Successive text start last l') :
    l = l' := by
  have hnone : ∀ {start sp}, e.LeftmostFirst text start sp →
      ¬∀ place, start ≤ place → place ≤ text.length → e.Unmatched text place := fun hfirst hn =>
    hfirst.preferred.not_unmatched (hn _ hfirst.le_start hfirst.preferred.start_le)
  induction h generalizing l' with
  | nil unmatched =>
    cases h' with
    | nil => rfl
    | cons first => exact absurd unmatched (hnone first)
    | skip first => exact absurd unmatched (hnone first)
  | cons first counts _ ih =>
    cases h' with
    | nil unmatched => exact absurd unmatched (hnone first)
    | cons first' _ more' =>
      obtain rfl := first.unique first'
      rw [ih more']
    | skip first' =>
      obtain rfl := first.unique first'
      exact absurd rfl (counts rfl)
  | skip first _ ih =>
    cases h' with
    | nil unmatched => exact absurd unmatched (hnone first)
    | cons first' counts' =>
      obtain rfl := first.unique first'
      exact absurd rfl (counts' rfl)
    | skip _ more' => exact ih more'

/-- The search goes on at every match, so there are not more matches than places. -/
theorem length_le (h : e.Successive text start last l) (hstart : start ≤ text.length + 1) :
    l.length + start ≤ text.length + 1 := by
  -- Where the search starts with an empty match that does not count, the place is used up.
  suffices hboth : l.length + start ≤ text.length + 1 ∧
      (last = some start → e.Preferred text ⟨start, start⟩ →
        l.length + (start + 1) ≤ text.length + 1) from hboth.1
  induction h with
  | nil unmatched =>
    refine ⟨by rw [List.length_nil]; omega, fun _ hempty => ?_⟩
    exact absurd (unmatched _ (Nat.le_refl _) hempty.start_le) hempty.not_unmatched
  | @cons start last sp rest first counts _ ih =>
    have hle := first.le_start
    obtain ⟨hstop, hlen⟩ := first.preferred.stop_bounds
    obtain ⟨hmore, hempty⟩ := ih (by omega)
    have hrest : rest.length + (sp.start + 1) ≤ text.length + 1 := by
      rcases Nat.eq_or_lt_of_le hstop with heq | hlt
      · have hsp : sp = ⟨sp.stop, sp.stop⟩ := congrArg (Span.mk · sp.stop) heq
        rw [heq]
        exact hempty rfl (by rw [← hsp]; exact first.preferred)
      · omega
    rw [List.length_cons]
    refine ⟨by omega, fun hlast hpref => ?_⟩
    obtain rfl := first.unique (.of_preferred hpref)
    exact absurd hlast (counts rfl)
  | @skip start place l first _ ih =>
    have hle : start ≤ place := first.le_start
    have hlen : place ≤ text.length := first.preferred.start_le
    obtain ⟨hmore, -⟩ := ih (Nat.succ_le_succ hlen)
    refine ⟨by omega, fun hlast _ => ?_⟩
    obtain rfl := Option.some.inj hlast
    exact hmore

end Successive

/-! ## What the pass finds -/

theorem ends_eq_map_range (e : Expr) (text : Bytes) :
    e.ends text = (List.range (text.length + 1)).map fun n => e.end? (.ofOffset text n) := by
  have hlater : (Cursor.start text).later =
      (List.range text.length).map fun n => .ofOffset text (n + 1) :=
    List.map_congr_left fun n _ => Cursor.skip_start text (n + 1)
  rw [ends_eq, Cursor.onward, hlater, List.range_succ_eq_map, List.map_cons, List.map_cons,
    List.map_map, List.map_map, ← Cursor.skip_start text 0, Cursor.skip_zero]
  rfl

/-- What is taken from the ends at the places from `place` on are successive matches, from `start`
on if that is further. -/
theorem successive_spansFrom {count place : Nat} (h : place + count = text.length + 1)
    (start : Nat) (last : Option Nat) :
    e.Successive text (max start place) last
      (spansFrom ((List.range' place count).map fun n => e.end? (.ofOffset text n)) place start
        last) := by
  induction count generalizing place start last with
  | zero => exact .nil fun later hle hlen => by omega
  | succ count ih =>
    have hmore : ∀ start last, e.Successive text (max start (place + 1)) last _ :=
      ih (by omega)
    have hsucc := hmore start last
    rw [List.range'_succ, List.map_cons]
    by_cases hlt : place < start
    · rw [Nat.max_eq_left hlt] at hsucc
      rw [Nat.max_eq_left (Nat.le_of_lt hlt)]
      cases e.end? (.ofOffset text place) <;> simpa only [spansFrom, if_pos hlt] using hsucc
    · rw [Nat.max_eq_right (by omega)] at hsucc
      rw [Nat.max_eq_right (Nat.le_of_not_lt hlt)]
      cases hend : e.end? (.ofOffset text place) with
      | none =>
        simp only [spansFrom, if_neg hlt]
        exact hsucc.of_succ (end?_eq_none_iff.1 hend)
      | some stop =>
        have hpref : e.Preferred text ⟨place, stop⟩ := ⟨show place ≤ text.length by omega, hend⟩
        have hstop : place ≤ stop := hpref.stop_bounds.1
        simp only [spansFrom, if_neg hlt]
        by_cases hskip : stop = place ∧ last = some place
        · obtain ⟨rfl, rfl⟩ := hskip
          rw [if_pos ⟨rfl, rfl⟩]
          exact .skip (.of_preferred hpref) hsucc
        · rw [if_neg hskip]
          refine .cons (.of_preferred hpref) (fun heq hlast => hskip ?_) ?_
          · exact ⟨heq.symm, hlast.trans (congrArg some heq.symm)⟩
          · have hrest := hmore stop (some stop)
            rcases Nat.eq_or_lt_of_le hstop with rfl | hgt
            · rw [Nat.max_eq_right (Nat.le_succ _)] at hrest
              exact .skip (.of_preferred hpref) hrest
            · rwa [Nat.max_eq_left hgt] at hrest

/-- **The matches of a pattern are found one after the other**, and no other list of spans is. -/
theorem successive_iff : e.Successive text 0 none l ↔ l = e.matches text := by
  have hmatches : e.Successive text 0 none (e.matches text) := by
    have hspans : e.Successive text (max 0 0) none _ :=
      successive_spansFrom (Nat.zero_add (text.length + 1)) 0 none
    rwa [← List.range_eq_range', ← ends_eq_map_range, Nat.max_self] at hspans
  exact ⟨fun h => h.unique hmatches, fun h => h ▸ hmatches⟩

end Expr

/-! ## Replacing matches -/

/-- What a text becomes from `place` on, if `r` is put in place of the spans and all bytes between
them are kept. -/
inductive Rewritten (r text : Bytes) : (place : Nat) → List Span → Bytes → Prop
  | nil {place : Nat} (le : place ≤ text.length) : Rewritten r text place [] (text.drop place)
  | cons {place : Nat} {sp : Span} {rest : List Span} {out : Bytes} (le_start : place ≤ sp.start)
    (start_le : sp.start ≤ sp.stop) (more : Rewritten r text sp.stop rest out) :
    Rewritten r text place (sp :: rest) (Span.text ⟨place, sp.start⟩ text ++ r ++ out)

namespace Rewritten

variable {r text out : Bytes} {place : Nat} {l : List Span}

theorem bounds (h : Rewritten r text place l out) :
    place ≤ text.length ∧ ∀ sp ∈ l, place ≤ sp.start ∧ sp.start ≤ sp.stop ∧
      sp.stop ≤ text.length := by
  induction h with
  | nil le => exact ⟨le, List.forall_mem_nil _⟩
  | cons le_start start_le _ ih =>
    obtain ⟨hstop, hrest⟩ := ih
    refine ⟨by omega, List.forall_mem_cons.2 ⟨⟨le_start, start_le, hstop⟩, fun sp hsp => ?_⟩⟩
    obtain ⟨hle, hspan⟩ := hrest sp hsp
    exact ⟨by omega, hspan⟩

/-- The spans are in order and apart. -/
theorem pairwise (h : Rewritten r text place l out) :
    l.Pairwise fun sp sp' => sp.stop ≤ sp'.start := by
  induction h with
  | nil => exact .nil
  | cons _ _ more ih => exact .cons (fun sp hsp => (more.bounds.2 sp hsp).1) ih

end Rewritten

/-- **Putting a text in place of successive matches keeps what is between them.** -/
theorem Expr.Successive.rewritten {e : Expr} {text : Bytes} {start : Nat} {last : Option Nat}
    {l : List Span} (h : e.Successive text start last l) (r : Bytes) {place : Nat}
    (hstart : place ≤ start) (hle : place ≤ text.length) :
    Rewritten r text place l (splice r l place (text.drop place)) := by
  induction h generalizing place with
  | nil => exact .nil hle
  | @cons start last sp rest first _ _ ih =>
    obtain ⟨hstop, hlen⟩ := first.preferred.stop_bounds
    have hplace := Nat.le_trans hstart first.le_start
    have hdrop : (text.drop place).drop (sp.stop - place) = text.drop sp.stop := by
      rw [List.drop_drop]
      congr 1
      omega
    rw [splice, hdrop]
    exact .cons hplace hstop (ih (Nat.le_refl _) hlen)
  | skip first _ ih =>
    exact ih (Nat.le_succ_of_le (Nat.le_trans hstart first.le_start)) hle

end Downstream.Pattern
