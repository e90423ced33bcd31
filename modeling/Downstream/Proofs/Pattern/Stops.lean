import Downstream.Pattern.Search
import Downstream.Proofs.Text.Utf8

/-!
# Where a pattern can stop

`Expr.stops` lists all places where a match of a pattern from a given place can end, the preferred
one first: what a search finds that tries the alternatives in order and goes back to the next one
whenever what follows fails. It says what a match *is*; how it is found in one pass is the matter of
`Downstream.Proofs.Pattern.Search`.

* `Cursor.skip n` is the place `n` bytes on, and `Cursor.later` lists the places behind a place.
* `rounds` lists the ends of any number of rounds of a part, each of which consumes something.
* A match ends at the place itself or at a later one (`Expr.stops_skip`).
-/

namespace Downstream.Pattern

/-! ## Places further on -/

namespace Cursor

/-- The place `n` bytes on. -/
def skip (n : Nat) (c : Cursor) : Cursor :=
  ⟨c.offset + n, (c.after.take n).reverse ++ c.before, c.after.drop n⟩

/-- The places behind a place, the nearest first. -/
def later (c : Cursor) : List Cursor :=
  (List.range c.after.length).map fun n => c.skip (n + 1)

@[simp] theorem skip_offset (n : Nat) (c : Cursor) : (c.skip n).offset = c.offset + n := rfl

@[simp] theorem skip_after (n : Nat) (c : Cursor) : (c.skip n).after = c.after.drop n := rfl

@[simp] theorem skip_zero (c : Cursor) : c.skip 0 = c := rfl

theorem skip_skip (m n : Nat) (c : Cursor) : (c.skip m).skip n = c.skip (m + n) := by
  simp only [skip, List.drop_drop, mk.injEq, and_true]
  refine ⟨Nat.add_assoc _ _ _, ?_⟩
  rw [List.take_add, List.reverse_append, List.append_assoc]

theorem skip_ne {n : Nat} (h : 0 < n) (c : Cursor) : c.skip n ≠ c := by
  intro he
  have ho := congrArg offset he
  rw [skip_offset] at ho
  omega

theorem skip_cons (o : Nat) (before : Bytes) (b : UInt8) (rest : Bytes) (n : Nat) :
    skip (n + 1) ⟨o, before, b :: rest⟩ = skip n ⟨o + 1, b :: before, rest⟩ := by
  simp only [skip, List.take_succ_cons, List.reverse_cons, List.append_assoc, List.drop_succ_cons,
    List.singleton_append, mk.injEq, and_true]
  omega

theorem later_cons (o : Nat) (before : Bytes) (b : UInt8) (rest : Bytes) :
    later ⟨o, before, b :: rest⟩ =
      ⟨o + 1, b :: before, rest⟩ :: later ⟨o + 1, b :: before, rest⟩ := by
  simp only [later, List.length_cons, List.range_succ_eq_map, List.map_cons, List.map_map]
  rw [skip_cons o before b rest 0, skip_zero]
  refine congrArg (List.cons _) (List.map_congr_left fun n _ => ?_)
  exact skip_cons o before b rest (n + 1)

theorem getElem?_later {n : Nat} {c : Cursor} (h : n < c.after.length) :
    c.later[n]? = some (c.skip (n + 1)) := by
  rw [later, List.getElem?_map, List.getElem?_range h, Option.map_some]

/-- `d` is the place `c` or one behind it. -/
def Reaches (c d : Cursor) : Prop :=
  ∃ n ≤ c.after.length, d = c.skip n

theorem Reaches.refl (c : Cursor) : c.Reaches c := ⟨0, Nat.zero_le _, rfl⟩

theorem Reaches.trans {c d e : Cursor} (hd : c.Reaches d) (he : d.Reaches e) : c.Reaches e := by
  obtain ⟨m, hm, rfl⟩ := hd
  obtain ⟨n, hn, rfl⟩ := he
  rw [skip_after, List.length_drop] at hn
  exact ⟨m + n, by omega, skip_skip m n c⟩

theorem Reaches.length_lt {c d : Cursor} (h : c.Reaches d) (hne : d ≠ c) :
    d.after.length < c.after.length := by
  obtain ⟨n, hn, rfl⟩ := h
  have hpos : 0 < n := by
    rcases Nat.eq_zero_or_pos n with rfl | hpos
    · exact absurd c.skip_zero hne
    · exact hpos
  rw [skip_after, List.length_drop]
  omega

/-- From a place that was left there is no way back. -/
theorem Reaches.ne_of_ne {c d e : Cursor} (hd : c.Reaches d) (hne : d ≠ c) (he : d.Reaches e) :
    e ≠ c := by
  rintro rfl
  obtain ⟨n, -, hn⟩ := he
  have hlt := hd.length_lt hne
  have hle : e.after.length ≤ d.after.length := by
    conv => lhs; rw [hn, skip_after, List.length_drop]
    omega
  omega

end Cursor

/-! ## The ends of a match -/

/-- The places where rounds of a part can end that each consume something, if `stops` tells where
one round can: none, one or more of them, `fuel` at most. When greedy, more are preferred. -/
def rounds (greedy : Bool) (stops : Cursor → List Cursor) : (fuel : Nat) → Cursor → List Cursor
  | 0, c => [c]
  | fuel + 1, c =>
    let more := ((stops c).filter (· ≠ c)).flatMap (rounds greedy stops fuel)
    if greedy then more ++ [c] else c :: more

/-- The places where a match from a place can end, the preferred one first. A part that is repeated
stops for good after a round that consumed nothing; the number of bytes that are left bounds the
number of the other rounds. -/
def Expr.stops : Expr → Cursor → List Cursor
  | .empty, c => [c]
  | .scalar set, c =>
    match Utf8.decode? c.after with
    | some (char, width) => if set.has char.toNat then [c.skip width] else []
    | none => []
  | .octet set, c =>
    match c.after with
    | b :: _ => if set.has b.toNat then [c.skip 1] else []
    | [] => []
  | .look l, c => if l.holds c then [c] else []
  | .seq a b, c => (a.stops c).flatMap b.stops
  | .alt a b, c => a.stops c ++ b.stops c
  | .plus greedy a, c =>
    (a.stops c).flatMap fun d =>
      if d = c then [c] else rounds greedy a.stops d.after.length d

theorem mem_rounds_succ {greedy : Bool} {stops : Cursor → List Cursor} {fuel : Nat} {c d : Cursor} :
    d ∈ rounds greedy stops (fuel + 1) c ↔
      d = c ∨ ∃ e ∈ stops c, e ≠ c ∧ d ∈ rounds greedy stops fuel e := by
  cases greedy <;> simp [rounds, and_assoc, or_comm]

theorem rounds_reaches {greedy : Bool} {stops : Cursor → List Cursor}
    (h : ∀ c, ∀ d ∈ stops c, c.Reaches d) {fuel : Nat} {c d : Cursor}
    (hd : d ∈ rounds greedy stops fuel c) : c.Reaches d := by
  induction fuel generalizing c with
  | zero =>
    rw [rounds, List.mem_singleton] at hd
    exact hd ▸ Cursor.Reaches.refl c
  | succ fuel ih =>
    rcases mem_rounds_succ.1 hd with rfl | ⟨e, he, -, hde⟩
    · exact Cursor.Reaches.refl d
    · exact (h c e he).trans (ih hde)

/-- **A match ends at its own place or at a later one.** -/
theorem Expr.stops_reaches (e : Expr) {c d : Cursor} (h : d ∈ e.stops c) : c.Reaches d := by
  induction e generalizing c d with
  | empty =>
    rw [stops, List.mem_singleton] at h
    exact h ▸ Cursor.Reaches.refl c
  | scalar set =>
    unfold stops at h
    split at h
    next char width hdec =>
      split at h
      · rw [List.mem_singleton] at h
        exact ⟨width, (Utf8.decode?_width hdec).2.2, h⟩
      · cases h
    · cases h
  | octet set =>
    unfold stops at h
    split at h
    next b rest hafter =>
      split at h
      · rw [List.mem_singleton] at h
        exact ⟨1, by simp [hafter], h⟩
      · cases h
    · cases h
  | look l =>
    unfold stops at h
    split at h
    · rw [List.mem_singleton] at h
      exact h ▸ Cursor.Reaches.refl c
    · cases h
  | seq a b iha ihb =>
    obtain ⟨x, hx, hd⟩ := List.mem_flatMap.1 h
    exact (iha hx).trans (ihb hd)
  | alt a b iha ihb =>
    rcases List.mem_append.1 h with h | h
    · exact iha h
    · exact ihb h
  | plus greedy a ih =>
    obtain ⟨x, hx, hd⟩ := List.mem_flatMap.1 h
    split at hd
    next hxc =>
      rw [List.mem_singleton] at hd
      exact hd ▸ Cursor.Reaches.refl c
    next hxc => exact (ih hx).trans (rounds_reaches (fun _ _ h => ih h) hd)

section

variable {greedy : Bool} {stops : Cursor → List Cursor} (h : ∀ c, ∀ d ∈ stops c, c.Reaches d)

include h

/-- Where nothing is left, no round consumes anything. -/
theorem rounds_of_length_eq_zero {c : Cursor} (hc : c.after.length = 0) (fuel : Nat) :
    rounds greedy stops fuel c = [c] := by
  cases fuel with
  | zero => rfl
  | succ fuel =>
    have hnil : (stops c).filter (· ≠ c) = [] := by
      refine List.filter_eq_nil_iff.2 fun d hd hne => ?_
      have hlt := (h c d hd).length_lt (by simpa using hne)
      omega
    cases greedy <;> rw [rounds, hnil] <;> rfl

/-- More fuel than bytes that are left makes no difference. -/
theorem rounds_fuel {m n : Nat} {c : Cursor} (hm : c.after.length ≤ m) (hn : c.after.length ≤ n) :
    rounds greedy stops m c = rounds greedy stops n c := by
  induction m generalizing n c with
  | zero =>
    have hc : c.after.length = 0 := by omega
    rw [rounds_of_length_eq_zero h hc, rounds_of_length_eq_zero h hc]
  | succ m ih =>
    cases n with
    | zero =>
      have hc : c.after.length = 0 := by omega
      rw [rounds_of_length_eq_zero h hc, rounds_of_length_eq_zero h hc]
    | succ n =>
      have hmore : ((stops c).filter (· ≠ c)).flatMap (rounds greedy stops m) =
          ((stops c).filter (· ≠ c)).flatMap (rounds greedy stops n) := by
        rw [List.flatMap_def, List.flatMap_def]
        refine congrArg List.flatten (List.map_congr_left fun d hd => ?_)
        obtain ⟨hd, hne⟩ := List.mem_filter.1 hd
        have hlt := (h c d hd).length_lt (by simpa using hne)
        exact ih (by omega) (by omega)
      simp only [rounds, hmore]

/-- One more round, or none, each with as much fuel as bytes are left. -/
theorem rounds_length (c : Cursor) :
    rounds greedy stops c.after.length c =
      let more := ((stops c).filter (· ≠ c)).flatMap fun d => rounds greedy stops d.after.length d
      if greedy then more ++ [c] else c :: more := by
  rw [rounds_fuel h (Nat.le_refl _) (Nat.le_succ _), rounds]
  have hmore : ((stops c).filter (· ≠ c)).flatMap (rounds greedy stops c.after.length) =
      ((stops c).filter (· ≠ c)).flatMap fun d => rounds greedy stops d.after.length d := by
    rw [List.flatMap_def, List.flatMap_def]
    refine congrArg List.flatten (List.map_congr_left fun d hd => ?_)
    obtain ⟨hd, hne⟩ := List.mem_filter.1 hd
    have hlt := (h c d hd).length_lt (by simpa using hne)
    exact rounds_fuel h (by omega) (Nat.le_refl _)
  rw [hmore]

end

end Downstream.Pattern
