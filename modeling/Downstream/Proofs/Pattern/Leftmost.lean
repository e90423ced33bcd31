import Downstream.Proofs.Pattern.Scan

/-!
# The spans of a scan, place by place

What a scan from left to right comes upon can be said without scanning: `Leftmost found start l`
says of the spans `l` that each of them starts at the first place, not before the end of the one
before, where something is found. Such a list passes over nothing (`Leftmost.exists_mem_of_found`),
and if at most one length is found at each place, there is no other one (`Leftmost.unique`). The hits
of a scanner are such a list (`Scanner.leftmost_spans`), and so are the matches of a pattern that
finds these hits (`Scanner.Finds.leftmost_iff`).
-/

namespace Downstream.Pattern

/-- The spans one comes upon from the place `start` on. `found place n` says that something of `n`
bytes is found at a place. -/
inductive Leftmost (found : (place n : Nat) → Prop) : (start : Nat) → List Span → Prop
  /-- Nothing is found any more. -/
  | nil {start : Nat} (nothing : ∀ place, start ≤ place → ∀ n, ¬found place n) :
    Leftmost found start []
  /-- Something is found, and nothing before it; behind its end it goes on. -/
  | cons {start place n : Nat} {rest : List Span} (le : start ≤ place) (here : found place n)
    (nothing : ∀ earlier, start ≤ earlier → earlier < place → ∀ n, ¬found earlier n)
    (more : Leftmost found (place + n) rest) : Leftmost found start (⟨place, place + n⟩ :: rest)

namespace Leftmost

variable {found : (place n : Nat) → Prop} {start : Nat} {l l' : List Span}

/-- Where nothing is found at a place, one can go on behind it. -/
theorem of_succ (h : Leftmost found (start + 1) l) (hstart : ∀ n, ¬found start n) :
    Leftmost found start l := by
  have hnothing : ∀ {stop}, (∀ place, start + 1 ≤ place → place < stop → ∀ n, ¬found place n) →
      ∀ place, start ≤ place → place < stop → ∀ n, ¬found place n := by
    intro stop h place hle hlt
    rcases Nat.eq_or_lt_of_le hle with rfl | hle
    · exact hstart
    · exact h place hle hlt
  cases h with
  | nil nothing =>
    exact .nil fun place hle => hnothing (fun p hp _ => nothing p hp) place hle (Nat.lt_succ_self _)
  | cons le here nothing more =>
    exact .cons (Nat.le_of_succ_le le) here (hnothing nothing) more

/-- **What one comes upon is determined by what is found where.** -/
theorem unique (hfound : ∀ {place m n}, found place m → found place n → m = n)
    (h : Leftmost found start l) (h' : Leftmost found start l') : l = l' := by
  induction h generalizing l' with
  | nil nothing =>
    cases h' with
    | nil => rfl
    | cons le here => exact absurd here (nothing _ le _)
  | @cons start place n rest le here nothing more ih =>
    cases h' with
    | nil nothing' => exact absurd here (nothing' _ le _)
    | @cons _ place' n' rest' le' here' nothing' more' =>
      obtain rfl : place = place' := by
        rcases Nat.lt_trichotomy place place' with hlt | heq | hlt
        · exact absurd here (nothing' _ le hlt _)
        · exact heq
        · exact absurd here' (nothing _ le' hlt _)
      obtain rfl := hfound here here'
      rw [ih more']

/-- **Nothing is passed over**: where something is found, one comes upon it, or one is still at
something found before. -/
theorem exists_mem_of_found (h : Leftmost found start l) {place n : Nat} (hle : start ≤ place)
    (hfound : found place n) : ∃ sp ∈ l, sp.start ≤ place ∧ place < sp.stop := by
  induction h with
  | nil nothing => exact absurd hfound (nothing _ hle _)
  | @cons start first k rest _ _ nothing _ ih =>
    have hfirst : first ≤ place :=
      Nat.le_of_not_lt fun hlt => nothing place hle hlt n hfound
    by_cases hstop : place < first + k
    · exact ⟨_, List.mem_cons_self, hfirst, hstop⟩
    · obtain ⟨sp, hsp, hspan⟩ := ih (Nat.le_of_not_lt hstop)
      exact ⟨sp, List.mem_cons_of_mem _ hsp, hspan⟩

end Leftmost

namespace Scanner

variable {s : Scanner}

theorem leftmost_spansFrom {whole : Bytes} {skip place : Nat} {text : Bytes}
    (h : whole.drop place = text) :
    Leftmost (fun place n => s.hit (whole.drop place) = some n) (place + skip)
      (s.spans skip place text) := by
  induction text generalizing skip place with
  | nil =>
    have hnil : s.spans skip place [] = [] := by cases skip <;> rfl
    rw [hnil]
    refine .nil fun later hle n hn => ?_
    have hdrop : whole.drop later = [] := by
      rw [List.drop_eq_nil_iff] at h ⊢
      omega
    rw [hdrop, hit_nil] at hn
    cases hn
  | cons b rest ih =>
    have hrest : whole.drop (place + 1) = rest := by
      rw [← List.drop_drop, h, List.drop_succ_cons, List.drop_zero]
    cases skip with
    | succ skip =>
      rw [spans, show place + (skip + 1) = place + 1 + skip by omega]
      exact ih hrest
    | zero =>
      rw [spans, Nat.add_zero]
      cases hn : s.hit (b :: rest) with
      | none =>
        have hmore : Leftmost _ (place + 1 + 0) (s.spans 0 (place + 1) rest) := ih hrest
        refine Leftmost.of_succ hmore fun n hn' => ?_
        rw [h, hn] at hn'
        cases hn'
      | some n =>
        have hpos := s.pos hn
        have hmore : Leftmost _ (place + 1 + (n - 1)) (s.spans (n - 1) (place + 1) rest) :=
          ih hrest
        rw [show place + 1 + (n - 1) = place + n by omega] at hmore
        exact .cons (Nat.le_refl _) (h ▸ hn) (fun earlier hle hlt => by omega) hmore

/-- The hits of a scan are what one comes upon. -/
theorem leftmost_spans (s : Scanner) (text : Bytes) :
    Leftmost (fun place n => s.hit (text.drop place) = some n) 0 (s.spans 0 0 text) := by
  have h : Leftmost _ (0 + 0) (s.spans 0 0 text) := leftmost_spansFrom List.drop_zero
  rwa [Nat.zero_add] at h

/-- **The matches of a pattern are what one comes upon**, and no other spans are, where its matches
are hits of a scanner and `found` says what these are. -/
theorem Finds.leftmost_iff {e : Expr} (h : s.Finds e) {found : Bytes → Nat → Prop}
    (hfound : ∀ {text n}, s.hit text = some n ↔ found text n) {text : Bytes} {l : List Span} :
    Leftmost (fun place n => found (text.drop place) n) 0 l ↔ l = e.matches text := by
  have hspans : Leftmost (fun place n => found (text.drop place) n) 0 (s.spans 0 0 text) := by
    simpa only [hfound] using s.leftmost_spans text
  rw [h.matches_eq]
  refine ⟨fun hl => hl.unique (fun hm hn => ?_) hspans, fun hl => hl ▸ hspans⟩
  rw [← hfound] at hm hn
  exact Option.some.inj (hm.symm.trans hn)

end Scanner

end Downstream.Pattern
