import Downstream.Pattern.Replace
import Downstream.Proofs.Pattern.Search

/-!
# Scanning a text from left to right

Where a match depends only on the text ahead, replacing all matches is a plain scan: at the first
place where something is hit the replacement is written, and the scan goes on behind it.

* A `Scanner` tells how long the hit at the front of a text is; `Scanner.replace` scans with it.
* `Scanner.Finds e` says that the preferred matches of the pattern `e` are the hits. Then the
  matches of `e` are hits (`Scanner.Finds.hit_of_mem_matches`) and replacing them is the scan
  (`Scanner.Finds.getD_replaceAll?`).
* `Scanner.Settled` says of a text that every hit in it, at whatever place, is a given text already;
  then replacing hits by that text changes nothing (`Scanner.Settled.replace_eq`).
* `Scanner.tail_replace` takes the tails of a scanned text apart.
-/

namespace Downstream.Pattern

/-- What is looked for at the front of a text. -/
structure Scanner where
  /-- The length of the hit at the front of a text. -/
  hit : Bytes → Option Nat
  pos : ∀ {text n}, hit text = some n → 0 < n
  le : ∀ {text n}, hit text = some n → n ≤ text.length

/-- The bytes of a match. -/
def Span.text (sp : Span) (content : Bytes) : Bytes :=
  (content.drop sp.start).take (sp.stop - sp.start)

namespace Scanner

variable (s : Scanner) (r : Bytes)

/-- The text from `skip` bytes on, with `r` in place of every hit. -/
def scan : (skip : Nat) → Bytes → Bytes
  | _, [] => []
  | skip + 1, _ :: rest => scan skip rest
  | 0, b :: rest =>
    match s.hit (b :: rest) with
    | some n => r ++ scan (n - 1) rest
    | none => b :: scan 0 rest

/-- The text with `r` in place of every hit. -/
def replace (text : Bytes) : Bytes :=
  s.scan r 0 text

/-- The hits from `skip` bytes on, if the text starts at `place`. -/
def spans : (skip place : Nat) → Bytes → List Span
  | _, _, [] => []
  | skip + 1, place, _ :: rest => spans skip (place + 1) rest
  | 0, place, b :: rest =>
    match s.hit (b :: rest) with
    | some n => ⟨place, place + n⟩ :: spans (n - 1) (place + 1) rest
    | none => spans 0 (place + 1) rest

variable {s r}

/-! ## One step of a scan -/

theorem hit_nil : s.hit [] = none := by
  cases h : s.hit [] with
  | none => rfl
  | some n =>
    have hpos := s.pos h
    have hle := s.le h
    rw [List.length_nil] at hle
    omega

theorem scan_eq_replace_drop (skip : Nat) (text : Bytes) :
    s.scan r skip text = s.replace r (text.drop skip) := by
  induction text generalizing skip with
  | nil => rw [List.drop_nil, replace, scan, scan]
  | cons b rest ih =>
    cases skip with
    | zero => rfl
    | succ skip => rw [scan, ih, List.drop_succ_cons]

@[simp] theorem replace_nil : s.replace r [] = [] := rfl

theorem replace_of_hit_eq_none {b : UInt8} {rest : Bytes} (h : s.hit (b :: rest) = none) :
    s.replace r (b :: rest) = b :: s.replace r rest := by
  simp only [replace, scan, h]

theorem replace_of_hit {text : Bytes} {n : Nat} (h : s.hit text = some n) :
    s.replace r text = r ++ s.replace r (text.drop n) := by
  cases text with
  | nil => rw [hit_nil] at h; cases h
  | cons b rest =>
    have hpos := s.pos h
    obtain ⟨k, rfl⟩ : ∃ k, n = k + 1 := ⟨n - 1, by omega⟩
    rw [replace, scan]
    simp only [h, Nat.add_sub_cancel, scan_eq_replace_drop, List.drop_succ_cons]

/-- Along a scan: a text is empty, or it starts with a byte that is kept, or with a hit. -/
@[elab_as_elim]
theorem induction {motive : Bytes → Prop} (nil : motive [])
    (kept : ∀ b rest, s.hit (b :: rest) = none → motive rest → motive (b :: rest))
    (made : ∀ text n, s.hit text = some n → motive (text.drop n) → motive text)
    (text : Bytes) : motive text := by
  induction hlen : text.length using Nat.strongRecOn generalizing text with
  | ind len ih =>
    cases h : s.hit text with
    | some n =>
      have hpos := s.pos h
      have hle := s.le h
      exact made text n h (ih _ (by rw [List.length_drop]; omega) _ rfl)
    | none =>
      cases text with
      | nil => exact nil
      | cons b rest =>
        exact kept b rest h (ih rest.length (by rw [← hlen]; exact Nat.lt_succ_self _) rest rfl)

/-- A tail of a scanned text is the scan of a tail, or it starts inside a replacement. -/
theorem tail_replace {t text : Bytes} (h : t <:+ s.replace r text) :
    (∃ u, u <:+ text ∧ t = s.replace r u) ∨
      ∃ u n ρ, u <:+ text ∧ s.hit u = some n ∧ ρ <:+ r ∧ ρ ≠ [] ∧ ρ ≠ r ∧
        t = ρ ++ s.replace r (u.drop n) := by
  induction text using s.induction with
  | nil =>
    rw [replace_nil, List.suffix_nil] at h
    exact Or.inl ⟨[], List.suffix_rfl, by rw [h, replace_nil]⟩
  | kept b rest hn ih =>
    rw [replace_of_hit_eq_none hn] at h
    rcases List.suffix_cons_iff.1 h with rfl | h
    · exact Or.inl ⟨b :: rest, List.suffix_rfl, (replace_of_hit_eq_none hn).symm⟩
    · rcases ih h with ⟨u, hu, rfl⟩ | ⟨u, n, ρ, hu, hrest⟩
      · exact Or.inl ⟨u, hu.trans (List.suffix_cons b rest), rfl⟩
      · exact Or.inr ⟨u, n, ρ, hu.trans (List.suffix_cons b rest), hrest⟩
  | made text n hn ih =>
    have hdrop : text.drop n <:+ text := List.drop_suffix n text
    rw [replace_of_hit hn] at h
    by_cases hlen : t.length ≤ (s.replace r (text.drop n)).length
    · have ht : t <:+ s.replace r (text.drop n) :=
        List.suffix_of_suffix_length_le h (List.suffix_append _ _) hlen
      rcases ih ht with ⟨u, hu, rfl⟩ | ⟨u, m, ρ, hu, hrest⟩
      · exact Or.inl ⟨u, hu.trans hdrop, rfl⟩
      · exact Or.inr ⟨u, m, ρ, hu.trans hdrop, hrest⟩
    · obtain ⟨ρ, rfl⟩ : s.replace r (text.drop n) <:+ t :=
        List.suffix_of_suffix_length_le (List.suffix_append _ _) h (by omega)
      obtain ⟨w, hw⟩ := h
      rw [← List.append_assoc, List.append_cancel_right_eq] at hw
      by_cases hr : ρ = r
      · exact Or.inl ⟨text, List.suffix_rfl, by rw [replace_of_hit hn, hr]⟩
      · refine Or.inr ⟨text, n, ρ, List.suffix_rfl, hn, ⟨w, hw⟩, ?_, hr, rfl⟩
        rintro rfl
        exact hlen (Nat.le_of_eq (by rw [List.nil_append]))

/-! ## Texts in which all hits are made already -/

/-- Every hit, at whatever place of the text, is the text `r`. -/
def Settled (s : Scanner) (r text : Bytes) : Prop :=
  ∀ u, u <:+ text → ∀ n, s.hit u = some n → u.take n = r

theorem Settled.of_suffix {text u : Bytes} (h : s.Settled r text) (hu : u <:+ text) :
    s.Settled r u :=
  fun v hv => h v (hv.trans hu)

theorem Settled.replace_eq {text : Bytes} (h : s.Settled r text) : s.replace r text = text := by
  induction text using s.induction with
  | nil => rfl
  | kept b rest hn ih =>
    rw [replace_of_hit_eq_none hn, ih (h.of_suffix (List.suffix_cons b rest))]
  | made text n hn ih =>
    rw [replace_of_hit hn, ih (h.of_suffix (List.drop_suffix n text)),
      ← h text List.suffix_rfl n hn, List.take_append_drop]

/-! ## The hits of a scan -/

theorem spans_bounds {skip place : Nat} {text : Bytes} {sp : Span}
    (h : sp ∈ s.spans skip place text) : place ≤ sp.start ∧ sp.start < sp.stop := by
  induction text generalizing skip place with
  | nil => cases skip <;> cases h
  | cons b rest ih =>
    cases skip with
    | succ skip =>
      obtain ⟨hle, hlt⟩ := ih h
      exact ⟨by omega, hlt⟩
    | zero =>
      rw [spans] at h
      split at h
      next n hn =>
        rcases List.mem_cons.1 h with rfl | h
        · exact ⟨Nat.le_refl _, Nat.lt_add_of_pos_right (s.pos hn)⟩
        · obtain ⟨hle, hlt⟩ := ih h
          exact ⟨by omega, hlt⟩
      next =>
        obtain ⟨hle, hlt⟩ := ih h
        exact ⟨by omega, hlt⟩

theorem hit_of_mem_spans {skip place : Nat} {text : Bytes} {sp : Span}
    (h : sp ∈ s.spans skip place text) :
    s.hit (text.drop (sp.start - place)) = some (sp.stop - sp.start) := by
  induction text generalizing skip place with
  | nil => cases skip <;> cases h
  | cons b rest ih =>
    -- A span further on starts behind the first byte.
    have further : ∀ {k}, sp ∈ s.spans k (place + 1) rest →
        s.hit ((b :: rest).drop (sp.start - place)) = some (sp.stop - sp.start) := fun hk => by
      have hle := (spans_bounds hk).1
      rw [show sp.start - place = (sp.start - (place + 1)) + 1 by omega, List.drop_succ_cons]
      exact ih hk
    cases skip with
    | succ skip => exact further h
    | zero =>
      rw [spans] at h
      split at h
      next n hn =>
        rcases List.mem_cons.1 h with rfl | h
        · simpa using hn
        · exact further h
      next => exact further h

theorem splice_cons {place : Nat} {l : List Span}
    (h : ∀ sp ∈ l, place < sp.start ∧ sp.start < sp.stop) (b : UInt8) (rest : Bytes) :
    splice r l place (b :: rest) = b :: splice r l (place + 1) rest := by
  cases l with
  | nil => rfl
  | cons sp l =>
    obtain ⟨hlt, hlt'⟩ := h sp List.mem_cons_self
    simp only [splice]
    rw [show sp.start - place = (sp.start - (place + 1)) + 1 by omega,
      show sp.stop - place = (sp.stop - (place + 1)) + 1 by omega, List.take_succ_cons,
      List.drop_succ_cons, List.cons_append, List.cons_append]

/-- Putting `r` in place of the hits of a scan is the scan with `r`. -/
theorem splice_spans (skip place : Nat) (text : Bytes) :
    splice r (s.spans skip place text) (place + skip) (text.drop skip) = s.scan r skip text := by
  induction text generalizing skip place with
  | nil => cases skip <;> rfl
  | cons b rest ih =>
    cases skip with
    | succ skip =>
      rw [spans, scan, List.drop_succ_cons, ← ih skip (place + 1),
        show place + (skip + 1) = place + 1 + skip by omega]
    | zero =>
      rw [spans, scan, List.drop_zero, Nat.add_zero]
      cases hn : s.hit (b :: rest) with
      | none =>
        simp only
        rw [splice_cons fun sp hsp => ?bounds, ← ih 0 (place + 1), Nat.add_zero, List.drop_zero]
        case bounds =>
          obtain ⟨hle, hlt⟩ := spans_bounds hsp
          exact ⟨by omega, hlt⟩
      | some n =>
        have hpos := s.pos hn
        simp only [splice, Nat.add_zero]
        rw [← ih (n - 1) (place + 1), show place + 1 + (n - 1) = place + n by omega, Nat.sub_self,
          List.take_zero, List.nil_append, Nat.add_sub_cancel_left]
        conv =>
          lhs
          rw [show n = (n - 1) + 1 by omega, List.drop_succ_cons, Nat.sub_add_cancel hpos]

/-! ## Patterns that only look ahead -/

/-- The preferred matches of a pattern are the hits of a scanner, whatever stands before them. -/
def Finds (s : Scanner) (e : Expr) : Prop :=
  ∀ c : Cursor, e.end? c = (s.hit c.after).map (c.offset + ·)

variable {e : Expr}

theorem Finds.spansFrom_eq (h : s.Finds e) (place : Nat) (before text : Bytes) (start : Nat)
    (last : Option Nat) :
    spansFrom ((Cursor.onward ⟨place, before, text⟩).map e.end?) place start last =
      s.spans (start - place) place text := by
  induction text generalizing place before start last with
  | nil =>
    have hlater : Cursor.later ⟨place, before, []⟩ = [] := rfl
    rw [Cursor.onward, hlater, List.map_cons, List.map_nil, h, hit_nil, Option.map_none]
    by_cases hlt : place < start <;> simp [spansFrom, spans, hlt]
  | cons b rest ih =>
    rw [Cursor.onward, Cursor.later_cons, ← Cursor.onward, List.map_cons, h]
    by_cases hlt : place < start
    · have hskip : start - place = (start - (place + 1)) + 1 := by omega
      cases s.hit (b :: rest) <;>
        simp only [Option.map_none, Option.map_some, spansFrom, if_pos hlt, ih] <;>
        rw [hskip, spans]
    · have hskip : start - place = 0 := by omega
      rw [hskip, spans]
      cases hn : s.hit (b :: rest) with
      | none =>
        simp only [Option.map_none, spansFrom, if_neg hlt, ih]
        rw [show start - (place + 1) = 0 by omega]
      | some n =>
        have hpos := s.pos hn
        have hstop : ¬(place + n = place ∧ last = some place) := fun hs => by omega
        simp only [Option.map_some, spansFrom, if_neg hlt, if_neg hstop, ih]
        rw [show place + n - (place + 1) = n - 1 by omega]

/-- **The matches of such a pattern are the hits of the scan.** -/
theorem Finds.matches_eq (h : s.Finds e) (text : Bytes) : e.matches text = s.spans 0 0 text := by
  rw [Expr.matches, Expr.ends_eq, Cursor.start, h.spansFrom_eq]

/-- **Replacing the matches of such a pattern is a scan.** -/
theorem Finds.getD_replaceAll? (h : s.Finds e) (r text : Bytes) :
    (e.replaceAll? r text).getD text = s.replace r text := by
  have hsplice := splice_spans (s := s) (r := r) 0 0 text
  rw [← h.matches_eq, Nat.zero_add, List.drop_zero] at hsplice
  rw [replace, ← hsplice, Expr.replaceAll?]
  cases e.matches text <;> rfl

theorem Finds.hit_of_mem_matches (h : s.Finds e) {text : Bytes} {sp : Span}
    (hsp : sp ∈ e.matches text) :
    s.hit (text.drop sp.start) = some (sp.stop - sp.start) := by
  rw [h.matches_eq] at hsp
  exact hit_of_mem_spans hsp

/-- Where nothing is hit, there is no match. -/
theorem Finds.matches_eq_nil (h : s.Finds e) {text : Bytes}
    (hn : ∀ u, u <:+ text → s.hit u = none) : e.matches text = [] := by
  refine List.eq_nil_iff_forall_not_mem.2 fun sp hsp => ?_
  have hit := h.hit_of_mem_matches hsp
  rw [hn _ (List.drop_suffix _ text)] at hit
  cases hit

/-- In a settled text, every match is the text that it is settled for. -/
theorem Finds.text_of_mem_matches (h : s.Finds e) {text : Bytes} (hs : s.Settled r text) {sp : Span}
    (hsp : sp ∈ e.matches text) : sp.text text = r :=
  hs _ (List.drop_suffix _ text) _ (h.hit_of_mem_matches hsp)

end Scanner

end Downstream.Pattern
