import Downstream.Proofs.Pattern.Scan
import Downstream.Proofs.Text.Run

/-!
# Texts that do not overlap

When a replacement is put into a text, a word can come about that was not there before: its front
may be the end of what stood before the replacement, or its end may go on behind it. Whether that is
possible is a matter of how the word and the replacement overlap, which `Misses` decides:
`Misses z x` says that no tail of `x` meets the front of `z`.

* A word whose tails miss the replacement was there before (`Scanner.prefix_of_prefix_replace`).
* A text whose tails miss what all hits start with is kept (`Scanner.replace_append`).
* What character a scanned text starts with is not changed by a scan, as far as the characters at
  the front of hits and replacements are alike (`Scanner.starts_replace`).
-/

namespace Downstream.Pattern

/-! ## Meeting and missing -/

/-- One of the texts is the front of the other. -/
def Meets (x z : Bytes) : Prop :=
  x <+: z ∨ z <+: x

instance (x z : Bytes) : Decidable (Meets x z) :=
  inferInstanceAs (Decidable (_ ∨ _))

/-- No tail of a text, the empty one apart, meets the front of `z`. -/
def Misses (z : Bytes) : Bytes → Prop
  | [] => True
  | b :: rest => ¬Meets (b :: rest) z ∧ Misses z rest

instance decidableMisses (z : Bytes) : (x : Bytes) → Decidable (Misses z x)
  | [] => isTrue trivial
  | b :: rest =>
    have := decidableMisses z rest
    inferInstanceAs (Decidable (¬Meets (b :: rest) z ∧ Misses z rest))

variable {x z : Bytes}

theorem Meets.of_isPrefix {text : Bytes} (hx : x <+: text) (hz : z <+: text) : Meets x z :=
  List.prefix_or_prefix_of_prefix hx hz

theorem Meets.of_isPrefix_append {v : Bytes} (h : x <+: z ++ v) : Meets x z :=
  .of_isPrefix h (List.prefix_append z v)

theorem Misses.of_suffix {y : Bytes} (h : Misses z x) (hy : y <:+ x) : Misses z y := by
  induction x with
  | nil =>
    rw [List.suffix_nil] at hy
    rw [hy]
    trivial
  | cons b rest ih =>
    rcases List.suffix_cons_iff.1 hy with rfl | hy
    · exact h
    · exact ih h.2 hy

theorem Misses.not_meets {y : Bytes} (h : Misses z x) (hy : y <:+ x) (hne : y ≠ []) :
    ¬Meets y z := by
  have hy' := h.of_suffix hy
  cases y with
  | nil => exact absurd rfl hne
  | cons b rest => exact hy'.1

theorem misses_of_forall_ne (hz : z ≠ []) (h : ∀ b ∈ x, z.head? ≠ some b) : Misses z x := by
  induction x with
  | nil => trivial
  | cons b x ih =>
    obtain ⟨hb, hx⟩ := List.forall_mem_cons.1 h
    refine ⟨fun hmeets => hb ?_, ih hx⟩
    obtain ⟨a, z, rfl⟩ := List.exists_cons_of_ne_nil hz
    rcases hmeets with hp | hp <;> rw [(List.cons_prefix_cons.1 hp).1] <;> rfl

/-- A word that does not overlap with itself stands before another occurrence as a whole, or not at
all. -/
theorem prefix_of_prefix_append (hz : Misses z z.tail) (hx : x ≠ []) {v : Bytes}
    (h : z <+: x ++ (z ++ v)) : z <+: x := by
  rcases List.prefix_or_prefix_of_prefix h (List.prefix_append x _) with hzx | ⟨y, hy⟩
  · exact hzx
  · by_cases hne : y = []
    · rw [hne, List.append_nil] at hy
      exact hy ▸ List.prefix_rfl
    · obtain ⟨b, x, rfl⟩ := List.exists_cons_of_ne_nil hx
      have htail : y <:+ z.tail := ⟨x, by rw [← hy]; rfl⟩
      have hmeets : Meets y z := by
        rw [← hy, List.prefix_append_right_inj, hy] at h
        exact Meets.of_isPrefix_append h
      exact absurd hmeets (hz.not_meets htail hne)

/-! ## Scans of texts with a given front -/

namespace Scanner

variable {s : Scanner} {r : Bytes}

/-- A word is found at the front of a scanned text only where it was before, if its tails miss the
replacement. -/
theorem prefix_of_prefix_replace (hx : Misses r x) {text : Bytes} (h : x <+: s.replace r text) :
    x <+: text ∧ s.replace r text = x ++ s.replace r (text.drop x.length) := by
  induction x generalizing text with
  | nil => exact ⟨List.nil_prefix, by simp⟩
  | cons a x ih =>
    induction text using s.induction with
    | nil => exact absurd h (by simp)
    | kept b rest hn _ =>
      rw [replace_of_hit_eq_none hn, List.cons_prefix_cons] at h
      obtain ⟨rfl, h⟩ := h
      obtain ⟨hpre, heq⟩ := ih hx.2 h
      refine ⟨List.cons_prefix_cons.2 ⟨rfl, hpre⟩, ?_⟩
      rw [replace_of_hit_eq_none hn, heq, List.length_cons, List.drop_succ_cons, List.cons_append]
    | made text n hn _ =>
      rw [replace_of_hit hn] at h
      exact absurd (Meets.of_isPrefix_append h) hx.1

/-- Where the first byte is kept, it is enough that the tails behind it miss the replacement. -/
theorem prefix_of_prefix_replace_cons (hne : x ≠ []) (hx : Misses r x.tail) {b : UInt8}
    {rest : Bytes} (hn : s.hit (b :: rest) = none) (h : x <+: s.replace r (b :: rest)) :
    x <+: b :: rest ∧
      (s.replace r (b :: rest)).drop x.length = s.replace r ((b :: rest).drop x.length) := by
  cases x with
  | nil => exact absurd rfl hne
  | cons a x =>
    rw [replace_of_hit_eq_none hn, List.cons_prefix_cons] at h
    obtain ⟨rfl, h⟩ := h
    rw [List.tail_cons] at hx
    obtain ⟨hpre, heq⟩ := prefix_of_prefix_replace hx h
    refine ⟨List.cons_prefix_cons.2 ⟨rfl, hpre⟩, ?_⟩
    rw [replace_of_hit_eq_none hn, List.length_cons, List.drop_succ_cons, List.drop_succ_cons, heq,
      List.drop_left]

/-- All hits start with the text `front`. -/
def Opens (s : Scanner) (front : Bytes) : Prop :=
  ∀ {text n}, s.hit text = some n → front <+: text

variable {front : Bytes}

/-- A text is kept if its tails miss what all hits start with. -/
theorem replace_append (hs : s.Opens front) (hx : Misses front x) (v : Bytes) :
    s.replace r (x ++ v) = x ++ s.replace r v := by
  induction x with
  | nil => rfl
  | cons a x ih =>
    have hn : s.hit (a :: (x ++ v)) = none := by
      cases h : s.hit (a :: (x ++ v)) with
      | none => rfl
      | some n =>
        exact absurd (Meets.of_isPrefix (List.prefix_append (a :: x) v) (hs h)) hx.1
    rw [List.cons_append, replace_of_hit_eq_none hn, ih hx.2, List.cons_append]

/-- Where nothing is hit at the front, it is enough that the tails behind it miss what hits start
with. -/
theorem replace_append_of_hit_eq_none (hs : s.Opens front) (hx : Misses front x.tail) {v : Bytes}
    (hn : s.hit (x ++ v) = none) : s.replace r (x ++ v) = x ++ s.replace r v := by
  cases x with
  | nil => rfl
  | cons a x =>
    rw [List.cons_append] at hn
    rw [List.tail_cons] at hx
    rw [List.cons_append, replace_of_hit_eq_none hn, replace_append hs hx, List.cons_append]

/-- If a hit never starts like the text `r`, a text in which all hits are `r` has none. -/
theorem Settled.hit_eq_none (h : s.Settled r x) (hs : s.Opens front) (hm : ¬Meets front r)
    {u : Bytes} (hu : u <:+ x) : s.hit u = none := by
  cases hn : s.hit u with
  | none => rfl
  | some n => exact absurd (Meets.of_isPrefix (hs hn) (h u hu n hn ▸ List.take_prefix n u)) hm

/-- A scanned text is kept up to the first hit. -/
theorem exists_first_hit (text : Bytes) :
    ∃ w v, text = w ++ v ∧ s.replace r text = w ++ s.replace r v ∧
      (v = [] ∨ ∃ n, s.hit v = some n) := by
  induction text using s.induction with
  | nil => exact ⟨[], [], rfl, rfl, Or.inl rfl⟩
  | kept b rest hn ih =>
    obtain ⟨w, v, rfl, hrep, hv⟩ := ih
    exact ⟨b :: w, v, rfl, by rw [replace_of_hit_eq_none hn, hrep, List.cons_append], hv⟩
  | made text n hn _ => exact ⟨[], text, rfl, rfl, Or.inr ⟨n, hn⟩⟩

variable {p : Char → Bool}

/-- A text starts with an ASCII character that `p` holds of. -/
def StartsAscii (p : Char → Bool) (text : Bytes) : Prop :=
  ∃ b ∈ text.head?, Utf8.IsAscii p b

instance (p : Char → Bool) (text : Bytes) : Decidable (StartsAscii p text) :=
  inferInstanceAs (Decidable (∃ b ∈ text.head?, Utf8.IsAscii p b))

theorem StartsAscii.fresh {text : Bytes} (h : StartsAscii p text) : Utf8.Fresh text := by
  obtain ⟨b, hb, hascii⟩ := h
  intro c hc
  rw [Option.mem_unique hc hb]
  exact Utf8.not_continues_of_ascii hascii.1

theorem StartsAscii.ne_nil {text : Bytes} (h : StartsAscii p text) : text ≠ [] := by
  rintro rfl
  obtain ⟨b, hb, -⟩ := h
  cases hb

theorem StartsAscii.append {w : Bytes} (h : StartsAscii p w) (v : Bytes) :
    StartsAscii p (w ++ v) := by
  obtain ⟨b, hb, hascii⟩ := h
  cases w with
  | nil => cases hb
  | cons a w => exact ⟨b, hb, hascii⟩

theorem StartsAscii.starts {text : Bytes} (h : StartsAscii p text) :
    Utf8.starts p text = true := by
  obtain ⟨b, hb, hascii⟩ := h
  cases text with
  | nil => cases hb
  | cons a rest =>
    obtain rfl : a = b := by simpa using hb
    exact Utf8.starts_cons hascii rest

/-- A scan does not change whether a text starts with a character of `p`, if hits and replacements
all do. -/
theorem starts_replace (hs : s.Opens front) (hfront : StartsAscii p front) (hr : StartsAscii p r)
    (text : Bytes) : Utf8.starts p (s.replace r text) = Utf8.starts p text := by
  have hhit : ∀ {v n}, s.hit v = some n → StartsAscii p v ∧ StartsAscii p (s.replace r v) := by
    intro v n hn
    obtain ⟨u, rfl⟩ := hs hn
    exact ⟨hfront.append u, by rw [replace_of_hit hn]; exact hr.append _⟩
  obtain ⟨w, v, rfl, hrep, hv⟩ := exists_first_hit (s := s) (r := r) text
  rcases hv with rfl | ⟨n, hn⟩
  · rw [hrep, replace_nil]
  · obtain ⟨hstart, hstart'⟩ := hhit hn
    rw [hrep]
    exact Utf8.starts_append hstart'.fresh hstart.fresh (hstart'.starts.trans hstart.starts.symm) w

end Scanner

end Downstream.Pattern
