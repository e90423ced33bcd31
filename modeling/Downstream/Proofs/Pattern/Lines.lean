import Downstream.Proofs.Pattern.Tag

/-!
# Scanning line by line

A change of a text is made line by line (`LineByLine`) if it makes the same of two texts with a line
end between them as of the two texts by themselves, and breaks no line. Then it makes of the lines of a
text their changes (`LineByLine.lines_eq`), as many as there were.

Scans are such changes if what is hit at the front of a text depends on its first line only
(`Scanner.EndsWithLine`) and the replacement has no line end (`Scanner.EndsWithLine.lineByLine`). Then
no hit has a line end in it (`Scanner.EndsWithLine.not_mem_take`). Words with tags are hit so if a line
end stands neither in the word nor in a tag (`Scanner.endsWithLine_tagged`).
-/

namespace Downstream.Pattern

open Utf8 (starts run Fresh)

/-- The byte that ends a line. -/
def newline : UInt8 := 0x0A

/-- The lines of a text: what stands before, between and behind its line ends. -/
def lines (text : Bytes) : List Bytes :=
  text.splitOn newline

/-- A change that is made to each line of a text by itself. -/
structure LineByLine (f : Bytes → Bytes) : Prop where
  append : ∀ a b, f (a ++ newline :: b) = f a ++ newline :: f b
  not_mem : ∀ {a}, newline ∉ a → newline ∉ f a

namespace LineByLine

variable {f g : Bytes → Bytes}

theorem id : LineByLine fun text => text :=
  ⟨fun _ _ => rfl, fun h => h⟩

theorem comp (hg : LineByLine g) (hf : LineByLine f) : LineByLine fun text => g (f text) where
  append a b := by rw [hf.append, hg.append]
  not_mem h := hg.not_mem (hf.not_mem h)

/-- **The lines of the changed text are the changed lines.** -/
theorem lines_eq (h : LineByLine f) (text : Bytes) : lines (f text) = (lines text).map f := by
  induction hlen : text.length using Nat.strongRecOn generalizing text with
  | ind len ih =>
    subst hlen
    by_cases hmem : newline ∈ text
    · obtain ⟨a, b, rfl⟩ := List.append_of_mem hmem
      have ha : lines (f a) = (lines a).map f := ih _ (by simp) a rfl
      have hb : lines (f b) = (lines b).map f := ih _ (by simp; omega) b rfl
      rw [lines] at ha hb
      rw [lines, lines, h.append, List.splitOn_append_cons_self, List.splitOn_append_cons_self,
        List.map_append, ha, hb, lines, lines]
    · rw [lines, lines, List.splitOn_eq_singleton hmem,
        List.splitOn_eq_singleton (h.not_mem hmem), List.map_singleton]

end LineByLine

namespace Scanner

variable {s : Scanner} {r text : Bytes} {n : Nat}

/-- What is hit at the front of a text does not depend on what stands behind its first line. -/
def EndsWithLine (s : Scanner) : Prop :=
  ∀ u v, s.hit (u ++ newline :: v) = s.hit u

theorem mem_replace {b : UInt8} (h : b ∈ s.replace r text) : b ∈ r ∨ b ∈ text := by
  induction text using s.induction with
  | nil => exact Or.inr h
  | kept a rest hn ih =>
    rw [replace_of_hit_eq_none hn] at h
    rcases List.mem_cons.1 h with rfl | h
    · exact Or.inr List.mem_cons_self
    · exact (ih h).imp_right (List.mem_cons_of_mem a)
  | made text n hn ih =>
    rw [replace_of_hit hn] at h
    rcases List.mem_append.1 h with h | h
    · exact Or.inl h
    · exact (ih h).imp_right List.mem_of_mem_drop

namespace EndsWithLine

variable (hs : s.EndsWithLine)

include hs

theorem hit_newline (v : Bytes) : s.hit (newline :: v) = none :=
  (hs [] v).trans hit_nil

/-- No hit has a line end in it. -/
theorem not_mem_take (hn : s.hit text = some n) : newline ∉ text.take n := by
  intro hmem
  obtain ⟨u, v, huv⟩ := List.append_of_mem hmem
  have htext : text = u ++ newline :: (v ++ text.drop n) := by
    conv => lhs; rw [← List.take_append_drop n text, huv]
    rw [List.append_assoc, List.cons_append]
  -- The hit would be one in the first line as well, and go on behind it.
  have hle : n ≤ u.length := s.le (by rw [← hn, htext, hs])
  have hlen := congrArg List.length huv
  rw [List.length_take, List.length_append, List.length_cons] at hlen
  omega

theorem replace_append (a b : Bytes) :
    s.replace r (a ++ newline :: b) = s.replace r a ++ newline :: s.replace r b := by
  induction a using s.induction with
  | nil => rw [List.nil_append, replace_of_hit_eq_none (hs.hit_newline b), replace_nil,
      List.nil_append]
  | kept c rest hn ih =>
    have hn' : s.hit (c :: (rest ++ newline :: b)) = none := (hs (c :: rest) b).trans hn
    rw [List.cons_append, replace_of_hit_eq_none hn', ih, replace_of_hit_eq_none hn,
      List.cons_append]
  | made a n hn ih =>
    rw [replace_of_hit ((hs a b).trans hn), List.drop_append_of_le_length (s.le hn), ih,
      replace_of_hit hn, List.append_assoc]

/-- **Scanning for what ends with its line is done line by line.** -/
theorem lineByLine (hr : newline ∉ r) : LineByLine (s.replace r) where
  append := hs.replace_append
  not_mem h hmem := (mem_replace hmem).elim hr h

end EndsWithLine

/-! ## Words with tags -/

variable {p : Char → Bool} {word : Bytes}

/-- A word without a line end stands in one line. -/
theorem prefix_append_newline (hword : newline ∉ word) {u v : Bytes} :
    word <+: u ++ newline :: v ↔ word <+: u := by
  refine ⟨fun h => ?_, fun h => h.trans (List.prefix_append u _)⟩
  rcases List.prefix_or_prefix_of_prefix h (List.prefix_append u _) with h' | ⟨w, rfl⟩
  · exact h'
  · rw [List.prefix_append_right_inj] at h
    cases w with
    | nil => simp only [List.append_nil, List.prefix_rfl]
    | cons b w =>
      obtain rfl := (List.cons_prefix_cons.1 h).1
      exact absurd (List.mem_append_right u List.mem_cons_self) hword

/-- Words with tags are hit within one line. -/
theorem endsWithLine_tagged (hword : newline ∉ word) (hp : p '\n' = false) :
    (tagged p word).EndsWithLine := by
  intro u v
  have hstarts : starts p (newline :: v) = false := by
    rw [starts, Utf8.decode?_ascii (by decide)]
    exact hp
  simp only [tagged, prefix_append_newline hword]
  by_cases hpre : word <+: u
  · obtain ⟨w, rfl⟩ := hpre
    have hfresh : Fresh (newline :: v) := Utf8.fresh_cons (by decide) v
    have hrun := Utf8.run_append_of_not_starts hfresh hstarts w
    have htag := Utf8.starts_append hfresh Utf8.fresh_nil hstarts w
    rw [List.append_nil] at htag
    rw [List.append_assoc, List.drop_left, List.drop_left, htag, hrun]
  · rw [if_neg fun h => hpre h.1, if_neg fun h => hpre h.1]

end Scanner

end Downstream.Pattern
