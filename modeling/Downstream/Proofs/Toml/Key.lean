import Downstream.Proofs.Text.Front
import Downstream.Proofs.Toml.Text
import Downstream.Toml.Reader

/-!
# Keys are read as they were written

A key is read up to what cannot stand in a key (`key?_writtenKey`), and so are the keys on the way to
a table (`dottedKey?_writtenPath`), up to the blanks after them.
-/

namespace Downstream.Toml

variable {s rest : List Char}

/-! ## Keys -/

/-- The ways a key can be written. -/
theorem writtenKey_cases (k : String) :
    (writtenKey k = k.toList ∧ k.toList ≠ [] ∧ ∀ c ∈ k.toList, isBare c = true) ∨
      writtenKey k = basic k.toList ∨
      (writtenKey k = literal k.toList ∧ '\'' ∉ k.toList ∧ ∀ c ∈ k.toList, isText c = true) := by
  simp only [writtenKey]
  split
  next h =>
    simp only [Bool.and_eq_true, Bool.not_eq_true', List.isEmpty_eq_false_iff, List.all_eq_true] at h
    exact .inl ⟨rfl, h⟩
  split
  · exact .inr (.inl rfl)
  split
  next h =>
    simp only [Bool.and_eq_true, Bool.not_eq_true', decide_eq_true_eq] at h
    exact .inr (.inr ⟨rfl, not_mem_of_longestRow_eq_zero h.1.2, isText_of_profile h.1.1 h.2⟩)
  · exact .inr (.inl rfl)

/-- Whether a key that is written can start with a character. -/
def startsKey (c : Char) : Bool :=
  isBare c || c = '"' || c = '\''

theorem exists_writtenKey_eq_cons (k : String) :
    ∃ c cs, writtenKey k = c :: cs ∧ startsKey c = true := by
  rcases writtenKey_cases k with ⟨hk, hne, hbare⟩ | hk | ⟨hk, -, -⟩
  · obtain ⟨c, cs, hcs⟩ := List.exists_cons_of_ne_nil hne
    exact ⟨c, cs, hk.trans hcs, by simp [startsKey, hbare c (by simp [hcs])]⟩
  · exact ⟨'"', _, hk, by decide⟩
  · exact ⟨'\'', _, hk, by decide⟩

/-- **A key is read as it was written.** -/
theorem key?_writtenKey (k : String) (hrest : StartsOutside isBare rest) :
    key? (writtenKey k ++ rest) = some (k, rest) := by
  rcases writtenKey_cases k with ⟨hk, hne, hbare⟩ | hk | ⟨hk, hquote, htext⟩
  · obtain ⟨c, cs, hcs⟩ := List.exists_cons_of_ne_nil hne
    have htake := takeWhile_append hbare hrest
    have hdrop := dropWhile_append hbare hrest
    have hk' : String.ofList (c :: cs) = k := by rw [← hcs, String.ofList_toList]
    have hc : isBare c = true := hbare c (by simp [hcs])
    rw [hcs] at htake hdrop
    rw [hk, hcs, List.cons_append, key?]
    · rw [← List.cons_append, htake, hdrop, ← hk']
    · rintro _ ⟨⟩
      revert hc
      decide
    · rintro _ ⟨⟩
      revert hc
      decide
  · have hread := basic?_escaped k.toList [] rest 0
    simp [hk, basic, key?, hread]
  · have hread := literal?_append hquote htext rest
    simp [hk, literal, key?, hread]

/-! ## Dotted keys -/

theorem skipBlanks_of_startsOutside (h : StartsOutside isBlank s) : skipBlanks s = s :=
  h.dropWhile

theorem startsOutside_of_startsKey {q : Char → Bool} (hq : ∀ c, startsKey c = true → q c = false)
    (k : String) (rest : List Char) : StartsOutside q (writtenKey k ++ rest) := by
  obtain ⟨c, cs, hcs, hc⟩ := exists_writtenKey_eq_cons k
  rw [hcs]
  rintro _ ⟨⟩
  exact hq c hc

theorem writtenPath_append_singleton (path : List String) (k : String) :
    writtenPath (path ++ [k]) = path.flatMap (fun k => writtenKey k ++ ['.']) ++ writtenKey k := by
  induction path with
  | nil => rfl
  | cons l path ih =>
    obtain ⟨m, more, hmore⟩ := List.exists_cons_of_ne_nil (List.append_ne_nil_of_right_ne_nil path
      (List.cons_ne_nil k []))
    rw [List.cons_append, hmore, writtenPath, ← hmore, ih]
    · simp
    · exact List.cons_ne_nil _ _

theorem isBlank_of_startsKey {c : Char} (h : startsKey c = true) : isBlank c = false := by
  refine Bool.eq_false_iff.2 fun hblank => ?_
  rw [isBlank, Bool.or_eq_true, decide_eq_true_eq, decide_eq_true_eq] at hblank
  rcases hblank with rfl | rfl <;> revert h <;> decide

theorem skipBlanks_writtenKey (k : String) (rest : List Char) :
    skipBlanks (writtenKey k ++ rest) = writtenKey k ++ rest :=
  skipBlanks_of_startsOutside (startsOutside_of_startsKey (fun _ => isBlank_of_startsKey) k rest)

theorem skipBlanks_dot (rest : List Char) : skipBlanks ('.' :: rest) = '.' :: rest :=
  rfl

theorem key?_writtenKey_dot (k : String) (rest : List Char) :
    key? (writtenKey k ++ '.' :: rest) = some (k, '.' :: rest) :=
  key?_writtenKey k (by rintro _ ⟨⟩; decide)

theorem flatMap_dots_cons (l : String) (path : List String) (k : String) (rest : List Char) :
    (l :: path).flatMap (fun k => writtenKey k ++ ['.']) ++ writtenKey k ++ rest =
      writtenKey l ++ '.' :: (path.flatMap (fun k => writtenKey k ++ ['.']) ++ writtenKey k ++
        rest) := by
  simp

/-- **The keys on the way to a table are read as they were written.** -/
theorem dottedKey?_writtenPath {limit : Nat} {path : List String} (hlimit : path.length < limit)
    (k : String) (hrest : StartsOutside isBare rest) (hdot : (skipBlanks rest).head? ≠ some '.') :
    dottedKey? limit (writtenPath (path ++ [k]) ++ rest) = some ((path, k), skipBlanks rest) := by
  rw [writtenPath_append_singleton]
  induction path generalizing limit with
  | nil =>
    obtain ⟨limit, rfl⟩ : ∃ n, limit = n + 1 := ⟨limit - 1, by simp at hlimit; omega⟩
    rw [List.flatMap_nil, List.nil_append, dottedKey?, skipBlanks_writtenKey,
      key?_writtenKey k hrest]
    simp only
    split
    next more h => simp [h] at hdot
    next h => rfl
  | cons l path ih =>
    obtain ⟨limit, rfl⟩ : ∃ n, limit = n + 1 := ⟨limit - 1, by simp at hlimit; omega⟩
    have hmore := ih (show path.length < limit by simpa using hlimit)
    rw [flatMap_dots_cons, dottedKey?, skipBlanks_writtenKey, key?_writtenKey_dot]
    simp only [skipBlanks_dot, hmore]

/-- Keys on the way to a table that are as many as the limit are not read. -/
theorem dottedKey?_writtenPath_eq_none {limit : Nat} {path : List String}
    (hlimit : limit ≤ path.length) (k : String) (rest : List Char) :
    dottedKey? limit (writtenPath (path ++ [k]) ++ rest) = none := by
  rw [writtenPath_append_singleton]
  induction path generalizing limit with
  | nil =>
    obtain rfl : limit = 0 := Nat.le_zero.1 hlimit
    rfl
  | cons l path ih =>
    cases limit with
    | zero => rfl
    | succ limit =>
      have hmore := ih (Nat.le_of_succ_le_succ hlimit)
      rw [flatMap_dots_cons, dottedKey?, skipBlanks_writtenKey, key?_writtenKey_dot]
      simp only [skipBlanks_dot, hmore]

/-- A key is read up to the equals sign after it. -/
theorem dottedKey?_writtenKey (k : String) (rest : List Char) :
    dottedKey? depthLimit (writtenKey k ++ ' ' :: '=' :: rest) = some (([], k), '=' :: rest) :=
  dottedKey?_writtenPath (show [].length < depthLimit by decide) k (by rintro _ ⟨⟩; rfl) nofun

end Downstream.Toml
