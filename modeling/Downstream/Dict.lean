/-!
# Dictionaries

A dictionary lists its entries in strictly ascending order of their keys (`Dict.Ordered`), which is
the order in which it is shown and gone through. `Dict.insert` keeps the order
(`ordered_insert`), and `Dict.find?` finds what was inserted last under a key
(`find?_insert_self`, `find?_insert_of_ne`).
-/

namespace Downstream

/-- Entries with their keys, in ascending order of the keys. -/
abbrev Dict (κ α : Type) := List (κ × α)

namespace Dict

variable {κ α : Type} [LT κ] [DecidableLT κ] [DecidableEq κ]

/-- Sets the value of a key, replacing a former one. -/
def insert (k : κ) (v : α) : Dict κ α → Dict κ α
  | [] => [(k, v)]
  | (k', v') :: rest =>
    if k < k' then (k, v) :: (k', v') :: rest
    else if k = k' then (k, v) :: rest
    else (k', v') :: insert k v rest

omit [LT κ] [DecidableLT κ] in
/-- The value of a key. -/
def find? (k : κ) : Dict κ α → Option α
  | [] => none
  | (k', v) :: rest => if k = k' then some v else find? k rest

/-- The keys. -/
def keys (d : Dict κ α) : List κ :=
  d.map Prod.fst

/-- The dictionary of some entries, each replacing former ones under its key. -/
def ofList (entries : List (κ × α)) : Dict κ α :=
  entries.foldl (fun d e => insert e.1 e.2 d) []

/-! ## Looking up -/

theorem find?_insert_self (k : κ) (v : α) (d : Dict κ α) : find? k (insert k v d) = some v := by
  induction d with
  | nil => simp [insert, find?]
  | cons e rest ih =>
    obtain ⟨k', v'⟩ := e
    by_cases h : k < k'
    · simp [insert, find?, h]
    · by_cases hk : k = k'
      · subst hk
        simp [insert, find?, h]
      · simp [insert, find?, h, hk, ih]

theorem find?_insert_of_ne {k k' : κ} (hne : k' ≠ k) (v : α) (d : Dict κ α) :
    find? k' (insert k v d) = find? k' d := by
  induction d with
  | nil => simp [insert, find?, hne]
  | cons e rest ih =>
    obtain ⟨l, w⟩ := e
    by_cases h : k < l
    · simp [insert, find?, h, hne]
    · by_cases hk : k = l
      · subst hk
        simp [insert, find?, h, hne]
      · simp [insert, find?, h, hk, ih]

/-- What is inserted last under a key counts. -/
theorem insert_insert (irrefl : ∀ a : κ, ¬a < a) (k : κ) (v w : α) (d : Dict κ α) :
    insert k w (insert k v d) = insert k w d := by
  induction d with
  | nil => simp [insert, irrefl]
  | cons e rest ih =>
    obtain ⟨k', v'⟩ := e
    by_cases h : k < k'
    · simp [insert, h, irrefl]
    · by_cases hk : k = k'
      · subst hk
        simp [insert, irrefl]
      · simp [insert, h, hk, ih]

omit [LT κ] [DecidableLT κ] in
theorem mem_of_find? {k : κ} {v : α} {d : Dict κ α} (h : find? k d = some v) : (k, v) ∈ d := by
  induction d with
  | nil => simp [find?] at h
  | cons e rest ih =>
    obtain ⟨k', v'⟩ := e
    by_cases hk : k = k'
    · subst hk
      simp only [find?, if_true, Option.some.injEq] at h
      subst h
      exact List.mem_cons_self
    · simp only [find?, hk, if_false] at h
      exact List.mem_cons_of_mem _ (ih h)

/-! ## Order -/

omit [DecidableLT κ] [DecidableEq κ] in
/-- The keys ascend strictly. -/
def Ordered (d : Dict κ α) : Prop :=
  d.Pairwise fun a b => a.1 < b.1

theorem mem_insert {k : κ} {v : α} {d : Dict κ α} {e : κ × α} (h : e ∈ insert k v d) :
    e = (k, v) ∨ e ∈ d := by
  induction d with
  | nil => simpa [insert] using h
  | cons f rest ih =>
    obtain ⟨k', v'⟩ := f
    by_cases hlt : k < k'
    · simpa [insert, hlt] using h
    · by_cases hk : k = k'
      · subst hk
        simp only [insert, hlt, if_false, if_true, List.mem_cons] at h ⊢
        exact h.imp id Or.inr
      · simp only [insert, hlt, hk, if_false, List.mem_cons] at h ⊢
        rcases h with h | h
        · exact Or.inr (Or.inl h)
        · exact (ih h).imp id Or.inr

theorem ordered_insert (trans : ∀ a b c : κ, a < b → b < c → a < c)
    (total : ∀ a b : κ, a < b ∨ a = b ∨ b < a) (k : κ) (v : α) {d : Dict κ α}
    (h : Ordered d) : Ordered (insert k v d) := by
  induction d with
  | nil => simp [insert, Ordered]
  | cons e rest ih =>
    obtain ⟨k', v'⟩ := e
    have hrest : Ordered rest := (List.pairwise_cons.1 h).2
    have hhead : ∀ x ∈ rest, k' < x.1 := (List.pairwise_cons.1 h).1
    by_cases hlt : k < k'
    · simp only [insert, hlt, if_true]
      refine List.pairwise_cons.2 ⟨fun x hx => ?_, h⟩
      rcases List.mem_cons.1 hx with rfl | hx
      · exact hlt
      · exact trans _ _ _ hlt (hhead x hx)
    · by_cases hk : k = k'
      · subst hk
        simp only [insert, hlt, if_false, if_true]
        exact List.pairwise_cons.2 ⟨hhead, hrest⟩
      · simp only [insert, hlt, hk, if_false]
        refine List.pairwise_cons.2 ⟨fun x hx => ?_, ih hrest⟩
        rcases mem_insert hx with rfl | hx
        · rcases total k k' with h1 | h1 | h1
          · exact absurd h1 hlt
          · exact absurd h1 hk
          · exact h1
        · exact hhead x hx

omit [LT κ] [DecidableLT κ] in
theorem find?_map (f : α → α) (k : κ) (d : Dict κ α) :
    find? k (d.map fun e => (e.1, f e.2)) = (find? k d).map f := by
  induction d with
  | nil => rfl
  | cons e rest ih =>
    obtain ⟨k', v⟩ := e
    by_cases hk : k = k'
    · subst hk
      simp [find?]
    · simp [find?, hk, ih]

omit [DecidableLT κ] in
/-- No two entries have the same key. -/
theorem find?_of_mem (asymm : ∀ a b : κ, a < b → ¬b < a) {d : Dict κ α} (h : Ordered d)
    {e : κ × α} (he : e ∈ d) : find? e.1 d = some e.2 := by
  induction d with
  | nil => cases he
  | cons f rest ih =>
    obtain ⟨k', v'⟩ := f
    obtain ⟨hhead, hrest⟩ := List.pairwise_cons.1 h
    rcases List.mem_cons.1 he with rfl | he
    · simp [find?]
    · have hlt := hhead e he
      have hne : e.1 ≠ k' := fun heq => asymm _ _ hlt (heq ▸ hlt)
      rw [find?, if_neg hne, ih hrest he]

/-- Replacing a value changes the entry of its key and nothing else. -/
theorem insert_eq_map (asymm : ∀ a b : κ, a < b → ¬b < a) {k : κ} {v : α} (w : α) {d : Dict κ α}
    (h : Ordered d) (hf : find? k d = some v) :
    insert k w d = d.map fun e => (e.1, if e.1 = k then w else e.2) := by
  induction d with
  | nil => cases hf
  | cons e rest ih =>
    obtain ⟨k', v'⟩ := e
    obtain ⟨hhead, hrest⟩ := List.pairwise_cons.1 h
    by_cases hk : k = k'
    · subst hk
      have hirrefl : ¬k < k := fun hlt => asymm k k hlt hlt
      have hself : rest.map (fun e => (e.1, if e.1 = k then w else e.2)) = rest := by
        refine (List.map_congr_left fun x hx => ?_).trans (List.map_id rest)
        have hne : x.1 ≠ k := fun he => hirrefl (he ▸ hhead x hx)
        rw [if_neg hne, id]
      simp [insert, hirrefl, hself]
    · have hf : find? k rest = some v := by simpa [find?, hk] using hf
      have hlt : ¬k < k' := asymm _ _ (hhead _ (mem_of_find? hf))
      simp [insert, hlt, hk, Ne.symm hk, ih hrest hf]

end Dict

end Downstream
