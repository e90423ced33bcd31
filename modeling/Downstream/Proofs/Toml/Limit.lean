import Downstream.Toml.Reader

/-!
# Documents beyond the limits

`readWithin? limit` reads a text as `read?` does, which is `readWithin? depthLimit`, but with another
limit on the nesting of brackets and braces and on the parts of a dotted key. A greater limit changes
nothing for a text that is read (`readWithin?_mono`). So what a text says does not depend on limits
(`eq_of_readWithin?`), and a text is a document if there is a limit within which it is read.
-/

namespace Downstream.Toml

/-! ## Reading within a limit -/

/-- Reads the entries of a table up to its closing brace, given how to read a value. -/
def fieldsWithin? (limit : Nat) (value? : List Char → Option (Item × List Char)) :
    (fuel : Nat) → (done : Entries) → List Char → Option (Entries × List Char)
  | 0, _, _ => none
  | fuel + 1, done, s =>
    match skipGap? false s with
    | none => none
    | some ('\x7d' :: rest) => some (done, rest)
    | some s => do
      let ((path, k), s) ← dottedKey? limit s
      let s ← takeChar '=' (← skipGap? false s)
      let (v, s) ← value? (← skipGap? false s)
      let done ← done.define path k v
      match ← skipGap? false s with
      | ',' :: rest => fieldsWithin? limit value? fuel done rest
      | '\x7d' :: rest => some (done, rest)
      | _ => none

/-- Reads a value that nests at most `depth` deep. -/
def valueWithin? (limit : Nat) : (depth : Nat) → List Char → Option (Item × List Char)
  | 0, s =>
    match quoted? s with
    | some (t, rest) => some (.string (String.ofList t), rest)
    | none => takePlain? s
  | depth + 1, s =>
    match s with
    | '[' :: rest =>
      (elements? (valueWithin? limit depth) (rest.length + 1) [] rest).map fun (vs, rest) =>
        (.array vs, rest)
    | '\x7b' :: rest =>
      (fieldsWithin? limit (valueWithin? limit depth) (rest.length + 1) [] rest).map
        fun (entries, rest) => (.table (itemsOf entries), rest)
    | s =>
      match quoted? s with
      | some (t, rest) => some (.string (String.ofList t), rest)
      | none => takePlain? s

/-- Reads the rest of a header after its opening brackets. -/
def headerWithin? (limit : Nat) (isElement : Bool) (s : List Char) : Option (Line × List Char) := do
  let ((path, k), s) ← dottedKey? limit s
  let s ← takeChar ']' s
  let s ← if isElement then takeChar ']' s else some s
  return (.header ⟨isElement, path, k⟩, s)

/-- Reads a key with its value. -/
def entryWithin? (limit : Nat) (s : List Char) : Option (Line × List Char) := do
  let ((path, k), s) ← dottedKey? limit s
  let s ← takeChar '=' s
  let (v, s) ← valueWithin? limit limit (skipBlanks s)
  return (.entry ⟨path, k, v⟩, s)

/-- Reads what a line says. -/
def lineWithin? (limit : Nat) (s : List Char) : Option (Line × List Char) :=
  match s with
  | '[' :: '[' :: rest => headerWithin? limit true rest
  | '[' :: rest => headerWithin? limit false rest
  | s => entryWithin? limit s

/-- Reads all lines. `done` are those so far, the last one first. -/
def linesWithin? (limit : Nat) :
    (fuel : Nat) → (done : List Line) → List Char → Option (List Line)
  | 0, _, _ => none
  | fuel + 1, done, s =>
    match skipGap? false s with
    | none => none
    | some [] => some done.reverse
    | some s => do
      let (l, s) ← lineWithin? limit s
      linesWithin? limit fuel (l :: done) (← endLine? s)

/-- What a document within a limit says. -/
def readWithin? (limit : Nat) (text : String) : Option (Dict String Item) := do
  let s := match text.toList with
    | '\ufeff' :: rest => rest
    | s => s
  let lines ← linesWithin? limit (s.length + 1) [] s
  let entries ← Entries.ofLines? lines
  return itemsOf entries

/-! ## The limit of the reader -/

theorem fieldsWithin?_depthLimit (value? : List Char → Option (Item × List Char)) (fuel : Nat)
    (done : Entries) (s : List Char) :
    fieldsWithin? depthLimit value? fuel done s = fields? value? fuel done s := by
  induction fuel generalizing done s with
  | zero => rfl
  | succ fuel ih =>
    rw [fieldsWithin?]
    simp only [ih]
    rfl

theorem valueWithin?_depthLimit (depth : Nat) : valueWithin? depthLimit depth = value? depth := by
  induction depth with
  | zero => rfl
  | succ depth ih =>
    funext s
    unfold valueWithin?
    simp only [ih, fieldsWithin?_depthLimit]
    rfl

theorem lineWithin?_depthLimit (s : List Char) : lineWithin? depthLimit s = line? s := by
  have hentry : ∀ s, entryWithin? depthLimit s = entry? s := fun s => by
    rw [entryWithin?, valueWithin?_depthLimit]
    rfl
  unfold lineWithin?
  simp only [hentry]
  rfl

theorem linesWithin?_depthLimit (fuel : Nat) (done : List Line) (s : List Char) :
    linesWithin? depthLimit fuel done s = lines? fuel done s := by
  induction fuel generalizing done s with
  | zero => rfl
  | succ fuel ih =>
    rw [linesWithin?]
    simp only [ih, lineWithin?_depthLimit]
    rfl

/-- **The reader reads within its limit.** -/
theorem readWithin?_depthLimit (text : String) : readWithin? depthLimit text = read? text := by
  simp only [readWithin?, linesWithin?_depthLimit]
  rfl

/-! ## Greater limits -/

/-- What the one reader reads, the other reads too. -/
def Extends {α : Type} (read read' : List Char → Option (α × List Char)) : Prop :=
  ∀ s r, read s = some r → read' s = some r

variable {n m : Nat} {read read' : List Char → Option (Item × List Char)}

theorem dottedKey?_mono (hle : n ≤ m) : Extends (dottedKey? n) (dottedKey? m) := by
  induction n generalizing m with
  | zero => exact nofun
  | succ n ih =>
    intro s r h
    obtain ⟨m, rfl⟩ := Nat.exists_eq_add_of_le' (Nat.lt_of_lt_of_le n.succ_pos hle)
    rw [dottedKey?] at h ⊢
    split at h
    · cases h
    split at h
    next k rest hkey more hdot =>
      cases hmore : dottedKey? n more with
      | none =>
        rw [hmore] at h
        cases h
      | some r' =>
        rw [hmore] at h
        rw [ih (Nat.le_of_succ_le_succ hle) more r' hmore]
        exact h
    · exact h

theorem elements?_mono (hread : Extends read read') (fuel : Nat) (done : List Item) :
    Extends (elements? read fuel done) (elements? read' fuel done) := by
  induction fuel generalizing done with
  | zero => exact nofun
  | succ fuel ih =>
    intro s r h
    rw [elements?] at h ⊢
    split at h
    · cases h
    · exact h
    · obtain ⟨⟨v, s₁⟩, hv, h⟩ := Option.bind_eq_some_iff.1 h
      obtain ⟨s₂, hs₂, h⟩ := Option.bind_eq_some_iff.1 h
      refine Option.bind_eq_some_iff.2 ⟨(v, s₁), hread _ _ hv,
        Option.bind_eq_some_iff.2 ⟨s₂, hs₂, ?_⟩⟩
      split at h
      · exact ih _ _ _ h
      · exact h
      · cases h

theorem fieldsWithin?_mono (hle : n ≤ m) (hread : Extends read read') (fuel : Nat)
    (done : Entries) : Extends (fieldsWithin? n read fuel done) (fieldsWithin? m read' fuel done) := by
  induction fuel generalizing done with
  | zero => exact nofun
  | succ fuel ih =>
    intro s r h
    rw [fieldsWithin?] at h ⊢
    split at h
    · cases h
    · exact h
    · simp only [Option.bind_eq_bind, Option.bind_eq_some_iff] at h ⊢
      obtain ⟨key, hkey, s₁, hs₁, s₂, hs₂, s₃, hs₃, v, hv, new, hnew, s₄, hs₄, h⟩ := h
      refine ⟨key, dottedKey?_mono hle _ _ hkey, s₁, hs₁, s₂, hs₂, s₃, hs₃, v, hread _ _ hv, new,
        hnew, s₄, hs₄, ?_⟩
      split at h
      · exact ih _ _ _ h
      · exact h
      · cases h

theorem takePlain?_eq_none {c : Char} (hc : c = '[' ∨ c = '\x7b') (rest : List Char) :
    takePlain? (c :: rest) = none := by
  have hplain : plain? [] = none := by rfl
  obtain rfl | rfl := hc
  · have hneg : isPlain '[' = false := by decide
    simp [takePlain?, hneg, hplain]
  · have hneg : isPlain '\x7b' = false := by decide
    simp [takePlain?, hneg, hplain]

/-- What is read without brackets and braces is read at any depth. -/
theorem valueWithin?_zero (depth : Nat) : Extends (valueWithin? n 0) (valueWithin? m depth) := by
  cases depth with
  | zero => exact fun _ _ h => h
  | succ depth =>
    intro s r h
    unfold valueWithin? at h ⊢
    split
    next rest =>
      simp [takePlain?_eq_none, quoted?] at h
    next rest =>
      simp [takePlain?_eq_none, quoted?] at h
    · exact h

theorem valueWithin?_mono (hle : n ≤ m) {depth depth' : Nat} (hdepth : depth ≤ depth') :
    Extends (valueWithin? n depth) (valueWithin? m depth') := by
  induction depth generalizing depth' with
  | zero => exact valueWithin?_zero depth'
  | succ depth ih =>
    obtain ⟨depth', rfl⟩ := Nat.exists_eq_add_of_le' (Nat.lt_of_lt_of_le depth.succ_pos hdepth)
    have ih := ih (Nat.le_of_succ_le_succ hdepth)
    intro s r h
    unfold valueWithin? at h ⊢
    split at h
    · obtain ⟨r', hr, rfl⟩ := Option.map_eq_some_iff.1 h
      exact Option.map_eq_some_iff.2 ⟨r', elements?_mono ih _ _ _ _ hr, rfl⟩
    · obtain ⟨r', hr, rfl⟩ := Option.map_eq_some_iff.1 h
      exact Option.map_eq_some_iff.2 ⟨r', fieldsWithin?_mono hle ih _ _ _ _ hr, rfl⟩
    · exact h

theorem lineWithin?_mono (hle : n ≤ m) : Extends (lineWithin? n) (lineWithin? m) := by
  have hheader : ∀ isElement, Extends (headerWithin? n isElement) (headerWithin? m isElement) := by
    intro isElement s r h
    simp only [headerWithin?, Option.bind_eq_bind, Option.bind_eq_some_iff] at h ⊢
    obtain ⟨key, hkey, h⟩ := h
    exact ⟨key, dottedKey?_mono hle _ _ hkey, h⟩
  have hentry : Extends (entryWithin? n) (entryWithin? m) := by
    intro s r h
    simp only [entryWithin?, Option.bind_eq_bind, Option.bind_eq_some_iff] at h ⊢
    obtain ⟨key, hkey, s₁, hs₁, v, hv, h⟩ := h
    exact ⟨key, dottedKey?_mono hle _ _ hkey, s₁, hs₁, v, valueWithin?_mono hle hle _ _ hv, h⟩
  intro s r h
  unfold lineWithin? at h ⊢
  split at h
  · exact hheader _ _ _ h
  · exact hheader _ _ _ h
  · exact hentry _ _ h

theorem linesWithin?_mono (hle : n ≤ m) {fuel : Nat} {done lines : List Line} {s : List Char}
    (h : linesWithin? n fuel done s = some lines) : linesWithin? m fuel done s = some lines := by
  induction fuel generalizing done s with
  | zero => cases h
  | succ fuel ih =>
    rw [linesWithin?] at h ⊢
    split at h
    · cases h
    · exact h
    · simp only [Option.bind_eq_bind, Option.bind_eq_some_iff] at h ⊢
      obtain ⟨l, hl, s₁, hs₁, h⟩ := h
      exact ⟨l, lineWithin?_mono hle _ _ hl, s₁, hs₁, ih h⟩

variable {text : String} {fields fields' : Dict String Item}

/-- **What is read within a limit is read within a greater one.** -/
theorem readWithin?_mono (hle : n ≤ m) (h : readWithin? n text = some fields) :
    readWithin? m text = some fields := by
  simp only [readWithin?, Option.bind_eq_bind, Option.bind_eq_some_iff] at h ⊢
  obtain ⟨lines, hlines, h⟩ := h
  exact ⟨lines, linesWithin?_mono hle hlines, h⟩

/-- A text says one thing, within whatever limits it is read. -/
theorem eq_of_readWithin? (h : readWithin? n text = some fields)
    (h' : readWithin? m text = some fields') : fields = fields' := by
  obtain hle | hle := Nat.le_total n m
  · exact Option.some.inj ((readWithin?_mono hle h).symm.trans h')
  · exact Option.some.inj (h.symm.trans (readWithin?_mono hle h'))

end Downstream.Toml
