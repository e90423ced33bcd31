import Downstream.Files.Path
import Mathlib.Data.List.Induction
import Mathlib.Logic.Relation

/-!
# Spellings of a path

Several spellings denote one path. `Path.Shortens` takes away one slash or one `.` that does not
count, and two spellings have the same components exactly if they can be turned into one another in
this way (`same_iff_eqvGen`): each can be turned into the plainest spelling of its components
(`eqvGen_spelling`). The components of a path are a proper list (`proper_components`), and every
proper list has a spelling (`components_spelling`), so a leading slash, a leading `.` and every `..`
count.
-/

namespace Downstream

/-! ## Parts of a text -/

theorem partsOnto_ne_nil (separator : Char) (current s : List Char) :
    partsOnto separator current s ≠ [] := by
  induction s generalizing current with
  | nil => exact List.cons_ne_nil _ _
  | cons c s ih =>
    rw [partsOnto]
    split
    · exact List.cons_ne_nil _ _
    · exact ih _

theorem partsOnto_append (separator : Char) (current a b : List Char) :
    partsOnto separator current (a ++ separator :: b) =
      partsOnto separator current a ++ parts separator b := by
  induction a generalizing current with
  | nil => simp [partsOnto, parts]
  | cons c a ih =>
    by_cases h : c = separator
    · simp [partsOnto, h, ih]
    · simp [partsOnto, h, ih]

/-- A text without separators is one part. -/
theorem partsOnto_of_notMem {separator : Char} {s : List Char} (h : separator ∉ s)
    (current : List Char) : partsOnto separator current s = [current.reverse ++ s] := by
  induction s generalizing current with
  | nil => simp [partsOnto]
  | cons c s ih =>
    obtain ⟨hc, hs⟩ := not_or.1 (mt List.mem_cons.2 h)
    rw [partsOnto, if_neg (Ne.symm hc), ih hs]
    simp

namespace Path

variable {a b s : String} {c : Component} {cs : List Component}

theorem slashParts_ne_nil (path : String) : slashParts path ≠ [] :=
  partsOnto_ne_nil '/' [] path.toList

theorem slashParts_append (a b : String) :
    slashParts (a ++ "/" ++ b) = slashParts a ++ slashParts b := by
  have hlist : (a ++ "/" ++ b).toList = a.toList ++ '/' :: b.toList := by simp
  rw [slashParts, hlist]
  exact partsOnto_append '/' [] _ _

theorem slashParts_of_notMem (h : '/' ∉ s.toList) : slashParts s = [s.toList] :=
  partsOnto_of_notMem h []

/-- A path is its parts, joined again. -/
theorem intercalate_slashParts (path : String) :
    String.intercalate "/" ((slashParts path).map String.ofList) = path := by
  have honto : ∀ current cs, String.intercalate "/" ((partsOnto '/' current cs).map String.ofList) =
      String.ofList (current.reverse ++ cs) := by
    intro current cs
    induction cs generalizing current with
    | nil => simp [partsOnto]
    | cons c cs ih =>
      by_cases h : c = '/'
      · have hne : (partsOnto '/' [] cs).map String.ofList ≠ [] := by
          simpa using partsOnto_ne_nil '/' [] cs
        rw [partsOnto, if_pos h, List.map_cons, String.intercalate_cons_of_ne_nil hne, ih, h,
          ← String.toList_inj]
        simp
      · rw [partsOnto, if_neg h, ih]
        simp
  rw [slashParts, parts, honto]
  simp

/-- **Paths are made part by part**: one part, or a path with one more part behind it. -/
theorem slash_induction {motive : String → Prop} (part : ∀ s, '/' ∉ s.toList → motive s)
    (slash : ∀ a s, '/' ∉ s.toList → motive a → motive (a ++ "/" ++ s)) (path : String) :
    motive path := by
  generalize hn : path.length = n
  induction n using Nat.strongRecOn generalizing path with
  | ind n ih =>
    by_cases h : '/' ∈ path.toList
    · obtain ⟨v, u, hvu, hv⟩ := List.eq_append_cons_of_mem (List.mem_reverse.2 h)
      have hpath : path = String.ofList u.reverse ++ "/" ++ String.ofList v.reverse := by
        rw [← String.toList_inj, ← List.reverse_inj, hvu]
        simp
      have hlength : (String.ofList u.reverse).length < n := by
        rw [← hn, hpath]
        simp only [String.length_append]
        have : "/".length = 1 := rfl
        omega
      rw [hpath]
      exact slash _ _ (by simpa using hv) (ih _ hlength _ rfl)
    · exact part path h

/-! ## Components, part by part -/

/-- The components of the part in front, where it is not all of the path. -/
def front : List Char → List Component
  | [] => [.root]
  | ['.'] => [.here]
  | part => (component? part).toList

theorem components_of_slashParts {path : String} {part : List Char} {parts : List (List Char)}
    (h : slashParts path = part :: parts) (hne : part = [] → parts ≠ []) :
    components path = front part ++ parts.filterMap component? := by
  rw [components, h]
  match part, hne with
  | [], hne =>
    obtain ⟨p, ps, rfl⟩ := List.exists_cons_of_ne_nil (hne rfl)
    rfl
  | [c], _ =>
    by_cases hc : c = '.'
    · subst hc
      rfl
    · simp [front, hc, component?]
  | c :: c' :: cs, _ =>
    simp only [front, List.filterMap_cons]
    cases component? (c :: c' :: cs) <;> rfl

/-- The components of a path behind a slash. -/
def inner (path : String) : List Component :=
  (slashParts path).filterMap component?

theorem inner_slash (a b : String) : inner (a ++ "/" ++ b) = inner a ++ inner b := by
  rw [inner, slashParts_append, List.filterMap_append, inner, inner]

theorem inner_of_notMem (h : '/' ∉ s.toList) : inner s = (component? s.toList).toList := by
  rw [inner, slashParts_of_notMem h]
  cases hc : component? s.toList <;> simp [hc]

/-- What stands behind a slash has no leading slash and no leading `.`. -/
theorem components_slash (a b : String) :
    components (a ++ "/" ++ b) = (if a = "" then [.root] else components a) ++ inner b := by
  obtain ⟨p, ps, ha⟩ := List.exists_cons_of_ne_nil (slashParts_ne_nil a)
  have hb : slashParts b ≠ [] := slashParts_ne_nil b
  have hslash : slashParts (a ++ "/" ++ b) = p :: (ps ++ slashParts b) := by
    rw [slashParts_append, ha, List.cons_append]
  rw [components_of_slashParts hslash (fun _ => by simp [hb]), List.filterMap_append, inner,
    ← List.append_assoc]
  congr 1
  by_cases hempty : a = ""
  · subst hempty
    cases ha
    rfl
  · rw [if_neg hempty]
    refine (components_of_slashParts ha fun hp hps => hempty ?_).symm
    rw [← intercalate_slashParts a, ha, hp, hps]
    rfl

/-- The components of a single part. -/
theorem components_of_notMem (h : '/' ∉ s.toList) (hne : s ≠ "") :
    components s = front s.toList := by
  have hlist : s.toList ≠ [] := by simpa using hne
  rw [components_of_slashParts (slashParts_of_notMem h) fun h => absurd h hlist,
    List.filterMap_nil, List.append_nil]

/-! ## What does not count -/

/-- A spelling of a path with one slash or one `.` less. -/
inductive Shortens : String → String → Prop
  /-- Of slashes in a row one counts. -/
  | slash (a b : String) : Shortens (a ++ "//" ++ b) (a ++ "/" ++ b)
  /-- A `.` between slashes does not count. -/
  | dot (a b : String) : Shortens (a ++ "/./" ++ b) (a ++ "/" ++ b)
  /-- Nor does one at the end, behind a slash. -/
  | lastDot (a : String) : Shortens (a ++ "/.") (a ++ "/")
  /-- A slash at the end does not count, unless it is all of the path. -/
  | lastSlash (a : String) (h : a ≠ "") : Shortens (a ++ "/") a

theorem append_slash_slash (a b : String) : a ++ "//" ++ b = a ++ "/" ++ ("" ++ "/" ++ b) := by
  rw [← String.toList_inj]
  simp

theorem append_slash_dot_slash (a b : String) : a ++ "/./" ++ b = a ++ "/" ++ ("." ++ "/" ++ b) := by
  rw [← String.toList_inj]
  simp

theorem append_slash_dot (a : String) : a ++ "/." = a ++ "/" ++ "." := by
  rw [← String.toList_inj]
  simp

theorem append_slash_empty (a : String) : a ++ "/" = a ++ "/" ++ "" := by
  rw [String.append_empty]

theorem Shortens.same (h : Shortens a b) : Same a b := by
  have hempty : inner "" = [] := rfl
  have hdot : inner "." = [] := rfl
  cases h with
  | slash a b =>
    rw [Same, append_slash_slash, components_slash, inner_slash, hempty, List.nil_append,
      components_slash]
  | dot a b =>
    rw [Same, append_slash_dot_slash, components_slash, inner_slash, hdot, List.nil_append,
      components_slash]
  | lastDot a =>
    rw [Same, append_slash_dot, components_slash, append_slash_empty a, components_slash, hdot,
      hempty]
  | lastSlash _ h =>
    rw [Same, append_slash_empty, components_slash, if_neg h, hempty, List.append_nil]

/-- Spellings can be changed in front of a slash. -/
theorem eqvGen_append_slash (h : Relation.EqvGen Shortens a b) (s : String) :
    Relation.EqvGen Shortens (a ++ "/" ++ s) (b ++ "/" ++ s) := by
  induction h with
  | rel a b h =>
    cases h with
    | slash a b =>
      simpa only [String.append_assoc] using
        Relation.EqvGen.rel _ _ (Shortens.slash a (b ++ "/" ++ s))
    | dot a b =>
      simpa only [String.append_assoc] using
        Relation.EqvGen.rel _ _ (Shortens.dot a (b ++ "/" ++ s))
    | lastDot a =>
      have hdot := Relation.EqvGen.rel _ _ (Shortens.dot a s)
      have hslash := Relation.EqvGen.rel _ _ (Shortens.slash a s)
      have hleft : a ++ "/." ++ "/" ++ s = a ++ "/./" ++ s := by
        rw [← String.toList_inj]
        simp
      have hright : a ++ "/" ++ "/" ++ s = a ++ "//" ++ s := by
        rw [← String.toList_inj]
        simp
      rw [hleft, hright]
      exact hdot.trans _ _ _ (hslash.symm _ _)
    | lastSlash _ h =>
      have hleft : b ++ "/" ++ "/" ++ s = b ++ "//" ++ s := by
        rw [← String.toList_inj]
        simp
      rw [hleft]
      exact .rel _ _ (.slash b s)
  | refl a => exact .refl _
  | symm a b _ ih => exact ih.symm
  | trans a b c _ _ hab hbc => exact hab.trans _ _ _ hbc

/-! ## The plainest spelling -/

/-- How a component is written. -/
def Component.text : Component → String
  | .root => ""
  | .here => "."
  | .parent => ".."
  | .name s => s

/-- The plainest spelling of a list of components. -/
def spelling (cs : List Component) : String :=
  if cs = [.root] then "/" else String.intercalate "/" (cs.map Component.text)

theorem spelling_append_singleton (hne : cs ≠ []) (c : Component) :
    spelling (cs ++ [c]) = (if cs = [.root] then "" else spelling cs) ++ "/" ++ c.text := by
  have hlast : ([c].map Component.text) ≠ [] := List.cons_ne_nil _ _
  have hmap : cs.map Component.text ≠ [] := by simpa using hne
  have hroot : cs ++ [c] ≠ [.root] := by
    intro h
    have hlength : (cs ++ [c]).length = 1 := congrArg List.length h
    rw [List.length_append, List.length_singleton] at hlength
    exact hne (List.length_eq_zero_iff.1 (by omega))
  rw [spelling, if_neg hroot, List.map_append, String.intercalate_append_of_ne_nil hmap hlast]
  by_cases h : cs = [.root]
  · subst h
    rfl
  · rw [if_neg h, spelling, if_neg h]
    rfl

/-- A component that may stand anywhere in a path. -/
inductive Component.Inner : Component → Prop where
  | parent : Inner .parent
  | name {s : String} (hempty : s ≠ "") (hhere : s ≠ ".") (hparent : s ≠ "..")
    (hslash : '/' ∉ s.toList) : Inner (.name s)

theorem Component.Inner.ne_root (h : c.Inner) : c ≠ .root := by
  cases h <;> exact nofun

theorem Component.Inner.notMem_text (h : c.Inner) : '/' ∉ c.text.toList := by
  cases h with
  | parent => decide
  | name _ _ _ hslash => exact hslash

theorem component?_name (hempty : s ≠ "") (hhere : s ≠ ".") (hparent : s ≠ "..") :
    component? s.toList = some (.name s) := by
  rw [component?, String.ofList_toList]
  · exact fun h => hempty (String.toList_inj.1 h)
  · exact fun h => hhere (String.toList_inj.1 h)
  · exact fun h => hparent (String.toList_inj.1 h)

theorem component?_text (h : c.Inner) : component? c.text.toList = some c := by
  cases h with
  | parent => rfl
  | name hempty hhere hparent _ => exact component?_name hempty hhere hparent

/-- A part between slashes is the text of a component, if it counts. -/
theorem component?_cases (hs : '/' ∉ s.toList) :
    ((s = "" ∨ s = ".") ∧ component? s.toList = none) ∨
      ∃ c, component? s.toList = some c ∧ c.text = s ∧ c.Inner := by
  by_cases hempty : s = ""
  · subst hempty
    exact .inl ⟨.inl rfl, rfl⟩
  by_cases hhere : s = "."
  · subst hhere
    exact .inl ⟨.inr rfl, rfl⟩
  by_cases hparent : s = ".."
  · subst hparent
    exact .inr ⟨.parent, rfl, rfl, .parent⟩
  · exact .inr ⟨.name s, component?_name hempty hhere hparent, rfl,
      .name hempty hhere hparent hs⟩

theorem front_toList (hne : s ≠ "") (hdot : s ≠ ".") : front s.toList = (component? s.toList).toList := by
  rw [front]
  · exact fun h => hne (String.toList_inj.1 h)
  · exact fun h => hdot (String.toList_inj.1 h)

theorem components_ne_nil {path : String} (h : path ≠ "") : components path ≠ [] := by
  induction path using slash_induction with
  | part s hs =>
    rw [components_of_notMem hs h]
    by_cases hdot : s = "."
    · subst hdot
      exact List.cons_ne_nil _ _
    obtain ⟨h' | h', -⟩ | ⟨c, hc, -⟩ := component?_cases hs
    · exact absurd h' h
    · exact absurd h' hdot
    · rw [front_toList h hdot, hc]
      exact List.cons_ne_nil _ _
  | slash a s hs ih =>
    rw [components_slash]
    by_cases ha : a = ""
    · simp [ha]
    · simp [ha, ih ha]

/-- A part between slashes is its own plainest spelling. -/
theorem spelling_components_of_notMem {s : String} (hs : '/' ∉ s.toList) :
    spelling (components s) = s := by
  by_cases hempty : s = ""
  · subst hempty
    rfl
  by_cases hdot : s = "."
  · subst hdot
    rfl
  obtain ⟨h | h, -⟩ | ⟨c, hc, htext, hinner⟩ := component?_cases hs
  · exact absurd h hempty
  · exact absurd h hdot
  · rw [components_of_notMem hs hempty, front_toList hempty hdot, hc, Option.toList_some,
      spelling, if_neg (by simpa using hinner.ne_root), List.map_singleton, htext]
    rfl

/-- **Every spelling of a path can be turned into the plainest one.** -/
theorem eqvGen_spelling (path : String) :
    Relation.EqvGen Shortens path (spelling (components path)) := by
  induction path using slash_induction with
  | part s hs =>
    rw [spelling_components_of_notMem hs]
    exact .refl s
  | slash a s hs ih =>
    rw [components_slash, inner_of_notMem hs]
    obtain ⟨h, hnone⟩ | ⟨c, hc, htext, -⟩ := component?_cases hs
    · have hshort : Relation.EqvGen Shortens (a ++ "/" ++ s) (a ++ "/") := by
        rcases h with rfl | rfl
        · rw [String.append_empty]
          exact .refl _
        · rw [← append_slash_dot]
          exact .rel _ _ (.lastDot a)
      rw [hnone, Option.toList_none, List.append_nil]
      refine hshort.trans _ _ _ ?_
      by_cases ha : a = ""
      · subst ha
        exact .refl _
      · rw [if_neg ha]
        exact .trans _ _ _ (.rel _ _ (.lastSlash a ha)) ih
    · rw [hc, Option.toList_some]
      by_cases ha : a = ""
      · rw [if_pos ha, spelling_append_singleton (List.cons_ne_nil _ _), if_pos rfl, htext, ha]
        exact .refl _
      · rw [if_neg ha, spelling_append_singleton (components_ne_nil ha), htext]
        refine (eqvGen_append_slash ih s).trans _ _ _ ?_
        by_cases hroot : components a = [.root]
        · rw [if_pos hroot, hroot]
          exact .rel _ _ (.slash "" s)
        · rw [if_neg hroot]
          exact .refl _

/-- **Two spellings have the same components exactly if they differ in what does not count.** -/
theorem same_iff_eqvGen : Same a b ↔ Relation.EqvGen Shortens a b := by
  constructor
  · intro h
    have ha := eqvGen_spelling a
    rw [show components a = components b from h] at ha
    exact ha.trans _ _ _ (eqvGen_spelling b).symm
  · intro h
    induction h with
    | rel a b h => exact h.same
    | refl a => exact rfl
    | symm a b _ ih => exact ih.symm
    | trans a b c _ _ hab hbc => exact hab.trans hbc

/-! ## Which lists of components there are -/

/-- What components a path can have: a slash or a `.` stands only in front. -/
structure Proper (cs : List Component) : Prop where
  first : ∀ c ∈ cs.head?, c = .root ∨ c = .here ∨ c.Inner
  later : ∀ c ∈ cs.tail, c.Inner

theorem proper_singleton (h : c = .root ∨ c = .here ∨ c.Inner) : Proper [c] :=
  ⟨fun _ hc => Option.some.inj hc ▸ h, nofun⟩

theorem proper_append_singleton (hne : cs ≠ []) :
    Proper (cs ++ [c]) ↔ Proper cs ∧ c.Inner := by
  obtain ⟨d, ds, rfl⟩ := List.exists_cons_of_ne_nil hne
  refine ⟨fun h => ⟨⟨h.first, fun e he => h.later e (List.mem_append_left _ he)⟩,
    h.later c (List.mem_append_right _ List.mem_cons_self)⟩, fun h => ⟨h.1.first, fun e he => ?_⟩⟩
  rcases List.mem_append.1 he with he | he
  · exact h.1.later e he
  · exact List.mem_singleton.1 he ▸ h.2

theorem proper_components (path : String) : Proper (components path) := by
  induction path using slash_induction with
  | part s hs =>
    by_cases hempty : s = ""
    · subst hempty
      exact ⟨nofun, nofun⟩
    by_cases hdot : s = "."
    · subst hdot
      exact proper_singleton (.inr (.inl rfl))
    obtain ⟨h | h, -⟩ | ⟨c, hc, -, hinner⟩ := component?_cases hs
    · exact absurd h hempty
    · exact absurd h hdot
    · rw [components_of_notMem hs hempty, front_toList hempty hdot, hc]
      exact proper_singleton (.inr (.inr hinner))
  | slash a s hs ih =>
    have hfront : Proper (if a = "" then [.root] else components a) := by
      split
      · exact proper_singleton (.inl rfl)
      · exact ih
    have hne : (if a = "" then [.root] else components a) ≠ [] := by
      split
      next => exact List.cons_ne_nil _ _
      next ha => exact components_ne_nil ha
    rw [components_slash, inner_of_notMem hs]
    obtain ⟨-, hnone⟩ | ⟨c, hc, -, hinner⟩ := component?_cases hs
    · rw [hnone, Option.toList_none, List.append_nil]
      exact hfront
    · rw [hc]
      exact (proper_append_singleton hne).2 ⟨hfront, hinner⟩

/-- **Every proper list of components has a spelling**, so each of its components counts. -/
theorem components_spelling (h : Proper cs) : components (spelling cs) = cs := by
  induction cs using List.reverseRecOn with
  | nil => rfl
  | append_singleton cs c ih =>
    by_cases hne : cs = []
    · subst hne
      rcases h.first c rfl with rfl | rfl | hinner
      · rfl
      · rfl
      · have hc := component?_text hinner
        have hempty : c.text ≠ "" := fun h => by simp [h, component?] at hc
        have hdot : c.text ≠ "." := fun h => by simp [h, component?] at hc
        have hspelling : spelling [c] = c.text := by
          rw [spelling, if_neg (by simpa using hinner.ne_root)]
          rfl
        rw [List.nil_append, hspelling, components_of_notMem hinner.notMem_text hempty,
          front_toList hempty hdot, hc, Option.toList_some]
    · obtain ⟨hcs, hinner⟩ := (proper_append_singleton hne).1 h
      have hfront : (if (if cs = [.root] then "" else spelling cs) = "" then [.root]
          else components (if cs = [.root] then "" else spelling cs)) = cs := by
        by_cases hroot : cs = [.root]
        · simp [hroot]
        · have hspelling : spelling cs ≠ "" := fun h => hne (by rw [← ih hcs, h]; rfl)
          rw [if_neg hroot, if_neg hspelling, ih hcs]
      rw [spelling_append_singleton hne, components_slash, hfront,
        inner_of_notMem hinner.notMem_text, component?_text hinner, Option.toList_some]

end Path

end Downstream
