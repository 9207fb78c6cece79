import ProofDesk.Proofs.Files.Frame
import ProofDesk.Uri.Module

namespace ProofDesk

namespace Text

theorem isAbsolutePath_append {s : Text} (ending : Text) (h : isAbsolutePath ending = false) :
    isAbsolutePath (s ++ ending) = isAbsolutePath s := by
  cases s with
  | nil => exact h
  | cons x xs => rfl

theorem pathParts_append_ne_nil {ending : Text} (h : ∀ s, '/' ∉ s → IsName (s ++ ending))
    (s : Text) : pathParts (s ++ ending) ≠ [] := by
  induction hn : s.length using Nat.strongRecOn generalizing s with
  | _ n ih =>
    by_cases hs : '/' ∈ s
    · obtain ⟨before, after, rfl⟩ := List.append_of_mem hs
      have hafter := ih after.length (by simp at hn; omega) after rfl
      rw [List.append_assoc, List.cons_append, pathParts_append_slash]
      exact List.append_ne_nil_of_right_ne_nil _ hafter
    · simp [pathParts_of_isName (h s hs)]

theorem isName_append_slf {s : Text} (h : '/' ∉ s) : IsName (s ++ ".slf".toList) where
  ne_nil := by simp
  ne_dot he := by simpa using congrArg List.length he
  ne_dots he := by simpa using congrArg List.length he
  noSlash := by simpa using h

theorem isAbsolutePath_join_names {names : List Text} (h : ∀ s ∈ names, IsName s) :
    isAbsolutePath (join ['/'] names) = false := by
  cases names with
  | nil => rfl
  | cons s rest =>
    have hs := h s List.mem_cons_self
    obtain ⟨x, xs, rfl⟩ := List.exists_cons_of_ne_nil hs.ne_nil
    have hx : x ≠ '/' := fun he => hs.noSlash (he ▸ List.mem_cons_self)
    cases rest <;> simpa [join, isAbsolutePath] using hx

end Text

namespace ImportedModule

variable {U : Type}

/-- The module's path has a name, or its short name is the way to a place below the scratch
directory: relative and without steps up, or absolute and leading there. -/
def Confined (m : ImportedModule U) (scratch : Text) : Prop :=
  Text.pathNames m.path ≠ [] ∨
    (Text.isAbsolutePath m.shortName = false ∧
      .parent ∉ Text.pathParts (m.shortName ++ ".slf".toList)) ∨
    (Text.isAbsolutePath m.shortName = true ∧ Text.Below scratch (m.shortName ++ ".slf".toList))

theorem below_sourcePath_iff (m : ImportedModule U) (scratch : Text) :
    Text.Below scratch (m.sourcePath scratch) ↔ m.Confined scratch := by
  rw [sourcePath, scratchPath]
  split
  next hnil =>
    have habs : Text.isAbsolutePath (m.shortName ++ ".slf".toList)
        = Text.isAbsolutePath m.shortName := Text.isAbsolutePath_append _ rfl
    cases hshort : Text.isAbsolutePath m.shortName with
    | true =>
      rw [Text.joinPath_of_absolute (habs.trans hshort)]
      simp [Confined, hnil, hshort]
    | false =>
      have hparts := Text.pathParts_append_ne_nil (fun s hs => Text.isName_append_slf hs) m.shortName
      rw [Text.below_joinPath_iff (habs.trans hshort)]
      constructor
      · rintro ⟨-, h⟩
        exact Or.inr (Or.inl ⟨hshort, h⟩)
      · rintro (h | ⟨-, h⟩ | ⟨h, -⟩)
        · exact absurd hnil h
        · exact ⟨hparts, h⟩
        · rw [hshort] at h
          cases h
  next hne =>
    have hnames : ∀ s ∈ Text.pathNames m.path, Text.IsName s :=
      fun s hs => Text.isName_of_mem_pathParts (Text.mem_pathNames.mp hs)
    rw [Text.below_joinPath_iff (Text.isAbsolutePath_join_names hnames),
      Text.pathParts_join hnames]
    have hne' : Text.pathNames m.path ≠ [] := hne
    simp [Confined, hne']

/-- A module's source has its place below the scratch directory exactly when the module is confined;
then its text is written there and nowhere else. -/
theorem locate_below (m : ImportedModule U) (scratch : Text) :
    (Text.Below scratch (m.sourcePath scratch) ↔ m.Confined scratch) ∧
      ∀ text, m.text = some text → m.Confined scratch → .parent ∉ Text.pathParts scratch →
        ∀ document files, ∃ names, names ≠ [] ∧ (∀ s ∈ names, Text.IsName s) ∧
          Files.WritesOnly (Files.place scratch ++ names) text files
            (m.locate document scratch files).2 := by
  refine ⟨m.below_sourcePath_iff scratch, fun text htext hm hup document files => ?_⟩
  obtain ⟨-, names, hne, hnames, hparts⟩ := (m.below_sourcePath_iff scratch).mpr hm
  have hpath : PathPart.parent ∉ Text.pathParts (m.sourcePath scratch) := by
    rw [hparts, List.mem_append]
    rintro (h | h)
    · exact hup h
    · simp at h
  have hplace : Files.place (m.sourcePath scratch) = Files.place scratch ++ names := by
    rw [Text.pathParts_eq_map_pathNames hup, ← List.map_append] at hparts
    exact Text.pathNames_of_pathParts hparts
  have hsave := Files.writesOnly_save files hpath text
  rw [hplace] at hsave
  refine ⟨names, hne, hnames, ?_⟩
  simp only [locate, htext]
  split
  next files' hs => rwa [hs] at hsave
  next failure files' hs => rwa [hs] at hsave

theorem locate_below_of_composite_name :
    ∃ names, names ≠ [] ∧ (∀ s ∈ names, Text.IsName s) ∧
      Files.WritesOnly (Files.place "/s".toList ++ names) ['x'] {}
        (locate (U := CompilationUnit) { name := "Eq: ../org/Eq.slf".toList, text := some ['x'] }
          (.ofFilePath "/work/nat.slf".toList) "/s".toList {}).2 :=
  (locate_below { name := "Eq: ../org/Eq.slf".toList, text := some ['x'] } "/s".toList).2 ['x'] rfl
    (Or.inl (by decide)) (by decide) _ _

/-- The text of a module without a path is written where its short name leads if that is
absolute. -/
theorem source_escapes_by_shortName :
    ¬Text.Below "/s".toList
        (sourcePath (U := CompilationUnit) { name := "/tmp/escape".toList, text := some ['x'] }
          "/s".toList) ∧
      Files.entry? (locate (U := CompilationUnit)
          { name := "/tmp/escape".toList, text := some ['x'] }
          (.ofFilePath "/work/nat.slf".toList) "/s".toList
          ⟨[(["tmp".toList], .directory), ([['s']], .directory)]⟩).2
        ["tmp".toList, "escape.slf".toList] = some (.file ['x']) := by
  refine ⟨?_, by decide⟩
  rw [below_sourcePath_iff]
  rintro (h | ⟨h, -⟩ | ⟨-, -, names, -, -, h⟩)
  · exact h (by decide)
  · exact absurd h (by decide)
  · have hs : PathPart.name ['s'] ∈ Text.pathParts "/s".toList := by decide
    have hm := List.mem_append_left (names.map PathPart.name) hs
    rw [← h] at hm
    exact absurd hm (by decide)

end ImportedModule

end ProofDesk
