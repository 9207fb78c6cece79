import Mathlib.Data.List.Basic
import ProofDesk.Files.Basic

namespace ProofDesk

namespace Text

/-- A part of a path that leads to something of that name in the directory before it. -/
structure IsName (s : Text) : Prop where
  ne_nil : s ≠ []
  ne_dot : s ≠ ['.']
  ne_dots : s ≠ ['.', '.']
  noSlash : '/' ∉ s

/-- The path is the directory's, with one or more names after it. -/
structure Below (directory path : Text) : Prop where
  start : isAbsolutePath path = isAbsolutePath directory
  parts : ∃ names, names ≠ [] ∧ (∀ s ∈ names, IsName s) ∧
    pathParts path = pathParts directory ++ names.map .name

@[simp] theorem pathParts_nil : pathParts [] = [] := rfl

theorem pathParts_append_slash (a b : Text) :
    pathParts (a ++ '/' :: b) = pathParts a ++ pathParts b := by
  rw [pathParts, split_append, List.filterMap_append]
  rfl

theorem pathParts_of_isName {s : Text} (h : IsName s) : pathParts s = [.name s] := by
  rw [pathParts, split_of_not_mem h.noSlash]
  simp [h.ne_nil, h.ne_dot, h.ne_dots]

theorem isName_of_mem_pathParts {s part : Text} (h : .name part ∈ pathParts s) : IsName part := by
  obtain ⟨piece, hpiece, hpart⟩ := List.mem_filterMap.mp h
  split_ifs at hpart with hidle hdots
  · cases hpart
  obtain rfl := PathPart.name.inj (Option.some.inj hpart)
  rw [not_or] at hidle
  exact ⟨hidle.1, hidle.2, hdots, not_mem_of_mem_split hpiece⟩

theorem mem_pathNames {s part : Text} : part ∈ pathNames s ↔ .name part ∈ pathParts s := by
  rw [pathNames, List.mem_filterMap]
  constructor
  · rintro ⟨p, hp, h⟩
    cases p with
    | name t => rwa [← Option.some.inj h]
    | parent => cases h
  · exact fun h => ⟨_, h, rfl⟩

theorem pathParts_join {names : List Text} (h : ∀ s ∈ names, IsName s) :
    pathParts (join ['/'] names) = names.map .name := by
  induction names with
  | nil => rfl
  | cons s rest ih =>
    obtain ⟨hs, hrest⟩ := List.forall_mem_cons.mp h
    cases rest with
    | nil => exact pathParts_of_isName hs
    | cons t rest =>
      have hj : join ['/'] (s :: t :: rest) = s ++ '/' :: join ['/'] (t :: rest) := by simp [join]
      rw [hj, pathParts_append_slash, pathParts_of_isName hs, ih hrest]
      rfl

theorem pathParts_eq_map_pathNames {s : Text} (h : PathPart.parent ∉ pathParts s) :
    pathParts s = (pathNames s).map .name := by
  rw [pathNames]
  generalize pathParts s = parts at h ⊢
  induction parts with
  | nil => rfl
  | cons p rest ih =>
    rw [List.mem_cons, not_or] at h
    cases p with
    | name part => exact congrArg (PathPart.name part :: ·) (ih h.2)
    | parent => exact absurd rfl h.1

theorem pathNames_of_pathParts {s : Text} {names : List Text}
    (h : pathParts s = names.map .name) : pathNames s = names := by
  rw [pathNames, h, List.filterMap_map]
  exact List.filterMap_some

section Joining

variable {directory path : Text}

theorem joinPath_of_absolute (h : isAbsolutePath path = true) : joinPath directory path = path := by
  rw [joinPath, if_pos h]

theorem pathParts_joinPath (h : isAbsolutePath path = false) :
    pathParts (joinPath directory path) = pathParts directory ++ pathParts path := by
  rw [joinPath, if_neg (by simp [h])]
  split
  next hend =>
    rcases hend with rfl | hend
    · rfl
    · obtain ⟨front, rfl⟩ := List.getLast?_eq_some_iff.mp hend
      rw [List.append_assoc, List.singleton_append, pathParts_append_slash, pathParts_append_slash,
        pathParts_nil, List.append_nil]
  next => exact pathParts_append_slash _ _

theorem isAbsolutePath_joinPath (h : isAbsolutePath path = false) :
    isAbsolutePath (joinPath directory path) = isAbsolutePath directory := by
  rw [joinPath, if_neg (by simp [h])]
  cases directory with
  | nil => simpa [isAbsolutePath] using h
  | cons x xs => split <;> simp [isAbsolutePath]

theorem below_joinPath_iff (h : isAbsolutePath path = false) :
    Below directory (joinPath directory path) ↔
      pathParts path ≠ [] ∧ PathPart.parent ∉ pathParts path := by
  constructor
  · rintro ⟨-, names, hne, -, hparts⟩
    rw [pathParts_joinPath h] at hparts
    rw [List.append_cancel_left hparts]
    exact ⟨by simpa using hne, by simp⟩
  · rintro ⟨hne, hparent⟩
    have hnames := pathParts_eq_map_pathNames hparent
    refine ⟨isAbsolutePath_joinPath h, pathNames path, ?_, fun s hs => ?_, ?_⟩
    · intro hnil
      rw [hnil] at hnames
      exact hne hnames
    · exact isName_of_mem_pathParts (mem_pathNames.mp hs)
    · rw [pathParts_joinPath h, ← hnames]

end Joining

/-- Slashes and single dots at the end of a path do not count. -/
theorem pathParts_reverse_dropIdleEnd (s : Text) :
    pathParts (dropIdleEnd s).reverse = pathParts s.reverse := by
  fun_induction dropIdleEnd s with
  | case1 rest ih =>
    rw [ih, List.reverse_cons, pathParts_append_slash, pathParts_nil, List.append_nil]
  | case2 rest ih =>
    have hdot : ('.' :: '/' :: rest).reverse = rest.reverse ++ '/' :: ['.'] := by simp
    rw [ih, hdot, List.reverse_cons, pathParts_append_slash, pathParts_append_slash]
    rfl
  | case3 => rfl

theorem pathParts_reverse_dropWhile_prefix (s : Text) :
    pathParts (s.dropWhile (· != '/')).reverse <+: pathParts s.reverse := by
  have hs : (s.takeWhile (· != '/')) ++ s.dropWhile (· != '/') = s := List.takeWhile_append_dropWhile
  cases hd : s.dropWhile (· != '/') with
  | nil => exact List.nil_prefix
  | cons x rest =>
    have hx : x = '/' := by
      have hhead := List.head?_dropWhile_not (· != '/') s
      rw [hd] at hhead
      simpa using hhead
    subst hx
    rw [← hs, hd, List.reverse_append, List.reverse_cons, List.append_assoc, List.singleton_append,
      pathParts_append_slash, pathParts_append_slash, pathParts_nil, List.append_nil]
    exact List.prefix_append _ _

theorem pathParts_prefix_of_parentPath? {s above : Text} (h : parentPath? s = some above) :
    pathParts above <+: pathParts s := by
  have hprefix := pathParts_reverse_dropWhile_prefix (dropIdleEnd s.reverse)
  rw [← pathParts_reverse_dropIdleEnd, pathParts_reverse_dropIdleEnd s.reverse,
    List.reverse_reverse] at hprefix
  rw [parentPath?] at h
  split at h
  next => cases h
  next =>
    split at h
    next =>
      split at h
      next =>
        rw [← Option.some.inj h]
        exact List.nil_prefix
      next => cases h
    next => rwa [← Option.some.inj h]

end Text

namespace Files

theorem pathParts_prefix_of_mem_lineage {parts : Nat} {path p : Text} (h : p ∈ lineage parts path) :
    Text.pathParts p <+: Text.pathParts path := by
  induction parts generalizing path with
  | zero =>
    rw [lineage, List.mem_singleton] at h
    exact h ▸ List.prefix_refl _
  | succ parts ih =>
    rw [lineage] at h
    rcases List.mem_cons.mp h with rfl | h
    · exact List.prefix_refl _
    · split at h
      next above habove => exact (ih h).trans (Text.pathParts_prefix_of_parentPath? habove)
      next => cases h

/-- Without steps up, the names of a path are its segments but for single dots. -/
theorem place_eq_filter {path : Text} (h : PathPart.parent ∉ Text.pathParts path) :
    ['.', '.'] ∉ segments path ∧ place path = (segments path).filter (· ≠ ['.']) := by
  rw [place, Text.pathNames, segments]
  rw [Text.pathParts] at h ⊢
  generalize Text.split '/' path = pieces at h ⊢
  induction pieces with
  | nil => exact ⟨List.not_mem_nil, rfl⟩
  | cons piece rest ih =>
    by_cases hidle : piece = [] ∨ piece = ['.']
    · rw [List.filterMap_cons_none (by simp [hidle])] at h ⊢
      obtain ⟨hdots, hnames⟩ := ih h
      rcases hidle with rfl | rfl
      · exact ⟨hdots, hnames⟩
      · exact ⟨by simpa using hdots, hnames⟩
    · rw [not_or] at hidle
      by_cases hup : piece = ['.', '.']
      · exact absurd (List.mem_filterMap.mpr ⟨piece, List.mem_cons_self, by simp [hup]⟩) h
      · rw [List.filterMap_cons_some (b := .name piece) (by simp [hidle, hup])] at h ⊢
        obtain ⟨hdots, hnames⟩ := ih fun hm => h (List.mem_cons_of_mem _ hm)
        refine ⟨?_, ?_⟩
        · simpa [hidle, Ne.symm hup] using hdots
        · simpa [hidle] using hnames

end Files

end ProofDesk
