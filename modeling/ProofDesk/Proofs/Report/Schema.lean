import Mathlib.Data.List.Nodup
import ProofDesk.Proofs.Report.Records

namespace ProofDesk

open RecordFields (open?)

/-- The kinds of record in a report. -/
inductive RecordKind where
  | report
  | finding
  | unit
  | theoremDecl
  | module
  | grammar
  | grammarDecl
  | place
  | judgment
  | rule

/-- What a value in a report is read as. -/
inductive Shape where
  | text
  | count
  | flag
  | severity
  | record (k : RecordKind)
  | list (item : Shape)
  | optional (value : Shape)

def RecordKind.Value : RecordKind → Type
  | report => Report
  | finding => Finding
  | unit => CompilationUnit
  | theoremDecl => TheoremDecl
  | module => Module
  | grammar => Grammar
  | grammarDecl => GrammarDecl
  | place => NamedPlace
  | judgment => Judgment
  | rule => Rule

def RecordKind.decode : (k : RecordKind) → Decoder k.Value
  | report => Report.decode
  | finding => Finding.decode
  | unit => CompilationUnit.decode
  | theoremDecl => TheoremDecl.decode
  | module => ImportedModule.decode
  | grammar => Grammar.decode
  | grammarDecl => GrammarDecl.decode
  | place => NamedPlace.decode
  | judgment => Judgment.decode
  | rule => Rule.decode

def Shape.Value : Shape → Type
  | text => Text
  | count => Nat
  | flag => Bool
  | severity => Severity
  | record k => k.Value
  | list item => List item.Value
  | optional value => Option value.Value

def Shape.decode : (s : Shape) → Decoder s.Value
  | text => Decoder.text
  | count => Decoder.count
  | flag => Decoder.bool
  | severity => Severity.decode
  | record k => k.decode
  | list item => Decoder.list item.decode
  | optional value => Decoder.optional value.decode

/-- A field of a record. -/
structure Field where
  names : List String
  shape : Shape
  missing : shape.Value

namespace Field

def text (names : List String) : Field :=
  ⟨names, .text, ([] : Text)⟩

def count (names : List String) : Field :=
  ⟨names, .count, (0 : Nat)⟩

def list (names : List String) (item : Shape) : Field :=
  ⟨names, .list item, ([] : List item.Value)⟩

def optional (names : List String) (value : Shape) : Field :=
  ⟨names, .optional value, (none : Option value.Value)⟩

end Field

namespace RecordKind

def fields : RecordKind → List Field
  | report => [
    .list ["quickfixes", "Quickfixes"] (.record finding),
    ⟨["ast", "AST"], .record unit, ({} : CompilationUnit)⟩]
  | finding => [
    ⟨["severity"], .severity, Severity.error⟩,
    .optional ["error_type"] .text,
    .optional ["error_info"] .text,
    .text ["error_message"],
    .count ["begin_line"],
    .count ["begin_column"],
    .count ["end_line"],
    .count ["end_column"]]
  | unit => [
    .text ["name", "Name"],
    .list ["theorems", "Theorems"] (.record theoremDecl),
    .list ["modules", "Modules"] (.record module),
    ⟨["syntax", "Syntax"], .record grammar, ({} : Grammar)⟩,
    .list ["judgments", "Judgments"] (.record judgment),
    .optional ["Module"] (.record module)]
  | theoremDecl => [
    .text ["name", "Name"],
    .count ["column", "Column"],
    .count ["line", "Line"],
    .text ["kind", "Kind"],
    .list ["foralls", "Foralls"] .text,
    .text ["conclusion", "Conclusion"]]
  | module => [
    .text ["name", "Name"],
    .count ["begin_column", "Begin Column"],
    .count ["end_column", "End Column"],
    .count ["begin_line", "Begin Line"],
    .count ["end_line", "End Line"],
    .text ["file", "File"],
    .optional ["ast", "AST"] (.record unit),
    .optional ["text"] .text]
  | grammar => [
    .list ["syntax_declarations", "Syntax Declarations"] (.record grammarDecl),
    .list ["sugars", "Sugars"] (.record place)]
  | grammarDecl => [
    .text ["name", "Name"],
    .count ["column", "Column"],
    .count ["line", "Line"],
    .list ["clauses", "Clauses"] (.record place)]
  | place => [
    .text ["name", "Name"],
    .count ["column", "Column"],
    .count ["line", "Line"]]
  | judgment => [
    .text ["name", "Name"],
    .count ["column", "Column"],
    .count ["line", "Line"],
    .text ["form", "Form"],
    .list ["rules", "Rules"] (.record rule)]
  | rule => [
    .list ["premises", "Premises"] .text,
    .text ["name", "Name"],
    .text ["conclusion", "Conclusion"],
    ⟨["in_file", "In File"], .flag, false⟩,
    .count ["column", "Column"],
    .count ["line", "Line"],
    .text ["file", "File"]]

end RecordKind

/-- What an opened record gives for a field at a place. -/
def RecordFields.gives (r : RecordFields) (p : Nat) (f : Field) : Option f.shape.Value :=
  r.get p f.names f.shape.decode f.missing

namespace RecordKind

variable {k : RecordKind} {levels levels' : Nat} {j j' : Json} {a : k.Value}

/-- A record is opened, and any other record that gives the same for every field decodes to the
same. -/
theorem exists_open?_of_decode (h : k.decode levels j = some a) :
    ∃ r, open? k.fields.length levels j = some r ∧ ∀ levels' j' r',
      open? k.fields.length levels' j' = some r' →
      (∀ p f, k.fields[p]? = some f → ∀ b, r.gives p f = some b → r'.gives p f = some b) →
        k.decode levels' j' = some a := by
  cases k with
  | report =>
    obtain ⟨r, hr, h0, h1⟩ := Report.decode_eq_some_iff.mp h
    exact ⟨r, hr, fun _ _ r' hr' hg => Report.decode_eq_some_iff.mpr
      ⟨r', hr', hg 0 _ rfl _ h0, hg 1 _ rfl _ h1⟩⟩
  | finding =>
    obtain ⟨r, hr, h0, h1, h2, h3, h4, h5, h6, h7⟩ := Finding.decode_eq_some_iff.mp h
    exact ⟨r, hr, fun _ _ r' hr' hg => Finding.decode_eq_some_iff.mpr
      ⟨r', hr', hg 0 _ rfl _ h0, hg 1 _ rfl _ h1, hg 2 _ rfl _ h2, hg 3 _ rfl _ h3,
        hg 4 _ rfl _ h4, hg 5 _ rfl _ h5, hg 6 _ rfl _ h6, hg 7 _ rfl _ h7⟩⟩
  | unit =>
    obtain ⟨r, listed, single, hr, h0, h1, h2, h3, h4, h5, hmodules⟩ :=
      CompilationUnit.decode_eq_some_iff.mp h
    exact ⟨r, hr, fun _ _ r' hr' hg => CompilationUnit.decode_eq_some_iff.mpr
      ⟨r', listed, single, hr', hg 0 _ rfl _ h0, hg 1 _ rfl _ h1, hg 2 _ rfl _ h2, hg 3 _ rfl _ h3,
        hg 4 _ rfl _ h4, hg 5 _ rfl _ h5, hmodules⟩⟩
  | theoremDecl =>
    obtain ⟨r, hr, h0, h1, h2, h3, h4, h5⟩ := TheoremDecl.decode_eq_some_iff.mp h
    exact ⟨r, hr, fun _ _ r' hr' hg => TheoremDecl.decode_eq_some_iff.mpr
      ⟨r', hr', hg 0 _ rfl _ h0, hg 1 _ rfl _ h1, hg 2 _ rfl _ h2, hg 3 _ rfl _ h3,
        hg 4 _ rfl _ h4, hg 5 _ rfl _ h5⟩⟩
  | module =>
    obtain ⟨r, hr, h0, h1, h2, h3, h4, h5, h6, h7⟩ := ImportedModule.decode_eq_some_iff.mp h
    exact ⟨r, hr, fun _ _ r' hr' hg => ImportedModule.decode_eq_some_iff.mpr
      ⟨r', hr', hg 0 _ rfl _ h0, hg 1 _ rfl _ h1, hg 2 _ rfl _ h2, hg 3 _ rfl _ h3,
        hg 4 _ rfl _ h4, hg 5 _ rfl _ h5, hg 6 _ rfl _ h6, hg 7 _ rfl _ h7⟩⟩
  | grammar =>
    obtain ⟨r, hr, h0, h1⟩ := Grammar.decode_eq_some_iff.mp h
    exact ⟨r, hr, fun _ _ r' hr' hg => Grammar.decode_eq_some_iff.mpr
      ⟨r', hr', hg 0 _ rfl _ h0, hg 1 _ rfl _ h1⟩⟩
  | grammarDecl =>
    obtain ⟨r, hr, h0, h1, h2, h3⟩ := GrammarDecl.decode_eq_some_iff.mp h
    exact ⟨r, hr, fun _ _ r' hr' hg => GrammarDecl.decode_eq_some_iff.mpr
      ⟨r', hr', hg 0 _ rfl _ h0, hg 1 _ rfl _ h1, hg 2 _ rfl _ h2, hg 3 _ rfl _ h3⟩⟩
  | place =>
    obtain ⟨r, hr, h0, h1, h2⟩ := NamedPlace.decode_eq_some_iff.mp h
    exact ⟨r, hr, fun _ _ r' hr' hg => NamedPlace.decode_eq_some_iff.mpr
      ⟨r', hr', hg 0 _ rfl _ h0, hg 1 _ rfl _ h1, hg 2 _ rfl _ h2⟩⟩
  | judgment =>
    obtain ⟨r, hr, h0, h1, h2, h3, h4⟩ := Judgment.decode_eq_some_iff.mp h
    exact ⟨r, hr, fun _ _ r' hr' hg => Judgment.decode_eq_some_iff.mpr
      ⟨r', hr', hg 0 _ rfl _ h0, hg 1 _ rfl _ h1, hg 2 _ rfl _ h2, hg 3 _ rfl _ h3,
        hg 4 _ rfl _ h4⟩⟩
  | rule =>
    obtain ⟨r, hr, h0, h1, h2, h3, h4, h5, h6⟩ := Rule.decode_eq_some_iff.mp h
    exact ⟨r, hr, fun _ _ r' hr' hg => Rule.decode_eq_some_iff.mpr
      ⟨r', hr', hg 0 _ rfl _ h0, hg 1 _ rfl _ h1, hg 2 _ rfl _ h2, hg 3 _ rfl _ h3,
        hg 4 _ rfl _ h4, hg 5 _ rfl _ h5, hg 6 _ rfl _ h6⟩⟩

theorem nodup_names (k : RecordKind) : (k.fields.flatMap Field.names).Nodup := by
  cases k <;> decide

theorem place_eq_of_mem_names {p q : Nat} {f g : Field} {name : String}
    (hf : k.fields[p]? = some f) (hg : k.fields[q]? = some g) (hn : name ∈ f.names)
    (hn' : name ∈ g.names) : p = q := by
  have hdisjoint := List.pairwise_iff_getElem.mp (List.nodup_flatMap.mp k.nodup_names).2
  obtain ⟨hp, rfl⟩ := List.getElem?_eq_some_iff.mp hf
  obtain ⟨hq, rfl⟩ := List.getElem?_eq_some_iff.mp hg
  by_contra hne
  rcases Nat.lt_or_gt_of_ne hne with hlt | hlt
  · exact hdisjoint p q hp hq hlt hn hn'
  · exact hdisjoint q p hq hp hlt hn' hn

end RecordKind

/-- What a record holds does not hang on the levels that it is opened with. -/
theorem RecordFields.open?_succ {size levels : Nat} {j : Json} {r : RecordFields}
    (h : open? size levels j = some r) (level : Nat) :
    open? size (level + 1) j = some ⟨level, r.content⟩ := by
  cases j with
  | object members =>
    obtain ⟨level', rfl, rfl⟩ := open?_object_iff.mp h
    exact open?_object_iff.mpr ⟨level, rfl, rfl⟩
  | array items =>
    obtain ⟨level', rfl, hsize, rfl⟩ := open?_array_iff.mp h
    exact open?_array_iff.mpr ⟨level, rfl, hsize, rfl⟩
  | _ => simp [open?] at h

theorem Severity.decode_mono {levels levels' : Nat} {j : Json} {v : Severity}
    (h : decode levels j = some v) (hle : levels ≤ levels') : decode levels' j = some v := by
  unfold decode at h
  split at h
  · simpa only [decode] using h
  · obtain ⟨level, rfl⟩ : ∃ level, levels' = level + 1 := ⟨levels' - 1, by omega⟩
    exact h
  · cases h

namespace Shape

variable {s : Shape} {levels levels' : Nat} {j : Json} {a b : s.Value}

/-- What decodes with some levels decodes to the same with more of them. -/
theorem decode_mono (h : s.decode levels j = some a) (hle : levels ≤ levels') :
    s.decode levels' j = some a := by
  induction levels using Nat.strongRecOn generalizing s levels' j with
  | ind levels ih =>
    -- an optional value takes no level, so that the shape is what gets smaller there
    induction s generalizing j with
    | text => exact h
    | count => exact h
    | flag => exact h
    | severity => exact Severity.decode_mono h hle
    | record k =>
      obtain ⟨r, hr, hdecode⟩ := RecordKind.exists_open?_of_decode h
      have hlevels := RecordFields.levels_of_open? hr
      obtain ⟨level', rfl⟩ : ∃ level', levels' = level' + 1 := ⟨levels' - 1, by omega⟩
      refine hdecode _ j _ (RecordFields.open?_succ hr level') fun p f hf b hb => ?_
      rcases RecordFields.get_eq_some_iff.mp hb with ⟨hgiven, rfl⟩ | ⟨x, hgiven, hx⟩
      · exact RecordFields.get_eq_some_iff.mpr (Or.inl ⟨hgiven, rfl⟩)
      · exact RecordFields.get_eq_some_iff.mpr
          (Or.inr ⟨x, hgiven, ih r.levels (by omega) hx (show r.levels ≤ level' by omega)⟩)
    | list item =>
      obtain ⟨level, items, rfl, rfl, hitems⟩ := Decoder.list_eq_some_iff.mp h
      obtain ⟨level', rfl⟩ : ∃ level', levels' = level' + 1 := ⟨levels' - 1, by omega⟩
      refine Decoder.list_eq_some_iff.mpr ⟨level', items, rfl, rfl, hitems.imp fun x b hx => ?_⟩
      exact ih level (by omega) hx (by omega)
    | optional value ihvalue =>
      rcases Decoder.optional_eq_some_iff.mp h with ⟨rfl, rfl⟩ | ⟨hnull, b, hb, rfl⟩
      · exact Decoder.optional_eq_some_iff.mpr (Or.inl ⟨rfl, rfl⟩)
      · exact Decoder.optional_eq_some_iff.mpr (Or.inr ⟨hnull, b, ihvalue hb, rfl⟩)

theorem decode_unique (h : s.decode levels j = some a) (h' : s.decode levels' j = some b) :
    a = b := by
  have hmax := decode_mono h (Nat.le_max_left levels levels')
  have hmax' := decode_mono h' (Nat.le_max_right levels levels')
  exact Option.some.inj (hmax.symm.trans hmax')

end Shape

end ProofDesk
