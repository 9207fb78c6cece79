import ProofDesk.Proofs.Json.Decoders
import ProofDesk.Report.Decode

namespace ProofDesk

open RecordFields (open?)

theorem Finding.decode_eq_some_iff {levels : Nat} {j : Json} {f : Finding} :
    Finding.decode levels j = some f ↔ ∃ r, open? 8 levels j = some r ∧
      r.get 0 ["severity"] Severity.decode .error = some f.severity ∧
      r.get 1 ["error_type"] (.optional .text) none = some f.tag ∧
      r.get 2 ["error_info"] (.optional .text) none = some f.payload ∧
      r.get 3 ["error_message"] .text [] = some f.message ∧
      r.get 4 ["begin_line"] .count 0 = some f.beginLine ∧
      r.get 5 ["begin_column"] .count 0 = some f.beginColumn ∧
      r.get 6 ["end_line"] .count 0 = some f.endLine ∧
      r.get 7 ["end_column"] .count 0 = some f.endColumn := by
  cases f
  simp only [Finding.decode, Option.bind_eq_bind, Option.bind_eq_some_iff, Option.pure_def,
    Option.some.injEq, Finding.mk.injEq]
  grind

theorem TheoremDecl.decode_eq_some_iff {levels : Nat} {j : Json} {t : TheoremDecl} :
    TheoremDecl.decode levels j = some t ↔ ∃ r, open? 6 levels j = some r ∧
      r.get 0 ["name", "Name"] .text [] = some t.name ∧
      r.get 1 ["column", "Column"] .count 0 = some t.column ∧
      r.get 2 ["line", "Line"] .count 0 = some t.line ∧
      r.get 3 ["kind", "Kind"] .text [] = some t.kind ∧
      r.get 4 ["foralls", "Foralls"] (.list .text) [] = some t.foralls ∧
      r.get 5 ["conclusion", "Conclusion"] .text [] = some t.conclusion := by
  cases t
  simp only [TheoremDecl.decode, Option.bind_eq_bind, Option.bind_eq_some_iff, Option.pure_def,
    Option.some.injEq, TheoremDecl.mk.injEq]
  grind

theorem NamedPlace.decode_eq_some_iff {levels : Nat} {j : Json} {p : NamedPlace} :
    NamedPlace.decode levels j = some p ↔ ∃ r, open? 3 levels j = some r ∧
      r.get 0 ["name", "Name"] .text [] = some p.name ∧
      r.get 1 ["column", "Column"] .count 0 = some p.column ∧
      r.get 2 ["line", "Line"] .count 0 = some p.line := by
  cases p
  simp only [NamedPlace.decode, Option.bind_eq_bind, Option.bind_eq_some_iff, Option.pure_def,
    Option.some.injEq, NamedPlace.mk.injEq]
  grind

theorem GrammarDecl.decode_eq_some_iff {levels : Nat} {j : Json} {d : GrammarDecl} :
    GrammarDecl.decode levels j = some d ↔ ∃ r, open? 4 levels j = some r ∧
      r.get 0 ["name", "Name"] .text [] = some d.name ∧
      r.get 1 ["column", "Column"] .count 0 = some d.column ∧
      r.get 2 ["line", "Line"] .count 0 = some d.line ∧
      r.get 3 ["clauses", "Clauses"] (.list NamedPlace.decode) [] = some d.clauses := by
  cases d
  simp only [GrammarDecl.decode, Option.bind_eq_bind, Option.bind_eq_some_iff, Option.pure_def,
    Option.some.injEq, GrammarDecl.mk.injEq]
  grind

theorem Grammar.decode_eq_some_iff {levels : Nat} {j : Json} {g : Grammar} :
    Grammar.decode levels j = some g ↔ ∃ r, open? 2 levels j = some r ∧
      r.get 0 ["syntax_declarations", "Syntax Declarations"] (.list GrammarDecl.decode) [] =
        some g.declarations ∧
      r.get 1 ["sugars", "Sugars"] (.list NamedPlace.decode) [] = some g.sugars := by
  cases g
  simp only [Grammar.decode, Option.bind_eq_bind, Option.bind_eq_some_iff, Option.pure_def,
    Option.some.injEq, Grammar.mk.injEq]
  grind

theorem Rule.decode_eq_some_iff {levels : Nat} {j : Json} {q : Rule} :
    Rule.decode levels j = some q ↔ ∃ r, open? 7 levels j = some r ∧
      r.get 0 ["premises", "Premises"] (.list .text) [] = some q.premises ∧
      r.get 1 ["name", "Name"] .text [] = some q.name ∧
      r.get 2 ["conclusion", "Conclusion"] .text [] = some q.conclusion ∧
      r.get 3 ["in_file", "In File"] .bool false = some q.inFile ∧
      r.get 4 ["column", "Column"] .count 0 = some q.column ∧
      r.get 5 ["line", "Line"] .count 0 = some q.line ∧
      r.get 6 ["file", "File"] .text [] = some q.file := by
  cases q
  simp only [Rule.decode, Option.bind_eq_bind, Option.bind_eq_some_iff, Option.pure_def,
    Option.some.injEq, Rule.mk.injEq]
  grind

theorem Judgment.decode_eq_some_iff {levels : Nat} {j : Json} {g : Judgment} :
    Judgment.decode levels j = some g ↔ ∃ r, open? 5 levels j = some r ∧
      r.get 0 ["name", "Name"] .text [] = some g.name ∧
      r.get 1 ["column", "Column"] .count 0 = some g.column ∧
      r.get 2 ["line", "Line"] .count 0 = some g.line ∧
      r.get 3 ["form", "Form"] .text [] = some g.form ∧
      r.get 4 ["rules", "Rules"] (.list Rule.decode) [] = some g.rules := by
  cases g
  simp only [Judgment.decode, Option.bind_eq_bind, Option.bind_eq_some_iff, Option.pure_def,
    Option.some.injEq, Judgment.mk.injEq]
  grind

theorem ImportedModule.decode_eq_some_iff {levels : Nat} {j : Json} {m : Module} :
    ImportedModule.decode levels j = some m ↔ ∃ r, open? 8 levels j = some r ∧
      r.get 0 ["name", "Name"] .text [] = some m.name ∧
      r.get 1 ["begin_column", "Begin Column"] .count 0 = some m.beginColumn ∧
      r.get 2 ["end_column", "End Column"] .count 0 = some m.endColumn ∧
      r.get 3 ["begin_line", "Begin Line"] .count 0 = some m.beginLine ∧
      r.get 4 ["end_line", "End Line"] .count 0 = some m.endLine ∧
      r.get 5 ["file", "File"] .text [] = some m.file ∧
      r.get 6 ["ast", "AST"] (.optional CompilationUnit.decode) none = some m.unit ∧
      r.get 7 ["text"] (.optional .text) none = some m.text := by
  cases m
  simp only [ImportedModule.decode, ImportedModule.decodeWith, Option.bind_eq_bind,
    Option.bind_eq_some_iff, Option.pure_def, Option.some.injEq, ImportedModule.mk.injEq]
  grind

theorem ImportedModule.agreeTo_decodeWith {U : Type} {bound : Nat} {d e : Decoder U}
    (h : d.AgreeTo bound e) : (decodeWith d).AgreeTo bound (decodeWith e) := by
  intro levels hl
  funext j
  cases hr : open? 8 levels j with
  | none => simp [decodeWith, hr]
  | some r =>
    have hlevels := RecordFields.levels_of_open? hr
    have hunit := h.optional.get (show r.levels ≤ bound by omega)
    simp only [decodeWith, hr, Option.bind_eq_bind, Option.bind_some, hunit]

namespace CompilationUnit

theorem decodeNested_succ_congr {n m levels : Nat} {j : Json}
    (h : ∀ r, open? 6 levels j = some r →
      (decodeNested n).AgreeTo r.levels (decodeNested m)) :
    decodeNested (n + 1) levels j = decodeNested (m + 1) levels j := by
  cases hr : open? 6 levels j with
  | none => simp [decodeNested, hr]
  | some r =>
    have hmodule := ImportedModule.agreeTo_decodeWith (h r hr)
    have hlisted := hmodule.list.get (Nat.le_refl r.levels)
    have hsingle := hmodule.optional.get (Nat.le_refl r.levels)
    simp only [decodeNested, hr, Option.bind_eq_bind, Option.bind_some, hlisted, hsingle]

theorem decodeNested_zero (n : Nat) (j : Json) : decodeNested n 0 j = none := by
  cases n <;> simp [decodeNested, open?]

/-- Any bound on the nesting does that is not below the levels that may be opened. -/
theorem agreeTo_decodeNested {n m bound : Nat} (hn : bound ≤ n) (hm : bound ≤ m) :
    (decodeNested n).AgreeTo bound (decodeNested m) := by
  induction bound generalizing n m with
  | zero =>
    intro levels hl
    obtain rfl : levels = 0 := by omega
    funext j
    rw [decodeNested_zero, decodeNested_zero]
  | succ bound ih =>
    intro levels hl
    funext j
    obtain ⟨n, rfl⟩ : ∃ k, n = k + 1 := ⟨n - 1, by omega⟩
    obtain ⟨m, rfl⟩ : ∃ k, m = k + 1 := ⟨m - 1, by omega⟩
    refine decodeNested_succ_congr fun r hr l hlr => ?_
    have hlevels := RecordFields.levels_of_open? hr
    exact ih (by omega) (by omega) l (by omega)

theorem agreeTo_decode {n bound : Nat} (h : bound ≤ n) : (decodeNested n).AgreeTo bound decode := by
  intro levels hl
  exact agreeTo_decodeNested (Nat.le_trans hl h) (Nat.le_refl levels) levels (Nat.le_refl levels)

/-- The modules of a unit decode as modules do on their own. -/
theorem decode_eq_some_iff {levels : Nat} {j : Json} {u : CompilationUnit} :
    decode levels j = some u ↔ ∃ r listed single, open? 6 levels j = some r ∧
      r.get 0 ["name", "Name"] .text [] = some u.name ∧
      r.get 1 ["theorems", "Theorems"] (.list TheoremDecl.decode) [] = some u.theorems ∧
      r.get 2 ["modules", "Modules"] (.list ImportedModule.decode) [] = some listed ∧
      r.get 3 ["syntax", "Syntax"] Grammar.decode {} = some u.grammar ∧
      r.get 4 ["judgments", "Judgments"] (.list Judgment.decode) [] = some u.judgments ∧
      r.get 5 ["Module"] (.optional ImportedModule.decode) none = some single ∧
      u.modules = allModules single listed := by
  have hsucc := agreeTo_decodeNested (Nat.le_refl levels) (Nat.le_succ levels) levels
    (Nat.le_refl levels)
  rw [decode, hsucc]
  cases hr : open? 6 levels j with
  | none => simp [decodeNested, hr]
  | some r =>
    have hlevels := RecordFields.levels_of_open? hr
    have hunit := agreeTo_decode (show r.levels ≤ levels by omega)
    have hmodule := ImportedModule.agreeTo_decodeWith hunit
    have hlisted := hmodule.list.get (Nat.le_refl r.levels)
    have hsingle := hmodule.optional.get (Nat.le_refl r.levels)
    obtain ⟨name, theorems, modules, grammar, judgments⟩ := u
    simp only [decodeNested, hr, hlisted, hsingle, Option.bind_eq_bind, Option.bind_some,
      Option.bind_eq_some_iff, Option.pure_def, Option.some.injEq, CompilationUnit.mk.injEq]
    have hdecode : ImportedModule.decode = ImportedModule.decodeWith decode := rfl
    grind

end CompilationUnit

theorem Report.decode_eq_some_iff {levels : Nat} {j : Json} {x : Report} :
    Report.decode levels j = some x ↔ ∃ r, open? 2 levels j = some r ∧
      r.get 0 ["quickfixes", "Quickfixes"] (.list Finding.decode) [] = some x.findings ∧
      r.get 1 ["ast", "AST"] CompilationUnit.decode {} = some x.unit := by
  cases x
  simp only [Report.decode, Option.bind_eq_bind, Option.bind_eq_some_iff, Option.pure_def,
    Option.some.injEq, Report.mk.injEq]
  grind

end ProofDesk
