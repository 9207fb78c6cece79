import ProofDesk.Proofs.Json.ReadBack
import ProofDesk.Proofs.Report.Records
import ProofDesk.Report.Encode

namespace ProofDesk

open RecordFields (open?)

variable {α : Type} {d : Decoder α} {e : α → Json} {a missing : α} {levels : Nat} {j : Json}

/-- The value comes back from its JSON when this may be opened to its full height. -/
def Recovers (d : Decoder α) (e : α → Json) (a : α) : Prop :=
  ∀ levels, (e a).height ≤ levels → d levels (e a) = some a

theorem recovers_text (s : Text) : Recovers .text .text s :=
  fun _ _ => rfl

theorem recovers_bool (b : Bool) : Recovers .bool .bool b :=
  fun _ _ => rfl

theorem recovers_severity (v : Severity) : Recovers Severity.decode Severity.encode v := by
  intro levels _
  cases v <;> rfl

theorem recovers_count {n : Nat} (h : n < Nat.pow 2 32) : Recovers .count .nat n := by
  intro levels _
  exact Option.filter_eq_some_iff.mpr ⟨rfl, by simpa using h⟩

theorem recovers_list {as : List α} (h : ∀ a ∈ as, Recovers d e a) :
    Recovers d.list (.list e) as := by
  intro levels hl
  rw [Json.list, Json.height] at hl
  obtain ⟨level, rfl⟩ : ∃ level, levels = level + 1 := ⟨levels - 1, by omega⟩
  refine Decoder.list_eq_some_iff.mpr ⟨level, _, rfl, rfl, ?_⟩
  induction as with
  | nil => exact .nil
  | cons a as ih =>
    rw [List.map_cons, Json.heightOfItems] at hl
    have hfirst := h a (List.mem_cons_self) level (by omega)
    exact .cons hfirst (ih (fun x hx => h x (List.mem_cons_of_mem a hx)) (by omega))

theorem recovers_optional {o : Option α} (h : ∀ a, o = some a → Recovers d e a ∧ e a ≠ .null) :
    Recovers d.optional (.option e) o := by
  intro levels hl
  cases o with
  | none => exact Decoder.optional_eq_some_iff.mpr (Or.inl ⟨rfl, rfl⟩)
  | some a =>
    obtain ⟨hr, hnull⟩ := h a rfl
    exact Decoder.optional_eq_some_iff.mpr (Or.inr ⟨hnull, a, hr levels hl, rfl⟩)

section Given

theorem lt_of_count {n : Nat} (h : Decoder.count levels j = some n) : n < Nat.pow 2 32 := by
  have hn := (Option.filter_eq_some_iff.mp h).2
  simpa using hn

/-- What a field is comes from its value, or was missing. -/
theorem of_get {r : RecordFields} {place : Nat} {names : List String} {p : α → Prop}
    (h : r.get place names d missing = some a) (hmissing : p missing)
    (hgiven : ∀ x a, d r.levels x = some a → p a) : p a := by
  rcases RecordFields.get_eq_some_iff.mp h with ⟨-, rfl⟩ | ⟨x, -, hx⟩
  · exact hmissing
  · exact hgiven x a hx

theorem recovers_of_get_count {r : RecordFields} {place n : Nat} {names : List String}
    (h : r.get place names .count 0 = some n) : Recovers .count .nat n :=
  of_get h (recovers_count (by decide)) fun _ _ hx => recovers_count (lt_of_count hx)

theorem recovers_of_get_list {r : RecordFields} {place : Nat} {names : List String} {as : List α}
    (h : r.get place names d.list [] = some as)
    (hd : ∀ {levels j a}, d levels j = some a → Recovers d e a) : Recovers d.list (.list e) as := by
  refine of_get h (recovers_list (by simp)) fun x as hx => recovers_list fun a ha => ?_
  obtain ⟨level, x, -, hx⟩ := Decoder.exists_of_mem_list hx ha
  exact hd hx

end Given

section Record

variable {place level : Nat} {names : List String} {members : List (String × Json)}

theorem height_le_of_record (h : (Json.record members).height ≤ level + 1) :
    ∀ m ∈ members, m.2.height ≤ level := by
  rw [Json.record, Json.height, Nat.add_le_add_iff_right] at h
  induction members with
  | nil => simp
  | cons m members ih =>
    rw [List.map_cons, Json.heightOfMembers, Nat.max_le] at h
    exact List.forall_mem_cons.mpr ⟨h.1, ih h.2⟩

theorem recovers_record (he : e a = .record members)
    (h : ∀ level, (∀ m ∈ members, m.2.height ≤ level) →
      d (level + 1) (.record members) = some a) : Recovers d e a := by
  intro levels hl
  rw [he] at hl ⊢
  have hpos : 0 < levels := by
    rw [Json.record, Json.height] at hl
    omega
  obtain ⟨level, rfl⟩ : ∃ level, levels = level + 1 := ⟨levels - 1, by omega⟩
  exact h level (height_le_of_record hl)

theorem open?_record (size : Nat) (members : List (String × Json)) (level : Nat) :
    open? size (level + 1) (.record members) =
      some ⟨level, .inl (members.map fun m => (m.1.toList, m.2))⟩ :=
  rfl

theorem named_record : named names (members.map fun m => (m.1.toList, m.2)) =
    (members.filter fun m => names.contains m.1).map fun m => (m.1.toList, m.2) := by
  rw [named, List.filter_map]
  congr 2
  funext m
  rw [Bool.eq_iff_iff]
  simp [String.toList_inj]

theorem get_record (hl : ∀ m ∈ members, m.2.height ≤ level) (name : String)
    (hm : members.filter (fun m => names.contains m.1) = [(name, e a)]) (hr : Recovers d e a) :
    (RecordFields.mk level (.inl (members.map fun m => (m.1.toList, m.2)))).get place names d
      missing = some a := by
  have hmem : (name, e a) ∈ members := (List.mem_filter.mp (hm ▸ List.mem_singleton_self _)).1
  refine get_members_iff.mpr (Or.inr ⟨(name.toList, e a), ?_, hr level (hl _ hmem)⟩)
  rw [named_record, hm, List.map_singleton]

theorem get_record_missing (hm : members.filter (fun m => names.contains m.1) = []) :
    (RecordFields.mk level (.inl (members.map fun m => (m.1.toList, m.2)))).get place names d
      missing = some missing := by
  refine get_members_iff.mpr (Or.inl ⟨?_, rfl⟩)
  rw [named_record, hm, List.map_nil]

end Record

theorem Finding.recovers {f : Finding} (h : decode levels j = some f) :
    Recovers decode encode f := by
  obtain ⟨r, -, -, -, -, -, hbeginLine, hbeginColumn, hendLine, hendColumn⟩ :=
    decode_eq_some_iff.mp h
  exact recovers_record rfl fun level hl =>
    decode_eq_some_iff.mpr ⟨_, open?_record _ _ _,
      get_record hl "severity" (by simp) (recovers_severity _),
      get_record hl "error_type" (by simp) (recovers_optional fun s _ => ⟨recovers_text s, nofun⟩),
      get_record hl "error_info" (by simp) (recovers_optional fun s _ => ⟨recovers_text s, nofun⟩),
      get_record hl "error_message" (by simp) (recovers_text _),
      get_record hl "begin_line" (by simp) (recovers_of_get_count hbeginLine),
      get_record hl "begin_column" (by simp) (recovers_of_get_count hbeginColumn),
      get_record hl "end_line" (by simp) (recovers_of_get_count hendLine),
      get_record hl "end_column" (by simp) (recovers_of_get_count hendColumn)⟩

theorem TheoremDecl.recovers {t : TheoremDecl} (h : decode levels j = some t) :
    Recovers decode encode t := by
  obtain ⟨r, -, -, hcolumn, hline, -, -, -⟩ :=
    decode_eq_some_iff.mp h
  exact recovers_record rfl fun level hl =>
    decode_eq_some_iff.mpr ⟨_, open?_record _ _ _,
      get_record hl "name" (by simp) (recovers_text _),
      get_record hl "column" (by simp) (recovers_of_get_count hcolumn),
      get_record hl "line" (by simp) (recovers_of_get_count hline),
      get_record hl "kind" (by simp) (recovers_text _),
      get_record hl "foralls" (by simp) (recovers_list fun s _ => recovers_text s),
      get_record hl "conclusion" (by simp) (recovers_text _)⟩

theorem NamedPlace.recovers {p : NamedPlace} (h : decode levels j = some p) :
    Recovers decode encode p := by
  obtain ⟨r, -, -, hcolumn, hline⟩ :=
    decode_eq_some_iff.mp h
  exact recovers_record rfl fun level hl =>
    decode_eq_some_iff.mpr ⟨_, open?_record _ _ _,
      get_record hl "name" (by simp) (recovers_text _),
      get_record hl "column" (by simp) (recovers_of_get_count hcolumn),
      get_record hl "line" (by simp) (recovers_of_get_count hline)⟩

theorem GrammarDecl.recovers {g : GrammarDecl} (h : decode levels j = some g) :
    Recovers decode encode g := by
  obtain ⟨r, -, -, hcolumn, hline, hclauses⟩ :=
    decode_eq_some_iff.mp h
  exact recovers_record rfl fun level hl =>
    decode_eq_some_iff.mpr ⟨_, open?_record _ _ _,
      get_record hl "name" (by simp) (recovers_text _),
      get_record hl "column" (by simp) (recovers_of_get_count hcolumn),
      get_record hl "line" (by simp) (recovers_of_get_count hline),
      get_record hl "clauses" (by simp) (recovers_of_get_list hclauses NamedPlace.recovers)⟩

theorem Grammar.recovers {g : Grammar} (h : decode levels j = some g) :
    Recovers decode encode g := by
  obtain ⟨r, -, hdeclarations, hsugars⟩ :=
    decode_eq_some_iff.mp h
  exact recovers_record rfl fun level hl =>
    decode_eq_some_iff.mpr ⟨_, open?_record _ _ _,
      get_record hl "syntax_declarations" (by simp)
        (recovers_of_get_list hdeclarations GrammarDecl.recovers),
      get_record hl "sugars" (by simp) (recovers_of_get_list hsugars NamedPlace.recovers)⟩

theorem Rule.recovers {q : Rule} (h : decode levels j = some q) :
    Recovers decode encode q := by
  obtain ⟨r, -, -, -, -, -, hcolumn, hline, -⟩ :=
    decode_eq_some_iff.mp h
  exact recovers_record rfl fun level hl =>
    decode_eq_some_iff.mpr ⟨_, open?_record _ _ _,
      get_record hl "premises" (by simp) (recovers_list fun s _ => recovers_text s),
      get_record hl "name" (by simp) (recovers_text _),
      get_record hl "conclusion" (by simp) (recovers_text _),
      get_record hl "in_file" (by simp) (recovers_bool _),
      get_record hl "column" (by simp) (recovers_of_get_count hcolumn),
      get_record hl "line" (by simp) (recovers_of_get_count hline),
      get_record hl "file" (by simp) (recovers_text _)⟩

theorem Judgment.recovers {g : Judgment} (h : decode levels j = some g) :
    Recovers decode encode g := by
  obtain ⟨r, -, -, hcolumn, hline, -, hrules⟩ :=
    decode_eq_some_iff.mp h
  exact recovers_record rfl fun level hl =>
    decode_eq_some_iff.mpr ⟨_, open?_record _ _ _,
      get_record hl "name" (by simp) (recovers_text _),
      get_record hl "column" (by simp) (recovers_of_get_count hcolumn),
      get_record hl "line" (by simp) (recovers_of_get_count hline),
      get_record hl "form" (by simp) (recovers_text _),
      get_record hl "rules" (by simp) (recovers_of_get_list hrules Rule.recovers)⟩

namespace CompilationUnit

theorem encode_eq (u : CompilationUnit) : u.encode = .record [
    ("name", .text u.name),
    ("theorems", .list TheoremDecl.encode u.theorems),
    ("modules", .list encodeModule u.modules),
    ("syntax", u.grammar.encode),
    ("judgments", .list Judgment.encode u.judgments)] := by
  obtain ⟨name, theorems, modules, grammar, judgments⟩ := u
  have hmodules : encodeModules modules = modules.map encodeModule := by
    induction modules with
    | nil => rfl
    | cons m modules ih => rw [encodeModules, ih, List.map_cons]
  rw [encode, hmodules]
  rfl

theorem encodeModule_eq (m : Module) :
    encodeModule m = .record ([
      ("name", .text m.name),
      ("begin_column", .nat m.beginColumn),
      ("end_column", .nat m.endColumn),
      ("begin_line", .nat m.beginLine),
      ("end_line", .nat m.endLine),
      ("file", .text m.file),
      ("ast", .option encode m.unit)] ++ m.text.toList.map fun text => ("text", .text text)) := by
  obtain ⟨name, beginColumn, endColumn, beginLine, endLine, file, unit, text⟩ := m
  cases unit <;> rfl

end CompilationUnit

theorem CompilationUnit.encode_ne_null (u : CompilationUnit) : u.encode ≠ .null := by
  rw [encode_eq]
  nofun

/-- A module comes back if the units that can be inside it do. -/
theorem ImportedModule.recovers {m : Module} (h : decode levels j = some m)
    (hunit : ∀ level < levels, ∀ x u, CompilationUnit.decode level x = some u →
      Recovers CompilationUnit.decode CompilationUnit.encode u) :
    Recovers decode CompilationUnit.encodeModule m := by
  obtain ⟨r, hopen, -, hbeginColumn, hendColumn, hbeginLine, hendLine, -, hast, -⟩ :=
    decode_eq_some_iff.mp h
  have hlevels := RecordFields.levels_of_open? hopen
  have hast' : Recovers (.optional CompilationUnit.decode) (.option CompilationUnit.encode)
      m.unit := by
    refine of_get hast (recovers_optional nofun) fun x o hx => recovers_optional fun u hu => ?_
    rcases Decoder.optional_eq_some_iff.mp hx with ⟨-, rfl⟩ | ⟨-, v, hv, rfl⟩
    · cases hu
    · obtain rfl := Option.some.inj hu
      exact ⟨hunit r.levels (by omega) x v hv, v.encode_ne_null⟩
  refine recovers_record (CompilationUnit.encodeModule_eq m) fun level hl =>
    decode_eq_some_iff.mpr ⟨_, open?_record _ _ _,
      get_record hl "name" (by simp) (recovers_text _),
      get_record hl "begin_column" (by simp) (recovers_of_get_count hbeginColumn),
      get_record hl "end_column" (by simp) (recovers_of_get_count hendColumn),
      get_record hl "begin_line" (by simp) (recovers_of_get_count hbeginLine),
      get_record hl "end_line" (by simp) (recovers_of_get_count hendLine),
      get_record hl "file" (by simp) (recovers_text _),
      get_record hl "ast" (by simp) hast', ?_⟩
  cases htext : m.text with
  | none => exact get_record_missing (by simp)
  | some s =>
    rw [htext] at hl
    exact get_record (e := .option .text) hl "text"
      (by simp [Json.option])
      (recovers_optional fun s _ => ⟨recovers_text s, nofun⟩)

theorem CompilationUnit.mem_allModules {single : Option Module} {listed : List Module} {m : Module}
    (h : m ∈ allModules single listed) : single = some m ∨ m ∈ listed := by
  unfold allModules at h
  split at h
  · split at h
    · exact Or.inr h
    · rcases List.mem_cons.mp h with rfl | h
      · exact Or.inl rfl
      · exact Or.inr h
  · exact Or.inr h

theorem CompilationUnit.recovers {u : CompilationUnit} (h : decode levels j = some u) :
    Recovers decode encode u := by
  induction levels using Nat.strong_induction_on generalizing j u with
  | _ levels ih =>
    obtain ⟨r, listed, single, hopen, -, htheorems, hlisted, hgrammar, hjudgments, hsingle,
      hmodules⟩ := decode_eq_some_iff.mp h
    have hlevels := RecordFields.levels_of_open? hopen
    have hmodule : ∀ level ≤ r.levels, ∀ x m, ImportedModule.decode level x = some m →
        Recovers ImportedModule.decode encodeModule m := fun level hl x m hm =>
      ImportedModule.recovers hm fun l hlt x v hv => ih l (by omega) hv
    have hmem : ∀ m ∈ u.modules, Recovers ImportedModule.decode encodeModule m := by
      intro m hm
      rw [hmodules] at hm
      rcases mem_allModules hm with rfl | hm
      · rcases RecordFields.get_eq_some_iff.mp hsingle with ⟨-, hnone⟩ | ⟨x, -, hx⟩
        · cases hnone
        · rcases Decoder.optional_eq_some_iff.mp hx with ⟨-, hnone⟩ | ⟨-, m', hm', heq⟩
          · cases hnone
          · obtain rfl := Option.some.inj heq
            exact hmodule r.levels le_rfl x m hm'
      · rcases RecordFields.get_eq_some_iff.mp hlisted with ⟨-, rfl⟩ | ⟨x, -, hx⟩
        · cases hm
        · obtain ⟨level, y, hl, hy⟩ := Decoder.exists_of_mem_list hx hm
          exact hmodule level (by omega) y m hy
    have hempty : Grammar.decode 1 (.object []) = some {} := by rfl
    exact recovers_record u.encode_eq fun level hl =>
      decode_eq_some_iff.mpr ⟨_, u.modules, none, open?_record _ _ _,
        get_record hl "name" (by simp) (recovers_text _),
        get_record hl "theorems" (by simp) (recovers_of_get_list htheorems TheoremDecl.recovers),
        get_record hl "modules" (by simp) (recovers_list hmem),
        get_record hl "syntax" (by simp) (of_get hgrammar (Grammar.recovers hempty)
          fun _ _ => Grammar.recovers),
        get_record hl "judgments" (by simp) (recovers_of_get_list hjudgments Judgment.recovers),
        get_record_missing (by simp), rfl⟩

theorem Report.recovers_unit {x : Report} (h : decode levels j = some x) :
    Recovers CompilationUnit.decode CompilationUnit.encode x.unit := by
  obtain ⟨r, -, -, hunit⟩ := decode_eq_some_iff.mp h
  have hempty : CompilationUnit.decode 1 (.object []) = some {} := by rfl
  exact of_get hunit (CompilationUnit.recovers hempty) fun _ _ => CompilationUnit.recovers

theorem Report.recovers {x : Report} (h : decode levels j = some x) : Recovers decode encode x := by
  obtain ⟨r, -, hfindings, -⟩ := decode_eq_some_iff.mp h
  exact recovers_record rfl fun level hl =>
    decode_eq_some_iff.mpr ⟨_, open?_record _ _ _,
      get_record hl "quickfixes" (by simp) (recovers_of_get_list hfindings Finding.recovers),
      get_record hl "ast" (by simp) (recovers_unit h)⟩

theorem Text.trim_of_ends {c c' : Char} (s : Text) (hc : isBlank c = false)
    (hc' : isBlank c' = false) : Text.trim (c :: (s ++ [c'])) = c :: (s ++ [c']) := by
  rw [trim, List.dropWhile_cons_of_neg (by simp [hc]), trimEnd]
  simp [hc']

theorem Json.trim_compact_object (members : List (Text × Json)) :
    (compact (object members)).trim = compact (object members) :=
  Text.trim_of_ends _ (by decide) (by decide)

namespace Report

theorem ofText_eq_ok_iff {s : Text} {x : Report} : ofText s = .ok x ↔
    s.trim ≠ [] ∧ ∃ j, Json.read? s.trim = some j ∧ decode Json.maxLevels j = some x := by
  rw [ofText, ← Option.bind_eq_some_iff]
  by_cases hs : s.trim = []
  · simp [hs]
  · cases (Json.read? s.trim).bind (decode Json.maxLevels) <;> simp [hs]

/-- The report that a JSON object is, read from its text. -/
theorem ofText_compact {members : List (Text × Json)} {x : Report}
    (h : decode Json.maxLevels (.object members) = some x) :
    ofText (Json.compact (.object members)) = .ok x := by
  rw [ofText_eq_ok_iff, Json.trim_compact_object]
  exact ⟨by rw [Json.compact_object]; simp, _, Json.read?_compact _, h⟩

/-- A report that was read is what its own text reads as. -/
theorem ofText_encode {s : Text} {x : Report} (h : ofText s = .ok x)
    (hl : x.encode.height ≤ Json.maxLevels) : ofText x.encode.compact = .ok x := by
  obtain ⟨-, j, -, hj⟩ := ofText_eq_ok_iff.mp h
  exact ofText_compact (recovers hj Json.maxLevels hl)

end Report

end ProofDesk
