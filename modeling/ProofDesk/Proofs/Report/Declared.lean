import ProofDesk.Report.Definition
import ProofDesk.Report.Outline
import ProofDesk.Proofs.Text.Cuts

namespace ProofDesk

def SymbolKind.isTheorem (k : SymbolKind) : Bool :=
  k == .theoremDecl || k == .lemmaDecl

namespace OutlineItem

def Lists (items : List OutlineItem) (s : Symbol) : Prop :=
  ∃ i ∈ items, s = i.symbol ∨ s ∈ i.children

def theorems (items : List OutlineItem) : List Symbol :=
  (items.map symbol).filter fun s => s.kind.isTheorem

def rules (items : List OutlineItem) : List Symbol :=
  (items.filter fun i => i.symbol.kind == .judgment).flatMap children

/-- The first theorem of that name, or else the first rule of that name. -/
def leading? (items : List OutlineItem) (name : Text) : Option Symbol :=
  ((theorems items).find? fun s => s.name == name).or ((rules items).find? fun s => s.name == name)

/-- A place leads to the entry of that name in an outline; without a place there is no such
entry. -/
def Locates (items : List OutlineItem) (name : Text) : Option Range → Prop
  | some range => ∃ s, leading? items name = some s ∧ Lists items s ∧ s.name = name ∧
      s.range = range
  | none => ∀ s, s ∈ theorems items ∨ s ∈ rules items → s.name ≠ name

variable {items items' : List OutlineItem} {name : Text} {s : Symbol}

theorem theorems_append : theorems (items ++ items') = theorems items ++ theorems items' := by
  rw [theorems, List.map_append, List.filter_append, theorems, theorems]

theorem rules_append : rules (items ++ items') = rules items ++ rules items' := by
  rw [rules, List.filter_append, List.flatMap_append, rules, rules]

theorem theorems_eq_nil (h : ∀ i ∈ items, i.symbol.kind.isTheorem = false) :
    theorems items = [] := by
  refine List.filter_eq_nil_iff.mpr fun s hs => ?_
  obtain ⟨i, hi, rfl⟩ := List.mem_map.mp hs
  simp [h i hi]

theorem rules_eq_nil (h : ∀ i ∈ items, i.symbol.kind ≠ .judgment) : rules items = [] := by
  rw [rules, List.filter_eq_nil_iff.mpr fun i hi => by simpa using h i hi, List.flatMap_nil]

theorem lists_of_leading? (h : leading? items name = some s) :
    Lists items s ∧ s.name = name := by
  rcases Option.or_eq_some_iff.mp h with h | ⟨-, h⟩
  · obtain ⟨i, hi, his⟩ := List.mem_map.mp (List.mem_filter.mp (List.mem_of_find?_eq_some h)).1
    exact ⟨⟨i, hi, Or.inl his.symm⟩, by simpa using List.find?_some h⟩
  · obtain ⟨i, hi, his⟩ := List.mem_flatMap.mp (List.mem_of_find?_eq_some h)
    exact ⟨⟨i, (List.mem_filter.mp hi).1, Or.inr his⟩, by simpa using List.find?_some h⟩

theorem name_ne_of_leading? (h : leading? items name = none)
    (hs : s ∈ theorems items ∨ s ∈ rules items) : s.name ≠ name := by
  obtain ⟨htheorems, hrules⟩ := Option.or_eq_none_iff.mp h
  rcases hs with hs | hs
  · simpa using List.find?_eq_none.mp htheorems s hs
  · simpa using List.find?_eq_none.mp hrules s hs

theorem locates_leading? (items : List OutlineItem) (name : Text) :
    Locates items name ((leading? items name).map Symbol.range) := by
  cases h : leading? items name with
  | none => exact fun s hs => name_ne_of_leading? h hs
  | some s =>
    obtain ⟨hlists, hname⟩ := lists_of_leading? h
    exact ⟨s, h, hlists, hname, rfl⟩

end OutlineItem

namespace Symbol

theorem firstLine_of_not_mem {name : Text} (h : '\n' ∉ name) : firstLine name = name := by
  cases name with
  | nil => rfl
  | cons c rest => simp [firstLine, Text.listing, Text.split_of_not_mem h]

theorem range_ofName {name : Text} (h : '\n' ∉ name) (kind : SymbolKind) (line column : Nat)
    (detail : Option Text) :
    (ofName kind name line column detail).range =
      CompilationUnit.nameRange line column name := by
  rw [ofName, firstLine_of_not_mem h, CompilationUnit.nameRange]

end Symbol

namespace CompilationUnit

open OutlineItem (Locates leading? locates_leading?)

variable {u : CompilationUnit}

/-- A name that ends within 32 bits has the range that its columns add up to. -/
theorem nameRange_of_lt {line column : Nat} {name : Text}
    (h : column - 1 + name.units < 4294967296) :
    nameRange line column name = ⟨⟨line - 1, column - 1⟩, ⟨line - 1, column - 1 + name.units⟩⟩ := by
  rw [nameRange, Position.advance, Position.ofOneBased, Nat.mod_eq_of_lt h]

def PlainNames (u : CompilationUnit) : Prop :=
  (∀ t ∈ u.theorems, '\n' ∉ t.name) ∧ ∀ r ∈ u.rules, '\n' ∉ r.name

theorem theorems_outline (u : CompilationUnit) :
    OutlineItem.theorems u.outline = u.theorems.map .ofTheorem := by
  have hkept : OutlineItem.theorems (u.theorems.map fun t => ⟨.ofTheorem t, []⟩) =
      u.theorems.map .ofTheorem := by
    rw [OutlineItem.theorems, List.map_map]
    refine List.filter_eq_self.mpr fun s hs => ?_
    obtain ⟨t, -, rfl⟩ := List.mem_map.mp hs
    by_cases h : t.isLemma = true <;>
      simp [Symbol.ofTheorem, Symbol.ofName, SymbolKind.isTheorem, h]
  simp only [outline, OutlineItem.theorems_append, hkept]
  rw [OutlineItem.theorems_eq_nil, OutlineItem.theorems_eq_nil, OutlineItem.theorems_eq_nil,
    OutlineItem.theorems_eq_nil]
  · simp only [List.nil_append, List.append_nil]
  all_goals
    intro i hi
    obtain ⟨x, -, rfl⟩ := List.mem_map.mp hi
    rfl

theorem rules_outline (u : CompilationUnit) :
    OutlineItem.rules u.outline = u.inFileRules.map .ofRule := by
  have hkept : OutlineItem.rules (u.judgments.map fun j =>
      ⟨.ofName .judgment j.name j.line j.column (some j.form),
        (j.rules.filter Rule.inFile).map .ofRule⟩) = u.inFileRules.map .ofRule := by
    rw [OutlineItem.rules, List.filter_eq_self.mpr, List.flatMap_map, inFileRules, rules,
      List.filter_flatMap, List.map_flatMap]
    intro i hi
    obtain ⟨j, -, rfl⟩ := List.mem_map.mp hi
    rfl
  simp only [outline, OutlineItem.rules_append, hkept]
  rw [OutlineItem.rules_eq_nil, OutlineItem.rules_eq_nil, OutlineItem.rules_eq_nil,
    OutlineItem.rules_eq_nil, List.nil_append]
  · rfl
  · intro i hi
    obtain ⟨t, -, rfl⟩ := List.mem_map.mp hi
    by_cases h : t.isLemma = true <;> simp [Symbol.ofTheorem, Symbol.ofName, h]
  all_goals
    intro i hi
    obtain ⟨x, -, rfl⟩ := List.mem_map.mp hi
    exact SymbolKind.noConfusion

theorem declaredAt?_eq_leading? (h : u.PlainNames) (name : Text) :
    u.declaredAt? name = (leading? u.outline name).map Symbol.range := by
  have htheorem : ∀ t ∈ u.theorems,
      (Symbol.ofTheorem t).range = nameRange t.line t.column t.name :=
    fun t ht => Symbol.range_ofName (h.1 t ht) _ _ _ _
  have hrule : ∀ r ∈ u.inFileRules, (Symbol.ofRule r).range = nameRange r.line r.column r.name :=
    fun r hr => Symbol.range_ofName (h.2 r (List.mem_filter.mp hr).1) _ _ _ _
  rw [leading?, theorems_outline, rules_outline, List.find?_map, List.find?_map]
  change _ = (((u.theorems.find? fun t => t.name == name).map Symbol.ofTheorem).or
    ((u.inFileRules.find? fun r => r.name == name).map Symbol.ofRule)).map Symbol.range
  cases ht : u.findTheorem? name with
  | some t =>
    have hfind : (u.theorems.find? fun t => t.name == name) = some t := ht
    rw [hfind, declaredAt?, ht, Option.map_some, Option.some_or, Option.map_some,
      htheorem t (List.mem_of_find?_eq_some ht)]
  | none =>
    have hfind : (u.theorems.find? fun t => t.name == name) = none := ht
    rw [hfind, declaredAt?, ht, Option.map_none, Option.none_or, Option.map_map]
    refine Option.map_congr fun r hr => ?_
    exact (hrule r (List.mem_of_find?_eq_some hr)).symm

theorem locates_declaredAt? (h : u.PlainNames) (name : Text) :
    Locates u.outline name (u.declaredAt? name) :=
  declaredAt?_eq_leading? h name ▸ locates_leading? u.outline name

theorem definition?_of_no_dot {word : Text} (h : '.' ∉ word) :
    u.definition? word = (u.declaredAt? word).map fun range => ⟨none, range⟩ := by
  rw [definition?, Text.cut?_eq_none_iff.mpr h]

theorem definition?_of_dot {moduleName : Text} (h : '.' ∉ moduleName) (name : Text) :
    u.definition? (moduleName ++ '.' :: name) = (u.findModule? moduleName).bind fun m =>
      m.unit.bind fun v => (v.declaredAt? name).map fun range => ⟨some m, range⟩ := by
  rw [definition?, Text.cut?_append h]
  refine Option.bind_congr fun m _ => Option.bind_congr fun v _ => ?_
  exact Option.map_eq_bind.symm

/-- What going to the declaration of a word answers, told by an outline: the module is the given one
and the place is that of the entry for the name. -/
def Follows (items : List OutlineItem) (m : Option Module) (name : Text)
    (answer : Option Declaration) : Prop :=
  Locates items name (answer.map Declaration.range) ∧ ∀ d, answer = some d → d.module = m

theorem follows_declaredAt? (h : u.PlainNames) (m : Option Module) (name : Text) :
    Follows u.outline m name ((u.declaredAt? name).map fun range => ⟨m, range⟩) := by
  constructor
  · rw [Option.map_map]
    simpa [Function.comp_def] using locates_declaredAt? h name
  · intro d hd
    obtain ⟨range, -, rfl⟩ := Option.map_eq_some_iff.mp hd
    rfl

/-- Going to a declaration follows the outline: for a word without dot that of the unit, for a word
with a dot that of the unit inside the first module with the short name before the dot. -/
theorem definition?_follows_outline (u : CompilationUnit) (hu : u.PlainNames)
    (hinside : ∀ m ∈ u.modules, ∀ v, m.unit = some v → v.PlainNames) :
    (∀ word, '.' ∉ word → Follows u.outline none word (u.definition? word)) ∧
    ∀ moduleName name, '.' ∉ moduleName →
      ((∀ m ∈ u.modules, m.shortName ≠ moduleName) →
        u.definition? (moduleName ++ '.' :: name) = none) ∧
      ∀ before m after, u.modules = before ++ m :: after → m.shortName = moduleName →
        (∀ m' ∈ before, m'.shortName ≠ moduleName) →
        (m.unit = none → u.definition? (moduleName ++ '.' :: name) = none) ∧
        ∀ v, m.unit = some v →
          Follows v.outline (some m) name (u.definition? (moduleName ++ '.' :: name)) := by
  refine ⟨fun word hword => ?_, fun moduleName name hdot => ⟨fun hnone => ?_, ?_⟩⟩
  · rw [definition?_of_no_dot hword]
    exact follows_declaredAt? hu none word
  · have hmodule : u.findModule? moduleName = none :=
      List.find?_eq_none.mpr fun m hm => by simpa using hnone m hm
    rw [definition?_of_dot hdot, hmodule, Option.bind_none]
  · intro before m after hmodules hname hbefore
    have hmodule : u.findModule? moduleName = some m := by
      refine List.find?_eq_some_iff_append.mpr ⟨by simpa using hname, before, after, hmodules, ?_⟩
      exact fun m' hm' => by simpa using hbefore m' hm'
    rw [definition?_of_dot hdot, hmodule, Option.bind_some]
    refine ⟨fun hunit => by rw [hunit, Option.bind_none], fun v hunit => ?_⟩
    rw [hunit, Option.bind_some]
    refine follows_declaredAt? (hinside m ?_ v hunit) (some m) name
    rw [hmodules]
    exact List.mem_append_right before List.mem_cons_self

/-- A unit with two rules and a theorem of one name, and inside its module a rule of that name. -/
def sharedName : CompilationUnit :=
  let rule (line : Nat) : Rule :=
    ⟨[], "sum".toList, "eq".toList, line != 8, 3, line, "a.slf".toList⟩
  { name := "A".toList
    theorems := [⟨"sum".toList, 9, 20, "theorem".toList, [], "eq".toList⟩]
    modules := [{ name := "B: b".toList, unit := some { judgments := [⟨[], 1, 1, [], [rule 5]⟩] } }]
    judgments := [⟨[], 1, 1, [], [rule 8, rule 12]⟩] }

theorem sharedName_follows_outline :
    sharedName.PlainNames ∧
    (∀ m ∈ sharedName.modules, ∀ v, m.unit = some v → v.PlainNames) ∧
    (sharedName.definition? "sum".toList).map Declaration.range = some ⟨⟨19, 8⟩, ⟨19, 11⟩⟩ ∧
    (sharedName.definition? "B.sum".toList).map Declaration.range = some ⟨⟨4, 2⟩, ⟨4, 5⟩⟩ ∧
    Follows sharedName.outline none "sum".toList (sharedName.definition? "sum".toList) := by
  have hu : sharedName.PlainNames := by
    unfold PlainNames
    decide
  have hinside : ∀ m ∈ sharedName.modules, ∀ v, m.unit = some v → v.PlainNames := by
    intro m hm v hv
    obtain rfl := List.mem_singleton.mp hm
    obtain rfl := Option.some.inj hv
    unfold PlainNames
    decide
  exact ⟨hu, hinside, by decide, by decide,
    (definition?_follows_outline sharedName hu hinside).1 _ (by decide)⟩

end CompilationUnit

end ProofDesk
