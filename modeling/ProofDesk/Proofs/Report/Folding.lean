import ProofDesk.Proofs.Report.Respelling

namespace ProofDesk

open RecordFields (open?)

def RecordKind.given? (k : RecordKind) (name : String) (j : Json) : Option Json := do
  let p ← k.fields.findIdx? fun f => f.names.contains name
  let f ← k.fields[p]?
  let r ← open? k.fields.length 1 j
  (r.given? p f.names).join

def singleModule? (j : Json) : Option Json :=
  match RecordKind.unit.given? "Module" j with
  | some .null => none
  | given => given

def listedModules (j : Json) : List Json :=
  match RecordKind.unit.given? "modules" j with
  | some (.array items) => items
  | _ => []

/-- The modules of the unit are the single one of its JSON, if it has a name, and then the listed
ones in their order; and so it is for every unit inside them. -/
inductive Folded : Json → CompilationUnit → Prop
  | intro {j : Json} {u : CompilationUnit} (single : Option (Json × Module))
      (listed : List (Json × Module)) :
      single.map Prod.fst = singleModule? j → listed.map Prod.fst = listedModules j →
      (∀ p ∈ single.toList ++ listed, ∃ levels, ImportedModule.decode levels p.1 = some p.2) →
      u.modules = ((single.filter fun p => !p.2.name.isEmpty).toList ++ listed).map Prod.snd →
      (∀ p ∈ single.toList ++ listed, p.2.unit ≠ none →
        RecordKind.module.given? "ast" p.1 ≠ none) →
      (∀ p ∈ single.toList ++ listed, ∀ v, p.2.unit = some v → ∀ x,
        RecordKind.module.given? "ast" p.1 = some x → Folded x v) →
      Folded j u

variable {k : RecordKind} {levels : Nat} {j : Json} {r : RecordFields}

theorem RecordKind.given?_of_open? {name : String} {p : Nat} {f : Field}
    (hr : open? k.fields.length levels j = some r)
    (hp : (k.fields.findIdx? fun f => f.names.contains name) = some p)
    (hf : k.fields[p]? = some f) : k.given? name j = (r.given? p f.names).join := by
  have hopen : open? k.fields.length 1 j = some ⟨0, r.content⟩ := RecordFields.open?_succ hr 0
  simp only [given?, hp, hf, hopen, Option.bind_eq_bind, Option.bind_some]
  rfl

theorem RecordKind.of_gives (name : String) {p : Nat} {f : Field} {b : f.shape.Value}
    (hr : open? k.fields.length levels j = some r)
    (hp : (k.fields.findIdx? fun f => f.names.contains name) = some p)
    (hf : k.fields[p]? = some f) (h : r.gives p f = some b) :
    (k.given? name j = none ∧ b = f.missing) ∨
      ∃ x, k.given? name j = some x ∧ f.shape.decode r.levels x = some b := by
  rw [given?_of_open? hr hp hf]
  rcases RecordFields.get_eq_some_iff.mp h with ⟨hgiven, rfl⟩ | ⟨x, hgiven, hx⟩
  · exact Or.inl ⟨by rw [hgiven]; rfl, rfl⟩
  · exact Or.inr ⟨x, by rw [hgiven]; rfl, hx⟩

section Pairs

theorem exists_single_pair (hr : open? 6 levels j = some r) {single : Option Module}
    (h : r.get 5 ["Module"] (.optional ImportedModule.decode) none = some single) :
    ∃ pair : Option (Json × Module), pair.map Prod.fst = singleModule? j ∧
      pair.map Prod.snd = single ∧
      ∀ p ∈ pair, ImportedModule.decode r.levels p.1 = some p.2 := by
  rcases RecordKind.of_gives (k := .unit) "Module"
    (f := .optional ["Module"] (.record .module)) hr rfl rfl h with ⟨hgiven, rfl⟩ | ⟨x, hgiven, hx⟩
  · exact ⟨none, by rw [singleModule?, hgiven]; rfl, rfl, nofun⟩
  · rcases Decoder.optional_eq_some_iff.mp hx with ⟨rfl, rfl⟩ | ⟨hnull, m, hm, rfl⟩
    · exact ⟨none, by rw [singleModule?, hgiven]; rfl, rfl, nofun⟩
    · refine ⟨some (x, m), ?_, rfl, ?_⟩
      · rw [singleModule?, hgiven]
        cases x <;> first | rfl | exact absurd rfl hnull
      · rintro p hp
        obtain rfl := Option.some.inj hp
        exact hm

theorem exists_listed_pairs (hr : open? 6 levels j = some r) {listed : List Module}
    (h : r.get 2 ["modules", "Modules"] (.list ImportedModule.decode) [] = some listed) :
    ∃ pairs : List (Json × Module), pairs.map Prod.fst = listedModules j ∧
      pairs.map Prod.snd = listed ∧
      ∀ p ∈ pairs, ∃ level < r.levels, ImportedModule.decode level p.1 = some p.2 := by
  rcases RecordKind.of_gives (k := .unit) "modules"
    (f := .list ["modules", "Modules"] (.record .module)) hr rfl rfl h
    with ⟨hgiven, rfl⟩ | ⟨x, hgiven, hx⟩
  · exact ⟨[], by rw [listedModules, hgiven]; rfl, rfl, nofun⟩
  · obtain ⟨level, items, hlevel, rfl, hitems⟩ := Decoder.list_eq_some_iff.mp hx
    have hitems : List.Forall₂ (fun x m => ImportedModule.decode level x = some m) items listed :=
      hitems
    refine ⟨items.zip listed, ?_, ?_, fun p hp => ⟨level, by omega, List.forall₂_zip hitems hp⟩⟩
    · rw [listedModules, hgiven, List.map_fst_zip hitems.length_eq.le]
    · exact List.map_snd_zip hitems.length_eq.ge

theorem of_unit_of_module {x : Json} {m : Module} (h : ImportedModule.decode levels x = some m)
    {v : CompilationUnit} (hv : m.unit = some v) :
    ∃ y, RecordKind.module.given? "ast" x = some y ∧
      ∃ level < levels, CompilationUnit.decode level y = some v := by
  obtain ⟨r, hr, -, -, -, -, -, -, hast, -⟩ := ImportedModule.decode_eq_some_iff.mp h
  have hlevels := RecordFields.levels_of_open? hr
  rcases RecordKind.of_gives (k := .module) "ast"
    (f := .optional ["ast", "AST"] (.record .unit)) hr rfl rfl hast
    with ⟨-, hnone⟩ | ⟨y, hgiven, hy⟩
  · cases hv.symm.trans hnone
  · rcases Decoder.optional_eq_some_iff.mp hy with ⟨-, hnone⟩ | ⟨-, w, hw, hunit⟩
    · cases hv.symm.trans hnone
    · obtain rfl := Option.some.inj (hv.symm.trans hunit)
      exact ⟨y, hgiven, r.levels, by omega, hw⟩

end Pairs

/-- Every unit that was read has its modules in this order, as have the units inside them. -/
theorem folded_of_decode {u : CompilationUnit} (h : CompilationUnit.decode levels j = some u) :
    Folded j u := by
  induction levels using Nat.strongRecOn generalizing j u with
  | ind levels ih =>
    obtain ⟨r, listed, single, hr, -, -, hlisted, -, -, hsingle, hmodules⟩ :=
      CompilationUnit.decode_eq_some_iff.mp h
    have hlevels := RecordFields.levels_of_open? hr
    obtain ⟨pair, hpair, rfl, hone⟩ := exists_single_pair hr hsingle
    obtain ⟨pairs, hpairs, rfl, hall⟩ := exists_listed_pairs hr hlisted
    have hdecode : ∀ p ∈ pair.toList ++ pairs, ∃ level ≤ r.levels,
        ImportedModule.decode level p.1 = some p.2 := by
      intro p hp
      rcases List.mem_append.mp hp with hp | hp
      · exact ⟨r.levels, le_rfl, hone p (Option.mem_toList.mp hp)⟩
      · obtain ⟨level, hl, hm⟩ := hall p hp
        exact ⟨level, hl.le, hm⟩
    refine .intro pair pairs hpair hpairs (fun p hp => ?_) ?_ (fun p hp hunit => ?_)
      fun p hp v hv x hx => ?_
    · obtain ⟨level, -, hm⟩ := hdecode p hp
      exact ⟨level, hm⟩
    · rw [hmodules]
      rcases pair with _ | ⟨x, m⟩
      · rfl
      · cases hname : m.name <;> simp [CompilationUnit.allModules, Option.filter, hname]
    · obtain ⟨level, -, hm⟩ := hdecode p hp
      obtain ⟨v, hv⟩ := Option.ne_none_iff_exists'.mp hunit
      obtain ⟨y, hy, -⟩ := of_unit_of_module hm hv
      simp [hy]
    · obtain ⟨level, hl, hm⟩ := hdecode p hp
      obtain ⟨y, hy, inner, hinner, hdecoded⟩ := of_unit_of_module hm hv
      obtain rfl := Option.some.inj (hx.symm.trans hy)
      exact ih inner (by omega) hdecoded

/-- A report that was read reads the same in any other spelling, and in its unit and every unit
inside it the modules are the single one, if it has a name, and then the listed ones. -/
theorem Report.ofText_respelled {s : Text} {x : Report} (h : ofText s = .ok x) :
    ∃ j, Json.read? s.trim = some j ∧
      (∀ j' s', Relation.ReflTransGen (Respells (.record .report)) j j' →
        Json.read? (Text.trim s') = some j' → ofText s' = .ok x) ∧
      (RecordKind.report.given? "ast" j = none → x.unit = {}) ∧
      ∀ y, RecordKind.report.given? "ast" j = some y → Folded y x.unit := by
  obtain ⟨-, j, hread, hj⟩ := ofText_eq_ok_iff.mp h
  obtain ⟨r, hr, -, hunit⟩ := decode_eq_some_iff.mp hj
  have hast := RecordKind.of_gives (k := .report) "ast"
    (f := ⟨["ast", "AST"], .record .unit, ({} : CompilationUnit)⟩) hr rfl rfl hunit
  refine ⟨j, hread, fun j' s' hspelled hread' => ?_, fun hnone => ?_, fun y hy => ?_⟩
  · have hj' := Respells.decode_of_chain hspelled hj
    refine ofText_eq_ok_iff.mpr ⟨fun hempty => ?_, j', hread', hj'⟩
    rw [hempty] at hread'
    cases hread'
  · rcases hast with ⟨-, hmissing⟩ | ⟨y, hy, -⟩
    · exact hmissing
    · cases hnone.symm.trans hy
  · rcases hast with ⟨hnone, -⟩ | ⟨z, hz, hdecode⟩
    · cases hnone.symm.trans hy
    · obtain rfl := Option.some.inj (hy.symm.trans hz)
      exact folded_of_decode hdecode

section Example

def listing (m : Json) : Json :=
  .record [("modules", .array [m])]

def alone (m : Json) : Json :=
  .record [("Module", m)]

theorem respells_alone {m : Json} (hm : NamesModule m) :
    Relation.ReflTransGen (Respells (.record .unit)) (listing m) (alone m) := by
  have hsingle : Respells (.record .unit) (listing m)
      (.record [("Module", m), ("modules", .array [])]) :=
    .single "modules" [] [] [] (by simp) hm (by simp)
  have hdrop : Respells (.record .unit) (.record [("Module", m), ("modules", .array [])])
      (alone m) :=
    .drop (k := .unit) (p := 2) "modules" 1 [("Module".toList, m)] [] rfl (by decide) rfl
  exact .head hsingle (.single hdrop)

def moduleB : Json :=
  .record [("name", .str "B")]

/-- The JSON of a module with a unit; the name of the module's first field may vary. -/
def moduleA (name : String) (unit : Json) : Json :=
  .record [(name, .str "A"), ("ast", unit)]

theorem respells_moduleA : Relation.ReflTransGen (Respells (.record .module))
    (moduleA "name" (listing moduleB)) (moduleA "Name" (alone moduleB)) := by
  have hB : NamesModule moduleB := ⟨1, { name := ['B'] }, rfl, by simp⟩
  have hunit : Relation.ReflTransGen (Respells (.record .module))
      (moduleA "name" (listing moduleB)) (moduleA "name" (alone moduleB)) :=
    (respells_alone hB).lift (moduleA "name") fun x x' hx =>
      .member (k := .module) (p := 6) "ast" [("name".toList, .str "A")] [] rfl (by decide)
        (.value hx)
  exact hunit.tail (.rename (k := .module) (p := 0) "name" "Name" _ [] _ rfl (by decide)
    (by decide))

def reportOn (unit : Json) : Json :=
  .record [("quickfixes", .array []), ("ast", unit)]

def listedReport : Json :=
  reportOn (listing (moduleA "name" (listing moduleB)))

/-- The same report with other names, with each module given on its own, and with a member that
belongs to no field. -/
def singleReport : Json :=
  .record [("Version", .nat 2), ("AST", alone (moduleA "Name" (alone moduleB)))]

theorem respells_listedReport :
    Relation.ReflTransGen (Respells (.record .report)) listedReport singleReport := by
  have hA : NamesModule (moduleA "name" (listing moduleB)) :=
    ⟨4, { name := ['A'], unit := some { modules := [{ name := ['B'] }] } }, rfl, by simp⟩
  have hast (x x' : Json) (hx : Respells (.record .unit) x x') :
      Respells (.record .report) (reportOn x) (reportOn x') :=
    .member (k := .report) (p := 1) "ast" [("quickfixes".toList, .array [])] [] rfl (by decide) hx
  have hmodule (x x' : Json) (hx : Respells (.record .module) x x') :
      Respells (.record .unit) (alone x) (alone x') :=
    .member (k := .unit) (p := 5) "Module" [] [] rfl (by decide) (.value hx)
  have hunit := (respells_alone hA).lift reportOn hast
  have hinner := respells_moduleA.lift (reportOn ∘ alone) fun x x' hx => hast _ _ (hmodule x x' hx)
  have hfindings (u : Json) : Respells (.record .report) (reportOn u) (.record [("ast", u)]) :=
    .drop (k := .report) (p := 0) "quickfixes" 1 [] [("ast".toList, u)] rfl (by decide) rfl
  have hname (u : Json) :
      Respells (.record .report) (.record [("ast", u)]) (.record [("AST", u)]) :=
    .rename (k := .report) (p := 1) "ast" "AST" u [] [] rfl (by decide) (by decide)
  have hversion (u : Json) : Respells (.record .report) (.record [("AST", u)])
      (.record [("Version", .nat 2), ("AST", u)]) :=
    .add (k := .report) (.nat 2) [] [("AST".toList, u)] (by unfold RecordKind.Ignores; decide)
  exact (((hunit.trans hinner).tail (hfindings _)).tail (hname _)).tail (hversion _)

/-- Both reports read as the same one, in which `B` is the module of the unit of `A`. -/
theorem ofText_singleReport :
    let x : Report :=
      ⟨[], { modules := [{ name := ['A'], unit := some { modules := [{ name := ['B'] }] } }] }⟩
    Report.ofText listedReport.compact = .ok x ∧ Report.ofText singleReport.compact = .ok x ∧
      ∃ unit, RecordKind.report.given? "ast" listedReport = some unit ∧ Folded unit x.unit := by
  intro x
  have hlisted : Report.ofText listedReport.compact = .ok x := Report.ofText_compact (by rfl)
  obtain ⟨j, hj, hspelled, -, hfolded⟩ := Report.ofText_respelled hlisted
  obtain rfl : listedReport = j := by
    rw [listedReport, reportOn, Json.record, Json.trim_compact_object, Json.read?_compact] at hj
    exact Option.some.inj hj
  refine ⟨hlisted, hspelled _ _ respells_listedReport ?_, _, rfl, hfolded _ rfl⟩
  rw [singleReport, Json.record, Json.trim_compact_object, Json.read?_compact]

end Example

end ProofDesk
