import Mathlib.Logic.Relation
import ProofDesk.Proofs.Report.RoundTrip
import ProofDesk.Proofs.Report.Schema

namespace ProofDesk

open RecordFields (open?)

def RecordKind.Ignores (k : RecordKind) (name : Text) : Prop :=
  ∀ f ∈ k.fields, ∀ n ∈ f.names, n.toList ≠ name

def NamesModule (x : Json) : Prop :=
  ∃ levels m, ImportedModule.decode levels x = some m ∧ m.name ≠ []

/-- One change of the spelling of a value of some shape, at any depth. -/
inductive Respells : Shape → Json → Json → Prop
  | item {s : Shape} {x x' : Json} (before after : List Json) : Respells s x x' →
      Respells (.list s) (.array (before ++ x :: after)) (.array (before ++ x' :: after))
  | value {s : Shape} {x x' : Json} : Respells s x x' → Respells (.optional s) x x'
  | member {k : RecordKind} {p : Nat} {f : Field} {x x' : Json} (name : String)
      (before after : List (Text × Json)) : k.fields[p]? = some f → name ∈ f.names →
      Respells f.shape x x' →
      Respells (.record k) (.object (before ++ (name.toList, x) :: after))
        (.object (before ++ (name.toList, x') :: after))
  | place {k : RecordKind} {f : Field} {x x' : Json} (before after : List Json) :
      k.fields[before.length]? = some f → Respells f.shape x x' →
      Respells (.record k) (.array (before ++ x :: after)) (.array (before ++ x' :: after))
  | rename {k : RecordKind} {p : Nat} {f : Field} (name name' : String) (x : Json)
      (before after : List (Text × Json)) : k.fields[p]? = some f → name ∈ f.names →
      name' ∈ f.names →
      Respells (.record k) (.object (before ++ (name.toList, x) :: after))
        (.object (before ++ (name'.toList, x) :: after))
  | reorder {k : RecordKind} {members members' : List (Text × Json)} : members.Perm members' →
      Respells (.record k) (.object members) (.object members')
  | add {k : RecordKind} {name : Text} (x : Json) (before after : List (Text × Json)) :
      k.Ignores name →
      Respells (.record k) (.object (before ++ after)) (.object (before ++ (name, x) :: after))
  | ignored {k : RecordKind} {name : Text} (x x' : Json) (before after : List (Text × Json)) :
      k.Ignores name →
      Respells (.record k) (.object (before ++ (name, x) :: after))
        (.object (before ++ (name, x') :: after))
  | drop {k : RecordKind} {p : Nat} {f : Field} {x : Json} (name : String) (levels : Nat)
      (before after : List (Text × Json)) : k.fields[p]? = some f → name ∈ f.names →
      f.shape.decode levels x = some f.missing →
      Respells (.record k) (.object (before ++ (name.toList, x) :: after))
        (.object (before ++ after))
  | single {m : Json} (name : String) (rest : List Json) (before after : List (Text × Json)) :
      name ∈ ["modules", "Modules"] → NamesModule m →
      (∀ x ∈ before ++ after, x.1 ≠ "Module".toList) →
      Respells (.record .unit) (.object (before ++ (name.toList, .array (m :: rest)) :: after))
        (.object (("Module".toList, m) :: before ++ (name.toList, .array rest) :: after))
  | singlePlace {n t m : Json} (rest tail : List Json) : NamesModule m →
      (∀ x ∈ tail[2]?, x = .null) →
      Respells (.record .unit) (.array (n :: t :: .array (m :: rest) :: tail))
        (.array [n, t, .array rest, tail[0]?.getD (.object []), tail[1]?.getD (.array []), m])

section Object

variable {k : RecordKind} {members members' before after : List (Text × Json)}
  {items items' : List Json} {levels : Nat} {a : k.Value}

/-- The members give for every field what the others give. -/
def Gives (k : RecordKind) (members members' : List (Text × Json)) : Prop :=
  ∀ level p f, k.fields[p]? = some f → ∀ b,
    (RecordFields.mk level (.inl members)).gives p f = some b →
      (RecordFields.mk level (.inl members')).gives p f = some b

theorem Gives.decode (hg : Gives k members members')
    (h : k.decode levels (.object members) = some a) :
    k.decode levels (.object members') = some a := by
  obtain ⟨r, hr, hdecode⟩ := RecordKind.exists_open?_of_decode h
  obtain ⟨level, rfl, rfl⟩ := RecordFields.open?_object_iff.mp hr
  exact hdecode _ _ _ rfl (hg level)

theorem gives_of_named_eq
    (h : ∀ f ∈ k.fields, named f.names members' = named f.names members) :
    Gives k members members' := by
  intro level p f hf b hb
  exact (get_congr_named (h f (List.mem_of_getElem? hf))).trans hb

theorem gives_of_perm (h : members.Perm members') : Gives k members members' := by
  intro level p f hf b hb
  have hperm : (named f.names members).Perm (named f.names members') := h.filter _
  rw [RecordFields.gives, get_members_iff] at hb ⊢
  rcases hb with ⟨hnil, rfl⟩ | ⟨m, hm, hb⟩
  · exact Or.inl ⟨List.nil_perm.mp (hnil ▸ hperm), rfl⟩
  · exact Or.inr ⟨m, (List.singleton_perm.mp (hm ▸ hperm)).symm, hb⟩

variable {p : Nat} {f : Field} {name name' : String} {x x' : Json}

theorem gives_member_iff {level : Nat} {b : f.shape.Value} (hn : name ∈ f.names) :
    (RecordFields.mk level (.inl (before ++ (name.toList, x) :: after))).gives p f = some b ↔
      named f.names before = [] ∧ named f.names after = [] ∧
        f.shape.decode level x = some b := by
  rw [RecordFields.gives, get_members_iff, named_append, named_cons_of_mem hn]
  rcases named f.names before with _ | ⟨m, _⟩ <;> rcases named f.names after with _ | ⟨m', _⟩ <;>
    simp

theorem gives_missing {level : Nat} (h : named f.names members = []) :
    (RecordFields.mk level (.inl members)).gives p f = some f.missing :=
  get_members_iff.mpr (Or.inl ⟨h, rfl⟩)

theorem named_eq_of_ne {q : Nat} {g : Field} (hf : k.fields[p]? = some f)
    (hg : k.fields[q]? = some g) (hpq : p ≠ q) (hn : name ∈ f.names) :
    named g.names (before ++ (name.toList, x) :: after) =
      named g.names (before ++ after) := by
  have hother : ∀ n ∈ g.names, n.toList ≠ name.toList := by
    rintro n hn' heq
    obtain rfl := String.toList_inj.mp heq
    exact hpq (k.place_eq_of_mem_names hf hg hn hn')
  rw [named_append, named_cons_of_ne hother, ← named_append]

/-- A member of a field may take another name of the field and another value that reads alike. -/
theorem gives_of_replace (hf : k.fields[p]? = some f) (hn : name ∈ f.names)
    (hn' : name' ∈ f.names)
    (hx : ∀ level b, f.shape.decode level x = some b → f.shape.decode level x' = some b) :
    Gives k (before ++ (name.toList, x) :: after) (before ++ (name'.toList, x') :: after) := by
  intro level q g hg b hb
  by_cases hpq : p = q
  · subst hpq
    obtain rfl := Option.some.inj (hf.symm.trans hg)
    obtain ⟨hbefore, hafter, hb⟩ := (gives_member_iff hn).mp hb
    exact (gives_member_iff hn').mpr ⟨hbefore, hafter, hx level b hb⟩
  · have hnamed : named g.names (before ++ (name'.toList, x') :: after) =
        named g.names (before ++ (name.toList, x) :: after) := by
      rw [named_eq_of_ne hf hg hpq hn', named_eq_of_ne hf hg hpq hn]
    exact (get_congr_named hnamed).trans hb

/-- A member with the value that stands for a missing one may be left out. -/
theorem gives_of_drop (hf : k.fields[p]? = some f) (hn : name ∈ f.names)
    (hx : f.shape.decode levels x = some f.missing) :
    Gives k (before ++ (name.toList, x) :: after) (before ++ after) := by
  intro level q g hg b hb
  by_cases hpq : p = q
  · subst hpq
    obtain rfl := Option.some.inj (hf.symm.trans hg)
    obtain ⟨hbefore, hafter, hb⟩ := (gives_member_iff hn).mp hb
    obtain rfl := Shape.decode_unique hx hb
    exact gives_missing (by rw [named_append, hbefore, hafter, List.append_nil])
  · exact (get_congr_named (named_eq_of_ne hf hg hpq hn).symm).trans hb

theorem named_of_ignores {name : Text} (h : k.Ignores name) (hf : f ∈ k.fields) :
    named f.names (before ++ (name, x) :: after) = named f.names (before ++ after) := by
  rw [named_append, named_cons_of_ne (h f hf), ← named_append]

end Object

section Array

variable {k : RecordKind} {f : Field} {before after items items' : List Json} {x x' : Json}
  {levels level p : Nat} {a : k.Value}

theorem gives_items_iff {b : f.shape.Value} :
    (RecordFields.mk level (.inr items)).gives p f = some b ↔
      (items[p]? = none ∧ b = f.missing) ∨
        ∃ x, items[p]? = some x ∧ f.shape.decode level x = some b := by
  have hgiven : (RecordFields.mk level (.inr items)).given? p f.names = some items[p]? := rfl
  rw [RecordFields.gives, RecordFields.get_eq_some_iff, hgiven]
  simp

/-- An item that is missing may be given as a value that reads as the missing one. -/
theorem gives_of_getD {b : f.shape.Value} (hx : f.shape.decode level x = some f.missing)
    (hitem : items'[p]? = some (items[p]?.getD x))
    (h : (RecordFields.mk level (.inr items)).gives p f = some b) :
    (RecordFields.mk level (.inr items')).gives p f = some b := by
  refine gives_items_iff.mpr (Or.inr ⟨_, hitem, ?_⟩)
  rcases gives_items_iff.mp h with ⟨hnone, rfl⟩ | ⟨y, hy, hb⟩
  · rw [hnone]
    exact hx
  · rw [hy]
    exact hb

theorem getElem?_replace (h : p ≠ before.length) :
    (before ++ x' :: after)[p]? = (before ++ x :: after)[p]? := by
  rcases Nat.lt_or_gt_of_ne h with hlt | hlt
  · rw [List.getElem?_append_left hlt, List.getElem?_append_left hlt]
  · obtain ⟨q, hq⟩ : ∃ q, p - before.length = q + 1 := ⟨p - before.length - 1, by omega⟩
    rw [List.getElem?_append_right (by omega), List.getElem?_append_right (by omega), hq,
      List.getElem?_cons_succ, List.getElem?_cons_succ]

theorem forall₂_replace {α : Type} {rel : Json → α → Prop} {as : List α}
    (h : List.Forall₂ rel (before ++ x :: after) as) (hx : ∀ b, rel x b → rel x' b) :
    List.Forall₂ rel (before ++ x' :: after) as := by
  induction before generalizing as with
  | nil =>
    cases h with
    | cons hfirst hrest => exact .cons (hx _ hfirst) hrest
  | cons y ys ih =>
    cases h with
    | cons hfirst hrest => exact .cons hfirst (ih hrest)

theorem decode_of_place (hf : k.fields[before.length]? = some f)
    (hx : ∀ level b, f.shape.decode level x = some b → f.shape.decode level x' = some b)
    (h : k.decode levels (.array (before ++ x :: after)) = some a) :
    k.decode levels (.array (before ++ x' :: after)) = some a := by
  obtain ⟨r, hr, hdecode⟩ := RecordKind.exists_open?_of_decode h
  obtain ⟨level, rfl, hsize, rfl⟩ := RecordFields.open?_array_iff.mp hr
  have hopen : open? k.fields.length (level + 1) (.array (before ++ x' :: after)) =
      some ⟨level, .inr (before ++ x' :: after)⟩ :=
    RecordFields.open?_array_iff.mpr ⟨level, rfl, by simpa using hsize, rfl⟩
  refine hdecode _ _ _ hopen fun p g hg b hb => ?_
  by_cases hp : p = before.length
  · subst hp
    obtain rfl := Option.some.inj (hf.symm.trans hg)
    rcases gives_items_iff.mp hb with ⟨hnone, -⟩ | ⟨y, hy, hb⟩
    · simp at hnone
    · obtain rfl : x = y := by simpa using hy
      exact gives_items_iff.mpr (Or.inr ⟨x', by simp, hx level b hb⟩)
  · rwa [gives_items_iff, getElem?_replace hp, ← gives_items_iff]

end Array

section Single

variable {u : CompilationUnit} {levels level : Nat} {m : Json} {rest tail : List Json}

/-- A module that is listed first under a name may be given on its own. -/
theorem exists_single {listed : List Module} (hm : NamesModule m)
    (h : Decoder.list ImportedModule.decode level (.array (m :: rest)) = some listed) :
    0 < level ∧ ∃ v vs, Decoder.list ImportedModule.decode level (.array rest) = some vs ∧
      Decoder.optional ImportedModule.decode level m = some (some v) ∧
      CompilationUnit.allModules (some v) vs = listed := by
  obtain ⟨inner, items, rfl, hitems, hforall⟩ := Decoder.list_eq_some_iff.mp h
  obtain rfl := Json.array.inj hitems
  cases hforall with
  | @cons _ v _ vs hv hvs =>
    obtain ⟨levels, w, hw, hname⟩ := hm
    obtain rfl : v = w := Shape.decode_unique (s := .record .module) hv hw
    have hmono : ImportedModule.decode (inner + 1) m = some v :=
      Shape.decode_mono (s := .record .module) hv (by omega)
    obtain ⟨r, hr, -⟩ := RecordKind.exists_open?_of_decode (k := .module) hmono
    have hnull : m ≠ .null := by
      rintro rfl
      cases hr
    refine ⟨by omega, v, vs, Decoder.list_eq_some_iff.mpr ⟨inner, rest, rfl, rfl, hvs⟩,
      Decoder.optional_eq_some_iff.mpr (Or.inr ⟨hnull, v, hmono, rfl⟩), ?_⟩
    rw [CompilationUnit.allModules, if_neg (by simpa using hname)]

section Members

variable {name : String} {before after : List (Text × Json)}

theorem named_module (hn : name ∈ ["modules", "Modules"])
    (hnone : ∀ x ∈ before ++ after, x.1 ≠ "Module".toList) (x : Json) :
    named ["Module"] (before ++ (name.toList, x) :: after) = [] := by
  have hne : ∀ n ∈ ["Module"], n.toList ≠ name.toList := by
    rintro n hn' heq
    obtain rfl := String.toList_inj.mp heq
    simp_all
  rw [named_append, named_cons_of_ne hne, ← named_append]
  refine List.filter_eq_nil_iff.mpr fun x hx => ?_
  simpa using (hnone x hx).symm

/-- The other fields of a unit go by neither of the two names. -/
theorem named_of_single {q : Nat} {g : Field} (hg : RecordKind.unit.fields[q]? = some g)
    (hq : q ≠ 2) (hq' : q ≠ 5) (hn : name ∈ ["modules", "Modules"]) (x y : Json) :
    named g.names (("Module".toList, m) :: before ++ (name.toList, x) :: after) =
      named g.names (before ++ (name.toList, y) :: after) := by
  have hmodules (members : List (Text × Json)) (z : Json) :
      named g.names (members ++ (name.toList, z) :: after) = named g.names (members ++ after) :=
    named_eq_of_ne (k := .unit) (p := 2) rfl hg (Ne.symm hq) hn
  have hsingle : named g.names ([] ++ ("Module".toList, m) :: (before ++ after)) =
      named g.names ([] ++ (before ++ after)) :=
    named_eq_of_ne (k := .unit) (p := 5) rfl hg (Ne.symm hq') (List.mem_singleton_self _)
  rw [List.nil_append, List.nil_append] at hsingle
  rw [hmodules, hmodules, List.cons_append, hsingle]

theorem decode_of_single (hn : name ∈ ["modules", "Modules"]) (hm : NamesModule m)
    (hnone : ∀ x ∈ before ++ after, x.1 ≠ "Module".toList)
    (h : CompilationUnit.decode levels
      (.object (before ++ (name.toList, .array (m :: rest)) :: after)) = some u) :
    CompilationUnit.decode levels (.object (("Module".toList, m) :: before ++
      (name.toList, .array rest) :: after)) = some u := by
  obtain ⟨r, listed, single, hr, h0, h1, h2, h3, h4, h5, hmodules⟩ :=
    CompilationUnit.decode_eq_some_iff.mp h
  obtain ⟨level, rfl, rfl⟩ := RecordFields.open?_object_iff.mp hr
  have hlisted := (gives_member_iff (f := .list ["modules", "Modules"] (.record .module))
    (p := 2) hn).mp h2
  obtain ⟨hbefore, hafter, hlist⟩ := hlisted
  obtain ⟨-, v, vs, hvs, hv, hall⟩ := exists_single hm hlist
  have hmodule := named_module hn hnone
  obtain rfl : single = none := by
    rcases get_members_iff.mp h5 with ⟨-, hsingle⟩ | ⟨x, hx, -⟩
    · exact hsingle
    · simp [hmodule] at hx
  have hbefore' : named ["modules", "Modules"] (("Module".toList, m) :: before) = [] := by
    rw [named_cons_of_ne (by decide)]
    exact hbefore
  refine CompilationUnit.decode_eq_some_iff.mpr
    ⟨⟨level, .inl _⟩, vs, some v, rfl, ?_, ?_, ?_, ?_, ?_, ?_, ?_⟩
  · exact (get_congr_named (named_of_single (q := 0) rfl (by decide) (by decide) hn _ _)).trans h0
  · exact (get_congr_named (named_of_single (q := 1) rfl (by decide) (by decide) hn _ _)).trans h1
  · exact (gives_member_iff (f := .list ["modules", "Modules"] (.record .module)) (p := 2) hn).mpr
      ⟨hbefore', hafter, hvs⟩
  · exact (get_congr_named (named_of_single (q := 3) rfl (by decide) (by decide) hn _ _)).trans h3
  · exact (get_congr_named (named_of_single (q := 4) rfl (by decide) (by decide) hn _ _)).trans h4
  · change (RecordFields.mk level (.inl ([] ++ ("Module".toList, m) :: (before ++ _)))).gives 5
      (.optional ["Module"] (.record .module)) = _
    exact (gives_member_iff (List.mem_singleton_self _)).mpr ⟨rfl, hmodule _, hv⟩
  · rw [hmodules, hall, CompilationUnit.allModules]

end Members

theorem decode_of_singlePlace {n t : Json} (hm : NamesModule m)
    (htail : ∀ x ∈ tail[2]?, x = .null)
    (h : CompilationUnit.decode levels (.array (n :: t :: .array (m :: rest) :: tail)) = some u) :
    CompilationUnit.decode levels (.array
      [n, t, .array rest, tail[0]?.getD (.object []), tail[1]?.getD (.array []), m]) = some u := by
  obtain ⟨r, listed, single, hr, h0, h1, h2, h3, h4, h5, hmodules⟩ :=
    CompilationUnit.decode_eq_some_iff.mp h
  obtain ⟨level, rfl, -, rfl⟩ := RecordFields.open?_array_iff.mp hr
  have hlist : Decoder.list ImportedModule.decode level (.array (m :: rest)) = some listed := by
    rcases (gives_items_iff (f := .list ["modules", "Modules"] (.record .module)) (p := 2)).mp h2
      with ⟨hnone, -⟩ | ⟨x, hx, hlist⟩
    · cases hnone
    · obtain rfl := Option.some.inj hx
      exact hlist
  obtain ⟨hpos, v, vs, hvs, hv, hall⟩ := exists_single hm hlist
  obtain rfl : single = none := by
    rcases (gives_items_iff (f := .optional ["Module"] (.record .module)) (p := 5)).mp h5
      with ⟨-, hsingle⟩ | ⟨x, hx, hsingle⟩
    · exact hsingle
    · obtain rfl := htail x hx
      exact (Option.some.inj hsingle).symm
  obtain ⟨inner, rfl⟩ : ∃ inner, level = inner + 1 := ⟨level - 1, by omega⟩
  refine CompilationUnit.decode_eq_some_iff.mpr ⟨_, vs, some v, rfl, h0, h1, ?_, ?_, ?_, ?_, ?_⟩
  · exact (gives_items_iff (f := .list ["modules", "Modules"] (.record .module)) (p := 2)).mpr
      (Or.inr ⟨_, rfl, hvs⟩)
  · exact gives_of_getD (f := ⟨["syntax", "Syntax"], .record .grammar, ({} : Grammar)⟩) (p := 3)
      (x := .object []) rfl rfl h3
  · exact gives_of_getD (f := .list ["judgments", "Judgments"] (.record .judgment)) (p := 4)
      (x := .array []) rfl rfl h4
  · exact (gives_items_iff (f := .optional ["Module"] (.record .module)) (p := 5)).mpr
      (Or.inr ⟨m, rfl, hv⟩)
  · rw [hmodules, hall, CompilationUnit.allModules]

end Single

theorem Respells.ne_null {s : Shape} {x x' : Json} (h : Respells s x x') :
    x ≠ .null ∧ x' ≠ .null := by
  induction h with
  | value _ ih => exact ih
  | _ => exact ⟨nofun, nofun⟩

/-- A value in another spelling decodes to the same. -/
theorem Respells.decode {s : Shape} {x x' : Json} {levels : Nat} {a : s.Value}
    (h : Respells s x x') (ha : s.decode levels x = some a) : s.decode levels x' = some a := by
  induction h generalizing levels with
  | item before after _ ih =>
    obtain ⟨level, items, rfl, hitems, hforall⟩ := Decoder.list_eq_some_iff.mp ha
    obtain rfl := Json.array.inj hitems
    exact Decoder.list_eq_some_iff.mpr
      ⟨level, _, rfl, rfl, forall₂_replace hforall fun b hb => ih hb⟩
  | value hx ih =>
    obtain ⟨hnull, hnull'⟩ := hx.ne_null
    rcases Decoder.optional_eq_some_iff.mp ha with ⟨hx, -⟩ | ⟨-, b, hb, rfl⟩
    · exact absurd hx hnull
    · exact Decoder.optional_eq_some_iff.mpr (Or.inr ⟨hnull', b, ih hb, rfl⟩)
  | member name before after hf hn _ ih => exact (gives_of_replace hf hn hn fun _ _ => ih).decode ha
  | place before after hf _ ih => exact decode_of_place hf (fun _ _ => ih) ha
  | rename name name' x before after hf hn hn' =>
    exact (gives_of_replace hf hn hn' fun _ _ h => h).decode ha
  | reorder hperm => exact (gives_of_perm hperm).decode ha
  | add x before after hname =>
    exact (gives_of_named_eq fun f hf => named_of_ignores hname hf).decode ha
  | ignored x x' before after hname =>
    refine (gives_of_named_eq fun f hf => ?_).decode ha
    rw [named_of_ignores hname hf, named_of_ignores hname hf]
  | drop name levels before after hf hn hx => exact (gives_of_drop hf hn hx).decode ha
  | single name rest before after hn hm hnone => exact decode_of_single hn hm hnone ha
  | singlePlace rest tail hm htail => exact decode_of_singlePlace hm htail ha

theorem Respells.decode_of_chain {s : Shape} {x x' : Json} {levels : Nat} {a : s.Value}
    (h : Relation.ReflTransGen (Respells s) x x') (ha : s.decode levels x = some a) :
    s.decode levels x' = some a := by
  induction h with
  | refl => exact ha
  | tail _ hstep ih => exact hstep.decode ih

end ProofDesk
