import ProofDesk.Checker.Answer
import ProofDesk.Proofs.Text.Trimming
import ProofDesk.Proofs.Trace

namespace ProofDesk

namespace Json

variable {members : List (Text × Json)} {name : Text} {x : Json}

theorem field?_cons (name : Text) (m : Text × Json) (rest : List (Text × Json)) :
    field? name (object (m :: rest)) =
      (field? name (object rest)).or (if m.1 = name then some m.2 else none) := by
  rw [field?, List.reverse_cons, List.find?_append, Option.map_or, field?]
  by_cases h : m.1 = name <;> simp [h]

theorem field?_eq_some_iff : field? name (object members) = some x ↔
    LastWith (fun m => m.1 = name) members (name, x) := by
  induction members using List.reverseRecOn with
  | nil => simp [field?, LastWith]
  | append_singleton members m ih =>
    rw [field?, List.reverse_concat, List.find?_cons]
    by_cases h : m.1 = name
    · rw [lastWith_concat_of_pos (P := fun m : Text × Json => m.1 = name) h]
      simp [h, Prod.ext_iff, eq_comm]
    · rw [lastWith_concat_of_neg (P := fun m : Text × Json => m.1 = name) h, ← ih, field?,
        beq_eq_false_iff_ne.mpr h]

theorem field?_insertMember (name : Text) (m : Text × Json) (rest : List (Text × Json)) :
    field? name (object (insertMember m rest)) =
      (field? name (object rest)).or (if m.1 = name then some m.2 else none) := by
  induction rest with
  | nil => exact field?_cons name m []
  | cons y rest ih =>
    rw [insertMember]
    by_cases hsame : m.1 = y.1
    · -- the member that is there already is the later one
      rw [if_pos hsame, field?_cons, hsame, Option.or_assoc]
      by_cases hname : y.1 = name <;> simp [hname]
    · rw [if_neg hsame]
      by_cases hbefore : nameBefore m.1 y.1 = true
      · rw [if_pos hbefore, field?_cons]
      · rw [if_neg hbefore, field?_cons, ih, field?_cons name y rest, Option.or_assoc,
          Option.or_assoc]
        congr 1
        by_cases hname : m.1 = name
        · have hy : ¬y.1 = name := fun hy => hsame (hname.trans hy.symm)
          simp [hname, hy]
        · simp [hname]

theorem field?_ordered (name : Text) (members : List (Text × Json)) :
    field? name (ordered (object members)) = (field? name (object members)).map ordered := by
  rw [ordered]
  induction members with
  | nil => rfl
  | cons m members ih =>
    rw [orderedMembers, field?_insertMember, ih, field?_cons, Option.map_or]
    by_cases hname : m.1 = name <;> simp [hname]

theorem orderedItems_eq_map (items : List Json) : orderedItems items = items.map ordered := by
  induction items with
  | nil => rfl
  | cons x items ih => rw [orderedItems, ih, List.map_cons]

theorem array?_ordered (x : Json) : (ordered x).array? = x.array?.map (List.map ordered) := by
  cases x <;> simp [ordered, array?, orderedItems_eq_map]

theorem text?_ordered (x : Json) : (ordered x).text? = x.text? := by
  cases x <;> simp [ordered, text?]

theorem bind_array?_eq_some_iff {o : Option Json} {items : List Json} :
    o.bind array? = some items ↔ o = some (array items) := by
  rcases o with _ | x
  · simp
  · cases x <;> simp [array?]

theorem bind_text?_eq_some_iff {o : Option Json} {s : Text} :
    o.bind text? = some s ↔ o = some (text s) := by
  rcases o with _ | x
  · simp
  · cases x <;> simp [text?]

end Json

namespace Answering

variable {α : Type} {output : Text} {members : List (Text × Json)} {x : Json} {name : String}

/-- The output, white space around it apart, is a JSON object with these members. -/
def IsObject (output : Text) (members : List (Text × Json)) : Prop :=
  Json.settled? output.trim = some (.object members)

def HasMember (members : List (Text × Json)) (name : String) (x : Json) : Prop :=
  LastWith (fun m => m.1 = name.toList) members (name.toList, x)

/-- The text that an argument is shown as: a text itself, any other value its JSON with the names of
every object in order. -/
inductive Renders : Json → Text → Prop
  | text (s : Text) : Renders (.text s) s
  | other (x : Json) : (∀ s, x ≠ .text s) → Renders x x.ordered.spell

/-- The errors in an output: its lines that are not blank, trimmed, or the fallback. -/
def complaints (output : Text) : List Text :=
  if output.remarks = [] then [noOutput] else output.remarks

theorem complaints_ne_nil (output : Text) : complaints output ≠ [] := by
  unfold complaints
  split <;> simp_all

theorem errorLines_trim (output : Text) : errorLines noOutput output.trim = complaints output := by
  rw [errorLines, ← Text.remarks_eq_listing, Text.remarks_trim]
  rfl

theorem renders_iff {text : Text} : Renders x text ↔ text = argument x.ordered := by
  constructor
  · rintro (_ | ⟨x, hx⟩)
    · rfl
    · cases x with
      | text s => exact absurd rfl (hx s)
      | _ => rfl
  · rintro rfl
    cases x with
    | text s => exact .text s
    | _ => exact .other _ (fun s h => by cases h)

theorem forall₂_renders_iff {items : List Json} {texts : List Text} :
    List.Forall₂ Renders items texts ↔ texts = items.map fun x => argument x.ordered := by
  constructor
  · intro h
    induction h with
    | nil => rfl
    | cons hx _ ih => rw [List.map_cons, ← ih, ← renders_iff.mp hx]
  · rintro rfl
    induction items with
    | nil => exact .nil
    | cons x items ih => exact .cons (renders_iff.mpr rfl) ih

theorem hasMember_iff : HasMember members name x ↔ (Json.object members).get? name = some x :=
  Json.field?_eq_some_iff.symm

theorem get?_ordered (members : List (Text × Json)) (name : String) :
    (Json.ordered (.object members)).get? name =
      ((Json.object members).get? name).map Json.ordered :=
  Json.field?_ordered name.toList members

theorem items?_ordered (members : List (Text × Json)) (name : String) :
    ((Json.ordered (.object members)).get? name).bind Json.array? =
      (((Json.object members).get? name).bind Json.array?).map (List.map Json.ordered) := by
  rw [get?_ordered, Option.bind_map, Option.map_bind]
  exact congrArg _ (funext Json.array?_ordered)

theorem IsObject.unique {members' : List (Text × Json)} (h : IsObject output members)
    (h' : IsObject output members') : members' = members :=
  Json.object.inj (Option.some.inj (h'.symm.trans h))

theorem object_of_isObject (h : IsObject output members) :
    object output = .ok (Json.ordered (.object members)) := by
  rw [object, h]

theorem object_of_not_isObject (h : ∀ members, ¬IsObject output members) :
    object output = .error (.rejected (complaints output)) := by
  rw [object]
  split
  next members hmembers => exact absurd hmembers (h members)
  next => rw [errorLines_trim]

/-- The output is taken as an answer if it is an object that fits the question, and the answer is
then what the object means. In any other case it is refused with at least one line, and with its own
lines if it is no object. -/
structure Decides (output : Text) (Fits : List (Text × Json) → Prop)
    (Means : List (Text × Json) → α → Prop) (result : Except Refusal α) : Prop where
  taken : (∃ answer, result = .ok answer) ↔ ∃ members, IsObject output members ∧ Fits members
  means : ∀ members answer, IsObject output members → result = .ok answer → Means members answer
  refused : ∀ cause, result = .error cause → ∃ lines, cause = .rejected lines ∧ lines ≠ []
  complains : (∀ members, ¬IsObject output members) →
    result = .error (.rejected (complaints output))

section Decides

variable {Fits : List (Text × Json) → Prop} {Means : List (Text × Json) → α → Prop} {answer : α}

theorem Decides.of_ok (h : IsObject output members) (hfits : Fits members)
    (hmeans : Means members answer) : Decides output Fits Means (.ok answer) := by
  constructor
  · exact ⟨fun _ => ⟨members, h, hfits⟩, fun _ => ⟨answer, rfl⟩⟩
  · intro members' _ h' hanswer
    rwa [← Except.ok.inj hanswer, h.unique h']
  · exact fun _ hcause => nomatch hcause
  · exact fun hno => absurd h (hno members)

theorem Decides.of_error (h : IsObject output members) (hfits : ¬Fits members) (line : Text) :
    Decides output Fits Means (.error (.rejected [line])) := by
  constructor
  · constructor
    · exact fun ⟨_, hanswer⟩ => nomatch hanswer
    · rintro ⟨members', h', hfits'⟩
      exact absurd (h.unique h' ▸ hfits') hfits
  · exact fun _ _ _ hanswer => nomatch hanswer
  · exact fun cause hcause => ⟨[line], (Except.error.inj hcause).symm, List.cons_ne_nil line []⟩
  · exact fun hno => absurd h (hno members)

theorem Decides.of_not_isObject (hno : ∀ members, ¬IsObject output members) :
    Decides output Fits Means (.error (.rejected (complaints output))) := by
  constructor
  · constructor
    · exact fun ⟨_, hanswer⟩ => nomatch hanswer
    · exact fun ⟨members, h, _⟩ => absurd h (hno members)
  · exact fun members _ h => absurd h (hno members)
  · exact fun cause hcause =>
      ⟨complaints output, (Except.error.inj hcause).symm, complaints_ne_nil output⟩
  · exact fun _ => rfl

/-- A reader of objects that gives what is meant or refuses with one line. -/
theorem Decides.of_read {read : Json → Except Refusal α} (output : Text)
    (hread : ∀ members,
      (∃ answer, read (Json.ordered (.object members)) = .ok answer ∧ Fits members ∧
        Means members answer) ∨
      ∃ line, read (Json.ordered (.object members)) = .error (.rejected [line]) ∧ ¬Fits members) :
    Decides output Fits Means (object output >>= read) := by
  by_cases hobject : ∃ members, IsObject output members
  · obtain ⟨members, h⟩ := hobject
    have hbind : (object output >>= read) = read (Json.ordered (.object members)) := by
      rw [object_of_isObject h]
      rfl
    rw [hbind]
    rcases hread members with ⟨answer, hok, hfits, hmeans⟩ | ⟨line, herror, hfits⟩
    · rw [hok]
      exact .of_ok h hfits hmeans
    · rw [herror]
      exact .of_error h hfits line
  · have hno : ∀ members, ¬IsObject output members := not_exists.mp hobject
    have hbind : (object output >>= read) = .error (.rejected (complaints output)) := by
      rw [object_of_not_isObject hno]
      rfl
    rw [hbind]
    exact .of_not_isObject hno

end Decides

def Needs (members : List (Text × Json)) (texts : List Text) : Prop :=
  ∃ items, HasMember members "arguments" (.array items) ∧ List.Forall₂ Renders items texts

def Gives (members : List (Text × Json)) (text : Text) : Prop :=
  ∃ rest, HasMember members "conclusion" (.array (.text text :: rest))

def Leaves (members : List (Text × Json)) (result : Option Text) : Prop :=
  ∀ text, result = some text ↔ HasMember members "result" (.text text)

theorem premises_decides (goal rule output : Text) :
    Decides output (fun members => ∃ items, HasMember members "arguments" (.array items)) Needs
      (premises goal rule output) := by
  refine Decides.of_read output fun members => ?_
  simp only [items?_ordered, Needs, hasMember_iff]
  cases hitems : ((Json.object members).get? "arguments").bind Json.array? with
  | some items =>
    have hget := Json.bind_array?_eq_some_iff.mp hitems
    exact Or.inl ⟨_, rfl, ⟨items, hget⟩, items, hget, forall₂_renders_iff.mpr (by simp)⟩
  | none =>
    refine Or.inr ⟨_, rfl, fun ⟨items, hmember⟩ => ?_⟩
    cases hitems.symm.trans (Json.bind_array?_eq_some_iff.mpr hmember)

theorem conclusion_decides (rule output : Text) :
    Decides output (fun members => ∃ text, Gives members text) Gives (conclusion rule output) := by
  refine Decides.of_read output fun members => ?_
  simp only [items?_ordered, Gives, hasMember_iff]
  cases hitems : ((Json.object members).get? "conclusion").bind Json.array? with
  | none =>
    refine Or.inr ⟨_, rfl, fun ⟨text, rest, hmember⟩ => ?_⟩
    cases hitems.symm.trans (Json.bind_array?_eq_some_iff.mpr hmember)
  | some items =>
    have hget := Json.bind_array?_eq_some_iff.mp hitems
    -- what leads the array decides, whatever follows it
    rcases items with _ | ⟨x, rest⟩
    · exact Or.inr ⟨_, rfl, fun ⟨_, _, hmember⟩ => nomatch hget.symm.trans hmember⟩
    · cases x with
      | text text => exact Or.inl ⟨text, rfl, ⟨text, rest, hget⟩, rest, hget⟩
      | _ => exact Or.inr ⟨_, rfl, fun ⟨_, _, hmember⟩ => nomatch hget.symm.trans hmember⟩

theorem substitution_decides (output : Text) :
    Decides output (fun _ => True) Leaves (substitution output) := by
  refine Decides.of_read output fun members => Or.inl ⟨_, rfl, trivial, fun text => ?_⟩
  rw [hasMember_iff, ← Json.bind_text?_eq_some_iff, get?_ordered, Option.bind_map]
  exact Eq.congr_left (congrArg _ (funext Json.text?_ordered))

/-- An answer about premises needs an array of arguments, one about a conclusion an array that
starts with a text, and one about a substitution only an object. Nothing else is taken, and whatever
is refused is refused with a reason. -/
theorem read_or_refused (goal rule output : Text) :
    Decides output (fun members => ∃ items, HasMember members "arguments" (.array items)) Needs
        (premises goal rule output) ∧
      Decides output (fun members => ∃ text, Gives members text) Gives (conclusion rule output) ∧
      Decides output (fun _ => True) Leaves (substitution output) :=
  ⟨premises_decides goal rule output, conclusion_decides rule output, substitution_decides output⟩

/-- A list of errors with an empty line is refused with its lines, and of two members of one name the
last one is read. -/
theorem last_arguments_read :
    let listed := "\x7bCannot\r\n\r\n  apply rule \n".toList
    let repeated := " \x7b\"arguments\":1,\"arguments\":[\"a\",[1, 2]]\x7d\r\n".toList
    (∀ members, ¬IsObject listed members) ∧ premises [] [] listed =
        .error (.rejected ["\x7bCannot".toList, "apply rule".toList]) ∧
      premises [] [] repeated = .ok ["a".toList, "[1,2]".toList] ∧
      ∃ members, IsObject repeated members ∧ Needs members ["a".toList, "[1,2]".toList] := by
  intro listed repeated
  have hlisted : ∀ members, ¬IsObject listed members := fun members h => by
    have hnone : (Json.settled? (Text.trim listed)).isNone = true := by decide +kernel
    rw [h] at hnone
    cases hnone
  have hcomplaints : complaints listed = ["\x7bCannot".toList, "apply rule".toList] := by
    decide +kernel
  have hok : premises [] [] repeated = .ok ["a".toList, "[1,2]".toList] := by decide +kernel
  refine ⟨hlisted, ?_, hok, ?_⟩
  · rw [← hcomplaints]
    exact (read_or_refused [] [] listed).1.complains hlisted
  · have hdecides := (read_or_refused [] [] repeated).1
    obtain ⟨members, h, -⟩ := hdecides.taken.mp ⟨_, hok⟩
    exact ⟨members, h, hdecides.means members _ h hok⟩

end Answering

end ProofDesk
