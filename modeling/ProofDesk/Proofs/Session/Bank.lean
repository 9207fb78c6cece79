import Mathlib.Order.Bounds.Basic
import ProofDesk.Proofs.Session.Run

namespace ProofDesk

/-- The declaration that a name without a dot stands for, by its premises and its conclusion: the
first theorem of that name, or else the first rule. -/
inductive CompilationUnit.Declares (u : CompilationUnit) (name : Text) : List Text → Text → Prop
  | ofTheorem (t : TheoremDecl) : u.findTheorem? name = some t →
    Declares u name t.foralls t.conclusion
  | ofRule (r : Rule) : u.findTheorem? name = none → u.findRule? name = some r →
    Declares u name r.premises r.conclusion

namespace BankEntry

def premiseLines (e : BankEntry) : List Text :=
  e.lines.dropLast.dropLast

/-- The entry is an inference from the premises to the conclusion, with as many premise lines as its
arity and a bar as wide as its widest line, followed by its name. -/
structure Displays (e : BankEntry) (premises : List Text) (conclusion : Text) : Prop where
  lines : ∃ width, e.lines =
      premises ++ [List.replicate width '-' ++ ' ' :: e.name, conclusion] ∧
    IsGreatest {n | ∃ l ∈ conclusion :: premises, l.length = n} width
  arity : e.arity = premises.length

end BankEntry

theorem isGreatest_inferenceWidth (premises : List Text) (conclusion : Text) :
    IsGreatest {n | ∃ l ∈ conclusion :: premises, l.length = n}
      (inferenceWidth premises conclusion) := by
  have hmax : ((conclusion :: premises).map List.length).max? =
      some (inferenceWidth premises conclusion) := rfl
  obtain ⟨hmem, hbound⟩ := List.max?_eq_some_iff.mp hmax
  refine ⟨List.mem_map.mp hmem, ?_⟩
  rintro n ⟨l, hl, rfl⟩
  exact hbound l.length (List.mem_map_of_mem hl)

namespace BankEntry

theorem displays_ofTheorem (t : TheoremDecl) : (ofTheorem t).Displays t.foralls t.conclusion :=
  ⟨⟨_, rfl, isGreatest_inferenceWidth t.foralls t.conclusion⟩, rfl⟩

theorem displays_ofRule (r : Rule) : (ofRule r).Displays r.premises r.conclusion :=
  ⟨⟨_, rfl, isGreatest_inferenceWidth r.premises r.conclusion⟩, rfl⟩

theorem Displays.premiseLines_eq {e : BankEntry} {premises : List Text} {conclusion : Text}
    (h : e.Displays premises conclusion) : e.premiseLines = premises := by
  obtain ⟨width, hlines, -⟩ := h.lines
  rw [premiseLines, hlines, List.append_cons, List.dropLast_concat, List.dropLast_concat]

end BankEntry

namespace CompilationUnit

variable {u : CompilationUnit} {name : Text}

theorem findRule?_of_no_dot (h : '.' ∉ name) :
    u.findRule? name = u.rules.find? fun r => r.name == name := by
  rw [findRule?, Text.split_of_not_mem h, findRuleAt?]

theorem Declares.arity?_eq {premises : List Text} {conclusion : Text}
    (h : u.Declares name premises conclusion) : u.arity? name = some premises.length := by
  cases h with
  | ofTheorem t ht => rw [arity?, ht]
  | ofRule r ht hr => rw [arity?, ht, hr, Option.map_some]

end CompilationUnit

namespace Bank

open CompilationUnit (Declares)

variable {u : CompilationUnit} {name : Text}

theorem entries_ofUnit (u : CompilationUnit) :
    (ofUnit u).entries = u.theorems.map .ofTheorem ++ u.rules.map .ofRule := by
  rw [entries, ofUnit, List.flatMap_map, CompilationUnit.rules, List.map_flatMap]

theorem find?_ofUnit (h : '.' ∉ name) :
    (ofUnit u).find? name = ((u.findTheorem? name).map .ofTheorem).or
      ((u.findRule? name).map .ofRule) := by
  rw [find?, entries_ofUnit, List.find?_append, List.find?_map, List.find?_map,
    CompilationUnit.findRule?_of_no_dot h]
  rfl

/-- A name without an entry is none that the unit knows, and an entry displays what the unit
declares under its name. -/
theorem find?_cases (u : CompilationUnit) (h : '.' ∉ name) :
    ((ofUnit u).find? name = none ∧ u.arity? name = none) ∨
      ∃ e premises conclusion, (ofUnit u).find? name = some e ∧
        u.Declares name premises conclusion ∧ e.Displays premises conclusion := by
  rw [find?_ofUnit h]
  cases ht : u.findTheorem? name with
  | some t => exact Or.inr ⟨_, _, _, rfl, .ofTheorem t ht, BankEntry.displays_ofTheorem t⟩
  | none =>
    cases hr : u.findRule? name with
    | some r => exact Or.inr ⟨_, _, _, rfl, .ofRule r ht hr, BankEntry.displays_ofRule r⟩
    | none => exact Or.inl ⟨rfl, by rw [CompilationUnit.arity?, ht, hr, Option.map_none]⟩

theorem arity_find? (u : CompilationUnit) (h : '.' ∉ name) :
    ((ofUnit u).find? name).map BankEntry.arity = u.arity? name := by
  rcases find?_cases u h with ⟨hfind, harity⟩ | ⟨e, premises, conclusion, hfind, hdecl, hshow⟩
  · rw [hfind, harity, Option.map_none]
  · rw [hfind, hdecl.arity?_eq, Option.map_some, hshow.arity]

theorem declares_of_find? {e : BankEntry} (h : '.' ∉ name) (he : (ofUnit u).find? name = some e) :
    ∃ premises conclusion, u.Declares name premises conclusion ∧
      e.Displays premises conclusion := by
  rcases find?_cases u h with ⟨hfind, -⟩ | ⟨e', premises, conclusion, hfind, hshow⟩
  · rw [hfind] at he
    cases he
  · obtain rfl := Option.some.inj (hfind.symm.trans he)
    exact ⟨premises, conclusion, hshow⟩

theorem exists_find?_of_mem {b : Bank} {e : BankEntry} (h : e ∈ b.entries) :
    ∃ first, b.find? e.name = some first := by
  cases hfind : b.find? e.name with
  | some first => exact ⟨first, rfl⟩
  | none => simpa using List.find?_eq_none.mp hfind e h

theorem find?_of_first {b : Bank} {e : BankEntry} {before after : List BankEntry}
    (h : b.entries = before ++ e :: after) (hnew : ∀ e' ∈ before, e'.name ≠ e.name) :
    b.find? e.name = some e := by
  refine List.find?_eq_some_iff_append.mpr ⟨beq_self_eq_true _, before, after, h, fun e' he' => ?_⟩
  simpa using hnew e' he'

end Bank

namespace Session

/-- A rule dropped on a node that gathers premises passes the check of its arity, and the checker is
asked for the conclusion. -/
def PassesArity (s : Session) (target : Nat) (rule : Text) : Prop :=
  ∃ q, s.canvas.requestTopDown target rule (s.unit.arity? rule) = .ok q

variable {s : Session} {target : Nat} {t : Tree Node} {gathered : List Text}

theorem passesArity_iff (ht : s.canvas.resolve? target = some (t, .rule))
    (hbody : t.value.body = .gathering gathered) (rule : Text) :
    s.PassesArity target rule ↔ s.unit.arity? rule = some gathered.length := by
  rw [PassesArity, Canvas.requestTopDown, ht]
  simp only [hbody]
  cases s.unit.arity? rule with
  | none => simp
  | some expected => by_cases h : expected = gathered.length <;> simp [h]

theorem passesArity_iff_premiseLines (ht : s.canvas.resolve? target = some (t, .rule))
    (hbody : t.value.body = .gathering gathered) {name : Text} (hdot : '.' ∉ name)
    {e : BankEntry} (he : s.bank.find? name = some e) :
    s.PassesArity target name ↔ gathered.length = e.premiseLines.length := by
  obtain ⟨premises, conclusion, hdecl, hshow⟩ := Bank.declares_of_find? hdot he
  rw [passesArity_iff ht hbody, hdecl.arity?_eq, hshow.premiseLines_eq, Option.some.injEq, eq_comm]

end Session

/-- The bank of a unit knows the names without a dot that the unit knows, with their arity, and
displays what they stand for. A drop from the bank on gathered premises passes the check when there
are as many as the first entry of the dropped name displays. -/
theorem Bank.shows_arity (u : CompilationUnit) :
    (∀ name, '.' ∉ name → ((ofUnit u).find? name).map BankEntry.arity = u.arity? name ∧
      ∀ e, (ofUnit u).find? name = some e → e.name = name ∧
        ∃ premises conclusion, u.Declares name premises conclusion ∧
          e.Displays premises conclusion) ∧
    ∀ s : Session, s.unit = u → ∀ e ∈ s.bank.entries, '.' ∉ e.name →
      ∃ first, s.bank.find? e.name = some first ∧
        (∀ before after, s.bank.entries = before ++ e :: after →
          (∀ e' ∈ before, e'.name ≠ e.name) → first = e) ∧
        ∀ target t gathered, s.canvas.resolve? target = some (t, .rule) →
          t.value.body = .gathering gathered →
            (s.PassesArity target e.name ↔ gathered.length = first.premiseLines.length) := by
  refine ⟨fun name hdot => ⟨arity_find? u hdot, fun e he => ⟨?_, declares_of_find? hdot he⟩⟩, ?_⟩
  · simpa using List.find?_some he
  · intro s _ e he hdot
    obtain ⟨first, hfirst⟩ := exists_find?_of_mem he
    refine ⟨first, hfirst, fun before after hentries hnew => ?_,
      fun target t gathered ht hbody => ?_⟩
    · exact Option.some.inj (hfirst.symm.trans (find?_of_first hentries hnew))
    · exact Session.passesArity_iff_premiseLines ht hbody hdot hfirst

def CompilationUnit.twoArities : CompilationUnit where
  theorems := [{ name := ['t'], foralls := [['p']], conclusion := ['c'] }]
  judgments := [{ name := ['j'], rules := [{ name := ['t'], conclusion := ['c'] }] }]

namespace Session

theorem shadowed_rule_refused :
    let b : Bridge := ⟨fun _ _ _ => .ok [], fun _ _ _ => .ok ['c'], fun _ _ _ _ => .ok none⟩
    let s := run b { file := [], unit := .twoArities } [.edit (.command (.addPremises [] true))]
    let e : BankEntry := .ofRule { name := ['t'], conclusion := ['c'] }
    let gathered : List Text := []
    e ∈ s.bank.entries ∧ '.' ∉ e.name ∧
      (∃ t, s.canvas.resolve? 1 = some (t, .rule) ∧ t.value.body = .gathering gathered) ∧
      ¬ (s.PassesArity 1 e.name ↔ gathered.length = e.premiseLines.length) ∧
      (s.dropRule b 1 e.name).1 = .error (.arityMismatch ['t'] 1 0) := by
  intro b s e gathered
  have ht : s.canvas.resolve? 1 = some
      (⟨{ key := 0, conclusion := [], free := true, body := .gathering [] }, .nil⟩, .rule) := rfl
  refine ⟨by decide, by decide, ⟨_, ht, rfl⟩, fun h => ?_, rfl⟩
  have hknown := (passesArity_iff ht rfl e.name).mp (h.mpr rfl)
  have hone : s.unit.arity? e.name = some 1 := rfl
  rw [hone] at hknown
  cases hknown

theorem first_theorem_passes :
    let b : Bridge := ⟨fun _ _ _ => .ok [], fun _ _ _ => .ok ['c'], fun _ _ _ _ => .ok none⟩
    let s := run b { file := [], unit := .twoArities }
      [.edit (.command (.addPremises [['a']] true))]
    ((Bank.ofUnit .twoArities).find? ['t']).map BankEntry.arity = some 1 ∧
      s.PassesArity 1 ['t'] := by
  intro b s
  obtain ⟨hnames, hdrops⟩ := Bank.shows_arity .twoArities
  have hdot : '.' ∉ ['t'] := by decide
  have he : BankEntry.ofTheorem { name := ['t'], foralls := [['p']], conclusion := ['c'] } ∈
    s.bank.entries := by decide
  obtain ⟨first, hfirst, -, hpasses⟩ := hdrops s rfl _ he hdot
  obtain rfl := Option.some.inj hfirst
  exact ⟨(hnames ['t'] hdot).1, (hpasses 1 _ [['a']] rfl rfl).mpr rfl⟩

end Session

end ProofDesk
