import ProofDesk.Proofs.Derivation.References
import ProofDesk.Proofs.Forest.Postorder
import ProofDesk.Proofs.Text.Cuts

namespace ProofDesk

/-- No part of the step can break the line that it is written on. -/
structure Step.Plain (s : Step) : Prop where
  conclusion : '\n' ∉ s.conclusion
  rule : ∀ x ∈ s.rule.trim, isBlank x = false
  name : ∀ x ∈ s.name.trim, isBlank x = false ∧ x ≠ ':'

theorem Step.plain_iff {s : Step} : s.Plain ↔ (s.conclusion.all fun x => x != '\n') = true ∧
    (s.rule.trim.all fun x => !isBlank x) = true ∧
      (s.name.trim.all fun x => !isBlank x && x != ':') = true := by
  have hconclusion : '\n' ∉ s.conclusion ↔ ∀ x ∈ s.conclusion, x ≠ '\n' :=
    ⟨fun h x hx he => h (he ▸ hx), fun h hx => h _ hx rfl⟩
  simp only [List.all_eq_true, Bool.not_eq_true', Bool.and_eq_true, bne_iff_ne, ← hconclusion]
  exact ⟨fun h => ⟨h.conclusion, h.rule, h.name⟩,
    fun ⟨hconclusion, hrule, hname⟩ => ⟨hconclusion, hrule, hname⟩⟩

instance (s : Step) : Decidable s.Plain :=
  decidable_of_iff' _ Step.plain_iff

def Step.content (s : Step) : Text × Text :=
  (s.conclusion.trim, s.rule.trim)

namespace Script

section Clause

def clause (conclusion rule : Text) (used : List Text) : Text :=
  conclusion ++ " by rule ".toList ++ rule ++
    (if used = [] then [] else " on ".toList ++ Text.join ", ".toList used)

variable {conclusion conclusion' rule rule' : Text} {used used' : List Text}

/-- What stands before the last blank of a clause that refers to names. -/
def opening (conclusion rule : Text) (used : List Text) : Text :=
  if used = [] then clause conclusion rule [] ++ " on".toList
  else clause conclusion rule used ++ [',']

theorem clause_nil (conclusion rule : Text) :
    clause conclusion rule [] = conclusion ++ " by rule".toList ++ ' ' :: rule := by
  simp [clause]

theorem clause_concat (conclusion rule : Text) (used : List Text) (name : Text) :
    clause conclusion rule (used ++ [name]) = opening conclusion rule used ++ ' ' :: name := by
  by_cases h : used = []
  · subst h
    simp [opening, clause, Text.join]
  · simp [opening, clause, h, Text.join_concat _ _ h]

/-- The word before the last blank tells whether a clause refers to names: it is `rule`, or it is
`on` or ends with a comma. -/
theorem opening_ne (used : List Text) :
    conclusion ++ " by rule".toList ≠ opening conclusion' rule' used := by
  intro h
  have hlast := congrArg List.getLast? h
  by_cases hu : used = [] <;> simp [opening, hu] at hlast

theorem clause_injective (hr : ' ' ∉ rule) (hr' : ' ' ∉ rule') (hu : ∀ a ∈ used, ' ' ∉ a)
    (hu' : ∀ a ∈ used', ' ' ∉ a)
    (h : clause conclusion rule used = clause conclusion' rule' used') :
    conclusion = conclusion' ∧ rule = rule' ∧ used = used' := by
  have base : clause conclusion rule [] = clause conclusion' rule' [] →
      conclusion = conclusion' ∧ rule = rule' := by
    intro h
    rw [clause_nil, clause_nil] at h
    obtain ⟨hc, rfl⟩ := Text.last_cut_unique hr hr' h
    exact ⟨List.append_cancel_right hc, rfl⟩
  induction used using List.reverseRecOn generalizing used' with
  | nil =>
    rcases List.eq_nil_or_concat used' with rfl | ⟨used', b, rfl⟩
    · exact ⟨(base h).1, (base h).2, rfl⟩
    · rw [List.concat_eq_append] at hu' h
      rw [clause_nil, clause_concat] at h
      exact absurd (Text.last_cut_unique hr (hu' b (by simp)) h).1 (opening_ne used')
  | append_singleton used a ih =>
    rw [clause_concat] at h
    have ha : ' ' ∉ a := hu a (by simp)
    rcases List.eq_nil_or_concat used' with rfl | ⟨used', b, rfl⟩
    · rw [clause_nil] at h
      exact absurd (Text.last_cut_unique ha hr' h).1.symm (opening_ne used)
    · rw [List.concat_eq_append] at hu' h ⊢
      rw [clause_concat] at h
      obtain ⟨hopen, rfl⟩ := Text.last_cut_unique ha (hu' b (by simp)) h
      have hrest := ih (fun x hx => hu x (List.mem_append_left _ hx))
        (fun x hx => hu' x (List.mem_append_left _ hx))
      by_cases hn : used = [] <;> by_cases hn' : used' = []
      · subst hn hn'
        rw [opening, opening, if_pos rfl, if_pos rfl] at hopen
        obtain ⟨hc, hr⟩ := base (List.append_cancel_right hopen)
        exact ⟨hc, hr, rfl⟩
      · have hlast := congrArg List.getLast? hopen
        simp [opening, hn, hn'] at hlast
      · have hlast := congrArg List.getLast? hopen
        simp [opening, hn, hn'] at hlast
      · rw [opening, opening, if_neg hn, if_neg hn'] at hopen
        obtain ⟨hc, hr, rfl⟩ := hrest (List.append_cancel_right hopen)
        exact ⟨hc, hr, rfl⟩

end Clause

section Names

theorem plain_numbered (n : Nat) : ∀ x ∈ numbered n, x ≠ ' ' ∧ x ≠ ':' ∧ x ≠ '\n' := by
  intro x hx
  rcases List.mem_cons.mp hx with rfl | hx
  · decide
  · have hdigit : x.isDigit = true := Nat.isDigit_of_mem_toDigits (by omega) (by omega) hx
    refine ⟨?_, ?_, ?_⟩ <;> rintro rfl <;> revert hdigit <;> decide

theorem plain_stepNames {steps : List Step} (hs : ∀ s ∈ steps, s.Plain) {name : Text}
    (h : name ∈ stepNames steps) : ∀ x ∈ name, x ≠ ' ' ∧ x ≠ ':' ∧ x ≠ '\n' := by
  rcases given_or_numbered h with hg | ⟨n, rfl⟩
  · obtain ⟨s, hm, rfl⟩ := List.mem_map.mp hg
    intro x hx
    obtain ⟨hblank, hcolon⟩ := (hs s hm).name x hx
    refine ⟨?_, hcolon, ?_⟩ <;> rintro rfl <;> revert hblank <;> decide
  · exact plain_numbered n

end Names

section Lines

variable {names names' : List Text} {d d' : Derivation}

def lines (names : List Text) (f : Forest Step) : List Text :=
  (names.zip (justified 0 f)).map fun (name, step, premises) =>
    name ++ ':' :: ' ' :: clause step.conclusion.trim step.rule.trim
      (premises.map fun i => names[i]?.getD [])

theorem render_eq_terminated (name quantifiers : Text) (d : Derivation) :
    render name quantifiers d = header name quantifiers d.value.conclusion ++
      Text.terminated (lines (stepNames d.steps) d.toForest) := by
  rw [render, Text.terminated, lines, List.flatMap_map]
  congr 2
  funext row
  obtain ⟨n, step, premises⟩ := row
  simp [line_eq_written, written, clause]

theorem length_topPlaces (place : Nat) (f : Forest Step) :
    (topPlaces place f).length = f.tops.length := by
  induction f generalizing place with
  | nil => rfl
  | cons s below rest _ ih => rw [topPlaces, Forest.tops, List.length_cons, List.length_cons, ih]

theorem ranked_content (place : Nat) (f : Forest Step) :
    (justified place f).map (fun r => (r.1.content, r.2.length)) = (f.map Step.content).ranked := by
  induction f generalizing place with
  | nil => rfl
  | cons s below rest ihb ihr =>
    rw [justified, List.map_append, List.map_cons, ihb, ihr, Forest.map, Forest.ranked,
      length_topPlaces, Forest.tops_map, List.length_map]

theorem map_eq_map_of {α β γ δ : Type} {xs : List α} {ys : List β} {F : α → γ} {G : β → γ}
    {P : α → δ} {Q : β → δ} (h : ∀ x ∈ xs, ∀ y ∈ ys, F x = G y → P x = Q y)
    (hm : xs.map F = ys.map G) : xs.map P = ys.map Q := by
  induction xs generalizing ys with
  | nil =>
    cases ys with
    | nil => rfl
    | cons y ys => cases hm
  | cons x xs ih =>
    cases ys with
    | nil => cases hm
    | cons y ys =>
      obtain ⟨hxy, htail⟩ := List.cons.inj hm
      rw [List.map_cons, List.map_cons, h x (by simp) y (by simp) hxy,
        ih (fun x hx y hy => h x (by simp [hx]) y (by simp [hy])) htail]

theorem map_fst_justified (place : Nat) (f : Forest Step) :
    (justified place f).map Prod.fst = f.postorder := by
  induction f generalizing place with
  | nil => rfl
  | cons s below rest ihb ihr =>
    rw [justified, List.map_append, List.map_cons, ihb, ihr, Forest.postorder]

/-- The parts of a line have no characters that would move a cut. -/
structure PlainRow (names : List Text) (row : Text × Step × List Nat) : Prop where
  name : ':' ∉ row.1
  rule : ' ' ∉ row.2.1.rule.trim
  used : ∀ a ∈ row.2.2.map fun i => names[i]?.getD [], ' ' ∉ a
  line : '\n' ∉ row.1 ++ ':' :: ' ' :: clause row.2.1.conclusion.trim row.2.1.rule.trim
    (row.2.2.map fun i => names[i]?.getD [])

theorem plainRow_of_mem (hd : ∀ s ∈ d.steps, s.Plain) {row : Text × Step × List Nat}
    (hrow : row ∈ (stepNames d.steps).zip (justified 0 d.toForest)) :
    PlainRow (stepNames d.steps) row := by
  obtain ⟨name, step, premises⟩ := row
  obtain ⟨hname, hjust⟩ := List.of_mem_zip hrow
  have hstep : step.Plain := by
    refine hd step ?_
    rw [Derivation.steps, ← map_fst_justified 0]
    exact List.mem_map_of_mem hjust
  have hused : ∀ a ∈ premises.map (fun i => (stepNames d.steps)[i]?.getD []),
      ∀ x ∈ a, x ≠ ' ' ∧ x ≠ ':' ∧ x ≠ '\n' := by
    intro a ha
    obtain ⟨i, -, rfl⟩ := List.mem_map.mp ha
    cases hi : (stepNames d.steps)[i]? with
    | none => exact fun x hx => by cases hx
    | some a => exact plain_stepNames hd (List.mem_of_getElem? hi)
  have hplain := plain_stepNames hd hname
  have hrule : ∀ x, isBlank x = true → x ∉ step.rule.trim := fun x hb hx => by
    rw [hstep.rule x hx] at hb
    cases hb
  refine ⟨fun h => (hplain _ h).2.1 rfl, hrule ' ' (by decide), fun a ha h =>
    (hused a ha _ h).1 rfl, ?_⟩
  have hconclusion : '\n' ∉ step.conclusion.trim := fun h =>
    hstep.conclusion (Text.mem_of_mem_trim h)
  have hjoin : '\n' ∉ Text.join ", ".toList
      (premises.map fun i => (stepNames d.steps)[i]?.getD []) :=
    Text.not_mem_join (by decide) fun a ha h => (hused a ha _ h).2.2 rfl
  have hn : '\n' ∉ name := fun h => (hplain _ h).2.2 rfl
  have hr := hrule '\n' (by decide)
  simp only [clause, List.mem_append, List.mem_cons, not_or]
  refine ⟨hn, by decide, by decide, ⟨⟨hconclusion, by decide⟩, hr⟩, ?_⟩
  split
  next => exact List.not_mem_nil
  next => exact fun h => (List.mem_append.mp h).elim (by decide) hjoin

/-- Equal lines have equal names, and their steps have the same content and as many premises. -/
theorem lines_injective (hd : ∀ s ∈ d.steps, s.Plain) (hd' : ∀ s ∈ d'.steps, s.Plain)
    (h : lines (stepNames d.steps) d.toForest = lines (stepNames d'.steps) d'.toForest) :
    stepNames d.steps = stepNames d'.steps ∧
      d.toForest.map Step.content = d'.toForest.map Step.content := by
  have hrows := map_eq_map_of (P := fun row : Text × Step × List Nat =>
      (row.1, row.2.1.content, row.2.2.length))
    (Q := fun row => (row.1, row.2.1.content, row.2.2.length)) (fun row hrow row' hrow' he => ?_) h
  · have hzip : ∀ d : Derivation, ((stepNames d.steps).zip (justified 0 d.toForest)).map
        (fun row => (row.1, row.2.1.content, row.2.2.length)) =
        (stepNames d.steps).zip (d.toForest.map Step.content).ranked := by
      intro d
      rw [← ranked_content 0, List.zip_map_right]
      rfl
    have hlength : ∀ d : Derivation, (stepNames d.steps).length =
        (d.toForest.map Step.content).ranked.length := by
      intro d
      rw [length_stepNames, Forest.length_ranked, Forest.size_map, Derivation.steps,
        Forest.length_postorder]
    rw [hzip, hzip] at hrows
    have hnames := congrArg (List.map Prod.fst) hrows
    have hranked := congrArg (List.map Prod.snd) hrows
    rw [List.map_fst_zip (hlength d).le, List.map_fst_zip (hlength d').le] at hnames
    rw [List.map_snd_zip (hlength d).ge, List.map_snd_zip (hlength d').ge] at hranked
    exact ⟨hnames, Forest.ranked_injective hranked⟩
  · have hplain := plainRow_of_mem hd hrow
    have hplain' := plainRow_of_mem hd' hrow'
    obtain ⟨hname, hrest⟩ := Text.first_cut_unique hplain.name hplain'.name he
    obtain ⟨hconclusion, hrule, hused⟩ := clause_injective hplain.rule hplain'.rule hplain.used
      hplain'.used (List.cons.inj hrest).2
    have hcount := congrArg List.length hused
    rw [List.length_map, List.length_map] at hcount
    simp only [Step.content, hname, hconclusion, hrule, hcount]

end Lines

section Content

theorem size_of_map_eq {α β : Type} {h : α → β} {f g : Forest α} (he : f.map h = g.map h) :
    f.size = g.size := by
  rw [← Forest.size_map h, he, Forest.size_map]

theorem topPlaces_congr {f g : Forest Step} (h : f.map Step.content = g.map Step.content)
    (place : Nat) : topPlaces place f = topPlaces place g := by
  induction f generalizing g place with
  | nil =>
    cases g with
    | nil => rfl
    | cons s below rest => cases h
  | cons s below rest _ ih =>
    cases g with
    | nil => cases h
    | cons s' below' rest' =>
      obtain ⟨-, hb, hr⟩ := Forest.cons.inj h
      rw [topPlaces, topPlaces, size_of_map_eq hb, ih hr]

theorem justified_congr {f g : Forest Step} (h : f.map Step.content = g.map Step.content)
    (place : Nat) : (justified place f).map (fun r => (r.1.content, r.2)) =
      (justified place g).map fun r => (r.1.content, r.2) := by
  induction f generalizing g place with
  | nil =>
    cases g with
    | nil => rfl
    | cons s below rest => cases h
  | cons s below rest ihb ihr =>
    cases g with
    | nil => cases h
    | cons s' below' rest' =>
      obtain ⟨hs, hb, hr⟩ := Forest.cons.inj h
      simp only [justified, List.map_append, List.map_cons, ihb hb, ihr hr, hs,
        topPlaces_congr hb, size_of_map_eq hb]

/-- The lines of a forest hang on the names and on the content of its steps. -/
theorem lines_congr {names : List Text} {f g : Forest Step}
    (h : f.map Step.content = g.map Step.content) : lines names f = lines names g := by
  have hlines : ∀ f : Forest Step, lines names f =
      (names.zip ((justified 0 f).map fun r => (r.1.content, r.2))).map fun row =>
        row.1 ++ ':' :: ' ' :: clause row.2.1.1 row.2.1.2
          (row.2.2.map fun i => names[i]?.getD []) := by
    intro f
    rw [List.zip_map_right, List.map_map]
    rfl
  rw [hlines, hlines, justified_congr h]

def heading (name quantifiers : Text) : Text :=
  "theorem ".toList ++ name.trim ++ " : ".toList
    ++ (if quantifiers.trim.isEmpty then [] else quantifiers.trim ++ [' ']) ++ "exists ".toList

theorem header_eq (name quantifiers conclusion : Text) :
    header name quantifiers conclusion =
      heading name quantifiers ++ ((conclusion.trim ++ ['.']) ++ ['\n']) := by
  unfold header heading
  generalize (if quantifiers.trim.isEmpty then [] else quantifiers.trim ++ [' ']) = given
  generalize conclusion.trim = shown
  simp

theorem header_append_injective {name quantifiers c c' rest rest' : Text} (hc : '\n' ∉ c)
    (hc' : '\n' ∉ c')
    (h : header name quantifiers c ++ rest = header name quantifiers c' ++ rest') :
    c.trim = c'.trim ∧ rest = rest' := by
  have hdot : ∀ c : Text, '\n' ∉ c → '\n' ∉ c.trim ++ ['.'] := by
    intro c hc hm
    rcases List.mem_append.mp hm with hm | hm
    · exact hc (Text.mem_of_mem_trim hm)
    · revert hm
      decide
  have hcut : (c.trim ++ ['.']) ++ '\n' :: rest = (c'.trim ++ ['.']) ++ '\n' :: rest' := by
    rw [header_eq, header_eq] at h
    simpa using h
  obtain ⟨hdotted, hrest⟩ := Text.first_cut_unique (hdot c hc) (hdot c' hc') hcut
  exact ⟨List.append_cancel_right hdotted, hrest⟩

/-- The step at a place in postorder is the first one with its name, which is not blank. -/
def Owns (steps : List Step) (place : Nat) (name : Text) : Prop :=
  ∃ before s after, steps = before ++ s :: after ∧ before.length = place ∧ s.name.trim = name ∧
    name ≠ [] ∧ ∀ r ∈ before, r.name.trim ≠ name

theorem getElem?_stepNames {steps : List Step} {place : Nat} {name : Text}
    (h : Owns steps place name) : (stepNames steps)[place]? = some name := by
  obtain ⟨before, s, after, rfl, rfl, rfl, hne, hfirst⟩ := h
  have hbefore : s.name.trim ∉ before.map fun r => r.name.trim := by
    intro hm
    obtain ⟨r, hr, he⟩ := List.mem_map.mp hm
    exact hfirst r hr he
  have hplace : (before.map fun r => r.name.trim).length = before.length := List.length_map _
  simp only [stepNames, List.map_append, List.map_cons, ← hplace]
  exact getElem?_namesFrom hne List.not_mem_nil hbefore

/-- Two derivations are written as the same theorem exactly when they are trees of the same shape
with the same conclusions and rules, and their steps get the same names. The given names agree then
wherever both are used. -/
theorem render_eq_iff (name quantifiers : Text) {d d' : Derivation}
    (hd : ∀ s ∈ d.steps, s.Plain) (hd' : ∀ s ∈ d'.steps, s.Plain) :
    (render name quantifiers d = render name quantifiers d' ↔
      d.toForest.map Step.content = d'.toForest.map Step.content ∧
        stepNames d.steps = stepNames d'.steps) ∧
      (render name quantifiers d = render name quantifiers d' →
        ∀ place own own', Owns d.steps place own → Owns d'.steps place own' → own = own') := by
  have hroot : ∀ d : Derivation, d.value ∈ d.steps := fun d => by
    simp [Derivation.steps, Derivation.toForest, Forest.postorder]
  have hiff : render name quantifiers d = render name quantifiers d' ↔
      d.toForest.map Step.content = d'.toForest.map Step.content ∧
        stepNames d.steps = stepNames d'.steps := by
    rw [render_eq_terminated, render_eq_terminated]
    constructor
    · intro h
      have htext := (header_append_injective (hd _ (hroot d)).conclusion
        (hd' _ (hroot d')).conclusion h).2
      have hfeed : ∀ {d : Derivation}, (∀ s ∈ d.steps, s.Plain) →
          ∀ l ∈ lines (stepNames d.steps) d.toForest, '\n' ∉ l := by
        intro d hd l hl
        obtain ⟨row, hrow, rfl⟩ := List.mem_map.mp hl
        exact (plainRow_of_mem hd hrow).line
      exact (lines_injective hd hd' (Text.terminated_injective (hfeed hd) (hfeed hd') htext)).symm
    · rintro ⟨hcontent, hnames⟩
      have hconclusion : d.value.conclusion.trim = d'.value.conclusion.trim :=
        congrArg Prod.fst (Forest.cons.inj hcontent).1
      rw [header_eq, header_eq, hconclusion, hnames, lines_congr hcontent]
  refine ⟨hiff, fun h place own own' ho ho' => ?_⟩
  have hown := getElem?_stepNames ho
  rw [(hiff.mp h).2, getElem?_stepNames ho'] at hown
  exact (Option.some.inj hown).symm

/-- Steps with a blank name or with the name of an earlier step are written as steps with the names
that these get. -/
theorem render_eq_of_blank_name :
    let d : Derivation := ⟨⟨['c'], [], ['r']⟩, .cons ⟨['a'], [], ['s']⟩
      (.cons ⟨['b'], ['p'], ['u']⟩ .nil .nil) (.cons ⟨['e'], ['p'], ['v']⟩ .nil .nil)⟩
    let d' : Derivation := ⟨⟨[' ', 'c'], ['d', '4'], ['r']⟩, .cons ⟨['a'], ['d', '2'], ['s', ' ']⟩
      (.cons ⟨['b'], ['p'], ['u']⟩ .nil .nil) (.cons ⟨['e'], [' '], ['v']⟩ .nil .nil)⟩
    (∀ s ∈ d.steps, s.Plain) ∧ (∀ s ∈ d'.steps, s.Plain) ∧
      render ['t'] [] d = render ['t'] [] d' ∧
      d.toForest.map Step.content = d'.toForest.map Step.content := by
  intro d d'
  have hd : ∀ s ∈ d.steps, s.Plain := by decide
  have hd' : ∀ s ∈ d'.steps, s.Plain := by decide
  have h : render ['t'] [] d = render ['t'] [] d' := by decide
  exact ⟨hd, hd', h, ((render_eq_iff ['t'] [] hd hd').1.mp h).1⟩

end Content

end Script

end ProofDesk
