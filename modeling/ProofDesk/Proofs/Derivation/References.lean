import ProofDesk.Proofs.Derivation.Naming
import ProofDesk.Proofs.Forest.Links

namespace ProofDesk

namespace Forest

variable {α : Type}

def rowsUp : Forest α → List (α × List α)
  | nil => []
  | cons a below rest => below.rowsUp ++ (a, below.tops) :: rest.rowsUp

/-- The steps with names from the list, by their places in postorder from the given one on. -/
def named (names : List Text) (place : Nat) : Forest Step → Forest (Text × Step)
  | nil => nil
  | cons s below rest =>
    cons (names[place + below.size]?.getD [], s) (below.named names place)
      (rest.named names (place + below.size + 1))

@[simp] theorem map_fst_rowsUp (f : Forest α) : f.rowsUp.map Prod.fst = f.postorder := by
  induction f with
  | nil => rfl
  | cons a below rest ihb ihr => simp [rowsUp, postorder, ihb, ihr]

theorem tops_subset_postorder (f : Forest α) : f.tops ⊆ f.postorder :=
  fun _ h => f.postorder_perm_preorder.symm.subset (f.tops_subset_preorder h)

theorem mem_before_of_rowsUp_eq {f : Forest α} {before after : List (α × List α)}
    {row : α × List α} (h : f.rowsUp = before ++ row :: after) :
    ∀ b ∈ row.2, b ∈ before.map Prod.fst := by
  induction f generalizing before after with
  | nil => simp [rowsUp] at h
  | cons a below rest ihb ihr =>
    rw [rowsUp] at h
    rcases List.append_eq_append_iff.mp h with ⟨mid, hb, hr⟩ | ⟨mid, hb, hr⟩
    · cases mid with
      | nil =>
        obtain ⟨rfl, -⟩ := List.cons.inj hr
        intro b hm
        rw [hb, List.append_nil, map_fst_rowsUp]
        exact below.tops_subset_postorder hm
      | cons first mid =>
        obtain ⟨-, hrest⟩ := List.cons.inj hr
        intro b hm
        have hlate := ihr hrest b hm
        rw [hb, List.map_append, List.map_cons]
        exact List.mem_append_right _ (List.mem_cons_of_mem _ hlate)
    · cases mid with
      | nil =>
        obtain ⟨rfl, -⟩ := List.cons.inj hr
        intro b hm
        rw [List.append_nil] at hb
        rw [← hb, map_fst_rowsUp]
        exact below.tops_subset_postorder hm
      | cons first mid =>
        obtain ⟨rfl, -⟩ := List.cons.inj hr
        exact ihb hb

end Forest

namespace Script

/-- The line of a step under a name, with the names that it refers to. -/
def written (name : Text) (step : Step) (used : List Text) : Text :=
  name ++ ": ".toList ++ step.conclusion.trim ++ " by rule ".toList ++ step.rule.trim
    ++ (if used = [] then [] else " on ".toList ++ Text.join ", ".toList used)
    ++ ['\n']

theorem line_eq_written (names : List Text) (name : Text) (step : Step) (premises : List Nat) :
    line names name step premises =
      written name step (premises.map fun i => names[i]?.getD []) := by
  cases premises with
  | nil => rfl
  | cons i premises => simp [line, written]

section Places

variable (names : List Text)

theorem map_snd_named (place : Nat) (f : Forest Step) : (f.named names place).map Prod.snd = f := by
  induction f generalizing place with
  | nil => rfl
  | cons s below rest ihb ihr => rw [Forest.named, Forest.map, ihb, ihr]

theorem names_tops_named (place : Nat) (f : Forest Step) :
    (f.named names place).tops.map Prod.fst =
      (topPlaces place f).map fun i => names[i]?.getD [] := by
  induction f generalizing place with
  | nil => rfl
  | cons s below rest _ ih => simp [Forest.named, Forest.tops, topPlaces, ih]

theorem range'_size_cons (place : Nat) (s : Step) (below rest : Forest Step) :
    List.range' place (Forest.cons s below rest).size =
      List.range' place below.size ++ (place + below.size) ::
        List.range' (place + below.size + 1) rest.size := by
  have hsize : (Forest.cons s below rest).size = below.size + (rest.size + 1) := by
    rw [Forest.size]
    omega
  rw [hsize, ← List.range'_append_1, List.range'_succ]

theorem names_postorder_named (place : Nat) (f : Forest Step) :
    (f.named names place).postorder.map Prod.fst =
      (List.range' place f.size).map fun i => names[i]?.getD [] := by
  induction f generalizing place with
  | nil => rfl
  | cons s below rest ihb ihr =>
    rw [range'_size_cons]
    simp [Forest.named, Forest.postorder, ihb, ihr]

theorem length_justified (place : Nat) (f : Forest Step) : (justified place f).length = f.size := by
  induction f generalizing place with
  | nil => rfl
  | cons s below rest ihb ihr =>
    simp only [justified, List.length_append, List.length_cons, ihb, ihr, Forest.size]
    omega

theorem lines_eq_written (place : Nat) (f : Forest Step) :
    ((((List.range' place f.size).map fun i => names[i]?.getD []).zip (justified place f)).map
        fun (name, step, premises) => line names name step premises) =
      (f.named names place).rowsUp.map fun row => written row.1.1 row.1.2 (row.2.map Prod.fst) := by
  induction f generalizing place with
  | nil => rfl
  | cons s below rest ihb ihr =>
    have hlength : ((List.range' place below.size).map fun i => names[i]?.getD []).length =
        (justified place below).length := by
      simp [length_justified]
    have hline : ∀ name, line names name s (topPlaces place below) =
        written name s ((below.named names place).tops.map Prod.fst) := by
      intro name
      rw [line_eq_written, names_tops_named]
    rw [range'_size_cons, List.map_append, List.map_cons, justified, List.zip_append hlength,
      List.zip_cons_cons, List.map_append, List.map_cons, ihb, ihr]
    simp [Forest.named, Forest.rowsUp, hline]

end Places

/-- A theorem is its header and a line for every step, premises first. The lines are those of a copy
of the derivation in which every step has another name; a line refers to the names right below its
step, in order, and their lines come before it. -/
theorem render_references (name quantifiers : Text) (d : Derivation) :
    ∃ copy : Forest (Text × Step), copy.map Prod.snd = d.toForest ∧
      copy.postorder.map Prod.fst = stepNames d.steps ∧
      (copy.postorder.map Prod.fst).Nodup ∧
      copy.rowsUp.length = d.stepCount ∧
      render name quantifiers d = header name quantifiers d.value.conclusion ++
        copy.rowsUp.flatMap (fun row => written row.1.1 row.1.2 (row.2.map Prod.fst)) ∧
      ∀ before row after, copy.rowsUp = before ++ row :: after →
        ∀ premise ∈ row.2, premise ∈ before.map Prod.fst := by
  have hlength : (stepNames d.steps).length = d.toForest.size := by
    rw [length_stepNames, Derivation.steps, Forest.length_postorder]
  have hnames : (List.range' 0 d.toForest.size).map (fun i => (stepNames d.steps)[i]?.getD []) =
      stepNames d.steps := by
    rw [← hlength]
    refine List.ext_getElem (by simp) fun i hi hi' => ?_
    simp [List.getElem?_eq_getElem hi']
  refine ⟨d.toForest.named (stepNames d.steps) 0, map_snd_named _ _ _, ?_, ?_, ?_, ?_, ?_⟩
  · rw [names_postorder_named, hnames]
  · rw [names_postorder_named, hnames]
    exact nodup_stepNames d.steps
  · rw [← List.length_map Prod.fst, Forest.map_fst_rowsUp, Forest.length_postorder,
      ← Forest.size_map Prod.snd, map_snd_named]
    rfl
  · have hlines := lines_eq_written (stepNames d.steps) 0 d.toForest
    rw [hnames] at hlines
    rw [render, List.flatMap_def, hlines, ← List.flatMap_def]
  · intro before row after h
    exact Forest.mem_before_of_rowsUp_eq h

/-- Two equal premises, under a name that looks like a number, are two lines. -/
example : render "t".toList [] ⟨⟨"c".toList, [], "both".toList⟩,
    .cons ⟨"a".toList, "d2".toList, "r".toList⟩ .nil
      (.cons ⟨"a".toList, "d2".toList, "r".toList⟩ .nil .nil)⟩ =
    ("theorem t : exists c.\nd2: a by rule r\nd3: a by rule r\n"
      ++ "d4: c by rule both on d2, d3\n").toList := by
  decide +kernel

end Script

end ProofDesk
