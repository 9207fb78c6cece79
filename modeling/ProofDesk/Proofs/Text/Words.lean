import Mathlib.Data.List.Basic
import Mathlib.Data.List.TakeWhile
import ProofDesk.Text.Word

namespace ProofDesk.Text

/-- A maximal run of identifier characters in the text of a line, between what stands before it and
what stands behind it. -/
structure IsRun (text front run back : Text) : Prop where
  parts : text = front ++ run ++ back
  ne_nil : run ≠ []
  identifier : ∀ c ∈ run, isIdentifierChar c = true
  opens : ∀ c, front.getLast? = some c → isIdentifierChar c = false
  closes : ∀ c, back.head? = some c → isIdentifierChar c = false

def Touches (front run : Text) (column : Nat) : Prop :=
  front.units ≤ column ∧ column ≤ front.units + run.units

/-- The run without its leading and its trailing dots; nothing is left of one that has only dots. -/
inductive Undotted (run : Text) : Option Text → Prop
  | nothing (h : ∀ c ∈ run, c = '.') : Undotted run none
  | word (leading trailing : Nat) (word : Text)
    (parts : run = List.replicate leading '.' ++ word ++ List.replicate trailing '.')
    (ne_nil : word ≠ []) (head : word.head? ≠ some '.') (last : word.getLast? ≠ some '.') :
    Undotted run (some word)

variable {s text before after front run back : Text} {line : Nat}

theorem exists_of_units_le {a b c d : Text} (h : a ++ b = c ++ d) (hle : a.units ≤ c.units) :
    ∃ middle, c = a ++ middle ∧ b = middle ++ d := by
  rcases List.append_eq_append_iff.mp h with hshort | ⟨middle, rfl, rfl⟩
  · exact hshort
  · cases middle with
    | nil => exact ⟨[], by simp, rfl⟩
    | cons x middle =>
      have hpos := unitsOf_pos x
      rw [units_append, units_cons] at hle
      omega

/-- A column at a character boundary touches a run where it cuts the run in two. -/
theorem exists_of_touches (hparts : before ++ after = front ++ run ++ back)
    (h : Touches front run before.units) :
    ∃ near far, run = near ++ far ∧ before = front ++ near ∧ after = far ++ back := by
  rw [List.append_assoc] at hparts
  obtain ⟨near, hbefore, hrest⟩ := exists_of_units_le hparts.symm h.1
  have hnear : near.units ≤ run.units := by
    have hle := h.2
    rw [hbefore, units_append] at hle
    omega
  obtain ⟨far, hrun, hafter⟩ := exists_of_units_le hrest.symm hnear
  exact ⟨near, far, hrun, hbefore, hafter⟩

theorem takeWhile_append_of_ends {p : Char → Bool} (hrun : ∀ c ∈ run, p c = true)
    (hback : ∀ c, back.head? = some c → p c = false) : (run ++ back).takeWhile p = run := by
  have hstop : back.takeWhile p = [] := by
    cases back with
    | nil => rfl
    | cons c back => rw [List.takeWhile_cons_of_neg (by simp [hback c rfl])]
  rw [List.takeWhile_append_of_pos hrun, hstop, List.append_nil]

theorem IsRun.runAround_eq (h : IsRun (before ++ after) front run back)
    (ht : Touches front run before.units) : runAround before after = run := by
  obtain ⟨near, far, rfl, rfl, rfl⟩ := exists_of_touches h.parts ht
  have hnear : ∀ c ∈ near.reverse, isIdentifierChar c = true := fun c hc =>
    h.identifier c (List.mem_append_left far (List.mem_reverse.mp hc))
  have hfar : ∀ c ∈ far, isIdentifierChar c = true := fun c hc =>
    h.identifier c (List.mem_append_right near hc)
  have hopens : ∀ c, front.reverse.head? = some c → isIdentifierChar c = false := by
    rw [List.head?_reverse]
    exact h.opens
  rw [runAround, List.reverse_append, takeWhile_append_of_ends hnear hopens,
    takeWhile_append_of_ends hfar h.closes, List.reverse_reverse]

theorem head?_dropWhile_false {p : Char → Bool} {c : Char} (h : (s.dropWhile p).head? = some c) :
    p c = false := by
  have hhead := List.head?_dropWhile_not p s
  rw [h] at hhead
  simpa using hhead

theorem isRun_runAround (h : runAround before after ≠ []) :
    ∃ front back, IsRun (before ++ after) front (runAround before after) back ∧
      Touches front (runAround before after) before.units := by
  have hbefore : before = (before.reverse.dropWhile isIdentifierChar).reverse ++
      (before.reverse.takeWhile isIdentifierChar).reverse := by
    rw [← List.reverse_append, List.takeWhile_append_dropWhile, List.reverse_reverse]
  have hafter : after = after.takeWhile isIdentifierChar ++ after.dropWhile isIdentifierChar :=
    List.takeWhile_append_dropWhile.symm
  refine ⟨(before.reverse.dropWhile isIdentifierChar).reverse, after.dropWhile isIdentifierChar,
    ⟨?_, h, fun c hc => ?_, fun c hc => ?_, fun c hc => head?_dropWhile_false hc⟩, ?_⟩
  · conv_lhs => rw [hbefore, hafter]
    simp only [runAround, List.append_assoc]
  · rcases List.mem_append.mp hc with hc | hc
    · exact List.mem_takeWhile_imp (List.mem_reverse.mp hc)
    · exact List.mem_takeWhile_imp hc
  · rw [List.getLast?_reverse] at hc
    exact head?_dropWhile_false hc
  · have hunits := congrArg units hbefore
    rw [units_append] at hunits
    rw [Touches, runAround, units_append]
    omega

theorem undotted_trimOf (run : Text) :
    Undotted run (if trimOf '.' run = [] then none else some (trimOf '.' run)) := by
  have hdots : ∀ t : Text, ∃ n, t.takeWhile (· == '.') = List.replicate n '.' := fun t =>
    ⟨_, List.eq_replicate_length.mpr fun c hc => by simpa using List.mem_takeWhile_imp hc⟩
  generalize hd : run.dropWhile (· == '.') = rest
  obtain ⟨m, hm⟩ := hdots run
  obtain ⟨n, hn⟩ := hdots rest.reverse
  have hrest : rest = trimOf '.' run ++ List.replicate n '.' := by
    rw [trimOf, hd, ← List.reverse_replicate, ← hn, ← List.reverse_append,
      List.takeWhile_append_dropWhile, List.reverse_reverse]
  have hrun : run = List.replicate m '.' ++ trimOf '.' run ++ List.replicate n '.' := by
    rw [List.append_assoc, ← hrest, ← hm, ← hd, List.takeWhile_append_dropWhile]
  split
  next hnil =>
    refine .nothing fun c hc => ?_
    rw [hrun, hnil, List.append_nil, List.replicate_append_replicate] at hc
    exact List.eq_of_mem_replicate hc
  next hne =>
    refine .word m n _ hrun hne (fun hhead => ?_) fun hlast => ?_
    · have hfirst : rest.head? = some '.' := by
        rw [hrest, List.head?_append_of_ne_nil _ hne, hhead]
      rw [← hd] at hfirst
      simpa using head?_dropWhile_false hfirst
    · rw [trimOf, hd, List.getLast?_reverse] at hlast
      simpa using head?_dropWhile_false hlast

theorem wordAt?_eq (h : s.lineText? line = some text) (hparts : text = before ++ after) :
    s.wordAt? ⟨line, before.units⟩ =
      if trimOf '.' (runAround before after) = [] then none
      else some (trimOf '.' (runAround before after)) := by
  rw [wordAt?, h, Option.bind_eq_bind, Option.bind_some, hparts, takeUnits_units_append]
  simp only [List.drop_left]

/-- The answer for a column of a line: the run that the column touches, without the dots at its
ends, or nothing where it touches no run. -/
structure ReadsWord (text : Text) (column : Nat) (answer : Option Text) : Prop where
  touched : ∀ front run back, IsRun text front run back → Touches front run column →
    Undotted run answer
  untouched : (∀ front run back, IsRun text front run back → ¬ Touches front run column) →
    answer = none
  shape : ∀ word, answer = some word → word ≠ [] ∧ (∀ c ∈ word, isIdentifierChar c = true) ∧
    word.head? ≠ some '.' ∧ word.getLast? ≠ some '.'

theorem readsWord (h : s.lineText? line = some text) (hparts : text = before ++ after) :
    ReadsWord text before.units (s.wordAt? ⟨line, before.units⟩) := by
  rw [wordAt?_eq h hparts, hparts]
  refine ⟨fun front run back hrun ht => ?_, fun hno => ?_, fun word hword => ?_⟩
  · rw [hrun.runAround_eq ht]
    exact undotted_trimOf run
  · have hnil : runAround before after = [] := by
      by_contra hne
      obtain ⟨front, back, hrun, ht⟩ := isRun_runAround hne
      exact hno front _ back hrun ht
    rw [hnil]
    rfl
  · have hundotted := undotted_trimOf (runAround before after)
    rw [hword] at hundotted
    cases hundotted with
    | word _ _ _ hparts hne hhead hlast =>
      refine ⟨hne, fun c hc => ?_, hhead, hlast⟩
      have hmem : c ∈ runAround before after := by
        rw [hparts]
        exact List.mem_append_left _ (List.mem_append_right _ hc)
      obtain ⟨front, back, hrun, -⟩ := isRun_runAround (List.ne_nil_of_mem hmem)
      exact hrun.identifier c hmem

/-- On a line of a text every column between two characters reads the word of the run that it
touches, and columns that touch one run read one word. -/
theorem wordAt?_reads_run (s : Text) (line : Nat) (text : Text)
    (h : s.lineText? line = some text) :
    (∀ before after, text = before ++ after →
      ReadsWord text before.units (s.wordAt? ⟨line, before.units⟩)) ∧
    ∀ front run back, IsRun text front run back → ∀ before after before' after',
      text = before ++ after → text = before' ++ after' → Touches front run before.units →
      Touches front run before'.units →
        s.wordAt? ⟨line, before'.units⟩ = s.wordAt? ⟨line, before.units⟩ := by
  refine ⟨fun before after hparts => readsWord h hparts, ?_⟩
  intro front run back hrun before after before' after' hparts hparts' ht ht'
  have hnear : runAround before after = run := (hparts ▸ hrun).runAround_eq ht
  have hfar : runAround before' after' = run := (hparts' ▸ hrun).runAround_eq ht'
  rw [wordAt?_eq h hparts, wordAt?_eq h hparts', hnear, hfar]

theorem wordAt?_reads_beside_return :
    let s : Text := ".é-x.\r\nb".toList
    let run : Text := ".é-x.".toList
    s.lineText? 0 = some run ∧ IsRun run [] run [] ∧ Undotted run (s.wordAt? ⟨0, 2⟩) ∧
      s.wordAt? ⟨0, 5⟩ = s.wordAt? ⟨0, 0⟩ := by
  intro s run
  have hline : s.lineText? 0 = some run := by decide
  have hletter : isAlphanumeric 'é' = true ∧ isAlphanumeric 'x' = true := by decide
  have hrun : IsRun run [] run [] := by
    refine ⟨rfl, by decide, ?_, fun c hc => (by cases hc), fun c hc => (by cases hc)⟩
    simp [run, isIdentifierChar, hletter]
  obtain ⟨hreads, hsame⟩ := wordAt?_reads_run s 0 run hline
  have hfirst : Touches [] run (units []) := ⟨by decide, by decide⟩
  have hinside : Touches [] run (units ".é".toList) := ⟨by decide, by decide⟩
  have hlast : Touches [] run (units run) := ⟨by decide, by decide⟩
  refine ⟨hline, hrun, ?_, ?_⟩
  · exact (hreads ".é".toList "-x.".toList rfl).touched _ _ _ hrun hinside
  · exact hsame _ _ _ hrun [] run run [] rfl rfl hfirst hlast

end ProofDesk.Text
