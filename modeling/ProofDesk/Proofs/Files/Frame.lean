import ProofDesk.Proofs.Files.Path

namespace ProofDesk

theorem exists_of_bind_eq_ok {ε α β : Type} {x : Except ε α} {r : α → Except ε β} {b : β}
    (h : x >>= r = .ok b) : ∃ a, x = .ok a ∧ r a = .ok b := by
  cases x with
  | error e => cases h
  | ok a => exact ⟨a, rfl, h⟩

namespace Files

/-- The second tree has more directories on the way to a place, and is the same elsewhere. -/
def AddsAbove (top : Place) (f g : Files) : Prop :=
  ∀ place, g.entry? place = f.entry? place ∨
    (f.entry? place = none ∧ g.entry? place = some .directory ∧ place <+: top)

/-- The second tree may have the file at a place, and directories on the way there that the first
has not; it is the same elsewhere. -/
def WritesOnly (target : Place) (text : Text) (f g : Files) : Prop :=
  ∀ place, g.entry? place = f.entry? place ∨
    (f.entry? place = none ∧ g.entry? place = some .directory ∧ place <+: target) ∨
    (place = target ∧ g.entry? place = some (.file text))

variable {f g k : Files} {top : Place}

theorem entry_put (f : Files) {place : Place} (entry : FileEntry) (hp : place ≠ []) (q : Place) :
    Files.entry? (f.put place entry) q = if q = place then some entry else f.entry? q := by
  by_cases hq : q = []
  · subst hq
    simp [ entry?, Ne.symm hp]
  · by_cases hqp : q = place
    · subst hqp
      have hnone : (f.entries.filter fun e => e.1 != q).find? (fun e => e.1 == q) = none := by
        rw [List.find?_eq_none]
        intro e he
        simpa using (List.mem_filter.mp he).2
      simp [ entry?, put, hp, List.find?_append, hnone]
    · have hsame : (f.entries.filter fun e => e.1 != place).find? (fun e => e.1 == q)
          = f.entries.find? fun e => e.1 == q := by
        rw [List.find?_filter]
        refine congrArg (List.find? · f.entries) (funext fun e => ?_)
        by_cases he : e.1 = q <;> simp [he, hqp]
      simp [ entry?, put, hq, hqp, List.find?_append, hsame, Ne.symm hqp]

theorem AddsAbove.refl (f : Files) : AddsAbove top f f :=
  fun _ => Or.inl rfl

theorem AddsAbove.trans (h : AddsAbove top f g) (h' : AddsAbove top g k) :
    AddsAbove top f k := by
  intro q
  rcases h q with hq | ⟨hn, hd, hpre⟩
  · rcases h' q with hq' | ⟨hn', hd', hpre'⟩
    · exact Or.inl (hq'.trans hq)
    · exact Or.inr ⟨hq ▸ hn', hd', hpre'⟩
  · rcases h' q with hq' | ⟨hn', hd', hpre'⟩
    · exact Or.inr ⟨hn, hq'.trans hd, hpre⟩
    · exact Or.inr ⟨hn, hd', hpre'⟩

/-- A step by a name goes on from a directory, and ends the way at anything else. -/
theorem follow_cons (f : Files) (base : Place) {step : Text} (rest : List Text)
    (hdot : step ≠ ['.']) (hdots : step ≠ ['.', '.']) (hlong : ¬nameLimit < Text.bytes step) :
    f.follow base (step :: rest) = match f.entry? (base ++ [step]) with
      | some .directory => f.follow (base ++ [step]) rest
      | found => if rest = [] then .ok (base ++ [step], found)
          else .error (if found = none then .missing else .notDirectory) := by
  rw [follow, if_neg hdot, if_neg hdots, if_neg hlong]
  cases hentry : f.entry? (base ++ [step]) with
  | none => simp [hentry]
  | some entry => cases entry <;> simp [hentry]

/-- A way without steps up leads to its names, one after the other. -/
theorem place_of_follow {base : Place} {steps : List Text} {place : Place}
    {found : Option FileEntry} (hup : ['.', '.'] ∉ steps)
    (h : f.follow base steps = .ok (place, found)) :
    place = base ++ steps.filter (· ≠ ['.']) ∧
      (found = none → place ≠ [] ∧ f.entry? place = none) := by
  induction steps generalizing base with
  | nil =>
    obtain ⟨rfl, rfl⟩ := Prod.mk.inj (Except.ok.inj h)
    exact ⟨by simp, fun hf => by cases hf⟩
  | cons step rest ih =>
    rw [List.mem_cons, not_or] at hup
    by_cases hdot : step = ['.']
    · rw [follow, if_pos hdot] at h
      obtain ⟨hp, hn⟩ := ih hup.2 h
      exact ⟨by rw [hp, List.filter_cons_of_neg (by simp [hdot])], hn⟩
    by_cases hlong : nameLimit < Text.bytes step
    · rw [follow, if_neg hdot, if_neg (Ne.symm hup.1), if_pos hlong] at h
      cases h
    have hnext : base ++ step :: rest.filter (· ≠ ['.'])
        = base ++ [step] ++ rest.filter (· ≠ ['.']) := by simp
    rw [follow_cons f base rest hdot (Ne.symm hup.1) hlong] at h
    rw [List.filter_cons_of_pos (by simp [hdot]), hnext]
    split at h
    next => exact ih hup.2 h
    next =>
      split at h
      next hrest =>
        obtain ⟨rfl, rfl⟩ := Prod.mk.inj (Except.ok.inj h)
        exact ⟨by simp [hrest], fun hf => ⟨by simp, hf⟩⟩
      next => cases h

theorem addsAbove_makeDirectory {path : Text} (hup : .parent ∉ Text.pathParts path)
    (htop : place path <+: top) (h : f.makeDirectory path = .ok g) : AddsAbove top f g := by
  obtain ⟨hdots, hplace⟩ := place_eq_filter hup
  simp only [makeDirectory, bind, Except.bind] at h
  split at h
  next => cases h
  next =>
    split at h
    next => cases h
    next q hq =>
      split at h
      next => cases h
      next made _ =>
        obtain ⟨hmade, hfree⟩ := place_of_follow hdots hq
        obtain ⟨hne, hnone⟩ := hfree rfl
        rw [List.nil_append, ← hplace] at hmade
        subst hmade
        obtain rfl := Except.ok.inj h
        intro q
        rw [entry_put f _ hne]
        by_cases hq : q = place path
        · exact Or.inr ⟨hq ▸ hnone, if_pos hq, hq ▸ htop⟩
        · exact Or.inl (if_neg hq)

theorem addsAbove_makeDirectories {paths : List Text}
    (hup : ∀ p ∈ paths, PathPart.parent ∉ Text.pathParts p) (htop : ∀ p ∈ paths, place p <+: top) :
    AddsAbove top f (f.makeDirectories paths).2 := by
  induction paths generalizing f with
  | nil => exact .refl f
  | cons path above ih =>
    obtain ⟨hp, hups⟩ := List.forall_mem_cons.mp hup
    obtain ⟨ht, htops⟩ := List.forall_mem_cons.mp htop
    rw [makeDirectories]
    split
    next made hmade => exact addsAbove_makeDirectory hp ht hmade
    next =>
      have habove := ih (f := f) hups htops
      split
      next failure made hmade => rwa [hmade] at habove
      next made hmade =>
        rw [hmade] at habove
        split
        next made' hmade' => exact habove.trans (addsAbove_makeDirectory hp ht hmade')
        next => exact habove
    next => exact .refl f

/-- A file can be put only where its path has a last name, and there. -/
theorem place_of_vacancy {path : Text} (hup : .parent ∉ Text.pathParts path)
    {found : Place × Option FileEntry} (h : f.vacancy path = .ok found) :
    found.1 = place path ∧ place path ≠ [] := by
  obtain ⟨hdots, hplace⟩ := place_eq_filter hup
  obtain ⟨_, -, h⟩ := exists_of_bind_eq_ok h
  dsimp only at h
  split at h
  next => cases h
  next last hlast =>
    obtain ⟨⟨base, entry⟩, hbase, h⟩ := exists_of_bind_eq_ok h
    dsimp only at h
    split at h
    next => cases h
    next =>
      split at h
      next => cases h
      next =>
        split at h
        next => cases h
        next hidle =>
          obtain ⟨r, hr, h⟩ := exists_of_bind_eq_ok h
          have hfound : found = r := by
            split at h
            next => cases h
            next => exact (Except.ok.inj h).symm
          subst hfound
          have hsteps : (segments path).dropLast ++ [last] = segments path :=
            List.dropLast_append_getLast? last hlast
          rw [← hsteps] at hdots
          rw [← hsteps, List.filter_append] at hplace
          have hdot : last ≠ ['.'] := fun he => hidle (Or.inl he)
          have hb := (place_of_follow (fun hm => hdots (List.mem_append_left _ hm)) hbase).1
          have hl := (place_of_follow (fun hm => hdots (List.mem_append_right _ hm)) hr).1
          rw [List.filter_cons_of_pos (by simpa using hdot), List.filter_nil] at hplace hl
          rw [hb, List.nil_append] at hl
          exact ⟨hl.trans hplace.symm, by simp [hplace]⟩

/-- A file is written at the place of its path, unless a sink takes what is written there. -/
theorem write_cases {path text : Text} (hup : .parent ∉ Text.pathParts path)
    (h : f.write path text = .ok g) :
    g = f ∨ (place path ≠ [] ∧ g = f.put (place path) (.file text)) := by
  obtain ⟨⟨q, found⟩, hq, h⟩ := exists_of_bind_eq_ok h
  obtain ⟨rfl, hne⟩ := place_of_vacancy hup hq
  split at h
  next => exact Or.inl (Except.ok.inj h).symm
  next target _ htarget =>
    rw [← (Prod.mk.inj htarget).1] at h
    exact Or.inr ⟨hne, (Except.ok.inj h).symm⟩

theorem writesOnly_write {path : Text} (hup : .parent ∉ Text.pathParts path)
    (h : AddsAbove (place path) f g) (text : Text) :
    (∀ k, g.write path text = .ok k → WritesOnly (place path) text f k) ∧
      WritesOnly (place path) text f g := by
  have hmade : WritesOnly (place path) text f g := fun q => (h q).imp_right Or.inl
  refine ⟨fun k hw => ?_, hmade⟩
  rcases write_cases hup hw with rfl | ⟨hne, rfl⟩
  · exact hmade
  · intro q
    rw [entry_put g _ hne]
    by_cases hq : q = place path
    · exact Or.inr (Or.inr ⟨hq, if_pos hq⟩)
    · rw [if_neg hq]
      exact hmade q

theorem writesOnly_save (f : Files) {path : Text} (hup : .parent ∉ Text.pathParts path)
    (text : Text) : WritesOnly (place path) text f (f.save path text).2 := by
  have hmade : ∀ above, Text.parentPath? path = some above → AddsAbove (place path) f
      (f.makeDirectories (lineage (Text.pathParts above).length above)).2 := by
    intro above habove
    have hpre : ∀ p ∈ lineage (Text.pathParts above).length above,
        Text.pathParts p <+: Text.pathParts path := fun p hp =>
      (pathParts_prefix_of_mem_lineage hp).trans (Text.pathParts_prefix_of_parentPath? habove)
    exact addsAbove_makeDirectories (fun p hp hm => hup ((hpre p hp).subset hm))
      fun p hp => (hpre p hp).filterMap _
  rw [save]
  cases habove : Text.parentPath? path with
  | none =>
    have hw := writesOnly_write hup (.refl f) text
    dsimp only
    split
    next g hg => exact hw.1 g hg
    next => exact hw.2
  | some above =>
    have hadds := hmade above habove
    dsimp only
    split
    next failure g hm =>
      rw [hm] at hadds
      exact (writesOnly_write hup hadds text).2
    next g hm =>
      rw [hm] at hadds
      split
      next k hk => exact (writesOnly_write hup hadds text).1 k hk
      next => exact (writesOnly_write hup hadds text).2

end Files

end ProofDesk
