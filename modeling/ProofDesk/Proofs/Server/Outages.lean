import Mathlib.Data.List.SplitBy
import ProofDesk.Proofs.Server.Serving

namespace ProofDesk

def Check.isFailure : Check → Bool
  | .broken _ => true
  | .finished _ _ => false

def Effect.error? : Effect → Option Text
  | .showedError text => some text
  | _ => none

section Blocks

variable {α : Type} (p : α → Bool) {xs : List α} {x y : α}

def blocks (p : α → Bool) (xs : List α) : List (List α) :=
  (xs.splitBy fun x y => p x == p y).filter fun block => block.all p

theorem exists_splitBy_concat {r : α → α → Bool} (hlast : xs.getLast? = some x)
    (hr : r x y = true) : ∃ init g, xs.splitBy r = init ++ [g] ∧ g.getLast? = some x ∧
      (xs ++ [y]).splitBy r = init ++ [g ++ [y]] := by
  have hne : xs.splitBy r ≠ [] := by
    rw [List.splitBy_ne_nil]
    rintro rfl
    cases hlast
  obtain ⟨init, g, hsplit⟩ := (List.eq_nil_or_concat (xs.splitBy r)).resolve_left hne
  rw [List.concat_eq_append] at hsplit
  obtain ⟨hxs, hnil, hchain, houter⟩ := List.splitBy_eq_iff.mp hsplit
  have hg : g ≠ [] := by
    rintro rfl
    simp at hnil
  have hglast : g.getLast? = some x := by
    have happend : xs = init.flatten ++ g := by simpa using hxs
    rw [happend, List.getLast?_append_of_ne_nil _ hg] at hlast
    exact hlast
  refine ⟨init, g, hsplit, hglast, List.splitBy_eq_iff.mpr ⟨?_, ?_, ?_, ?_⟩⟩
  · simp [hxs]
  · simp only [List.mem_append, List.mem_singleton, not_or] at hnil ⊢
    exact ⟨hnil.1, by simp⟩
  · -- the last block grows by a value that is related to its end
    rw [List.forall_mem_append, List.forall_mem_singleton] at hchain ⊢
    refine ⟨hchain.1, List.isChain_append.mpr ⟨hchain.2, List.isChain_singleton y, ?_⟩⟩
    intro z hz w hw
    obtain rfl : x = z := Option.some.inj (hglast.symm.trans hz)
    obtain rfl : y = w := Option.some.inj hw
    exact hr
  · -- between the blocks nothing changes, since the last one has the head that it had
    obtain ⟨hinit, -, hbetween⟩ := List.isChain_append.mp houter
    refine List.isChain_append.mpr ⟨hinit, List.isChain_singleton _, ?_⟩
    rintro a ha b hb
    obtain rfl : g ++ [y] = b := Option.some.inj hb
    obtain ⟨ha', hg', hag⟩ := hbetween a ha g rfl
    refine ⟨ha', by simp, ?_⟩
    rwa [List.head_append_of_ne_nil hg']

theorem length_blocks_concat :
    (blocks p (xs ++ [y])).length =
      (blocks p xs).length + if p y = true ∧ ∀ x ∈ xs.getLast?, p x = false then 1 else 0 := by
  by_cases hjoins : ∃ x, xs.getLast? = some x ∧ p x = p y
  · obtain ⟨x, hlast, hxy⟩ := hjoins
    obtain ⟨init, g, hxs, hg, hsplit⟩ :=
      exists_splitBy_concat (r := fun x y => p x == p y) hlast (by simpa using hxy)
    -- the last value of the block has the property exactly if the new one has
    have hall : (g ++ [y]).all p = g.all p := by
      have hmem : x ∈ g := List.mem_of_getLast? hg
      cases hy : p y with
      | true => simp [hy]
      | false =>
        have hx : p x = false := hxy.trans hy
        have hgall : g.all p = false := List.all_eq_false.mpr ⟨x, hmem, by simp [hx]⟩
        simp [hgall]
    have hnew : ¬(p y = true ∧ ∀ x ∈ xs.getLast?, p x = false) := by
      rintro ⟨hy, hno⟩
      have hx := hno x hlast
      rw [hxy, hy] at hx
      cases hx
    simp only [blocks, hsplit, hxs, List.filter_append, List.filter_singleton, hall, if_neg hnew,
      List.length_append]
    cases g.all p <;> rfl
  · have hsplit : (xs ++ [y]).splitBy (fun x y => p x == p y) =
        xs.splitBy (fun x y => p x == p y) ++ [[y]] := by
      refine List.splitBy_append_cons [] fun x hx => ?_
      exact beq_eq_false_iff_ne.mpr fun hxy => hjoins ⟨x, hx, hxy⟩
    have hnew : (p y = true ∧ ∀ x ∈ xs.getLast?, p x = false) ↔ p y = true := by
      refine ⟨And.left, fun hy => ⟨hy, fun x hx => ?_⟩⟩
      exact Bool.eq_false_iff.mpr fun hpx => hjoins ⟨x, hx, hpx.trans hy.symm⟩
    simp only [blocks, hsplit, hnew, List.filter_append, List.filter_singleton, List.length_append]
    cases hy : p y <;> simp [hy]

end Blocks

namespace Server

variable {k : Checker} {s s' : Server} {x : Turn} {e : Server × Turn}
  {turns : List (Server × Turn)}

/-- What the checker gives in a turn. It runs in a turn that checks an open document. -/
def run? (k : Checker) (e : Server × Turn) : Option Check :=
  match e.2 with
  | .deed (.check uri) => (e.1.document? uri).map fun d => k e.1.log e.1.settings.launch d.text
  | _ => none

def checkerRuns (k : Checker) (turns : List (Server × Turn)) : List Check :=
  turns.filterMap (run? k)

def errors (log : List Effect) : List Text :=
  log.filterMap Effect.error?

/-- The run of the checker in the turn fails, the last one before it did not, and this is the
message. -/
def Begins (k : Checker) (before : List (Server × Turn)) (e : Server × Turn) (message : Text) :
    Prop :=
  ∃ cause, run? k e = some (.broken cause) ∧
    message = cause.message e.1.settings.launch ∧
    ∀ r ∈ (checkerRuns k before).getLast?, r.isFailure = false

/-- What a turn shows to the user and does to the flag. -/
inductive Tells (k : Checker) (s : Server) (x : Turn) (s' : Server) (noted : List Effect) : Prop
  | quiet : run? k (s, x) = none → errors noted = [] → s'.outageShown = s.outageShown →
      Tells k s x s' noted
  | ends (r : Check) : run? k (s, x) = some r → r.isFailure = false → errors noted = [] →
      s'.outageShown = false → Tells k s x s' noted
  | fails (cause : Breakdown) : run? k (s, x) = some (.broken cause) →
      errors noted = errors (s.alarm cause) → s'.outageShown = true → Tells k s x s' noted

theorem tells_check [Reader] (k : Checker) (s : Server) (uri : Uri) :
    ∃ noted, (s.validate k uri).log = s.log ++ noted ∧
      Tells k s (.deed (.check uri)) (s.validate k uri) noted := by
  have hchecks := checks_validate k s uri
  generalize s.validate k uri = t at hchecks
  cases hchecks with
  | idle hopen => exact ⟨[], by simp, .quiet (by simp [run?, hopen]) rfl rfl⟩
  | fails d cause hopen hk => exact ⟨_, rfl, .fails cause (by simp [run?, hopen, hk]) rfl rfl⟩
  | garbled d output errors cause hopen hk hreport =>
    exact ⟨_, rfl, .ends (.finished output errors) (by simp [run?, hopen, hk]) rfl rfl rfl⟩
  | succeeds d output errors a hk hv =>
    exact ⟨_, rfl, .ends (.finished output errors) (by simp [run?, hv.isOpen, hk]) rfl rfl rfl⟩

theorem errors_askedFormat (asked : List Uri) : errors (asked.map .askedFormat) = [] := by
  simp [errors, Effect.error?, List.filterMap_map]

theorem tells_turn [Reader] (k : Checker) (s : Server) (x : Turn) :
    ∃ noted, (s.turn k x).log = s.log ++ noted ∧ Tells k s x (s.turn k x) noted := by
  cases x with
  | deed x =>
    cases x with
    | upsert other text version =>
      exact ⟨[], by simp [turn, perform], .quiet rfl rfl (by simp [turn, perform])⟩
    | close other => exact ⟨[], by simp [turn, perform, closeDocument], .quiet rfl rfl rfl⟩
    | apply settings => exact ⟨[], by simp [turn, perform], .quiet rfl rfl rfl⟩
    | check other => exact tells_check k s other
  | answer q =>
    obtain ⟨-, -, -, hshown, asked, hlog⟩ := unmoved_answer s q
    exact ⟨_, hlog, .quiet rfl (errors_askedFormat asked) hshown⟩

def Flags (k : Checker) (turns : List (Server × Turn)) (s : Server) : Prop :=
  s.outageShown = false ↔ ∀ r ∈ (checkerRuns k turns).getLast?, r.isFailure = false

theorem checkerRuns_concat_of_none (h : run? k e = none) :
    checkerRuns k (turns ++ [e]) = checkerRuns k turns := by
  simp [checkerRuns, h]

theorem checkerRuns_concat_of_some {r : Check} (h : run? k e = some r) :
    checkerRuns k (turns ++ [e]) = checkerRuns k turns ++ [r] := by
  simp [checkerRuns, h]

theorem Flags.concat {noted : List Effect} (h : Flags k turns s) (htells : Tells k s x s' noted) :
    Flags k (turns ++ [(s, x)]) s' := by
  unfold Flags at h ⊢
  cases htells with
  | quiet hrun hnoted hshown => rw [checkerRuns_concat_of_none hrun, hshown, h]
  | ends r hrun hr hnoted hshown => simp [checkerRuns_concat_of_some hrun, hshown, hr]
  | fails cause hrun hnoted hshown =>
    simp [checkerRuns_concat_of_some hrun, hshown, Check.isFailure]

theorem Begins.unique {before : List (Server × Turn)} {message other : Text}
    (h : Begins k before e message) (h' : Begins k before e other) : other = message := by
  obtain ⟨cause, hrun, rfl, -⟩ := h
  obtain ⟨cause', hrun', rfl, -⟩ := h'
  obtain rfl := Check.broken.inj (Option.some.inj (hrun.symm.trans hrun'))
  rfl

theorem Flags.errors {noted : List Effect} (h : Flags k turns s) (htells : Tells k s x s' noted) :
    (∃ message, Begins k turns (s, x) message ∧ errors noted = [message]) ∨
      (∀ message, ¬Begins k turns (s, x) message) ∧ errors noted = [] := by
  cases htells with
  | quiet hrun hnoted hshown =>
    refine Or.inr ⟨?_, hnoted⟩
    rintro message ⟨cause, hcause, -⟩
    cases hrun.symm.trans hcause
  | ends r hrun hr hnoted hshown =>
    refine Or.inr ⟨?_, hnoted⟩
    rintro message ⟨cause, hcause, -⟩
    obtain rfl := Option.some.inj (hrun.symm.trans hcause)
    cases hr
  | fails cause hrun hnoted hshown =>
    cases hold : s.outageShown with
    | true =>
      refine Or.inr ⟨?_, by simpa [alarm, hold, Server.errors] using hnoted⟩
      rintro message ⟨-, -, -, hlast⟩
      cases hold.symm.trans (h.mpr hlast)
    | false =>
      refine Or.inl ⟨_, ⟨cause, hrun, rfl, h.mp hold⟩, ?_⟩
      simpa [alarm, hold, Server.errors, Effect.error?] using hnoted

theorem errors_append (log noted : List Effect) :
    errors (log ++ noted) = errors log ++ errors noted :=
  List.filterMap_append

/-- The flag is right, and there is one message for each maximal block of runs that fail. -/
structure Counts (k : Checker) (turns : List (Server × Turn)) (s : Server) : Prop where
  flags : Flags k turns s
  count : (errors s.log).length = (blocks Check.isFailure (checkerRuns k turns)).length

theorem Counts.concat {noted : List Effect} (h : Counts k turns s)
    (hlog : s'.log = s.log ++ noted) (htells : Tells k s x s' noted) :
    Counts k (turns ++ [(s, x)]) s' := by
  refine ⟨h.flags.concat htells, ?_⟩
  rw [hlog, errors_append, List.length_append, h.count]
  rcases h.flags.errors htells with ⟨message, ⟨cause, hrun, -, hlast⟩, hnoted⟩ | ⟨hno, hnoted⟩
  · rw [checkerRuns_concat_of_some hrun, length_blocks_concat, if_pos ⟨rfl, hlast⟩, hnoted]
    rfl
  · -- a turn without a message has no run of the checker, or one that begins no block
    cases hrun : run? k (s, x) with
    | none =>
      rw [checkerRuns_concat_of_none hrun, hnoted]
      rfl
    | some r =>
      have hnew : ¬(r.isFailure = true ∧
          ∀ r ∈ (checkerRuns k turns).getLast?, r.isFailure = false) := by
        rintro ⟨hr, hlast⟩
        cases r with
        | broken cause => exact hno _ ⟨cause, hrun, rfl, hlast⟩
        | finished output errors => cases hr
      rw [checkerRuns_concat_of_some hrun, length_blocks_concat, if_neg hnew, hnoted]
      rfl

theorem counts_foldl [Reader] (k : Checker) (s : Server) (hshown : s.outageShown = false)
    (hlog : s.log = []) (turns : List Turn) :
    Counts k (trace (turn k) s turns) (turns.foldl (turn k) s) := by
  induction turns using List.reverseRecOn with
  | nil =>
    refine ⟨by simp [Flags, trace, checkerRuns, hshown], ?_⟩
    simp [trace, hlog, errors, blocks, checkerRuns]
  | append_singleton turns x ih =>
    rw [trace_concat, List.foldl_append, List.foldl_cons, List.foldl_nil]
    obtain ⟨noted, hnoted, htells⟩ := tells_turn k (turns.foldl (turn k) s) x
    exact ih.concat hnoted htells

/-- After any messages, a turn shows an error exactly if the checker runs in it and fails and the last
run of the checker before it, for whatever document, did not fail; so there are as many messages as
maximal blocks of runs that fail. -/
theorem errors_serve [Reader] (k : Checker) (settings : Settings) (files : Files)
    (messages : List Message) :
    let s := serve k { settings, files } messages
    let turns := trace (turn k) { settings, files } (messages.flatMap Message.turns)
    (∀ before e after, turns = before ++ e :: after →
      ∃ noted, (e.1.turn k e.2).log = e.1.log ++ noted ∧ (errors noted).length ≤ 1 ∧
        ∀ message, message ∈ errors noted ↔ Begins k before e message) ∧
      (errors s.log).length = (blocks Check.isFailure (checkerRuns k turns)).length := by
  intro s turns
  constructor
  · intro before e after hturns
    obtain ⟨first, rfl, hstate⟩ := exists_of_trace_eq_append_cons hturns
    have hcounts := counts_foldl k { settings, files } rfl rfl first
    rw [← hstate] at hcounts
    obtain ⟨noted, hlog, htells⟩ := tells_turn k e.1 e.2
    refine ⟨noted, hlog, ?_⟩
    rcases hcounts.flags.errors htells with ⟨message, hbegins, hnoted⟩ | ⟨hno, hnoted⟩
    · refine ⟨by simp [hnoted], fun other => ?_⟩
      rw [hnoted, List.mem_singleton]
      exact ⟨fun h => h ▸ hbegins, fun h => hbegins.unique h⟩
    · refine ⟨by simp [hnoted], fun other => ?_⟩
      rw [hnoted]
      exact ⟨fun h => by simp at h, fun h => absurd h (hno other)⟩
  · have hcounts := counts_foldl k { settings, files } rfl rfl (messages.flatMap Message.turns)
    rw [← serve_eq_foldl] at hcounts
    exact hcounts.count

/-- A checker that takes no text that is `x` alone and has no report for any other. -/
def takesOthers : Checker := fun _ _ text =>
  if text = ['x'] then .broken (.notFed ['?']) else .finished ['y'] []

/-- The checker fails for two documents, gives output for one of them and fails for the other one
after a change of the settings: these are two outages, and the last turn begins the second one. -/
theorem errors_of_two_outages :
    let first : Uri := { scheme := Uri.fileScheme, path := "/a".toList }
    let second : Uri := { scheme := Uri.fileScheme, path := "/b".toList }
    let messages : List Message := [.notice (.opened first ['x'] 1),
      .notice (.opened second ['x'] 1), .notice (.recheck { scheme := Uri.fileScheme, path := [] }),
      .notice (.changed first 2 [['y']]), .notice (.configured .null [first, second])]
    let earlier := (messages.flatMap Message.turns).dropLast
    let last := (earlier.foldl (turn takesOthers) {}, Turn.deed (.check second))
    let message := Breakdown.message {} (.notFed ['?'])
    errors (serve takesOthers {} messages).log = [message, message] ∧
      (blocks Check.isFailure (checkerRuns takesOthers
        (trace (turn takesOthers) {} (messages.flatMap Message.turns)))).length = 2 ∧
      Begins takesOthers (trace (turn takesOthers) {} earlier) last message := by
  intro first second messages earlier last message
  have hall := errors_serve takesOthers {} .usual messages
  have herrors : errors (serve takesOthers {} messages).log = [message, message] := by
    decide +kernel
  have hbefore : errors last.1.log = [message] := by decide +kernel
  have hafter : errors (last.1.turn takesOthers last.2).log = [message, message] := by
    decide +kernel
  have hsplit : trace (turn takesOthers) {} (messages.flatMap Message.turns) =
      trace (turn takesOthers) {} earlier ++ [last] :=
    trace_concat (turn takesOthers) {} earlier (.deed (.check second))
  refine ⟨herrors, ?_, ?_⟩
  · rw [← hall.2]
    exact congrArg List.length herrors
  · obtain ⟨noted, hlog, -, hnoted⟩ := hall.1 _ last [] hsplit
    rw [hlog, errors_append, hbefore] at hafter
    have hlast : errors noted = [message] := (List.cons.inj hafter).2
    exact (hnoted message).mp (by simp [hlast])

end Server

end ProofDesk
