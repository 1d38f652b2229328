import Mathlib.Data.List.Basic
import TrafficMeter.Proofs.Service.RefreshSteps

set_option autoImplicit false

namespace TrafficMeter

namespace Refresher

variable (source : AggregateSource)

theorem run_append (state : Refresher) (left right : List RefreshEvent) :
    state.run source (left ++ right) = (state.run source left).run source right :=
  List.foldl_append

theorem run_concat (state : Refresher) (events : List RefreshEvent) (event : RefreshEvent) :
    state.run source (events ++ [event]) = (state.run source events).step source event :=
  state.run_append source events [event]

section Interleaved

/-- A poll is under way that has come to this so far, while this is shown. -/
structure Polling (outcome : Option (Except StoreFault Batch)) (history : History)
    (state : Refresher) : Prop where
  phase : state.poller.phase = .polling
  outcome : state.outcome = outcome
  history : state.poller.history = history

variable {source} {state : Refresher} {outcome : Option (Except StoreFault Batch)}
  {history : History}

/-- A poll under way is moved on by reading the file once and then by its end. Whatever else happens
leaves it where it is. -/
theorem Polling.step (polling : Polling outcome history state) (event : RefreshEvent)
    (unread : outcome = none → ∀ fault, event ≠ .fileRead fault)
    (unended : outcome ≠ none → event ≠ .pollEnded) :
    Polling outcome history (state.step source event) := by
  cases state.effect_step source event with
  | aside phase same silent =>
    have still := phase.mpr polling.phase
    exact ⟨still, (same still).trans polling.outcome, silent.history.trans polling.history⟩
  | begins begun =>
    have waiting : state.poller.phase = .waiting := begun.1
    rw [polling.phase] at waiting
    cases waiting
  | reads fault _ reads none_yet =>
    exact absurd reads (unread (polling.outcome.symm.trans none_yet) fault)
  | ends _ ends _ read =>
    have read_eq := polling.outcome.symm.trans read
    rw [read_eq] at unended
    exact absurd ends (unended (Option.some_ne_none _))

theorem Polling.run (polling : Polling outcome history state) (events : List RefreshEvent)
    (unread : outcome = none → ∀ fault, .fileRead fault ∉ events)
    (unended : outcome ≠ none → .pollEnded ∉ events) :
    Polling outcome history (state.run source events) := by
  apply List.foldlRecOn events (Refresher.step source) polling
  intro state polling event member
  apply polling.step
  · rintro none_yet fault rfl
    exact unread none_yet fault member
  · rintro read rfl
    exact unended read member

theorem polling_turned (turn : PollerTurn) (begins : state.poller.Begins turn) :
    Polling none state.poller.history (state.step source (.turned turn)) := by
  have stepped : state.step source (.turned turn) =
      { state with outcome := none, poller := state.poller.step turn.event } := by
    simp only [step, begins.waiting]
  rw [stepped]
  exact ⟨begins.polling, rfl, (state.poller.step_turn turn).1⟩

theorem Polling.fileRead (polling : Polling none history state) (fault : Option StoreFault) :
    Polling (some (state.read source fault)) history (state.step source (.fileRead fault)) := by
  have stepped : state.step source (.fileRead fault) =
      { state with outcome := some (state.read source fault) } := by
    simp only [Refresher.step, polling.phase, polling.outcome]
  rw [stepped]
  exact ⟨polling.phase, rfl, polling.history⟩

theorem Polling.pollEnded {result : Except StoreFault Batch}
    (polling : Polling (some result) history state) :
    (state.step source .pollEnded).poller.phase = .waiting ∧
      (state.step source .pollEnded).poller.history = history.afterPoll result := by
  have stepped : state.step source .pollEnded =
      { state with poller := state.poller.step (.polled result.toOption) } := by
    simp only [Refresher.step, polling.phase, polling.outcome]
  rw [stepped]
  simp only [Poller.step, polling.phase, polling.history]
  exact ⟨trivial, rfl⟩

variable (source state)

/-- A poll that begins comes to what the file holds when it is first read, and shows that when it
ends, whatever happens in between. -/
theorem poll_comes_through (turn : PollerTurn) (begins : state.poller.Begins turn)
    (before between : List RefreshEvent) (fault : Option StoreFault)
    (unread : ∀ fault, .fileRead fault ∉ before) (unended : .pollEnded ∉ between) :
    let reading := state.run source (.turned turn :: before)
    let ended := reading.run source (.fileRead fault :: (between ++ [.pollEnded]))
    RefreshMoment.BeginsPoll ⟨state, .turned turn, state.step source (.turned turn)⟩ ∧
      reading.poller.phase = .polling ∧ ended.poller.phase = .waiting ∧
      ended.poller.history = state.poller.history.afterPoll (reading.read source fault) := by
  intro reading ended
  have first : Polling none state.poller.history (state.step source (.turned turn)) :=
    polling_turned turn begins
  have begun : Polling none state.poller.history reading :=
    first.run before (fun _ => unread) (fun read => absurd rfl read)
  have read : Polling (some (reading.read source fault)) state.poller.history
      ((reading.step source (.fileRead fault)).run source between) :=
    (begun.fileRead fault).run between nofun (fun _ => unended)
  have ended_eq : ended =
      ((reading.step source (.fileRead fault)).run source between).step source .pollEnded :=
    run_concat source _ between .pollEnded
  rw [ended_eq]
  exact ⟨⟨begins.waiting, first.phase⟩, begun.phase, read.pollEnded⟩

/-- The text that a reset is about to write stays the same until it is written or cannot be. -/
theorem rewriting_run (text : String) (events : List RefreshEvent)
    (writing : state.rewriting = some text) (unwritten : .fileReset ∉ events)
    (unfailed : .resetFailed ∉ events) : (state.run source events).rewriting = some text := by
  refine List.foldlRecOn (motive := (·.rewriting = some text)) events (step source) writing ?_
  intro state writing event member
  cases event with
  | fileReset => exact absurd member unwritten
  | resetFailed => exact absurd member unfailed
  | fileWritten => exact writing
  | resetBegun => simp only [step, writing]
  | resetEnded | turned | fileRead | pollEnded =>
    unfold step
    dsimp only
    split <;> exact writing

/-- A reset that is accepted puts its text in place and has then to ask for a poll, whatever happens
in between. -/
theorem reset_comes_through (scope : Scope) (now : Int) (text : String)
    (free : state.rewriting = none)
    (accepted : Store.reset source now scope state.file = .ok text)
    (between : List RefreshEvent) (unwritten : .fileReset ∉ between)
    (unfailed : .resetFailed ∉ between) :
    let ready := state.run source (.resetBegun scope now :: between)
    RefreshMoment.RewritesFile ⟨ready, .fileReset, ready.step source .fileReset⟩ ∧
      (ready.step source .fileReset).file = some text ∧
      (ready.step source .fileReset).asking = ready.asking + 1 := by
  intro ready
  have begun : (state.step source (.resetBegun scope now)).rewriting = some text := by
    simp only [step, free, accepted]
  have writing : ready.rewriting = some text :=
    rewriting_run source _ text between begun unwritten unfailed
  have some_text : ready.rewriting.isSome := by rw [writing, Option.isSome_some]
  have written : ready.step source .fileReset =
      { ready with file := some text, rewriting := none, asking := ready.asking + 1 } := by
    simp only [step, writing]
  rw [written]
  exact ⟨⟨rfl, some_text⟩, rfl, rfl⟩

end Interleaved

section Undisturbed

variable (state : Refresher)

/-- A reset that nothing comes between rewrites the file and asks for a poll. -/
theorem run_reset (scope : Scope) (now : Int) (text : String) (free : state.rewriting = none)
    (accepted : Store.reset source now scope state.file = .ok text) :
    state.run source [.resetBegun scope now, .fileReset, .resetEnded] =
      { state with file := some text, poller := state.poller.step .requested } := by
  simp only [run, List.foldl_cons, List.foldl_nil, step, free, accepted]

/-- A poll that nothing comes between comes to what the file holds as it begins. -/
theorem run_poll (turn : PollerTurn) (begins : state.poller.Begins turn) :
    state.run source [.turned turn, .fileRead none, .pollEnded] =
      { state with
        outcome := some (Store.fetch source state.file)
        poller := (state.poller.step turn.event).step
          (.polled (Store.fetch source state.file).toOption) } := by
  simp only [run, List.foldl_cons, List.foldl_nil, step, begins.waiting, begins.polling, read]

/-- A poll during which a reset lands, just after the poll has read the file. -/
def pollWithReset (turn : PollerTurn) (scope : Scope) (now : Int) : List RefreshEvent :=
  [.turned turn, .fileRead none, .resetBegun scope now, .fileReset, .resetEnded, .pollEnded]

/-- The poll knows nothing of the reset yet, but another one is wanted. -/
theorem run_pollWithReset (turn : PollerTurn) (begins : state.poller.Begins turn) (scope : Scope)
    (now : Int) (text : String) (free : state.rewriting = none)
    (accepted : Store.reset source now scope state.file = .ok text) :
    state.run source (pollWithReset turn scope now) =
      { state with
        file := some text
        outcome := some (Store.fetch source state.file)
        poller := ((state.poller.step turn.event).step .requested).step
          (.polled (Store.fetch source state.file).toOption) } := by
  simp only [pollWithReset, run, List.foldl_cons, List.foldl_nil, step, begins.waiting,
    begins.polling, Poller.phase_requested, read, free, accepted]

/-- A reset that finds everything settled wakes the poller, and everything settles again with what
the reset has written. -/
theorem settled_after_reset (scope : Scope) (now : Int) (text : String) (later : Nat)
    (settled : state.Settled) (free : state.rewriting = none)
    (accepted : Store.reset source now scope state.file = .ok text) :
    let after := state.run source [.resetBegun scope now, .fileReset, .resetEnded,
      .turned (.woken later), .fileRead none, .pollEnded]
    after.Settled ∧ after.poller.history =
      state.poller.history.afterPoll (Store.fetch source (some text)) := by
  intro after
  let asked : Refresher :=
    { state with file := some text, poller := state.poller.step .requested }
  have begins : asked.poller.Begins (.woken later) := .woken later settled.waiting rfl
  have after_eq : after =
      asked.run source [.turned (.woken later), .fileRead none, .pollEnded] :=
    congrArg (run source · _) (state.run_reset source scope now text free accepted)
  rw [after_eq, asked.run_poll source (.woken later) begins]
  simp only [asked, Poller.step, PollerTurn.event, settled.waiting, ↓reduceIte]
  exact ⟨⟨rfl, Bool.false_ne_true, settled.ended⟩, rfl⟩

/-- The poller left to itself at one time is one of the runs. -/
theorem exists_run_settleWithin (now steps : Nat) :
    ∃ events, (state.run source events).file = state.file ∧
      (state.run source events).poller =
        Poller.settleWithin now (Store.fetch source state.file).toOption steps state.poller := by
  induction steps generalizing state with
  | zero => exact ⟨[], rfl, rfl⟩
  | succ steps ih =>
    cases due : state.poller.due? now with
    | none =>
      refine ⟨[], rfl, ?_⟩
      simp only [Poller.settleWithin, due]
      rfl
    | some event =>
      obtain ⟨turn, rfl, begins⟩ := state.poller.exists_turn_of_due now event due
      have polled := state.run_poll source turn begins
      obtain ⟨events, file_eq, poller_eq⟩ :=
        ih (state.run source [.turned turn, .fileRead none, .pollEnded])
      rw [← run_append] at file_eq poller_eq
      refine ⟨_, file_eq.trans (by rw [polled]), poller_eq.trans ?_⟩
      rw [polled]
      simp only [Poller.settleWithin, due]

end Undisturbed

section Finishing

/-- All that is under way comes to its end: first the poll, then the resets that have yet to ask for
one, and at last the poll that they have asked for. -/
def finishing (state : Refresher) (now : Nat) : List RefreshEvent :=
  [.fileRead none, .pollEnded] ++ List.replicate state.asking .resetEnded ++
    [.turned (.woken now), .fileRead none, .pollEnded]

variable (state : Refresher)

/-- A poll that is under way can end. -/
theorem run_endOfPoll (running : state.poller.phase ≠ .finished) :
    let ended := state.run source [.fileRead none, .pollEnded]
    ended.poller.phase = .waiting ∧ ended.poller.wanted = state.poller.wanted ∧
      ended.asking = state.asking ∧ ended.file = state.file := by
  cases phase : state.poller.phase with
  | finished => exact absurd phase running
  | waiting => simp only [run, List.foldl_cons, List.foldl_nil, step, phase, and_self]
  | polling =>
    cases outcome : state.outcome <;>
      simp only [run, List.foldl_cons, List.foldl_nil, step, phase, outcome, Poller.step, and_self]

/-- However many resets have yet to ask for a poll, one poll is wanted in the end. -/
theorem run_resetEnded (count : Nat) (yet : state.asking = count) :
    let asked := state.run source (List.replicate count .resetEnded)
    asked.poller.phase = state.poller.phase ∧ asked.asking = 0 ∧ asked.file = state.file ∧
      (asked.poller.wanted ↔ state.Owes) := by
  induction count generalizing state with
  | zero =>
    refine ⟨rfl, yet, rfl, ?_⟩
    simp only [Owes, yet, Nat.lt_irrefl, false_or]
    rfl
  | succ others ih =>
    have stepped : state.step source .resetEnded =
        { state with asking := others, poller := state.poller.step .requested } := by
      simp only [step, yet]
    have owed : state.Owes := .inl (by omega)
    have wanted : (state.step source .resetEnded).Owes := by
      rw [stepped]
      exact .inr rfl
    obtain ⟨phase_eq, ended, file_eq, wanted_iff⟩ :=
      ih (state.step source .resetEnded) (by rw [stepped])
    have rest_eq : state.run source (List.replicate (others + 1) .resetEnded) =
        (state.step source .resetEnded).run source (List.replicate others .resetEnded) := by
      rw [List.replicate_succ, run, List.foldl_cons, run]
    rw [rest_eq]
    refine ⟨phase_eq.trans ?_, ended, file_eq.trans ?_, wanted_iff.trans (iff_of_true wanted owed)⟩
    · rw [stepped]
      rfl
    · rw [stepped]

/-- A poll that is wanted can be had, and without one nothing happens. -/
theorem run_woken (now : Nat) (waiting : state.poller.phase = .waiting) (ended : state.asking = 0) :
    let woken := state.run source [.turned (.woken now), .fileRead none, .pollEnded]
    woken.Settled ∧ woken.file = state.file ∧ (state.poller.wanted →
      woken.poller.history = state.poller.history.afterPoll (Store.fetch source state.file)) := by
  cases wanted : state.poller.wanted with
  | false =>
    have idle : state.poller.step (PollerTurn.woken now).event = state.poller := by
      simp only [Poller.step, PollerTurn.event, waiting, wanted, Bool.false_eq_true, ↓reduceIte]
    have same : state.run source [.turned (.woken now), .fileRead none, .pollEnded] =
        { state with outcome := none } := by
      simp only [run, List.foldl_cons, List.foldl_nil, step, waiting, idle]
    rw [same]
    refine ⟨⟨waiting, ?_, ended⟩, rfl, fun asked => absurd asked Bool.false_ne_true⟩
    rw [wanted]
    exact Bool.false_ne_true
  | true =>
    rw [state.run_poll source (.woken now) (.woken now waiting wanted)]
    simp only [Poller.step, PollerTurn.event, waiting, wanted, ↓reduceIte]
    exact ⟨⟨rfl, Bool.false_ne_true, ended⟩, trivial, fun _ => rfl⟩

/-- As long as the poller runs, everything can settle, and a poll that is owed shows what the file
holds. -/
theorem settled_finishing (now : Nat) (running : state.poller.phase ≠ .finished) :
    let settled := state.run source (state.finishing now)
    settled.Settled ∧ settled.file = state.file ∧
      (state.Owes → ∀ batch, Store.fetch source state.file = .ok batch →
        settled.poller.history.current = some batch) := by
  intro settled
  let ended := state.run source [.fileRead none, .pollEnded]
  let asked := ended.run source (List.replicate state.asking .resetEnded)
  have settled_eq : settled =
      asked.run source [.turned (.woken now), .fileRead none, .pollEnded] := by
    simp only [settled, finishing, run_append, ended, asked]
  obtain ⟨waiting, sameWanted, sameAsking, endedFile⟩ := state.run_endOfPoll source running
  obtain ⟨samePhase, noneAsking, askedFile, wanted_iff⟩ :=
    ended.run_resetEnded source state.asking sameAsking
  obtain ⟨settles, file_eq, shown⟩ :=
    asked.run_woken source now (samePhase.trans waiting) noneAsking
  have sameFile : asked.file = state.file := askedFile.trans endedFile
  rw [settled_eq]
  refine ⟨settles, file_eq.trans sameFile, ?_⟩
  intro owed batch fetched
  have owedThen : ended.Owes := by
    rw [Owes, sameAsking, sameWanted]
    exact owed
  rw [shown (wanted_iff.mpr owedThen), sameFile, fetched]
  rfl

end Finishing

/-- What polls and resets bring about from a state on, whatever else happens in the meantime. -/
structure Serves (source : AggregateSource) (state : Refresher) : Prop where
  /-- A tick begins a poll, and a wake does if one is wanted. The poll reads the file, and what it
  has read is shown at its end, or what was shown before if it has failed. -/
  polls : ∀ turn, state.poller.Begins turn → ∀ before between fault,
    (∀ fault, .fileRead fault ∉ before) → .pollEnded ∉ between →
      let reading := state.run source (.turned turn :: before)
      let ended := reading.run source (.fileRead fault :: (between ++ [.pollEnded]))
      RefreshMoment.BeginsPoll ⟨state, .turned turn, state.step source (.turned turn)⟩ ∧
        reading.poller.phase = .polling ∧ ended.poller.phase = .waiting ∧
        ended.poller.history = state.poller.history.afterPoll (reading.read source fault)
  /-- A reset that is accepted rewrites the file, and has then to ask for a poll. -/
  resets : ∀ scope now text, state.rewriting = none →
    Store.reset source now scope state.file = .ok text → ∀ between, .fileReset ∉ between →
      .resetFailed ∉ between →
        let ready := state.run source (.resetBegun scope now :: between)
        RefreshMoment.RewritesFile ⟨ready, .fileReset, ready.step source .fileReset⟩ ∧
          (ready.step source .fileReset).file = some text ∧
          (ready.step source .fileReset).asking = ready.asking + 1
  /-- Then it asks for one, whatever the poller does at the time. -/
  asks : 0 < state.asking → (state.step source .resetEnded).poller.wanted ∧
    (state.step source .resetEnded).asking + 1 = state.asking
  /-- Everything under way can come to its end, and a poll that is owed then shows the file. -/
  settles : ∀ now, state.poller.phase ≠ .finished →
    let settled := state.run source (state.finishing now)
    settled.Settled ∧ settled.file = state.file ∧
      (state.Owes → ∀ batch, Store.fetch source state.file = .ok batch →
        settled.poller.history.current = some batch)
  /-- A reset that finds everything settled wakes the poller, which shows what it has written. -/
  wakes : ∀ scope now text later, state.Settled → state.rewriting = none →
    Store.reset source now scope state.file = .ok text →
      let after := state.run source [.resetBegun scope now, .fileReset, .resetEnded,
        .turned (.woken later), .fileRead none, .pollEnded]
      after.Settled ∧
        after.poller.history = state.poller.history.afterPoll (Store.fetch source (some text))
  /-- The poller left to itself at one time is one of the runs. -/
  alone : ∀ now, ∃ events, (state.run source events).file = state.file ∧
    (state.run source events).poller =
      state.poller.settle now (Store.fetch source state.file).toOption

theorem serves (state : Refresher) : state.Serves source where
  polls turn begins before between fault :=
    state.poll_comes_through source turn begins before between fault
  resets scope now text := state.reset_comes_through source scope now text
  asks asking := by
    obtain ⟨others, yet⟩ := Nat.exists_eq_succ_of_ne_zero (Nat.ne_of_gt asking)
    simp only [step, yet]
    exact ⟨rfl, trivial⟩
  settles now := state.settled_finishing source now
  wakes scope now text later := state.settled_after_reset source scope now text later
  alone now := state.exists_run_settleWithin source now _

end Refresher

end TrafficMeter
