import TrafficMeter.Service.Refresher

set_option autoImplicit false

namespace TrafficMeter

/-- What is shown once a poll has ended: its batch on top, if it has one. -/
def History.afterPoll (history : History) (result : Except StoreFault Batch) : History :=
  (result.toOption.map history.push).getD history

namespace Poller

/-- The turns at which a poll begins: a tick, and a wake if a poll is wanted. -/
inductive Begins (poller : Poller) : PollerTurn → Prop
  | ticked (now : Nat) (waiting : poller.phase = .waiting) : Begins poller (.ticked now)
  | woken (now : Nat) (waiting : poller.phase = .waiting) (wanted : poller.wanted) :
    Begins poller (.woken now)

variable {poller : Poller} {turn : PollerTurn}

theorem Begins.waiting (begins : poller.Begins turn) : poller.phase = .waiting := by
  cases begins <;> assumption

theorem Begins.polling (begins : poller.Begins turn) :
    (poller.step turn.event).phase = .polling := by
  cases begins with
  | ticked now waiting => simp only [step, PollerTurn.event, waiting]
  | woken now waiting wanted => simp only [step, PollerTurn.event, waiting, wanted, ↓reduceIte]

/-- A turn shows nothing new, and forgets that a poll is wanted only by beginning one. -/
theorem step_turn (poller : Poller) (turn : PollerTurn) :
    (poller.step turn.event).history = poller.history ∧
      ((poller.step turn.event).phase = .polling ∨
        (poller.step turn.event).wanted = poller.wanted) := by
  cases phase : poller.phase with
  | polling | finished => cases turn <;> simp [step, PollerTurn.event, phase]
  | waiting =>
    cases turn with
    | woken now => cases wanted : poller.wanted <;> simp [step, PollerTurn.event, phase, wanted]
    | ticked now | statisticsDue | stopped => simp [step, PollerTurn.event, phase]

/-- A request finds the poller in any phase and leaves it there. -/
theorem phase_requested (poller : Poller) : (poller.step .requested).phase = poller.phase := rfl

/-- What is due is a turn that begins a poll. -/
theorem exists_turn_of_due (poller : Poller) (now : Nat) (event : PollerEvent)
    (due : poller.due? now = some event) :
    ∃ turn : PollerTurn, event = turn.event ∧ poller.Begins turn := by
  unfold due? at due
  split at due
  · rename_i waiting
    split at due
    · rename_i wanted
      cases due
      exact ⟨.woken now, rfl, .woken now waiting wanted⟩
    · split at due
      · cases due
        exact ⟨.ticked now, rfl, .ticked now waiting⟩
      · cases due
  · cases due

end Poller

/-- A moment in the life of the poller, with everything before and after it. -/
structure RefreshMoment where
  before : Refresher
  event : RefreshEvent
  after : Refresher

namespace RefreshMoment

def BeginsPoll (moment : RefreshMoment) : Prop :=
  moment.before.poller.phase = .waiting ∧ moment.after.poller.phase = .polling

/-- A reset succeeds in rewriting the file. -/
def RewritesFile (moment : RefreshMoment) : Prop :=
  moment.event = .fileReset ∧ moment.before.rewriting.isSome

/-- What the poll under way comes to, if it reads the file at this moment. -/
def outcome? (source : AggregateSource) (moment : RefreshMoment) :
    Option (Except StoreFault Batch) :=
  match moment.event, moment.before.poller.phase, moment.before.outcome with
  | .fileRead fault, .polling, none => some (moment.before.read source fault)
  | _, _, _ => none

/-- The batch of a poll that ends at this moment, if it succeeds. -/
def published? (moment : RefreshMoment) : Option Batch :=
  match moment.event, moment.before.poller.phase, moment.before.outcome with
  | .pollEnded, .polling, some (.ok batch) => some batch
  | _, _, _ => none

/-- No batch is published, so the same history is shown. -/
structure Silent (moment : RefreshMoment) : Prop where
  published : moment.published? = none
  history : moment.after.poller.history = moment.before.poller.history

/-- All that can happen to the poll at one moment. -/
inductive Effect (source : AggregateSource) (moment : RefreshMoment) : Prop
  /-- A poll under way stays so, and none begins. -/
  | aside (phase : moment.after.poller.phase = .polling ↔ moment.before.poller.phase = .polling)
      (outcome : moment.after.poller.phase = .polling →
        moment.after.outcome = moment.before.outcome)
      (silent : moment.Silent)
  | begins (begun : moment.BeginsPoll) (unread : moment.after.outcome = none)
      (silent : moment.Silent)
  | reads (fault : Option StoreFault) (result : Except StoreFault Batch)
      (event : moment.event = .fileRead fault) (unread : moment.before.outcome = none)
      (read : moment.outcome? source = some result)
      (begun : moment.before.poller.phase = .polling)
      (polling : moment.after.poller.phase = .polling)
      (outcome : moment.after.outcome = some result)
      (silent : moment.Silent)
  | ends (result : Except StoreFault Batch) (event : moment.event = .pollEnded)
      (polling : moment.before.poller.phase = .polling)
      (outcome : moment.before.outcome = some result)
      (waiting : moment.after.poller.phase = .waiting)
      (published : moment.published? = result.toOption)
      (history : moment.after.poller.history = moment.before.poller.history.afterPoll result)

theorem Effect.history {source : AggregateSource} {moment : RefreshMoment}
    (effect : moment.Effect source) :
    moment.after.poller.history =
      (moment.published?.map moment.before.poller.history.push).getD
        moment.before.poller.history := by
  cases effect with
  | aside _ _ silent | begins _ _ silent | reads _ _ _ _ _ _ _ _ silent =>
    rw [silent.published, silent.history]
    rfl
  | ends result _ _ _ _ published history =>
    rw [published, history]
    rfl

/-- A poll that begins has read nothing yet. -/
theorem Effect.unread {source : AggregateSource} {moment : RefreshMoment}
    (effect : moment.Effect source) (begun : moment.BeginsPoll) : moment.after.outcome = none := by
  obtain ⟨waiting, polling⟩ := begun
  cases effect with
  | begins _ unread => exact unread
  | aside phase =>
    rw [phase.mp polling] at waiting
    cases waiting
  | reads _ _ _ _ _ already | ends _ _ already =>
    rw [already] at waiting
    cases waiting

end RefreshMoment

namespace Refresher

/-- A poll is owed as long as one is wanted, or will be by a reset that has rewritten the file. -/
def Owes (state : Refresher) : Prop := 0 < state.asking ∨ state.poller.wanted

/-- The poller waits, no poll is wanted, and every reset that rewrote the file is over. -/
structure Settled (state : Refresher) : Prop where
  waiting : state.poller.phase = .waiting
  unwanted : ¬ state.poller.wanted
  ended : state.asking = 0

variable (source : AggregateSource) (state : Refresher)

theorem effect_unchanged (event : RefreshEvent)
    (unchanged : state.step source event = state)
    (published : RefreshMoment.published? ⟨state, event, state⟩ = none) :
    RefreshMoment.Effect source ⟨state, event, state.step source event⟩ := by
  rw [unchanged]
  exact .aside Iff.rfl (fun _ => rfl) ⟨published, rfl⟩

theorem effect_step (event : RefreshEvent) :
    RefreshMoment.Effect source ⟨state, event, state.step source event⟩ := by
  cases event with
  | fileWritten | resetFailed => exact .aside Iff.rfl (fun _ => rfl) ⟨rfl, rfl⟩
  | resetBegun | fileReset | resetEnded =>
    unfold step
    dsimp only
    split <;> exact .aside Iff.rfl (fun _ => rfl) ⟨rfl, rfl⟩
  | turned turn =>
    cases phase : state.poller.phase with
    | polling | finished =>
      exact state.effect_unchanged source _ (by simp only [step, phase]) rfl
    | waiting =>
      have stepped : state.step source (.turned turn) =
          { state with outcome := none, poller := state.poller.step turn.event } := by
        simp only [step, phase]
      rw [stepped]
      have silent := (state.poller.step_turn turn).1
      -- which turn it is does not matter, only whether a poll begins with it
      by_cases begun : (state.poller.step turn.event).phase = .polling
      · exact .begins ⟨phase, begun⟩ rfl ⟨rfl, silent⟩
      · refine .aside ?_ (fun polling => absurd polling begun) ⟨rfl, silent⟩
        refine iff_of_false begun ?_
        rw [phase]
        decide
  | fileRead fault =>
    cases phase : state.poller.phase with
    | waiting | finished =>
      exact state.effect_unchanged source _ (by simp only [step, phase]) rfl
    | polling =>
      cases outcome : state.outcome with
      | some result =>
        exact state.effect_unchanged source _ (by simp only [step, phase, outcome]) rfl
      | none =>
        have stepped : state.step source (.fileRead fault) =
            { state with outcome := some (state.read source fault) } := by
          simp only [step, phase, outcome]
        rw [stepped]
        refine .reads fault (state.read source fault) rfl outcome ?_ phase phase rfl ⟨rfl, rfl⟩
        simp only [RefreshMoment.outcome?, phase, outcome]
  | pollEnded =>
    cases phase : state.poller.phase with
    | waiting | finished =>
      refine state.effect_unchanged source _ (by simp only [step, phase]) ?_
      simp only [RefreshMoment.published?, phase]
    | polling =>
      cases outcome : state.outcome with
      | none =>
        refine state.effect_unchanged source _ (by simp only [step, phase, outcome]) ?_
        simp only [RefreshMoment.published?, phase, outcome]
      | some result =>
        have stepped : state.step source .pollEnded =
            { state with poller := state.poller.step (.polled result.toOption) } := by
          simp only [step, phase, outcome]
        rw [stepped]
        refine .ends result rfl phase outcome ?_ ?_ ?_
        · simp only [Poller.step, phase]
        · cases result <;> simp only [RefreshMoment.published?, phase, outcome] <;> rfl
        · simp only [Poller.step, phase]
          rfl

/-- A poll that is owed stays so until one begins. -/
theorem begins_or_owes (event : RefreshEvent) (owed : state.Owes) :
    RefreshMoment.BeginsPoll ⟨state, event, state.step source event⟩ ∨
      (state.step source event).Owes := by
  cases event with
  | fileWritten | resetFailed => exact .inr owed
  | resetBegun | fileRead =>
    unfold step
    dsimp only
    split <;> exact .inr owed
  | fileReset =>
    unfold step
    dsimp only
    split
    · exact .inr (.inl (Nat.succ_pos _))
    · exact .inr owed
  | resetEnded =>
    unfold step
    dsimp only
    split
    · exact .inr (.inr rfl)
    · exact .inr owed
  | turned turn =>
    unfold step
    dsimp only
    split
    · rename_i waiting
      rcases (state.poller.step_turn turn).2 with begun | kept
      · exact .inl ⟨waiting, begun⟩
      · refine .inr (owed.imp_right fun wanted => ?_)
        rw [kept]
        exact wanted
    · exact .inr owed
  | pollEnded =>
    unfold step
    dsimp only
    split
    · rename_i polling _
      refine .inr (owed.imp_right fun wanted => ?_)
      simp only [Poller.step, polling]
      exact wanted
    · exact .inr owed

theorem owes_of_rewrites (event : RefreshEvent)
    (rewrites : RefreshMoment.RewritesFile ⟨state, event, state.step source event⟩) :
    (state.step source event).Owes := by
  obtain ⟨rfl, some_text⟩ := rewrites
  obtain ⟨text, rewriting⟩ := Option.isSome_iff_exists.mp some_text
  have rewritten : state.step source .fileReset =
      { state with file := some text, rewriting := none, asking := state.asking + 1 } := by
    dsimp only at rewriting
    simp only [step, rewriting]
  rw [rewritten]
  exact .inl (Nat.succ_pos _)

end Refresher

end TrafficMeter
