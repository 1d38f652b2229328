import Mathlib.Data.List.Induction
import TrafficMeter.Proofs.Service.RefreshWork
import TrafficMeter.Proofs.Store.Reset

set_option autoImplicit false

namespace TrafficMeter

/-- The history that some batches leave behind, the newest of them last. -/
def History.ofBatches (batches : List Batch) : History :=
  ⟨batches.getLast?, batches.dropLast.getLast?⟩

theorem History.ofBatches_append_toList (batches : List Batch) (published : Option Batch) :
    ofBatches (batches ++ published.toList) =
      (published.map (ofBatches batches).push).getD (ofBatches batches) := by
  cases published with
  | none => rw [Option.toList_none, List.append_nil, Option.map_none, Option.getD_none]
  | some batch =>
    rw [Option.toList_some, ofBatches, List.getLast?_concat, List.dropLast_concat]
    rfl

namespace Refresher

variable (source : AggregateSource)

/-- What happens in a run, moment by moment. -/
def moments (source : AggregateSource) : Refresher → List RefreshEvent → List RefreshMoment
  | _, [] => []
  | state, event :: rest =>
    ⟨state, event, state.step source event⟩ :: moments source (state.step source event) rest

/-- What has happened since the newest poll of some moments began. -/
def SinceNewestPoll (moments rest : List RefreshMoment) : Prop :=
  ∃ between begin, moments = between ++ begin :: rest ∧ begin.BeginsPoll ∧
    ∀ moment ∈ rest, ¬ moment.BeginsPoll

theorem SinceNewestPoll.cons {moments rest : List RefreshMoment}
    (since : SinceNewestPoll moments rest) (first : RefreshMoment) :
    SinceNewestPoll (first :: moments) rest := by
  obtain ⟨between, begin, rfl, begun, last⟩ := since
  exact ⟨first :: between, begin, rfl, begun, last⟩

/-- What the newest poll has come to, if it began just before some moments. -/
structure PollSoFar (source : AggregateSource) (moments : List RefreshMoment)
    (state : Refresher) : Prop where
  /-- Its outcome is what it has read since. -/
  read : state.poller.phase = .polling → ∀ result, state.outcome = some result →
    ∃ moment ∈ moments, moment.outcome? source = some result
  /-- Once it has ended, the batch that it has read is shown. -/
  shown : state.poller.phase ≠ .polling → ∃ moment ∈ moments, ∃ result,
    moment.outcome? source = some result ∧
      ∀ batch, result = .ok batch → state.poller.history.current = some batch

section Step

variable {source}

theorem PollSoFar.step {moments : List RefreshMoment} {moment : RefreshMoment}
    (sofar : PollSoFar source moments moment.before) (effect : moment.Effect source)
    (further : ¬ moment.BeginsPoll) :
    PollSoFar source (moments ++ [moment]) moment.after := by
  have earlier : ∀ {holds : RefreshMoment → Prop}, (∃ other ∈ moments, holds other) →
      ∃ other ∈ moments ++ [moment], holds other :=
    fun ⟨other, member, found⟩ => ⟨other, List.mem_append_left _ member, found⟩
  cases effect with
  | aside phase outcome silent =>
    constructor
    · intro polling result read
      rw [outcome polling] at read
      exact earlier (sofar.read (phase.mp polling) result read)
    · intro ended
      rw [silent.history]
      exact earlier (sofar.shown (fun polling => ended (phase.mpr polling)))
  | begins begun => exact absurd begun further
  | reads _ result _ _ read _ polling outcome =>
    constructor
    · intro _ other other_eq
      cases outcome.symm.trans other_eq
      exact ⟨moment, List.mem_append_right _ (List.mem_singleton_self _), read⟩
    · intro ended
      exact absurd polling ended
  | ends result _ polling outcome waiting published history =>
    constructor
    · intro still
      rw [waiting] at still
      cases still
    · intro _
      obtain ⟨reading, member, read⟩ := sofar.read polling result outcome
      refine earlier ⟨reading, member, result, read, ?_⟩
      rintro batch rfl
      rw [history]
      rfl

end Step

section Run

variable (state : Refresher)

theorem moments_concat (events : List RefreshEvent) (event : RefreshEvent) :
    state.moments source (events ++ [event]) = state.moments source events ++
      [⟨state.run source events, event, state.run source (events ++ [event])⟩] := by
  induction events generalizing state with
  | nil => rfl
  | cons first rest ih =>
    rw [List.cons_append, moments, ih, moments]
    rfl

/-- A run falls apart at each of its moments. -/
theorem exists_of_moments_eq (events : List RefreshEvent) (past future : List RefreshMoment)
    (moment : RefreshMoment) (split_eq : state.moments source events = past ++ moment :: future) :
    moment.after = moment.before.step source moment.event ∧
      ∃ later, future = moment.after.moments source later ∧
        state.run source events = moment.after.run source later := by
  induction past generalizing state events with
  | nil =>
    cases events with
    | nil => cases split_eq
    | cons event rest =>
      obtain ⟨rfl, rfl⟩ := List.cons.inj split_eq
      exact ⟨rfl, rest, rfl, rfl⟩
  | cons first past ih =>
    cases events with
    | nil => cases split_eq
    | cons event rest => exact ih (state.step source event) rest (List.cons.inj split_eq).2

/-- The history is made of the first batch and of what the successful polls have published. -/
theorem history_run (batches : List Batch) (events : List RefreshEvent)
    (loaded : state.poller.history = .ofBatches batches) :
    (state.run source events).poller.history =
      .ofBatches (batches ++ (state.moments source events).filterMap (·.published?)) := by
  induction events using List.reverseRecOn with
  | nil =>
    rw [moments, List.filterMap_nil, List.append_nil]
    exact loaded
  | append_singleton events event ih =>
    have stepped := ((state.run source events).effect_step source event).history
    rw [List.filterMap_eq_flatMap_toList] at ih ⊢
    rw [moments_concat, run_concat, List.flatMap_append, ← List.append_assoc,
      List.flatMap_singleton, History.ofBatches_append_toList, ← ih]
    exact stepped

/-- A poll that is owed begins before everything has settled. -/
theorem exists_begun_of_owed (events : List RefreshEvent) (owed : state.Owes)
    (settled : ¬ (state.run source events).Owes) :
    ∃ moment ∈ state.moments source events, moment.BeginsPoll := by
  induction events generalizing state with
  | nil => exact absurd owed settled
  | cons event rest ih =>
    rcases state.begins_or_owes source event owed with begun | still
    · exact ⟨_, List.mem_cons_self, begun⟩
    · obtain ⟨moment, member, begun⟩ := ih (state.step source event) still settled
      exact ⟨moment, List.mem_cons_of_mem _ member, begun⟩

/-- While no further poll begins, the poll under way comes to what it has read, and that is what is
shown once it has ended. -/
theorem pollSoFar_run (events : List RefreshEvent) (polling : state.poller.phase = .polling)
    (unread : state.outcome = none)
    (last : ∀ moment ∈ state.moments source events, ¬ moment.BeginsPoll) :
    PollSoFar source (state.moments source events) (state.run source events) := by
  induction events using List.reverseRecOn with
  | nil =>
    constructor
    · intro _ result read
      rw [show state.run source [] = state from rfl, unread] at read
      cases read
    · intro ended
      exact absurd polling ended
  | append_singleton events event ih =>
    rw [moments_concat, List.forall_mem_append] at last
    rw [moments_concat]
    refine (ih last.1).step ?_ (last.2 _ (List.mem_singleton_self _))
    rw [run_concat]
    exact (state.run source events).effect_step source event

/-- A run in which a poll begins has a newest one. -/
theorem exists_newest_poll (events : List RefreshEvent)
    (some_begun : ∃ moment ∈ state.moments source events, moment.BeginsPoll) :
    ∃ rest, SinceNewestPoll (state.moments source events) rest ∧
      PollSoFar source rest (state.run source events) := by
  induction events generalizing state with
  | nil =>
    obtain ⟨moment, member, _⟩ := some_begun
    cases member
  | cons event rest ih =>
    -- the newest poll is the one that begins now only if none begins in the rest
    by_cases later : ∃ moment ∈ (state.step source event).moments source rest, moment.BeginsPoll
    · obtain ⟨since, newest, sofar⟩ := ih _ later
      exact ⟨since, newest.cons _, sofar⟩
    · have last := fun moment member begun => later ⟨moment, member, begun⟩
      obtain ⟨moment, member, begun⟩ := some_begun
      rcases List.mem_cons.mp member with rfl | member
      · have unread := (state.effect_step source event).unread begun
        exact ⟨_, ⟨[], _, rfl, begun, last⟩, pollSoFar_run source _ rest begun.2 unread last⟩
      · exact absurd begun (last moment member)

end Run

/-- Polls and resets in any order lose neither batches nor resets. What is shown is the batch of the
latest successful poll and the one before it; and whenever everything has settled, the newest poll
began after the last successful reset had rewritten the file, read the file after that, and is shown
if it succeeded. At every moment polls and resets can go on as they should, and everything can
settle. -/
theorem refreshes_lose_nothing (period : Nat) (file : Option String) (first : Option Batch)
    (events : List RefreshEvent) :
    let state := (start period file first).run source events
    let run := (start period file first).moments source events
    state.poller.history = .ofBatches (first.toList ++ run.filterMap (·.published?)) ∧
      (∀ past rewrite future, run = past ++ rewrite :: future → rewrite.RewritesFile →
        state.Settled → ∃ rest, SinceNewestPoll future rest ∧
          ∃ moment ∈ rest, ∃ result, moment.outcome? source = some result ∧
            ∀ batch, result = .ok batch → state.poller.history.current = some batch) ∧
      state.Serves source := by
  intro state run
  refine ⟨?_, ?_, state.serves source⟩
  · apply history_run
    cases first <;> rfl
  · intro past rewrite future split_eq rewrites settled
    obtain ⟨stepped, later, rfl, state_eq⟩ := exists_of_moments_eq source _ _ _ _ _ split_eq
    -- nothing is owed in the end, so the poll owed since the rewrite has begun
    have owed : rewrite.after.Owes := by
      rw [stepped]
      apply owes_of_rewrites
      exact rewrites
    have quiet : ¬ (rewrite.after.run source later).Owes := by
      rw [← state_eq]
      rintro (asking | wanted)
      · exact Nat.lt_irrefl 0 (settled.ended ▸ asking)
      · exact settled.unwanted wanted
    have some_begun := rewrite.after.exists_begun_of_owed source later owed quiet
    obtain ⟨rest, newest, sofar⟩ := rewrite.after.exists_newest_poll source later some_begun
    refine ⟨rest, newest, ?_⟩
    rw [← state_eq] at sofar
    apply sofar.shown
    rw [settled.waiting]
    decide

/-- What a reset of the first of two servers leaves is the megabyte of the other. -/
theorem exists_reset_twoServers :
    ∃ text before after,
      Store.fetch .merged (some (Snapshot.listText Store.twoServers)) = .ok before ∧
      Store.reset .merged 7 (.server 0) (some (Snapshot.listText Store.twoServers)) = .ok text ∧
      Store.fetch .merged (some text) = .ok after ∧ after.aggregate.custom = ⟨1, 1048576⟩ := by
  have decoded := Store.listOfText?_twoServers
  obtain ⟨changed, after, reset, made, remaining⟩ : ∃ changed after,
      Store.resetRecords .merged 7 (.server 0) Store.twoServers = .ok changed ∧
        Store.batchOf .merged changed = .ok after ∧ after.aggregate.custom = ⟨1, 1048576⟩ :=
    ⟨_, _, rfl, rfl, by decide⟩
  have fetched := Store.fetch_text .merged _ _ decoded
  have accepted := (Store.reset_eq_ok_iff .merged 7 (.server 0) _ _ decoded _).mpr
    ⟨changed, reset, rfl⟩
  have refetched := Store.fetch_after_reset .merged 7 (.server 0) _ _ decoded changed (by decide)
    reset
  exact ⟨_, _, after, fetched, accepted, refetched.trans made, remaining⟩

/-- The first of two servers is reset during a poll. That poll shows what it has read, but another
one is wanted then, which shows the reset. -/
theorem refreshes_lose_nothing_midway :
    let file := some (Snapshot.listText Store.twoServers)
    ∃ text before after, Store.fetch .merged file = .ok before ∧
      Store.reset .merged 7 (.server 0) file = .ok text ∧
      Store.fetch .merged (some text) = .ok after ∧ after.aggregate.custom = ⟨1, 1048576⟩ ∧
      let polled := (start 1000 file none).run .merged (pollWithReset (.ticked 0) (.server 0) 7)
      let settled := polled.run .merged (polled.finishing 20)
      polled.poller.history = ⟨some before, none⟩ ∧ polled.poller.wanted ∧ settled.Settled ∧
        settled.file = some text ∧ settled.poller.history.current = some after := by
  intro file
  obtain ⟨text, before, after, fetched, accepted, refetched, remaining⟩ := exists_reset_twoServers
  refine ⟨text, before, after, fetched, accepted, refetched, remaining, ?_⟩
  have polled_eq := (start 1000 file none).run_pollWithReset .merged (.ticked 0) (.ticked 0 rfl)
    (.server 0) 7 text rfl accepted
  obtain ⟨_, _, serves⟩ :=
    refreshes_lose_nothing .merged 1000 file none (pollWithReset (.ticked 0) (.server 0) 7)
  have fetchedFirst : Store.fetch .merged (start 1000 file none).file = .ok before := fetched
  rw [fetchedFirst] at polled_eq
  rw [polled_eq] at serves ⊢
  obtain ⟨settled, sameFile, current⟩ := serves.settles 20 nofun
  exact ⟨rfl, rfl, settled, sameFile, current (.inr rfl) after refetched⟩

end Refresher

end TrafficMeter
