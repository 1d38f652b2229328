import TrafficMeter.Proofs.Display.LiveView

set_option autoImplicit false

namespace TrafficMeter

namespace LiveClient

/-- The reasons for which a client refuses what it receives, each in the words of the answer. -/
inductive Refuses (client : LiveClient) : LiveEvent → String → Prop
  | noCommand (text : String) (unread : Command.ofText? text = none) :
    Refuses client (.received text) "invalid command"
  | period (text input : String) (fault : PeriodFault)
    (read : Command.ofText? text = some (.period input))
    (rejected : Period.parse client.viewer.years input = .error fault) :
    Refuses client (.received text) fault.message
  | server (text : String) (index : Nat) (fault : LookupFault)
    (read : Command.ofText? text = some (.server index))
    (missing : client.history.find (.ofIndex index) = .error fault) :
    Refuses client (.received text) fault.message

variable {client : LiveClient}

/-- Each reason turns the event away before it has changed anything: no range, no period and no
server is chosen, and no redraw is left waiting under a hold. -/
theorem Refuses.turned_away {event : LiveEvent} {reason : String}
    (refuses : client.Refuses event reason) (zone : Zone) :
    client.holdStep? event = none ∧ client.step zone event = (client, [.error reason]) := by
  cases refuses with
  | noCommand text unread =>
    refine ⟨?_, client.step_of_unread zone text unread⟩
    simp only [holdStep?, unread]
  | period text input fault read rejected =>
    have acted := client.viewer.act_enterPeriod_of_refused client.history input fault rejected
    exact ⟨client.holdStep?_of_rejected text _ _ _ read acted,
      client.step_of_rejected zone text _ _ _ read acted⟩
  | server text index fault read missing =>
    have acted := client.viewer.act_showServer_of_refused client.history _ fault missing
    exact ⟨client.holdStep?_of_rejected text _ _ _ read acted,
      client.step_of_rejected zone text _ _ _ read acted⟩

/-- Nothing else comes to nothing. -/
theorem exists_reason_of_uncounted (client : LiveClient) (zone : Zone) (event : LiveEvent)
    (uncounted : client.holdStep? event = none) : ∃ reason, client.Refuses event reason := by
  cases event with
  | published history => cases uncounted
  | received text =>
    rcases client.received_cases zone text with
      ⟨unread, _, _⟩ | ⟨command, after, reason, read, acted, _, _⟩ | ⟨_, _, _, _, _, counted, _⟩
    · exact ⟨"invalid command", .noCommand text unread⟩
    · obtain ⟨_, ⟨input, fault, action_eq, rejected, _⟩ | ⟨scope, fault, action_eq, missing, _⟩⟩ :=
        client.viewer.act_eq_error client.history _ after reason acted
      · cases command with
        | period entered =>
          cases action_eq
          exact ⟨fault.message, .period text input fault read rejected⟩
        | range kind | server index | lock | unlock => cases action_eq
      · cases command with
        | server index =>
          cases action_eq
          exact ⟨fault.message, .server text index fault read missing⟩
        | range kind | period entered | lock | unlock => cases action_eq
    · rw [counted] at uncounted
      cases uncounted

end LiveClient

/-- An event in the life of a client, with the client before and after it and what it was told. -/
structure LiveMoment where
  before : LiveClient
  event : LiveEvent
  after : LiveClient
  told : List LiveMessage
deriving DecidableEq, Repr

namespace LiveMoment

/-- It came to nothing. -/
def isRefused (moment : LiveMoment) : Bool := (moment.before.holdStep? moment.event).isNone

/-- The frames that were sent. -/
def frames (moment : LiveMoment) : List Frame :=
  moment.told.filterMap fun message =>
    match message with
    | .frame shown => some shown
    | .error _ => none

end LiveMoment

namespace LiveClient

/-- What a client goes through, event by event. -/
def moments (zone : Zone) : LiveClient → List LiveEvent → List LiveMoment
  | _, [] => []
  | client, event :: rest =>
    ⟨client, event, (client.step zone event).1, (client.step zone event).2⟩ ::
      moments zone (client.step zone event).1 rest

/-- What is left of it when the refused texts are deleted. -/
def acceptedMoments (zone : Zone) (client : LiveClient) (events : List LiveEvent) :
    List LiveMoment :=
  (client.moments zone events).filter (!·.isRefused)

variable (zone : Zone) (client : LiveClient)

theorem mem_moments (events : List LiveEvent) (moment : LiveMoment)
    (member : moment ∈ client.moments zone events) :
    (moment.after, moment.told) = moment.before.step zone moment.event := by
  induction events generalizing client with
  | nil => cases member
  | cons event rest ih =>
    rcases List.mem_cons.mp member with rfl | later
    · rfl
    · exact ih _ later

theorem acceptedMoments_of_refused (event : LiveEvent) (rest : List LiveEvent)
    (refused : client.holdStep? event = none) :
    client.acceptedMoments zone (event :: rest) = client.acceptedMoments zone rest := by
  obtain ⟨_, answered⟩ := client.step_of_refused zone event refused
  rw [acceptedMoments, moments, List.filter_cons_of_neg (by simp [LiveMoment.isRefused, refused]),
    answered, acceptedMoments]

theorem acceptedMoments_of_taken (event : LiveEvent) (rest : List LiveEvent) (step : HoldStep)
    (taken : client.holdStep? event = some step) :
    client.acceptedMoments zone (event :: rest) =
      ⟨client, event, (client.step zone event).1, (client.step zone event).2⟩ ::
        (client.step zone event).1.acceptedMoments zone rest := by
  rw [acceptedMoments, moments, List.filter_cons_of_pos (by simp [LiveMoment.isRefused, taken]),
    acceptedMoments]

/-- The accepted events alone lead through the same moments, as the refused ones leave the client
as it is. -/
theorem moments_accepted (events : List LiveEvent) :
    client.moments zone ((client.acceptedMoments zone events).map (·.event)) =
      client.acceptedMoments zone events := by
  induction events generalizing client with
  | nil => rfl
  | cons event rest ih =>
    cases taken : client.holdStep? event with
    | none =>
      rw [client.acceptedMoments_of_refused zone event rest taken]
      exact ih client
    | some step =>
      rw [client.acceptedMoments_of_taken zone event rest step taken, List.map_cons, moments, ih]

/-- Refused texts are answered, but by no frame. -/
theorem frames_accepted (events : List LiveEvent) :
    (client.acceptedMoments zone events).flatMap (·.frames) =
      (client.moments zone events).flatMap (·.frames) := by
  induction events generalizing client with
  | nil => rfl
  | cons event rest ih =>
    rw [moments, List.flatMap_cons]
    cases taken : client.holdStep? event with
    | none =>
      obtain ⟨_, answered⟩ := client.step_of_refused zone event taken
      rw [client.acceptedMoments_of_refused zone event rest taken, ih, LiveMoment.frames, answered]
      rfl
    | some step =>
      rw [client.acceptedMoments_of_taken zone event rest step taken, List.flatMap_cons, ih]

/-- A text that is refused leaves no trace. A text is refused exactly if it is no command, or asks
for a period that cannot be entered or a server that is not there, and then it is answered by one
error, in the words of its reason, and nothing of it stays behind: without the refused texts the
client goes through all other events in the same states, whether its display is held or not, and is
sent the same frames. -/
theorem refused_texts_leave_no_trace (events : List LiveEvent) :
    let run := client.moments zone events
    let accepted := client.acceptedMoments zone events
    (∀ moment ∈ run,
        (moment.isRefused ↔ ∃ reason, moment.before.Refuses moment.event reason) ∧
        ∀ reason, moment.before.Refuses moment.event reason →
          moment.after = moment.before ∧ moment.told = [.error reason]) ∧
      client.moments zone (accepted.map (·.event)) = accepted ∧
      (client.moments zone (accepted.map (·.event))).flatMap (·.frames) =
        run.flatMap (·.frames) := by
  intro run accepted
  refine ⟨?_, client.moments_accepted zone events, ?_⟩
  · intro moment member
    constructor
    · rw [LiveMoment.isRefused, Option.isNone_iff_eq_none]
      constructor
      · exact moment.before.exists_reason_of_uncounted zone moment.event
      · rintro ⟨reason, refuses⟩
        exact (refuses.turned_away zone).1
    · intro reason refuses
      have outcome := client.mem_moments zone events moment member
      rw [(refuses.turned_away zone).2] at outcome
      exact Prod.mk.inj outcome
  · rw [client.moments_accepted zone events]
    exact client.frames_accepted zone events

/-- While a client holds its display it is refused a text that is no command, a period, a server
before the first batch and one that the batch has not. Each is answered, but of all that happens
only the lock, the batch and the unlock are left, and they draw the same one frame. -/
theorem refused_texts_leave_no_trace_spring :
    let spring : History := ⟨some springBatch, none⟩
    let lock := LiveEvent.received "\x7b\"type\":\"lock\"\x7d"
    let unlock := LiveEvent.received "\x7b\"type\":\"unlock\"\x7d"
    let events : List LiveEvent :=
      [lock, .received "redraw", .received "\x7b\"type\":\"period\",\"period\":\"2020-13\"\x7d",
        .received "\x7b\"type\":\"server\",\"server\":0\x7d", .published spring,
        .received "\x7b\"type\":\"server\",\"server\":1\x7d", unlock]
    let client := LiveClient.start .standard .empty
    ∃ frame, spring.frame .lastMinute .all .utc = .ok frame ∧
      (client.moments .utc events).map (·.told) =
        [[], [.error "invalid command"], [.error "month 13 is outside 1..=12"],
          [.error "no volume snapshot has been loaded yet"], [], [.error "unknown server 1"],
          [.frame frame]] ∧
      (client.moments .utc [lock, .published spring, unlock]).flatMap (·.frames) =
        (client.moments .utc events).flatMap (·.frames) := by
  intro spring lock unlock events client
  obtain ⟨frame, drawn⟩ : ∃ frame, spring.frame .lastMinute .all .utc = .ok frame := ⟨_, rfl⟩
  have told : (client.moments .utc events).map (·.told) =
      [[], [.error "invalid command"], [.error "month 13 is outside 1..=12"],
        [.error "no volume snapshot has been loaded yet"], [], [.error "unknown server 1"],
        [client.viewer.picture spring .utc]] := by
    decide +kernel
  have rendered : client.viewer.render spring .utc = .ok frame := drawn
  have shown : client.viewer.picture spring .utc = .frame frame := by
    rw [Viewer.picture, rendered]
  have left : (client.acceptedMoments .utc events).map (·.event) =
      [lock, .published spring, unlock] := by
    decide +kernel
  obtain ⟨_, _, same⟩ := refused_texts_leave_no_trace .utc client events
  rw [shown] at told
  rw [left] at same
  exact ⟨frame, drawn, told, same⟩

end LiveClient

end TrafficMeter
