import TrafficMeter.Proofs.Chart.YearMonths
import TrafficMeter.Proofs.Display.Actions
import TrafficMeter.Proofs.Display.HoldRuns
import TrafficMeter.Service.Live

set_option autoImplicit false

namespace TrafficMeter

/-- The newest history after some events. -/
def LiveEvent.newest (history : History) (events : List LiveEvent) : History :=
  events.foldl (fun newest event => match event with
    | .published next => next
    | .received _ => newest) history

theorem History.find_eq_noSnapshot_iff (history : History) (scope : Scope) :
    history.find scope = .error .noSnapshot ↔ history.current = none := by
  unfold find
  cases history.current with
  | none => exact iff_of_true rfl rfl
  | some batch => cases found : batch.snapshot? scope <;> simp [found]

/-- The chart and the counters are refused for the same reason, that the server is not found. -/
theorem History.frame_eq_error_iff (history : History) (range : ChartRange) (scope : Scope)
    (zone : Zone) (reason : LookupFault) :
    history.frame range scope zone = .error reason ↔ history.find scope = .error reason := by
  unfold frame chart summary
  cases history.find scope with
  | error other =>
    show (Except.error other : Except LookupFault Frame) = .error reason ↔ _
    rw [Except.error.injEq, Except.error.injEq]
  | ok found =>
    constructor <;>
    · intro refused
      cases refused

/-- The message that draws what a viewer looks at: the frame, or why there is none. -/
def Viewer.picture (viewer : Viewer) (history : History) (zone : Zone) : LiveMessage :=
  match viewer.render history zone with
  | .ok frame => .frame frame
  | .error reason => .error reason.message

namespace LiveClient

/-- What an event comes to for the hold of the display; a text that is no command, or one that is
refused, comes to nothing. -/
def holdStep? (client : LiveClient) : LiveEvent → Option HoldStep
  | .published _ => some .request
  | .received text =>
    match Command.ofText? text with
    | none => none
    | some command =>
      match (client.viewer.act client.history command.action).2 with
      | .error _ => none
      | .ok _ => some command.action.holdStep

/-- What is drawn at an event; the answer to a refused text is no drawing. -/
def drawn (zone : Zone) (client : LiveClient) (event : LiveEvent) : List LiveMessage :=
  if (client.holdStep? event).isSome then (client.step zone event).2 else []

section Step

variable (zone : Zone) (client : LiveClient)

theorem rendering_of_loaded (loaded : client.history.current.isSome) :
    client.rendering zone = [client.viewer.picture client.history zone] := by
  unfold rendering Viewer.picture
  cases rendered : client.viewer.render client.history zone with
  | ok frame => rfl
  | error reason =>
    cases reason with
    | unknownServer index => rfl
    | noSnapshot =>
      have missing := (History.frame_eq_error_iff _ _ _ _ _).mp rendered
      rw [(History.find_eq_noSnapshot_iff _ _).mp missing] at loaded
      cases loaded

section Received

variable (text : String)

theorem on_obey_of_unread (viewer : Viewer) (history : History)
    (unread : Command.ofText? text = none) :
    (obey history text).on viewer = (viewer, .error "invalid command") := by
  simp only [obey, unread]
  rfl

theorem on_obey (viewer : Viewer) (history : History) (command : Command)
    (read : Command.ofText? text = some command) :
    (obey history text).on viewer = ((viewer.act history command.action).1,
      (viewer.act history command.action).2.mapError ActionFault.message) := by
  simp only [obey, read, ViewerM.on_mapError, Viewer.act]

theorem step_of_unread (unread : Command.ofText? text = none) :
    client.step zone (.received text) = (client, [.error "invalid command"]) := by
  simp only [step, on_obey_of_unread text _ _ unread, follow]

/-- A command that cannot be done is answered with the reason. -/
theorem step_of_rejected (command : Command) (after : Viewer) (reason : ActionFault)
    (read : Command.ofText? text = some command)
    (rejected : client.viewer.act client.history command.action = (after, .error reason)) :
    client.step zone (.received text) = (client, [.error reason.message]) := by
  obtain ⟨rfl, _⟩ := client.viewer.act_eq_error client.history _ after reason rejected
  simp only [step, on_obey text _ _ command read, rejected, follow]
  rfl

theorem step_of_accepted (command : Command) (after : Viewer) (now : Bool)
    (read : Command.ofText? text = some command)
    (accepted : client.viewer.act client.history command.action = (after, .ok now)) :
    client.step zone (.received text) =
      (⟨after, client.history⟩,
        if now then LiveClient.rendering ⟨after, client.history⟩ zone else []) := by
  simp only [step, on_obey text _ _ command read, accepted, follow]
  rfl

theorem holdStep?_of_rejected (command : Command) (after : Viewer) (reason : ActionFault)
    (read : Command.ofText? text = some command)
    (rejected : client.viewer.act client.history command.action = (after, .error reason)) :
    client.holdStep? (.received text) = none := by
  simp only [holdStep?, read, rejected]

/-- All that can become of a text: it is no command, or one that is refused, and then nothing is
changed and nothing counts for the hold, or the client does as it says. -/
theorem received_cases :
    (Command.ofText? text = none ∧ client.holdStep? (.received text) = none ∧
        client.step zone (.received text) = (client, [.error "invalid command"])) ∨
      (∃ command after reason, Command.ofText? text = some command ∧
        client.viewer.act client.history command.action = (after, .error reason) ∧
        client.holdStep? (.received text) = none ∧
        client.step zone (.received text) = (client, [.error reason.message])) ∨
      ∃ command after now, Command.ofText? text = some command ∧
        client.viewer.act client.history command.action = (after, .ok now) ∧
        client.holdStep? (.received text) = some command.action.holdStep ∧
        client.step zone (.received text) = (⟨after, client.history⟩,
          if now then LiveClient.rendering ⟨after, client.history⟩ zone else []) := by
  cases read : Command.ofText? text with
  | none =>
    have uncounted : client.holdStep? (.received text) = none := by simp only [holdStep?, read]
    exact .inl ⟨rfl, uncounted, client.step_of_unread zone text read⟩
  | some command =>
    rcases acted : client.viewer.act client.history command.action with ⟨after, reason | now⟩
    · have uncounted := client.holdStep?_of_rejected text command after reason read acted
      have answered := client.step_of_rejected zone text command after reason read acted
      exact .inr (.inl ⟨command, after, reason, rfl, acted, uncounted, answered⟩)
    · have counted : client.holdStep? (.received text) = some command.action.holdStep := by
        simp only [holdStep?, read, acted]
      have stepped := client.step_of_accepted zone text command after now read acted
      exact .inr (.inr ⟨command, after, now, rfl, acted, counted, stepped⟩)

/-- A lock or an unlock is never refused, whether or not anything is held. -/
theorem holdStep?_of_hold (command : Command) (read : Command.ofText? text = some command)
    (holds : command = .lock ∨ command = .unlock) :
    client.holdStep? (.received text) = some command.action.holdStep := by
  rcases holds with rfl | rfl <;>
  · simp only [holdStep?, read]
    rfl

end Received

/-- A refusal is one message and nothing more. -/
theorem step_of_refused (event : LiveEvent) (refused : client.holdStep? event = none) :
    ∃ text, client.step zone event = (client, [.error text]) := by
  cases event with
  | published history => cases refused
  | received text =>
    rcases client.received_cases zone text with
      ⟨_, _, answered⟩ | ⟨_, _, _, _, _, _, answered⟩ | ⟨_, _, _, _, _, counted, _⟩
    · exact ⟨_, answered⟩
    · exact ⟨_, answered⟩
    · rw [counted] at refused
      cases refused

theorem history_step (event : LiveEvent) :
    (client.step zone event).1.history = LiveEvent.newest client.history [event] := by
  cases event with
  | published history => rfl
  | received text =>
    rcases client.received_cases zone text with
      ⟨_, _, stepped⟩ | ⟨_, _, _, _, _, _, stepped⟩ | ⟨_, _, _, _, _, _, stepped⟩ <;>
    · rw [stepped]
      rfl

theorem years_step (event : LiveEvent) :
    (client.step zone event).1.viewer.years = client.viewer.years := by
  cases event with
  | published history => rfl
  | received text =>
    rcases client.received_cases zone text with
      ⟨_, _, answered⟩ | ⟨_, _, _, _, _, _, answered⟩ | ⟨_, after, now, _, acted, _, stepped⟩
    · rw [answered]
    · rw [answered]
    · rw [stepped]
      exact client.viewer.years_act client.history _ after now acted

/-- An event that is taken up moves the hold by its step, and the client is drawn exactly when
that makes a redraw due. -/
theorem step_of_taken (event : LiveEvent) (step : HoldStep)
    (taken : client.holdStep? event = some step) :
    (client.step zone event).1.viewer.hold = (client.viewer.hold.step step).1 ∧
      (client.step zone event).2 =
        (if (client.viewer.hold.step step).2 then (client.step zone event).1.rendering zone
          else []) ∧
      (step ≠ .request → (client.step zone event).1.history = client.history ∧
        (client.step zone event).1.viewer.range = client.viewer.range ∧
        (client.step zone event).1.viewer.scope = client.viewer.scope) := by
  cases event with
  | published history =>
    cases taken
    exact ⟨rfl, rfl, fun quiet => absurd rfl quiet⟩
  | received text =>
    rcases client.received_cases zone text with
      ⟨_, uncounted, _⟩ | ⟨_, _, _, _, _, uncounted, _⟩ |
        ⟨command, after, now, _, acted, counted, stepped⟩
    · rw [uncounted] at taken
      cases taken
    · rw [uncounted] at taken
      cases taken
    · rw [counted] at taken
      cases taken
      have moved := client.viewer.hold_act client.history command.action after now acted
      rw [stepped, ← moved]
      refine ⟨rfl, rfl, ?_⟩
      intro quiet
      have kept := client.viewer.selection_act client.history command.action after now acted
      exact ⟨rfl, kept quiet⟩

end Step

end LiveClient

/-- What becomes of a client, with what its events came to and all that it was drawn. -/
structure LiveLog where
  client : LiveClient
  steps : List HoldStep
  drawings : List LiveMessage

namespace LiveLog

/-- A new client is drawn at once. -/
def start (zone : Zone) (years : YearLimits) (history : History) : LiveLog where
  client := .start years history
  steps := []
  drawings := (LiveClient.start years history).rendering zone

def record (zone : Zone) (log : LiveLog) (event : LiveEvent) : LiveLog where
  client := (log.client.step zone event).1
  steps := log.steps ++ (log.client.holdStep? event).toList
  drawings := log.drawings ++ log.client.drawn zone event

/-- The log of a client that connects and then goes through some events. -/
def ofEvents (zone : Zone) (years : YearLimits) (history : History) (events : List LiveEvent) :
    LiveLog :=
  events.foldl (record zone) (start zone years history)

/-- The hold is what the steps made it, and unless a redraw is waiting, the last drawing is of what
the client looks at now. -/
structure Current (zone : Zone) (log : LiveLog) : Prop where
  hold : log.client.viewer.hold = DisplayHold.run log.steps
  shown : ¬ HoldStep.AskedWhileHeld log.steps → log.client.history.current.isSome →
    log.drawings.getLast? = some (log.client.viewer.picture log.client.history zone)

theorem current_start (zone : Zone) (years : YearLimits) (history : History) :
    (start zone years history).Current zone := by
  refine ⟨rfl, ?_⟩
  intro _ loaded
  show ((LiveClient.start years history).rendering zone).getLast? = _
  rw [LiveClient.rendering_of_loaded zone (.start years history) loaded]
  rfl

/-- A redraw is due after a step exactly if it leaves no hold and one was asked for, now or while
it was held. -/
theorem Current.due_iff {zone : Zone} {log : LiveLog} (current : log.Current zone)
    (step : HoldStep) :
    (log.client.viewer.hold.step step).2 ↔ HoldStep.depth (log.steps ++ [step]) = 0 ∧
      (step = .request ∨ step = .unlock ∧ HoldStep.AskedWhileHeld log.steps) := by
  obtain ⟨depth_eq, pending_iff⟩ := DisplayHold.run_spec log.steps
  rw [DisplayHold.due_step_iff, current.hold, depth_eq, pending_iff,
    HoldStep.depth_append_singleton]

/-- A step after which no redraw is due leaves it waiting if it asked for one. -/
theorem Current.quiet_of_not_due {zone : Zone} {log : LiveLog} (current : log.Current zone)
    (step : HoldStep) (not_due : ¬ (log.client.viewer.hold.step step).2)
    (settled : ¬ HoldStep.AskedWhileHeld (log.steps ++ [step])) :
    step ≠ .request ∧ ¬ HoldStep.AskedWhileHeld log.steps := by
  rw [HoldStep.askedWhileHeld_append_singleton] at settled
  rw [current.due_iff] at not_due
  by_cases held : 0 < HoldStep.depth (log.steps ++ [step])
  · have none_asked := fun asked => settled ⟨held, asked⟩
    exact ⟨fun asks => none_asked (.inl asks), fun waits => none_asked (.inr waits)⟩
  · have free : HoldStep.depth (log.steps ++ [step]) = 0 := by omega
    have none_asked := fun asked => not_due ⟨free, asked⟩
    refine ⟨fun asks => none_asked (.inl asks), fun waits => ?_⟩
    cases step with
    | lock =>
      rw [HoldStep.depth_append_singleton] at free
      simp only [HoldStep.depthAfter, DisplayHold.depthLimit, UInt32.size] at free
      omega
    | unlock => exact none_asked (.inr ⟨rfl, waits⟩)
    | request => exact none_asked (.inl rfl)

theorem Current.record {zone : Zone} {log : LiveLog} (current : log.Current zone)
    (event : LiveEvent) : (log.record zone event).Current zone := by
  cases taken : log.client.holdStep? event with
  | none =>
    obtain ⟨text, answered⟩ := log.client.step_of_refused zone event taken
    have unchanged : log.record zone event = log := by
      simp only [LiveLog.record, LiveClient.drawn, taken, answered, Option.toList_none,
        Option.isSome_none, Bool.false_eq_true, ↓reduceIte, List.append_nil]
    rw [unchanged]
    exact current
  | some step =>
    obtain ⟨hold_eq, drawn_eq, kept⟩ := log.client.step_of_taken zone event step taken
    constructor
    · simp only [LiveLog.record, taken, Option.toList_some, hold_eq, current.hold,
        DisplayHold.run_append_singleton]
    · intro settled loaded
      simp only [LiveLog.record, taken, Option.toList_some] at settled loaded
      simp only [LiveLog.record, LiveClient.drawn, taken, Option.isSome_some, ↓reduceIte, drawn_eq]
      by_cases due : (log.client.viewer.hold.step step).2
      · rw [if_pos due, LiveClient.rendering_of_loaded zone _ loaded, List.getLast?_append,
          List.getLast?_singleton]
        rfl
      · obtain ⟨quiet, settledBefore⟩ := current.quiet_of_not_due step due settled
        obtain ⟨sameHistory, sameRange, sameScope⟩ := kept quiet
        rw [sameHistory] at loaded
        rw [if_neg due, List.append_nil, Viewer.picture, Viewer.render, sameHistory, sameRange,
          sameScope]
        exact current.shown settledBefore loaded

theorem current_ofEvents (zone : Zone) (years : YearLimits) (history : History)
    (events : List LiveEvent) : (ofEvents zone years history events).Current zone := by
  induction events using List.reverseRecOn with
  | nil => exact current_start zone years history
  | append_singleton events event ih =>
    rw [ofEvents, List.foldl_append]
    exact ih.record event

theorem history_ofEvents (zone : Zone) (years : YearLimits) (history : History)
    (events : List LiveEvent) :
    (ofEvents zone years history events).client.history = LiveEvent.newest history events := by
  induction events using List.reverseRecOn with
  | nil => rfl
  | append_singleton events event ih =>
    rw [ofEvents, List.foldl_append, List.foldl_cons, List.foldl_nil, LiveEvent.newest,
      List.foldl_append]
    show (LiveClient.step zone _ event).1.history = LiveEvent.newest _ [event]
    rw [LiveClient.history_step]
    exact congrArg (LiveEvent.newest · [event]) ih

/-- Nothing is drawn at an event that leaves a hold; a refused text is answered, but by no frame. -/
theorem Current.still_of_held {zone : Zone} {log : LiveLog} (current : log.Current zone)
    (event : LiveEvent) (held : 0 < HoldStep.depth (log.record zone event).steps) :
    (log.record zone event).drawings = log.drawings ∧
      ∀ frame, LiveMessage.frame frame ∉ (log.client.step zone event).2 := by
  cases taken : log.client.holdStep? event with
  | none =>
    obtain ⟨text, answered⟩ := log.client.step_of_refused zone event taken
    constructor
    · simp only [LiveLog.record, LiveClient.drawn, taken, Option.isSome_none, Bool.false_eq_true,
        ↓reduceIte, List.append_nil]
    · intro frame sent
      rw [answered] at sent
      simp at sent
  | some step =>
    simp only [LiveLog.record, taken, Option.toList_some] at held
    have not_due : ¬ (log.client.viewer.hold.step step).2 := by
      rw [current.due_iff]
      intro due
      omega
    obtain ⟨_, drawn_eq, _⟩ := log.client.step_of_taken zone event step taken
    rw [if_neg not_due] at drawn_eq
    constructor
    · simp only [LiveLog.record, LiveClient.drawn, taken, Option.isSome_some, ↓reduceIte, drawn_eq,
        List.append_nil]
    · intro frame sent
      rw [drawn_eq] at sent
      cases sent

/-- The unlock that ends the last hold draws the client once if a redraw was waiting, and not at
all otherwise. -/
theorem Current.unlock_last {zone : Zone} {log : LiveLog} (current : log.Current zone)
    (text : String) (unlocks : Command.ofText? text = some .unlock)
    (last : HoldStep.depth log.steps = 1) (loaded : log.client.history.current.isSome) :
    (HoldStep.AskedWhileHeld log.steps → (log.client.step zone (.received text)).2 =
        [log.client.viewer.picture log.client.history zone]) ∧
      (¬ HoldStep.AskedWhileHeld log.steps → (log.client.step zone (.received text)).2 = []) := by
  have taken : log.client.holdStep? (.received text) = some .unlock :=
    log.client.holdStep?_of_hold text .unlock unlocks (.inr rfl)
  have free : HoldStep.depth (log.steps ++ [.unlock]) = 0 := by
    rw [HoldStep.depth_append_singleton, last]
    rfl
  obtain ⟨_, drawn_eq, kept⟩ := log.client.step_of_taken zone _ _ taken
  obtain ⟨sameHistory, sameRange, sameScope⟩ := kept (by decide)
  constructor
  · intro asked
    have due := (current.due_iff .unlock).mpr ⟨free, .inr ⟨rfl, asked⟩⟩
    rw [← sameHistory] at loaded
    rw [drawn_eq, if_pos due, LiveClient.rendering_of_loaded zone _ loaded, Viewer.picture,
      Viewer.render, sameHistory, sameRange, sameScope]
    rfl
  · intro none_asked
    have not_due : ¬ (log.client.viewer.hold.step .unlock).2 := by
      rw [current.due_iff]
      rintro ⟨_, asks | ⟨_, asked⟩⟩
      · cases asks
      · exact none_asked asked
    rw [drawn_eq, if_neg not_due]

/-- A live client is drawn nothing while its display is held, exactly once when the last hold ends
if anything happened under it, and never looks at an old picture while nothing is held. The depth
of the holds counts the locks that are open, as far as the count goes. -/
theorem live_view_current (zone : Zone) (years : YearLimits) (history : History)
    (events : List LiveEvent) :
    let log := ofEvents zone years history events
    let newest := LiveEvent.newest history events
    (∀ event, 0 < HoldStep.depth (log.record zone event).steps →
        (log.record zone event).drawings = log.drawings ∧
          ∀ frame, LiveMessage.frame frame ∉ (log.client.step zone event).2) ∧
      (∀ text, Command.ofText? text = some .unlock → HoldStep.depth log.steps = 1 →
        newest.current.isSome →
        (HoldStep.AskedWhileHeld log.steps → (log.client.step zone (.received text)).2 =
            [log.client.viewer.picture newest zone]) ∧
          (¬ HoldStep.AskedWhileHeld log.steps →
            (log.client.step zone (.received text)).2 = [])) ∧
      (HoldStep.depth log.steps = 0 → newest.current.isSome →
        log.drawings.getLast? = some (log.client.viewer.picture newest zone)) ∧
      ((∀ part, part <+: log.steps → HoldStep.openLocks part ≤ DisplayHold.depthLimit) →
        HoldStep.depth log.steps = HoldStep.openLocks log.steps) := by
  intro log newest
  have current : log.Current zone := current_ofEvents zone years history events
  have history_eq : log.client.history = newest := history_ofEvents zone years history events
  rw [← history_eq]
  refine ⟨fun event => current.still_of_held event, fun text => current.unlock_last text, ?_,
    HoldStep.depth_eq_openLocks log.steps⟩
  intro free
  apply current.shown
  intro asked
  have held := asked.depth_pos
  omega

/-- A client locks its display, chooses the last hour and sends a text that is no command, and then
a batch comes in. It is drawn nothing, not even when the batch comes in once more, until it unlocks,
and then the last hour once. -/
theorem live_view_current_spring :
    let spring : History := ⟨some springBatch, none⟩
    let unlock := "\x7b\"type\":\"unlock\"\x7d"
    let events : List LiveEvent :=
      [.received "\x7b\"type\":\"lock\"\x7d",
        .received "\x7b\"type\":\"range\",\"range\":\"hour\"\x7d", .received "redraw",
        .published spring]
    let held := ofEvents .utc .standard .empty events
    let freed := ofEvents .utc .standard .empty (events ++ [.received unlock])
    ∃ frame, spring.frame .lastHour .all .utc = .ok frame ∧ held.drawings = [] ∧
      (held.record .utc (.published spring)).drawings = [] ∧
      (held.client.step .utc (.received unlock)).2 = [.frame frame] ∧
      freed.drawings.getLast? = some (.frame frame) := by
  intro spring unlock events held freed
  obtain ⟨still, unlocked, _, _⟩ := live_view_current .utc .standard .empty events
  obtain ⟨_, _, shown, _⟩ :=
    live_view_current .utc .standard .empty (events ++ [.received unlock])
  have undrawn : held.drawings = [] := by decide +kernel
  have steps_eq : held.steps = [.lock, .request, .request] := by decide +kernel
  have asked : HoldStep.AskedWhileHeld held.steps := by
    rw [steps_eq, ← (DisplayHold.run_spec _).2]
    decide
  obtain ⟨frame, drawn⟩ : ∃ frame, spring.frame .lastHour .all .utc = .ok frame := ⟨_, rfl⟩
  have hour : ∀ viewer : Viewer, viewer.range = .lastHour → viewer.scope = .all →
      viewer.picture spring .utc = .frame frame := by
    intro viewer range_eq scope_eq
    simp only [Viewer.picture, Viewer.render, range_eq, scope_eq, drawn]
  refine ⟨frame, drawn, undrawn, ?_, ?_, ?_⟩
  · rw [← undrawn]
    exact (still (.published spring) (by decide +kernel)).1
  · rw [← hour held.client.viewer (by decide +kernel) (by decide +kernel)]
    exact (unlocked unlock (by decide +kernel) (by decide +kernel) rfl).1 asked
  · rw [← hour freed.client.viewer (by decide +kernel) (by decide +kernel)]
    exact shown (by decide +kernel) rfl

end LiveLog

end TrafficMeter
