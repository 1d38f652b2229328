import TrafficMeter.Proofs.Service.Connections
import TrafficMeter.Proofs.Service.RefreshRuns

set_option autoImplicit false

namespace TrafficMeter

namespace Refresher

/-- A refresher with nothing under way, for a service of the same file and history. -/
structure StandsFor (state : Refresher) (service : Service) : Prop where
  file : state.file = service.file
  history : state.poller.history = service.history
  wanted : state.poller.wanted = service.refreshWanted
  waiting : state.poller.phase = .waiting
  free : state.rewriting = none

section Steps

variable {state : Refresher} {service : Service} (stands : state.StandsFor service)
  (setup : ServiceSetup)

include stands

/-- A reset in one piece is a run of its parts. -/
theorem StandsFor.requested (method : Method) (address : String) (now : Int) :
    ∃ events, StandsFor (state.run setup.source events)
      (service.answer setup method address now).2 := by
  rcases service.answer_cases setup method address now with
    same | ⟨scope, text, accepted, changed⟩
  · rw [same]
    exact ⟨[], stands⟩
  · refine ⟨[.resetBegun scope now, .fileReset, .resetEnded], ?_⟩
    rw [← stands.file] at accepted
    rw [changed, state.run_reset setup.source scope now text stands.free accepted]
    exact ⟨rfl, stands.history, rfl, stands.waiting, stands.free⟩

/-- So is a poll. -/
theorem StandsFor.polled : ∃ events, StandsFor (state.run setup.source events)
    (service.step setup .polled).1 := by
  have polled := state.run_poll setup.source (.ticked 0) (.ticked 0 stands.waiting)
  refine ⟨[.turned (.ticked 0), .fileRead none, .pollEnded], ?_⟩
  rw [polled, stands.file]
  cases fetched : Store.fetch setup.source service.file with
  | error reason =>
    simp only [Service.step, fetched, Poller.step, PollerTurn.event, stands.waiting]
    exact ⟨rfl, stands.history, stands.wanted, rfl, stands.free⟩
  | ok batch =>
    simp only [Service.step, fetched, Poller.step, PollerTurn.event, stands.waiting]
    refine ⟨rfl, ?_, stands.wanted, rfl, stands.free⟩
    exact congrArg (History.push · batch) stands.history

/-- Whatever else happens to the service is nothing to the refresher. -/
theorem StandsFor.step (event : ServiceEvent) (own : ∀ batch, event ≠ .published batch) :
    ∃ events, StandsFor (state.run setup.source events) (service.step setup event).1 := by
  cases event with
  | fileWritten file =>
    exact ⟨[.fileWritten file], rfl, stands.history, stands.wanted, stands.waiting, stands.free⟩
  | polled => exact stands.polled setup
  | published batch => exact absurd rfl (own batch)
  | requested method address now => exact stands.requested setup method address now
  | publisherStopped | connected | received | disconnected =>
    exact ⟨[], stands.file, stands.history, stands.wanted, stands.waiting, stands.free⟩

end Steps

/-- The service, which takes resets and polls in one piece, is one of the runs: what holds of all of
them holds of its file and history. -/
theorem exists_run_ofEvents (setup : ServiceSetup) (period : Nat) (events : List ServiceEvent)
    (own : ∀ batch, .published batch ∉ events) :
    ∃ refreshes, StandsFor ((start period none none).run setup.source refreshes)
      (Service.ofEvents setup events) := by
  induction events using List.reverseRecOn with
  | nil => exact ⟨[], rfl, rfl, rfl, rfl, rfl⟩
  | append_singleton events event ih =>
    have own_event : ∀ batch, event ≠ .published batch := by
      rintro batch rfl
      exact own batch (List.mem_append_right _ (List.mem_singleton_self _))
    obtain ⟨earlier, stands⟩ := ih fun batch member => own batch (List.mem_append_left _ member)
    obtain ⟨refreshes, stands⟩ := stands.step setup event own_event
    refine ⟨earlier ++ refreshes, ?_⟩
    rw [run_append, Service.ofEvents, List.foldl_append]
    exact stands

end Refresher

end TrafficMeter
