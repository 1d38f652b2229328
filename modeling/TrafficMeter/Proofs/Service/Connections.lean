import Mathlib.Data.List.Nodup
import TrafficMeter.Proofs.Display.LiveView
import TrafficMeter.Service.App

set_option autoImplicit false

namespace TrafficMeter

namespace LiveClient

/-- What a client is told while it goes through some events. -/
def told (zone : Zone) : LiveClient → List LiveEvent → List LiveMessage
  | _, [] => []
  | client, event :: rest =>
    (client.step zone event).2 ++ told zone (client.step zone event).1 rest

end LiveClient

namespace Connection

/-- A connection after an event that reaches it or passes it by, and what it is told. -/
def after (zone : Zone) (reaches : String → Bool) (event : LiveEvent) (connection : Connection) :
    Connection × List LiveMessage :=
  match connection.client with
  | some client =>
    if reaches connection.id then
      ({ connection with client := some (client.step zone event).1 }, (client.step zone event).2)
    else (connection, [])
  | none => (connection, [])

variable (zone : Zone) (reaches : String → Bool) (event : LiveEvent)

theorem id_after (connection : Connection) :
    (connection.after zone reaches event).1.id = connection.id := by
  unfold after
  split
  · split <;> rfl
  · rfl

theorem after_of_open (id : String) (client : LiveClient) :
    after zone reaches event ⟨id, some client⟩ =
      if reaches id then (⟨id, some (client.step zone event).1⟩, (client.step zone event).2)
      else (⟨id, some client⟩, []) :=
  rfl

end Connection

/-- What a connection is told, of all that is delivered. -/
def Deliveries.messagesTo (deliveries : Deliveries) (id : String) : List LiveMessage :=
  (deliveries.filter (·.1 = id)).flatMap (·.2)

/-- Where no two connections have the same name, each is told what was meant for it alone. -/
theorem Deliveries.messagesTo_map (connections : List Connection)
    (tell : Connection → List LiveMessage) (distinct : (connections.map Connection.id).Nodup)
    (connection : Connection) (member : connection ∈ connections) :
    messagesTo (connections.map fun other => (other.id, tell other)) connection.id =
      tell connection := by
  induction connections with
  | nil => cases member
  | cons first rest ih =>
    rw [List.map_cons, List.nodup_cons] at distinct
    obtain ⟨fresh, distinct⟩ := distinct
    rw [messagesTo, List.map_cons, List.filter_cons]
    -- Either the first connection is the one, and no other has its name, or one of the rest is.
    rcases List.mem_cons.mp member with rfl | member
    · have others : (rest.map fun other => (other.id, tell other)).filter
          (·.1 = connection.id) = [] := by
        rw [List.filter_eq_nil_iff]
        intro delivery delivered same
        obtain ⟨other, among, rfl⟩ := List.mem_map.mp delivered
        rw [decide_eq_true_eq] at same
        exact fresh (same ▸ List.mem_map_of_mem among)
      rw [if_pos (decide_eq_true rfl), others, List.flatMap_singleton]
    · have differs : first.id ≠ connection.id := by
        intro same
        exact fresh (same ▸ List.mem_map_of_mem member)
      rw [if_neg (by simp [differs])]
      exact ih distinct member

namespace Service

variable (setup : ServiceSetup)

section Deliver

variable (service : Service) (reaches : String → Bool) (event : LiveEvent)

theorem deliver_eq : service.deliver setup reaches event =
    ({ service with
        connections := service.connections.map fun connection =>
          (connection.after setup.zone reaches event).1 },
      service.connections.map fun connection =>
        (connection.id, (connection.after setup.zone reaches event).2)) := by
  have outcomes : service.deliver setup reaches event =
      (let outcomes := service.connections.map (Connection.after setup.zone reaches event)
      ({ service with connections := outcomes.map (·.1) },
        outcomes.map fun outcome => (outcome.1.id, outcome.2))) := rfl
  rw [outcomes]
  simp only [List.map_map, Function.comp_def, Connection.id_after]

/-- An event that is passed on opens and closes no connection. -/
theorem ids_deliver : (service.deliver setup reaches event).1.connections.map Connection.id =
    service.connections.map Connection.id := by
  rw [deliver_eq]
  simp only [List.map_map, Function.comp_def, Connection.id_after]

theorem mem_deliver_iff (id : String) (client : LiveClient) :
    ⟨id, some client⟩ ∈ (service.deliver setup reaches event).1.connections ↔
      ∃ before, ⟨id, some before⟩ ∈ service.connections ∧
        client = if reaches id then (before.step setup.zone event).1 else before := by
  rw [deliver_eq, List.mem_map]
  constructor
  · rintro ⟨⟨name, state⟩, member, same⟩
    cases state with
    | none => cases same
    | some before =>
      rw [Connection.after_of_open] at same
      split at same
      · rename_i reached
        cases same
        exact ⟨_, member, (if_pos reached).symm⟩
      · rename_i missed
        cases same
        exact ⟨_, member, (if_neg missed).symm⟩
  · rintro ⟨before, member, rfl⟩
    refine ⟨⟨id, some before⟩, member, ?_⟩
    rw [Connection.after_of_open]
    split <;> rfl

/-- A text is answered to the connection that sent it, as its client would answer it alone. -/
theorem messagesTo_received (distinct : (service.connections.map Connection.id).Nodup) (id : String)
    (client : LiveClient) (opened : ⟨id, some client⟩ ∈ service.connections) (text : String) :
    (service.deliver setup (· = id) (.received text)).2.messagesTo id =
      (client.step setup.zone (.received text)).2 := by
  have own := Deliveries.messagesTo_map service.connections
    (fun connection => (connection.after setup.zone (· = id) (.received text)).2) distinct
    ⟨id, some client⟩ opened
  rw [deliver_eq, own, Connection.after_of_open, if_pos (decide_eq_true rfl)]

end Deliver

/-- No two connections have the same name, and each open client looks at the newest history in the
years that the service goes by. -/
structure InStep (service : Service) : Prop where
  distinct : (service.connections.map Connection.id).Nodup
  current : ∀ id client, ⟨id, some client⟩ ∈ service.connections →
    client.history = service.history ∧ client.viewer.years = setup.years

/-- A request leaves the service as it is, unless it resets counters: then the file is rewritten and
a poll wanted. -/
theorem answer_cases (service : Service) (method : Method) (address : String) (now : Int) :
    (service.answer setup method address now).2 = service ∨
      ∃ scope text, Store.reset setup.source now scope service.file = .ok text ∧
        (service.answer setup method address now).2 =
          { service with file := some text, refreshWanted := true } := by
  rw [answer]
  split
  simp only
  cases findRoute method _ with
  | error reason => exact .inl rfl
  | ok route =>
    cases route with
    | greeting | version | chart | counters | periods | live => exact .inl rfl
    | reset =>
      unfold resetPage
      cases Query.scope? _ with
      | none => exact .inl rfl
      | some scope =>
        simp only
        cases accepted : Store.reset setup.source now scope service.file with
        | error reason => exact .inl rfl
        | ok text => exact .inr ⟨scope, text, accepted, rfl⟩

/-- A request opens and closes no connection, and publishes nothing. -/
theorem answer_keeps (service : Service) (method : Method) (address : String) (now : Int) :
    (service.answer setup method address now).2.connections = service.connections ∧
      (service.answer setup method address now).2.history = service.history := by
  rcases service.answer_cases setup method address now with same | ⟨_, _, _, reset⟩
  · rw [same]
    exact ⟨rfl, rfl⟩
  · rw [reset]
    exact ⟨rfl, rfl⟩

section Steps

variable {setup} {service : Service} (inStep : service.InStep setup)

include inStep

theorem InStep.publish (batch : Batch) : (service.publish setup batch).1.InStep setup := by
  constructor
  · show ((deliver _ _ _ _).1.connections.map Connection.id).Nodup
    rw [ids_deliver]
    exact inStep.distinct
  · intro id client member
    obtain ⟨before, opened, rfl⟩ := (mem_deliver_iff _ _ _ _ id client).mp member
    rw [if_pos rfl, LiveClient.history_step, LiveClient.years_step]
    exact ⟨rfl, (inStep.current id before opened).2⟩

theorem InStep.receive (id text : String) :
    (service.deliver setup (· = id) (.received text)).1.InStep setup := by
  constructor
  · rw [ids_deliver]
    exact inStep.distinct
  · intro name client member
    obtain ⟨before, opened, rfl⟩ := (mem_deliver_iff _ _ _ _ name client).mp member
    split
    · rw [LiveClient.history_step, LiveClient.years_step]
      exact inStep.current name before opened
    · exact inStep.current name before opened

/-- A new connection takes the place of an old one of its name. -/
theorem InStep.connect (id : String) : (service.connect setup id).1.InStep setup := by
  constructor
  · have kept : ((service.connections.filter (·.id ≠ id)).map Connection.id).Nodup :=
      inStep.distinct.sublist (List.filter_sublist.map _)
    have fresh : id ∉ (service.connections.filter (·.id ≠ id)).map Connection.id := by
      intro member
      obtain ⟨connection, among, same⟩ := List.mem_map.mp member
      exact of_decide_eq_true (List.mem_filter.mp among).2 same
    simp only [Service.connect, List.map_append, List.map_singleton]
    rw [← List.concat_eq_append]
    exact List.Nodup.concat fresh kept
  · intro name client member
    rcases List.mem_append.mp member with old | new
    · exact inStep.current name client (List.mem_filter.mp old).1
    · rw [List.mem_singleton] at new
      obtain ⟨_, opened⟩ := Connection.mk.inj new
      split at opened
      · cases opened
        exact ⟨rfl, rfl⟩
      · cases opened

theorem InStep.publisherStopped :
    (service.step setup .publisherStopped).1.InStep setup := by
  constructor
  · simp only [step, List.map_map]
    exact inStep.distinct
  · intro id client member
    obtain ⟨connection, _, closed⟩ := List.mem_map.mp member
    cases closed

theorem InStep.disconnected (id : String) :
    (service.step setup (.disconnected id)).1.InStep setup := by
  constructor
  · have same_id : ∀ connection : Connection,
        (if connection.id = id then { connection with client := none } else connection).id =
          connection.id := by
      intro connection
      split <;> rfl
    simp only [step, List.map_map, Function.comp_def, same_id]
    exact inStep.distinct
  · intro name client member
    obtain ⟨connection, among, left⟩ := List.mem_map.mp member
    split at left
    · cases left
    · subst left
      exact inStep.current name client among

theorem InStep.step (event : ServiceEvent) : (service.step setup event).1.InStep setup := by
  cases event with
  | fileWritten file => exact ⟨inStep.distinct, inStep.current⟩
  | polled =>
    cases fetched : Store.fetch setup.source service.file with
    | error reason =>
      simp only [Service.step, fetched]
      exact inStep
    | ok batch =>
      simp only [Service.step, fetched]
      exact inStep.publish batch
  | published batch => exact inStep.publish batch
  | publisherStopped => exact inStep.publisherStopped
  | requested method address now =>
    obtain ⟨connections_eq, history_eq⟩ := service.answer_keeps setup method address now
    constructor
    · show ((service.answer setup method address now).2.connections.map Connection.id).Nodup
      rw [connections_eq]
      exact inStep.distinct
    · show ∀ id client, _ ∈ (service.answer setup method address now).2.connections →
        _ = (service.answer setup method address now).2.history ∧ _
      rw [connections_eq, history_eq]
      exact inStep.current
  | connected id => exact inStep.connect id
  | received id text => exact inStep.receive id text
  | disconnected id => exact inStep.disconnected id

end Steps

/-- The service after some events. -/
def ofEvents (events : List ServiceEvent) : Service :=
  events.foldl (fun service event => (service.step setup event).1) start

theorem inStep_ofEvents (events : List ServiceEvent) : (ofEvents setup events).InStep setup := by
  induction events using List.reverseRecOn with
  | nil => exact ⟨List.nodup_nil, fun _ _ member => nomatch member⟩
  | append_singleton events event ih =>
    rw [ofEvents, List.foldl_append]
    exact ih.step event

/-- What a connection is told while the service goes through some events. -/
def told (id : String) : Service → List ServiceEvent → List LiveMessage
  | _, [] => []
  | service, event :: rest =>
    (service.step setup event).2.2.messagesTo id ++ told id (service.step setup event).1 rest

/-- What a connection is told about the texts that it sends is what its client tells by itself. -/
theorem InStep.told_received {setup : ServiceSetup} {service : Service}
    (inStep : service.InStep setup) (id : String) (client : LiveClient)
    (opened : ⟨id, some client⟩ ∈ service.connections) (texts : List String) :
    service.told setup id (texts.map (.received id)) =
      client.told setup.zone (texts.map .received) := by
  induction texts generalizing service client with
  | nil => rfl
  | cons text rest ih =>
    have openedAfter : ⟨id, some (client.step setup.zone (.received text)).1⟩ ∈
        (service.deliver setup (· = id) (.received text)).1.connections :=
      (mem_deliver_iff _ _ _ _ _ _).mpr ⟨client, opened, (if_pos (decide_eq_true rfl)).symm⟩
    have answered := service.messagesTo_received setup inStep.distinct id client opened text
    rw [List.map_cons, List.map_cons, told, LiveClient.told, ← answered,
      ← ih (inStep.receive id text) _ openedAfter]
    rfl

end Service

end TrafficMeter
