import TrafficMeter.Service.Request
import TrafficMeter.Service.Live

set_option autoImplicit false

namespace TrafficMeter

/-- What the service goes by, fixed while it runs. -/
structure ServiceSetup where
  source : AggregateSource
  years : YearLimits
  zone : Zone
deriving DecidableEq, Repr

/-- A connection that was made: an open one has its client. -/
structure Connection where
  id : String
  client : Option LiveClient
deriving DecidableEq, Repr

/-- The running service with the file that its store reads. -/
structure Service where
  file : Option String
  history : History
  /-- Whether batches can still be published. -/
  isPublishing : Bool
  /-- Whether a reset has asked for a poll. -/
  refreshWanted : Bool
  connections : List Connection
deriving DecidableEq, Repr

/-- What happens to the service from outside. -/
inductive ServiceEvent
  /-- The file is replaced, or removed. -/
  | fileWritten (file : Option String)
  /-- The store is polled. -/
  | polled
  | published (batch : Batch)
  /-- No further batch will be published. -/
  | publisherStopped
  /-- A request comes in at a Unix time. -/
  | requested (method : Method) (address : String) (now : Int)
  | connected (id : String)
  | received (id : String) (text : String)
  | disconnected (id : String)
deriving DecidableEq, Repr

/-- What an event comes to, apart from what live clients are told. -/
inductive ServiceResult
  | done
  | refused (reason : StoreFault)
  | answered (answer : Except RequestFault Page)

/-- The messages that each connection receives. -/
abbrev Deliveries := List (String × List LiveMessage)

namespace Service

def start : Service := ⟨none, .empty, true, false, []⟩

/-- Number of open connections. -/
def liveCount (service : Service) : Nat :=
  (service.connections.filter (·.client.isSome)).length

/-- Passes an event to one connection, or to all of them. -/
def deliver (setup : ServiceSetup) (service : Service) (reaches : String → Bool)
    (event : LiveEvent) : Service × Deliveries :=
  let outcomes := service.connections.map fun connection =>
    match connection.client with
    | some client =>
      if reaches connection.id then
        let (client, messages) := client.step setup.zone event
        ({ connection with client := some client }, messages)
      else (connection, [])
    | none => (connection, [])
  ({ service with connections := outcomes.map (·.1) },
    outcomes.map fun (connection, messages) => (connection.id, messages))

/-- A new batch reaches every live client. -/
def publish (setup : ServiceSetup) (service : Service) (batch : Batch) : Service × Deliveries :=
  let history := service.history.push batch
  deliver setup { service with history } (fun _ => true) (.published history)

/-- A new connection is shown the newest batch at once. It stays open only while there is more to
come. -/
def connect (setup : ServiceSetup) (service : Service) (id : String) : Service × Deliveries :=
  let client := LiveClient.start setup.years service.history
  let kept := service.connections.filter (·.id ≠ id)
  let connection := ⟨id, if service.isPublishing then some client else none⟩
  ({ service with connections := kept ++ [connection] }, [(id, client.rendering setup.zone)])

/-- The answer to a request, and the service after it: a reset replaces the file and asks for a
poll. -/
def answer (setup : ServiceSetup) (service : Service) (method : Method) (address : String)
    (now : Int) : Except RequestFault Page × Service :=
  let (path, parameters) := splitAddress address
  let query := Query.decode parameters
  match findRoute method path with
  | .error reason => (.error reason, service)
  | .ok .greeting => (.ok .greeting, service)
  | .ok .version => (.ok .version, service)
  | .ok .chart => ((service.history.chartPage setup.years query).map .chart, service)
  | .ok .counters => ((service.history.countersPage setup.zone query).map .counters, service)
  | .ok .periods => ((service.history.quickPeriods.map .periods).mapError .lookup, service)
  | .ok .live => (.error .notLive, service)
  | .ok .reset =>
    match resetPage setup.source now service.file query with
    | .error reason => (.error reason, service)
    | .ok (scope, file) =>
      (.ok (.reset scope.index), { service with file := some file, refreshWanted := true })

/-- The service after an event, what the event came to, and what live clients were told. -/
def step (setup : ServiceSetup) (service : Service) :
    ServiceEvent → Service × ServiceResult × Deliveries
  | .fileWritten file => ({ service with file }, .done, [])
  | .polled =>
    match Store.fetch setup.source service.file with
    | .error reason => (service, .refused reason, [])
    | .ok batch =>
      let (service, deliveries) := service.publish setup batch
      (service, .done, deliveries)
  | .published batch =>
    let (service, deliveries) := service.publish setup batch
    (service, .done, deliveries)
  | .publisherStopped =>
    ({ service with
        isPublishing := false
        connections := service.connections.map ({ · with client := none }) }, .done, [])
  | .requested method address now =>
    let (answer, service) := service.answer setup method address now
    (service, .answered answer, [])
  | .connected id =>
    let (service, deliveries) := service.connect setup id
    (service, .done, deliveries)
  | .received id text =>
    let (service, deliveries) := service.deliver setup (· = id) (.received text)
    (service, .done, deliveries)
  | .disconnected id =>
    ({ service with
        connections := service.connections.map fun connection =>
          if connection.id = id then { connection with client := none } else connection },
      .done, [])

end Service

end TrafficMeter
