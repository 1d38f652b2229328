import TrafficMeter.Snapshot.Batch
import TrafficMeter.Snapshot.Codec
import TrafficMeter.Snapshot.Merge

set_option autoImplicit false

namespace TrafficMeter

/-- Where the aggregate of a batch comes from. -/
inductive AggregateSource
  /-- It is stored as the first record. -/
  | provided
  /-- It is merged from the records, which are servers only. -/
  | merged
deriving DecidableEq, Repr

/-- Why the store could not serve. -/
inductive StoreFault
  | missingFile
  | undecodable
  | noServers
  | unknownServer (index : Nat)
deriving DecidableEq, Repr

/-- What the system says of a missing file. -/
def missingFileText : String := "No such file or directory (os error 2)"

def StoreFault.message : StoreFault → String
  | missingFile => "volume source I/O failed: " ++ missingFileText
  | undecodable => "volume source is not valid JSON"
  | noServers => "volume source lists no servers"
  | unknownServer index => "unknown server " ++ Decimal.text index

namespace Store

/-- The batch that a list of records makes. -/
def batchOf (source : AggregateSource) (records : List Snapshot) : Except StoreFault Batch :=
  match source, records with
  | _, [] => .error .noServers
  | .provided, aggregate :: servers => .ok ⟨aggregate, servers⟩
  | .merged, first :: others => .ok ⟨Snapshot.merge first others, first :: others⟩

/-- Where the record of a server stands, which is behind a stored aggregate. -/
def recordIndex (source : AggregateSource) (position : Nat) : Nat :=
  match source with
  | .provided => position + 1
  | .merged => position

/-- Takes a counter out of the stored aggregate, so that it stays the sum of its servers. -/
def releaseFromAggregate (removed : Size) : List Snapshot → List Snapshot
  | [] => []
  | aggregate :: servers =>
    { aggregate with custom := aggregate.custom.remove removed } :: servers

/-- Resets the custom counter of one server or of all records. -/
def resetRecords (source : AggregateSource) (now : Int) (scope : Scope) (records : List Snapshot) :
    Except StoreFault (List Snapshot) :=
  match scope with
  | .all => .ok (records.map (·.resetCustom now))
  | .server position =>
    match records[recordIndex source position]? with
    | none => .error (.unknownServer scope.index)
    | some record =>
      let reset := records.set (recordIndex source position) (record.resetCustom now)
      match source with
      | .provided => .ok (releaseFromAggregate record.custom reset)
      | .merged => .ok reset

/-- The records in a file, which may be missing. -/
def recordsOf (file : Option String) : Except StoreFault (List Snapshot) :=
  match file with
  | none => .error .missingFile
  | some text =>
    match Snapshot.listOfText? text with
    | none => .error .undecodable
    | some records => .ok records

def fetch (source : AggregateSource) (file : Option String) : Except StoreFault Batch := do
  batchOf source (← recordsOf file)

/-- The text of the file after a reset. -/
def reset (source : AggregateSource) (now : Int) (scope : Scope) (file : Option String) :
    Except StoreFault String := do
  let records ← resetRecords source now scope (← recordsOf file)
  return Snapshot.listText records

end Store

end TrafficMeter
