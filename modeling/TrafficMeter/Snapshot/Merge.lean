import TrafficMeter.Snapshot.Clock

set_option autoImplicit false

namespace TrafficMeter

namespace Ring

/-- Slot-wise sum of rings of any lengths; a slot is absent only if every ring lacks it. -/
def merge (rings : List Ring) : Ring :=
  let length := (rings.map List.length).foldl max 0
  (List.range length).map fun (index : Nat) => Size.sumSlots (rings.map (valueAt · index))

end Ring

namespace Snapshot

/-- The servers whose day buffers are lined up by date: the trusted ones among those that hold
days, or, where none of those is trusted, all of them. -/
def withDays (servers : List Snapshot) : List Snapshot :=
  let holding := servers.filter (·.days ≠ [])
  if holding.any isTrusted then holding.filter isTrusted else holding

/-- First epoch day and day-wise sum over the span of the given buffers. -/
def alignDays (servers : List Snapshot) : Option (Int × Ring) := do
  let first ← (servers.map (·.firstDay)).min?
  let last ← (servers.map lastDay).max?
  return (first, (List.range (last - first + 1).toNat).map fun offset =>
    Size.sumSlots (servers.map (·.dayValue (first + offset))))

/-- The newest day that a trusted server writes to. -/
def newestDay (servers : List Snapshot) : Option Int :=
  ((servers.filter isTrusted).map today).max?

/-- The earliest reset among servers that had one. -/
def earliestReset (servers : List Snapshot) : Int :=
  ((servers.map (·.customTime)).filter (· ≠ 0)).min?.getD 0

/-- One snapshot for all servers. Day buffers are lined up by date; the rings below a day share the
wall clock and are summed slot by slot, with the pointers of the first server. -/
def merge (first : Snapshot) (others : List Snapshot) : Snapshot :=
  let servers := first :: others
  let (firstDay, days) := (alignDays (withDays servers)).getD (first.firstDay, [])
  { serverId := 0
    firstDay
    daySlot := ((newestDay servers).map (· - firstDay)).getD (-1)
    hourSlot := first.hourSlot
    minuteSlot := first.minuteSlot
    secondSlot := first.secondSlot
    seconds := Ring.merge (servers.map (·.seconds))
    minutes := Ring.merge (servers.map (·.minutes))
    hours := Ring.merge (servers.map (·.hours))
    days
    total := (servers.map (·.total)).sum
    custom := (servers.map (·.custom)).sum
    customTime := earliestReset servers }

/-- No servers have no merge. -/
def merge? : List Snapshot → Option Snapshot
  | [] => none
  | first :: others => some (merge first others)

end Snapshot

end TrafficMeter
