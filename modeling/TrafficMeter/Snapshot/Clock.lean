import TrafficMeter.Snapshot.Basic

set_option autoImplicit false

namespace TrafficMeter

/-- Which days a snapshot's day slots stand for, if that can be told. -/
inductive Clock
  | trusted (firstDay today : Int)
  | untrusted
deriving DecidableEq, Repr

/-- A snapshot whose days can be placed on the calendar. -/
def Snapshot.isTrusted (snapshot : Snapshot) : Bool :=
  0 < snapshot.firstDay && 0 ≤ snapshot.daySlot

theorem Snapshot.isTrusted_iff (snapshot : Snapshot) :
    snapshot.isTrusted ↔ 0 < snapshot.firstDay ∧ 0 ≤ snapshot.daySlot := by
  simp only [isTrusted, Bool.and_eq_true, decide_eq_true_eq]

/-- Epoch day of the current day slot. -/
def Snapshot.today (snapshot : Snapshot) : Int := snapshot.firstDay + snapshot.daySlot

theorem Snapshot.dayValue_today (snapshot : Snapshot) :
    snapshot.dayValue snapshot.today = snapshot.todayValue := by
  have slot_eq : snapshot.today - snapshot.firstDay = snapshot.daySlot := by
    simp only [today]
    omega
  rw [dayValue, slot_eq, todayValue]

def Snapshot.clock (snapshot : Snapshot) : Clock :=
  if snapshot.isTrusted then .trusted snapshot.firstDay snapshot.today else .untrusted

end TrafficMeter
