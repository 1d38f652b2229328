import TrafficMeter.Json.Printer
import TrafficMeter.Proofs.Json.Record
import TrafficMeter.Service.Command

set_option autoImplicit false

namespace TrafficMeter.Command

/-- A command as a client sends it: its type, and its only part under the same name. -/
def written (type : String) (part : Json) : String :=
  (Json.ofFields [("type", .ofString type), (type, part)]).compactText

theorem isSound_written (depth : Nat) (type : String) (part : Json) (sound : part.isSound depth) :
    (Json.object [(some "type", .ofString type), (some type, part)]).isSound (depth + 1) := by
  simp only [Json.isSound_object, List.all_cons, List.all_nil, Json.ofString, Json.isSound_text,
    sound, Option.isSome_some, Bool.and_true]

theorem ofText?_written (type : String) (part : Json) (named : type ≠ "type")
    (plain : part.IsPlain) (sound : part.isSound 126) :
    ofText? (written type part) = ofType? type (.object [(some type, part)]) := by
  have parsed : Json.parse? (written type part) =
      some (.object [(some "type", .ofString type), (some type, part)]) :=
    Json.parse?_render .compact _ ⟨rfl, rfl, rfl, plain, trivial⟩
  have whole : (Json.object [(some "type", .ofString type), (some type, part)]).isSound
      Json.depthLimit := isSound_written 126 type part sound
  have differs : (some type == some "type") = false := by
    rw [beq_eq_false_iff_ne]
    exact fun same => named (Option.some.inj same)
  have once : Json.givenOnce [(some "type", .ofString type), (some type, part)] "type" := by
    simp only [Json.givenOnce, List.filter_cons, differs]
    rfl
  have others : [(some "type", Json.ofString type), (some type, part)].filter
      (fun field => field.1 != some "type") = [(some type, part)] := by
    simp only [List.filter_cons, bne, differs]
    rfl
  rw [ofText?, parsed, Option.bind_some, ofJson?, if_pos whole]
  simp only [once, ↓reduceIte, others]
  rfl

theorem ofText?_server (index : UInt64) :
    ofText? (written "server" (.int index.toNat)) = some (.server index.toNat) := by
  have bound : UInt64.size ≤ doubleOverflow := by decide +kernel
  have small : (index.toNat : Int).natAbs < doubleOverflow := by
    have word := index.toNat_lt_size
    omega
  have sound : (Json.int index.toNat).isSound 126 := by
    rw [Json.isSound_int, decide_eq_true small]
  rw [ofText?_written "server" (.int index.toNat) (by decide) trivial sound]
  show ((Json.index? (.int index.toNat)).map server) = _
  rw [Json.index?, Json.uint64?_int]
  rfl

theorem ofText?_period (input : String) :
    ofText? (written "period" (.ofString input)) = some (.period input) := by
  rw [ofText?_written "period" (.ofString input) (by decide) rfl (Json.isSound_text 126 _)]
  rfl

theorem ofText?_range (name : String) (kind : RangeKind)
    (named : RangeKind.ofText? name = some kind) :
    ofText? (written "range" (.ofString name)) = some (.range kind) := by
  rw [ofText?_written "range" (.ofString name) (by decide) rfl (Json.isSound_text 126 _)]
  show ((RangeKind.ofText? name).map range) = _
  rw [named, Option.map_some]

end TrafficMeter.Command
