set_option autoImplicit false

namespace TrafficMeter

/-- A transfer volume: whole megabytes beside the low 32 bits of the byte count. The low part is
the exact byte count while the volume stays below four gigabytes. -/
@[ext] structure Size where
  megabytes : UInt64
  lowBytes : UInt32
deriving DecidableEq, Repr

/-- Bytes in a megabyte. -/
def megabyte : Nat := 1024 * 1024

namespace Size

instance : Zero Size := ⟨⟨0, 0⟩⟩

/-- Saturates the megabytes and wraps the bytes, with no carry between the two. -/
instance : Add Size where
  add left right :=
    ⟨UInt64.ofNat (min (left.megabytes.toNat + right.megabytes.toNat) (UInt64.size - 1)),
      left.lowBytes + right.lowBytes⟩

@[simp] theorem megabytes_zero : (0 : Size).megabytes = 0 := rfl

@[simp] theorem lowBytes_zero : (0 : Size).lowBytes = 0 := rfl

@[simp] theorem lowBytes_add (left right : Size) :
    (left + right).lowBytes = left.lowBytes + right.lowBytes := rfl

@[simp] theorem toNat_megabytes_add (left right : Size) :
    (left + right).megabytes.toNat =
      min (left.megabytes.toNat + right.megabytes.toNat) (UInt64.size - 1) := by
  change (UInt64.ofNat _).toNat = _
  rw [UInt64.toNat_ofNat', Nat.mod_eq_of_lt]
  simp only [UInt64.size]
  omega

theorem toNat_lowBytes_add (left right : Size) :
    (left + right).lowBytes.toNat =
      (left.lowBytes.toNat + right.lowBytes.toNat) % UInt32.size :=
  UInt32.toNat_add left.lowBytes right.lowBytes

protected theorem add_comm (left right : Size) : left + right = right + left := by
  apply Size.ext
  · rw [← UInt64.toNat_inj, toNat_megabytes_add, toNat_megabytes_add, Nat.add_comm]
  · simp only [lowBytes_add]
    exact UInt32.add_comm _ _

protected theorem add_assoc (first second third : Size) :
    first + second + third = first + (second + third) := by
  apply Size.ext
  · rw [← UInt64.toNat_inj]
    simp only [toNat_megabytes_add, UInt64.size]
    omega
  · simp only [lowBytes_add]
    exact UInt32.add_assoc _ _ _

@[simp] protected theorem zero_add (size : Size) : 0 + size = size := by
  apply Size.ext
  · rw [← UInt64.toNat_inj, toNat_megabytes_add]
    have bound := size.megabytes.toNat_lt
    simp only [megabytes_zero, UInt64.size, UInt64.toNat_zero]
    omega
  · simp

@[simp] protected theorem add_zero (size : Size) : size + 0 = size := by
  rw [Size.add_comm, Size.zero_add]

/-- A summand leaves a size as it is only if it is nothing, or if it is whole megabytes that wrap
around in the low bytes and the megabytes are saturated already. -/
theorem add_eq_left_iff (size extra : Size) :
    size + extra = size ↔ extra.lowBytes = 0 ∧
      (extra.megabytes = 0 ∨ size.megabytes.toNat + 1 = UInt64.size) := by
  have bound := size.megabytes.toNat_lt
  have megabytes_iff : (size + extra).megabytes = size.megabytes ↔
      (extra.megabytes = 0 ∨ size.megabytes.toNat + 1 = UInt64.size) := by
    rw [← UInt64.toNat_inj, ← UInt64.toNat_inj, toNat_megabytes_add]
    simp only [UInt64.size, UInt64.toNat_zero]
    omega
  have lowBytes_iff : (size + extra).lowBytes = size.lowBytes ↔ extra.lowBytes = 0 := by
    rw [lowBytes_add, ← UInt32.toNat_inj, ← UInt32.toNat_inj, UInt32.toNat_add]
    have left := size.lowBytes.toNat_lt
    have right := extra.lowBytes.toNat_lt
    simp only [UInt32.toNat_zero]
    omega
  rw [Size.ext_iff, megabytes_iff, lowBytes_iff, and_comm]

def ofBytes (bytes : UInt64) : Size :=
  ⟨bytes / UInt64.ofNat megabyte, bytes.toUInt32⟩

theorem toNat_megabytes_ofBytes (bytes : UInt64) :
    (ofBytes bytes).megabytes.toNat = bytes.toNat / megabyte := by
  simp only [ofBytes, UInt64.toNat_div]
  rfl

theorem toNat_lowBytes_ofBytes (bytes : UInt64) :
    (ofBytes bytes).lowBytes.toNat = bytes.toNat % UInt32.size :=
  UInt64.toNat_toUInt32 bytes

/-- Meant for counts whose bytes fit 64 bits. -/
def ofMegabytes (count : UInt64) : Size :=
  ofBytes (count * UInt64.ofNat megabyte)

def isZero (size : Size) : Bool := size.megabytes == 0 && size.lowBytes == 0

/-- Megabytes decide; the low bytes break a tie. -/
instance : LT Size where
  lt left right := left.megabytes < right.megabytes ∨
    (left.megabytes = right.megabytes ∧ left.lowBytes < right.lowBytes)

instance (left right : Size) : Decidable (left < right) :=
  inferInstanceAs (Decidable (_ ∨ _))

theorem lt_iff_toNat (left right : Size) :
    left < right ↔ left.megabytes.toNat < right.megabytes.toNat ∨
      (left.megabytes.toNat = right.megabytes.toNat ∧
        left.lowBytes.toNat < right.lowBytes.toNat) := by
  rw [← UInt64.lt_iff_toNat_lt, UInt64.toNat_inj, ← UInt32.lt_iff_toNat_lt]
  exact Iff.rfl

protected theorem lt_irrefl (size : Size) : ¬ size < size := by
  rw [lt_iff_toNat]
  omega

instance : Ord Size where
  compare left right :=
    if left < right then .lt else if right < left then .gt else .eq

/-- Takes a part out of a sum. The halves are taken apart without a borrow, and a part that is not
smaller than the sum leaves nothing. -/
def remove (whole part : Size) : Size :=
  if part < whole then
    ⟨whole.megabytes - part.megabytes, whole.lowBytes - part.lowBytes⟩
  else 0

/-- Sum of the present values. -/
def sumPresent (values : List (Option Size)) : Size :=
  (values.filterMap id).sum

/-- Sum of two slots; absent only if both are. -/
def addSlot (left right : Option Size) : Option Size :=
  match left, right with
  | none, none => none
  | left, right => some (left.getD 0 + right.getD 0)

/-- Sum of many slots; absent only if all are. -/
def sumSlots (slots : List (Option Size)) : Option Size :=
  slots.foldl addSlot none

end Size

end TrafficMeter
