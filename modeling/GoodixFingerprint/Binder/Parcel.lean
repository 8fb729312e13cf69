import GoodixFingerprint.Binder.Bytes

/-! Parcels.

A parcel is a byte buffer with a read position and, beside the bytes, the binder
objects the kernel attached at certain offsets. Writers append; readers either
advance past what they read or fail without moving, and the value of a failed
integer read is zero. The binder type is a parameter.

`Parcel.between` is a parcel whose position stands between two byte strings; the
`_between` lemmas say what each reader does there. -/
namespace Binder

/-- `INT32_MAX`, the largest length a parcel accepts. -/
def int32Max : Nat := 2 ^ 31 - 1

/-- `sizeof(flat_binder_object)` on a 64-bit platform. -/
def flatBinderSize : Nat := 24

/-- `STRICT_MODE_PENALTY_GATHER`, written ahead of an interface name and ignored by its reader. -/
def strictModePenaltyGather : Int32 := 0x400000

/-- `IBinder::FIRST_CALL_TRANSACTION`. -/
def firstCallTransaction : UInt32 := 1

structure Parcel (β : Type) where
  mData : List UInt8 := []
  mDataPos : Nat := 0
  /-- The binder objects, each at its offset in `mData`. -/
  mObjects : List (Nat × β) := []

namespace Parcel
variable {β : Type}

def append (p : Parcel β) (bytes : List UInt8) : Parcel β := {p with mData := p.mData ++ bytes}

@[irreducible] def int32 (v : Int32) : List UInt8 := leBytes 4 v.toUInt32.toNat

@[irreducible] def int64 (v : Int64) : List UInt8 := leBytes 8 v.toUInt64.toNat

/-- The length and the text, with a terminating zero. -/
def string16 (s : String16) : List UInt8 := int32 (Int32.ofNat s.length) ++ padded (encode16 (s ++ [0]))

@[irreducible] def interfaceToken (s : String16) : List UInt8 := int32 strictModePenaltyGather ++ string16 s

/-! ### Writing -/

def writeInt32 (p : Parcel β) (v : Int32) : Parcel β := p.append (int32 v)

def writeInt64 (p : Parcel β) (v : Int64) : Parcel β := p.append (int64 v)

/-- A length over `INT32_MAX` is refused, and nothing is written; else the bytes are copied. -/
def write (p : Parcel β) (data : Ptr) (len : UInt64) : Except Fault (Parcel β) :=
  if int32Max < len.toNat then .ok p
  else do
    let bytes ← memcpy (padSize len.toNat) data len.toNat
    .ok (p.append (padded bytes))

/-- The number of elements and the elements; `-1` for a null array, nothing for a length
over `INT32_MAX`. Cells that were never written are copied as zeros. -/
def writeInt32Array (p : Parcel β) (len : UInt64) (val : Memory) : Except Fault (Parcel β) :=
  if int32Max < len.toNat then .ok p
  else match val with
    | none => .ok (p.writeInt32 (-1))
    | some cells => (p.writeInt32 len.toInt64.toInt32).write (some (cells.map fun cell => cell.getD 0)) (len * 4)

/-- A null binder is written like any other but is not an object. -/
def writeStrongBinder (p : Parcel β) (binder : Option β) : Parcel β :=
  {p.append (List.replicate flatBinderSize 0) with
    mObjects := p.mObjects ++ binder.toList.map fun b => (p.mData.length, b)}

def writeInterfaceToken (p : Parcel β) (interface : String16) : Parcel β :=
  p.append (interfaceToken interface)

def writeNoException (p : Parcel β) : Parcel β := p.writeInt32 0

/-! ### Reading -/

def peek (p : Parcel β) (n : Nat) : List UInt8 := (p.mData.drop p.mDataPos).take n

def advance (p : Parcel β) (n : Nat) : Parcel β := {p with mDataPos := p.mDataPos + n}

/-- Everything written has been read. -/
def Consumed (p : Parcel β) : Prop := p.mDataPos = p.mData.length

def readInt32 (p : Parcel β) : Int32 × Parcel β :=
  if p.mDataPos + 4 ≤ p.mData.length then
    ((UInt32.ofNat (leValue (p.peek 4))).toInt32, p.advance 4)
  else (0, p)

def readInt64 (p : Parcel β) : Int64 × Parcel β :=
  if p.mDataPos + 8 ≤ p.mData.length then
    ((UInt64.ofNat (leValue (p.peek 8))).toInt64, p.advance 8)
  else (0, p)

/-- A pointer to `len` bytes inside the parcel, or `NULL` without advancing. -/
def readInplace (p : Parcel β) (len : UInt64) : Ptr × Parcel β :=
  if len.toNat ≤ int32Max ∧ p.mDataPos + padSize len.toNat ≤ p.mData.length then
    (some (p.peek len.toNat), p.advance (padSize len.toNat))
  else (none, p)

/-- Copies `len` bytes out, or leaves the destination untouched: `readInplace` with a copy. -/
def read (p : Parcel β) (len : UInt64) : Option (List UInt8) × Parcel β := p.readInplace len

def readStrongBinder (p : Parcel β) : Option β × Parcel β :=
  if p.mDataPos + flatBinderSize ≤ p.mData.length then
    ((p.mObjects.find? fun o => o.1 == p.mDataPos).map Prod.snd, p.advance flatBinderSize)
  else (none, p)

def readString16 (p : Parcel β) : String16 × Parcel β :=
  let (size, p) := p.readInt32
  if 0 ≤ size.toInt ∧ size.toInt < int32Max then
    let (str, p) := p.readInplace (UInt64.ofNat ((size.toInt.toNat + 1) * 2))
    (((str.map fun bytes => decode16 (bytes.take (2 * size.toInt.toNat)))).getD [], p)
  else ([], p)

/-- `enforceInterface`: the strict-mode policy is read and dropped, the name compared. -/
def checkInterface (p : Parcel β) (interface : String16) : Bool × Parcel β :=
  let (_, p) := p.readInt32
  let (str, p) := p.readString16
  (str == interface, p)

def readExceptionCode (p : Parcel β) : Int32 × Parcel β := p.readInt32

/-! ### What a buffer must be to be written -/

/-- The length is refused, or the source has as many bytes. -/
def Writable (data : Ptr) (len : UInt64) : Prop := len.toNat ≤ int32Max → data.Covers len.toNat

instance (data : Ptr) (len : UInt64) : Decidable (Writable data len) :=
  inferInstanceAs (Decidable (len.toNat ≤ int32Max → data.Covers len.toNat))

/-- A buffer in the parcel: nothing if its length is refused. -/
def bufferField (data : Ptr) (len : UInt64) : List UInt8 :=
  if int32Max < len.toNat then [] else padded ((data.getD []).take len.toNat)

theorem write_ok {data : Ptr} {len : UInt64} (h : Writable data len) (p : Parcel β) :
    p.write data len = .ok (p.append (bufferField data len)) := by
  rw [write, bufferField]
  by_cases hlen : int32Max < len.toNat
  · rw [if_pos hlen, if_pos hlen]
    simp [append]
  · have hcopy : memcpy (padSize len.toNat) data len.toNat = .ok ((data.getD []).take len.toNat) :=
      memcpy_ok_iff.mpr ⟨h (Nat.not_lt.mp hlen), le_padSize _, rfl⟩
    rw [if_neg hlen, if_neg hlen, hcopy]
    rfl

/-- What cannot be written faults, whatever has been written before. -/
theorem write_error {data : Ptr} {len : UInt64} (h : ¬ Writable data len) :
    ∃ fault, ∀ p : Parcel β, p.write data len = .error fault := by
  rw [Writable, not_forall] at h
  obtain ⟨hlen, hshort⟩ := h
  cases hcopy : memcpy (padSize len.toNat) data len.toNat with
  | error fault =>
    refine ⟨fault, fun p => ?_⟩
    rw [write, if_neg (Nat.not_lt.mpr hlen), hcopy]
    rfl
  | ok bytes => exact absurd (memcpy_ok_iff.mp hcopy).1 hshort

theorem bufferField_whole (bytes : List UInt8) (len : UInt64) (hlen : bytes.length = len.toNat)
    (hfits : len.toNat ≤ int32Max) : bufferField (some bytes) len = padded bytes := by
  rw [bufferField, if_neg (Nat.not_lt.mpr hfits), Option.getD_some, ← hlen, List.take_length]

/-! ### A position between two byte strings -/

/-- `before` has been read, `rest` is still to read. -/
def between (before rest : List UInt8) (objects : List (Nat × β)) : Parcel β :=
  ⟨before ++ rest, before.length, objects⟩

/-! What each writer does to a parcel not read from yet. -/

theorem writeInterfaceToken_empty (s : String16) :
    ({} : Parcel β).writeInterfaceToken s = Parcel.between [] (interfaceToken s) [] := rfl

theorem append_between (bytes more : List UInt8) (objects : List (Nat × β)) :
    (Parcel.between [] bytes objects).append more = Parcel.between [] (bytes ++ more) objects := by
  simp [Parcel.between, append]

theorem writeStrongBinder_between (bytes : List UInt8) (objects : List (Nat × β)) (binder : Option β) :
    (Parcel.between [] bytes objects).writeStrongBinder binder =
      Parcel.between [] (bytes ++ List.replicate flatBinderSize 0)
        (objects ++ binder.toList.map fun b => (bytes.length, b)) := by
  simp [Parcel.between, append, writeStrongBinder]

theorem consumed_between (before : List UInt8) (objects : List (Nat × β)) :
    (Parcel.between before [] objects).Consumed := by
  simp [Parcel.between, Consumed]

theorem peek_between {bytes : List UInt8} {n : Nat} (h : bytes.length = n) (before rest : List UInt8)
    (objects : List (Nat × β)) : (Parcel.between before (bytes ++ rest) objects).peek n = bytes := by
  subst h
  simp [Parcel.between, peek]

theorem advance_between {bytes : List UInt8} {n : Nat} (h : bytes.length = n) (before rest : List UInt8)
    (objects : List (Nat × β)) :
    (Parcel.between before (bytes ++ rest) objects).advance n = Parcel.between (before ++ bytes) rest objects := by
  subst h
  simp [Parcel.between, advance]

theorem fits_between {bytes : List UInt8} {n : Nat} (h : bytes.length = n) (before rest : List UInt8)
    (objects : List (Nat × β)) :
    (Parcel.between before (bytes ++ rest) objects).mDataPos + n ≤
      (Parcel.between before (bytes ++ rest) objects).mData.length := by
  simp only [Parcel.between, List.length_append]
  omega

theorem int32_length (v : Int32) : (int32 v).length = 4 := by
  rw [int32, leBytes_length]

theorem int64_length (v : Int64) : (int64 v).length = 8 := by
  rw [int64, leBytes_length]

theorem leValue_int32 (v : Int32) : leValue (int32 v) = v.toUInt32.toNat := by
  rw [int32, leValue_leBytes]
  exact Nat.mod_eq_of_lt v.toUInt32.toNat_lt

theorem leValue_int64 (v : Int64) : leValue (int64 v) = v.toUInt64.toNat := by
  rw [int64, leValue_leBytes]
  exact Nat.mod_eq_of_lt v.toUInt64.toNat_lt

theorem readInt32_between (v : Int32) (before rest : List UInt8) (objects : List (Nat × β)) :
    (Parcel.between before (int32 v ++ rest) objects).readInt32 =
      (v, Parcel.between (before ++ int32 v) rest objects) := by
  rw [readInt32]
  rw [if_pos (fits_between (int32_length v) ..), peek_between (int32_length v), advance_between (int32_length v),
    leValue_int32]
  simp

theorem readInt64_between (v : Int64) (before rest : List UInt8) (objects : List (Nat × β)) :
    (Parcel.between before (int64 v ++ rest) objects).readInt64 =
      (v, Parcel.between (before ++ int64 v) rest objects) := by
  rw [readInt64]
  rw [if_pos (fits_between (int64_length v) ..), peek_between (int64_length v), advance_between (int64_length v),
    leValue_int64]
  simp

/-- A buffer is read back byte for byte, padding skipped. -/
theorem readInplace_between {bytes : List UInt8} {len : UInt64} (h : bytes.length = len.toNat)
    (hlen : len.toNat ≤ int32Max) (before rest : List UInt8) (objects : List (Nat × β)) :
    (Parcel.between before (padded bytes ++ rest) objects).readInplace len =
      (some bytes, Parcel.between (before ++ padded bytes) rest objects) := by
  have hpad : (padded bytes).length = padSize len.toNat := by rw [padded_length, h]
  rw [readInplace]
  rw [if_pos ⟨hlen, fits_between hpad ..⟩, advance_between hpad]
  have hpeek : (Parcel.between before (padded bytes ++ rest) objects).peek len.toNat =
      (padded bytes).take len.toNat := by
    simp only [Parcel.between, peek, List.drop_left']
    rw [List.take_append_of_le_length (by rw [hpad]; exact le_padSize _)]
  rw [hpeek, ← h, take_padded]

theorem readStrongBinder_between (binder : Option β) (before rest : List UInt8) :
    (Parcel.between before (List.replicate flatBinderSize 0 ++ rest)
        (binder.toList.map fun b => (before.length, b))).readStrongBinder =
      (binder, Parcel.between (before ++ List.replicate flatBinderSize 0) rest
        (binder.toList.map fun b => (before.length, b))) := by
  have hsize : (List.replicate flatBinderSize (0 : UInt8)).length = flatBinderSize :=
    List.length_replicate
  rw [readStrongBinder]
  rw [if_pos (fits_between hsize ..), advance_between hsize]
  cases binder <;> simp [Parcel.between]

/-- A name short enough for its length field. -/
def Named (s : String16) : Prop := (s.length + 1) * 2 ≤ int32Max

theorem readString16_between (s : String16) (hs : Named s) (before rest : List UInt8)
    (objects : List (Nat × β)) :
    (Parcel.between before (string16 s ++ rest) objects).readString16 =
      (s, Parcel.between (before ++ string16 s) rest objects) := by
  rw [Named, int32Max] at hs
  have hsize : (Int32.ofNat s.length).toInt = s.length := by
    rw [Int32.toInt_ofNat_of_lt]
    omega
  have hlen : (UInt64.ofNat ((s.length + 1) * 2)).toNat = (s.length + 1) * 2 := by
    rw [UInt64.toNat_ofNat']
    exact Nat.mod_eq_of_lt (by omega)
  have htext : (encode16 (s ++ [0])).length = (UInt64.ofNat ((s.length + 1) * 2)).toNat := by
    rw [hlen, encode16_length, List.length_append, List.length_singleton, Nat.mul_comm]
  have hread := readInplace_between htext (by rw [hlen]; unfold int32Max; omega)
    (before ++ int32 (Int32.ofNat s.length)) rest objects
  have htake : (encode16 (s ++ [0])).take (2 * s.length) = encode16 s := by
    rw [encode16_append, ← encode16_length, List.take_left]
  rw [readString16, string16]
  rw [List.append_assoc, readInt32_between]
  simp only [hsize, Int.toNat_natCast, hread, Option.map_some, htake, decode16_encode16, Option.getD_some]
  rw [if_pos (by unfold int32Max; omega), List.append_assoc]

/-- A reader that expects the interface the writer named passes the token. -/
theorem checkInterface_between (s expected : String16) (hs : Named s) (before rest : List UInt8)
    (objects : List (Nat × β)) :
    (Parcel.between before (interfaceToken s ++ rest) objects).checkInterface expected =
      (s == expected, Parcel.between (before ++ interfaceToken s) rest objects) := by
  rw [checkInterface, interfaceToken]
  rw [List.append_assoc, readInt32_between]
  simp only [readString16_between s hs, List.append_assoc]

/-! ### Inside the parcel

A reader leaves the bytes alone, and what it points to is a stretch of them. -/

theorem readInt32_mData (p : Parcel β) : p.readInt32.2.mData = p.mData := by
  rw [readInt32]
  split <;> rfl

theorem readInt64_mData (p : Parcel β) : p.readInt64.2.mData = p.mData := by
  rw [readInt64]
  split <;> rfl

theorem readInplace_mData (p : Parcel β) (len : UInt64) : (p.readInplace len).2.mData = p.mData := by
  rw [readInplace]
  split <;> rfl

theorem readString16_mData (p : Parcel β) : p.readString16.2.mData = p.mData := by
  simp only [readString16]
  split
  · exact (readInplace_mData _ _).trans p.readInt32_mData
  · exact p.readInt32_mData

theorem checkInterface_mData (p : Parcel β) (interface : String16) :
    (p.checkInterface interface).2.mData = p.mData := by
  simp only [checkInterface]
  exact (readString16_mData _).trans p.readInt32_mData

theorem readInplace_inside (p : Parcel β) (len : UInt64) (bytes : List UInt8)
    (h : (p.readInplace len).1 = some bytes) :
    len.toNat ≤ int32Max ∧ bytes.length = len.toNat ∧ bytes <:+: p.mData := by
  rw [readInplace] at h
  split at h
  · next hfits =>
    have hpad := le_padSize len.toNat
    cases h
    refine ⟨hfits.1, ?_, (List.take_prefix _ _).isInfix.trans (List.drop_suffix _ _).isInfix⟩
    rw [peek, List.length_take, List.length_drop]
    omega
  · cases h

/-- Of a number cut short nothing is read; behind one that is whole the cut is nearer. -/
theorem readInt32_cut (v : Int32) (before rest : List UInt8) (objects : List (Nat × β)) (n : Nat) :
    (Parcel.between before ((int32 v ++ rest).take n) objects).readInt32 =
      if n < 4 then (0, Parcel.between before ((int32 v ++ rest).take n) objects)
      else (v, Parcel.between (before ++ int32 v) (rest.take (n - 4)) objects) := by
  have hlength := int32_length v
  split
  · next hshort =>
    rw [readInt32, if_neg]
    simp only [Parcel.between, List.length_append, List.length_take, hlength]
    omega
  · next hlong =>
    rw [List.take_append, List.take_of_length_le (by omega), hlength, readInt32_between]

end Parcel

/-! ### Lengths

A length is sent as an `int32_t`, widened, and taken for a `size_t`. -/

theorem toNat_ssize (x : Int64) :
    (x.toUInt64.toNat : Int) = if 0 ≤ x.toInt then x.toInt else x.toInt + 2 ^ 64 := by
  have hnat : x.toUInt64.toNat = x.toBitVec.toNat := rfl
  have hint : x.toInt = x.toBitVec.toInt := rfl
  have hlt := x.toBitVec.isLt
  rw [hnat, hint, BitVec.toInt_eq_toNat_cond]
  omega

theorem toNat_uint32 (x : Int32) :
    (x.toUInt32.toNat : Int) = if 0 ≤ x.toInt then x.toInt else x.toInt + 2 ^ 32 := by
  have hnat : x.toUInt32.toNat = x.toBitVec.toNat := rfl
  have hint : x.toInt = x.toBitVec.toInt := rfl
  have hlt := x.toBitVec.isLt
  rw [hnat, hint, BitVec.toInt_eq_toNat_cond]
  omega

/-- A size within `INT32_MAX` comes from a length that was not negative. -/
theorem size_nonneg (x : Int32) (h : x.toInt64.toUInt64.toNat ≤ int32Max) :
    (x.toInt64.toUInt64.toNat : Int) = x.toInt ∧ x.toUInt32.toNat = x.toInt64.toUInt64.toNat := by
  have hsize := toNat_ssize x.toInt64
  have huint := toNat_uint32 x
  have hlt := x.toInt_lt
  have hle := x.le_toInt
  rw [Int32.toInt_toInt64] at hsize
  rw [int32Max] at h
  omega

/-- A size as the length it comes from. -/
theorem size_toInt (x : Int32) :
    (x.toInt64.toUInt64.toNat : Int) = if 0 ≤ x.toInt then x.toInt else x.toInt + 2 ^ 64 := by
  rw [toNat_ssize, Int32.toInt_toInt64]

theorem size_eq_zero_iff (x : Int32) : x.toInt64.toUInt64.toNat = 0 ↔ x = 0 := by
  constructor
  · intro h
    have hsize := size_toInt x
    have hlt := x.toInt_lt
    have hle := x.le_toInt
    have hint : x.toInt = 0 := by
      split at hsize
      · omega
      · omega
    exact Int32.toInt_inj.mp hint
  · intro h
    rw [h]
    rfl

namespace Parcel
variable {β : Type}

/-- A buffer of this length and its padding are still to be read. -/
def Reaches (p : Parcel β) (len : Int32) : Prop :=
  0 ≤ len.toInt ∧ p.mDataPos + padSize len.toInt.toNat ≤ p.mData.length

instance (p : Parcel β) (len : Int32) : Decidable (p.Reaches len) :=
  inferInstanceAs (Decidable (0 ≤ len.toInt ∧ p.mDataPos + padSize len.toInt.toNat ≤ p.mData.length))

/-- `readInplace` of a length that was an `int32_t`. -/
theorem readInplace_reaches (p : Parcel β) (len : Int32) :
    (p.readInplace len.toInt64.toUInt64).1 = if p.Reaches len then some (p.peek len.toInt.toNat) else none := by
  have hsize := size_toInt len
  have hlt := len.toInt_lt
  have hle := len.le_toInt
  rw [readInplace]
  by_cases hneg : 0 ≤ len.toInt
  · rw [if_pos hneg] at hsize
    have hnat : len.toInt64.toUInt64.toNat = len.toInt.toNat := by omega
    have hmax : len.toInt.toNat ≤ int32Max := by
      rw [int32Max]
      omega
    simp only [hnat, Reaches, hneg, hmax, true_and]
    split <;> rfl
  · rw [if_neg hneg] at hsize
    have hmax : ¬ len.toInt64.toUInt64.toNat ≤ int32Max := by
      rw [int32Max]
      omega
    simp only [hmax, Reaches, hneg, false_and, if_false]

theorem peek_length {p : Parcel β} {len : Int32} (h : p.Reaches len) :
    (p.peek len.toInt.toNat).length = len.toInt.toNat := by
  have hpad := le_padSize len.toInt.toNat
  obtain ⟨-, hreach⟩ := h
  rw [peek, List.length_take, List.length_drop]
  omega

/-- A copy of a buffer as long as the parcel says: nothing at all, or what is there and fits. -/
theorem memcpy_readInplace (p : Parcel β) (capacity : Nat) (len : Int32) (bytes : List UInt8) :
    memcpy capacity (p.readInplace len.toInt64.toUInt64).1 len.toInt64.toUInt64.toNat = .ok bytes ↔
      len = 0 ∧ bytes = [] ∨ p.Reaches len ∧ len.toInt ≤ capacity ∧ bytes = p.peek len.toInt.toNat := by
  rw [readInplace_reaches]
  by_cases hreach : p.Reaches len
  · have hsize := size_toInt len
    have hlength := peek_length hreach
    rw [if_pos hreach.1] at hsize
    have hnat : len.toInt64.toUInt64.toNat = len.toInt.toNat := by omega
    rw [if_pos hreach, hnat, memcpy_some_iff, hlength, List.take_of_length_le (Nat.le_of_eq hlength)]
    constructor
    · intro h
      obtain ⟨-, hfits, hbytes⟩ := h
      exact .inr ⟨hreach, by omega, hbytes⟩
    · intro h
      rcases h with ⟨rfl, rfl⟩ | ⟨-, hfits, hbytes⟩
      · exact ⟨Nat.le_refl _, Nat.zero_le _, rfl⟩
      · exact ⟨Nat.le_refl _, by omega, hbytes⟩
  · rw [if_neg hreach, memcpy_none_iff, size_eq_zero_iff]
    simp only [hreach, false_and, or_false]

end Parcel

end Binder
