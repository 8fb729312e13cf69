import GoodixFingerprint.Callback.RoundTrip

/-! `ON_ENUMERATE` across the wire.

The proxy writes the number of elements and four bytes for each; the stub takes the number
for a size in bytes, copies that many to a buffer of four times the size, and reads on behind
them, where the array may not have ended. An array comes through whole only if it is empty. -/
namespace GoodixFingerprint
open Binder

/-- An `int32_t` array in memory. -/
def elements (ids : List Int32) : List UInt8 := ids.flatMap Parcel.int32

/-- The first elements of an array are these, every byte of them written. -/
def Holds (array : Memory) (ids : List Int32) : Prop :=
  array.fetch (4 * ids.length) = .ok ((elements ids).map some)

/-- The notification of two arrays of equal length. -/
def enumerating (devId : Int64) (fpIds gpIds : List Int32) : Notification :=
  .onEnumerate devId (.ofBytes (elements fpIds)) (.ofBytes (elements gpIds)) (Int32.ofNat fpIds.length)

/-- Both arrays arrive with their device and length, and nothing is left of the parcel. -/
def EnumerateRoundTrips {β : Type} (ctx : Context β) (devId : Int64) (fpIds gpIds : List Int32) : Prop :=
  ∃ code sent, (enumerating devId fpIds gpIds).written (β := β) = .ok (code, sent) ∧ ∃ fpIds' gpIds' data,
    BnGoodixFingerprintDaemonCallback.onTransact callbackRecorder ctx code sent [] =
        (.ok ⟨noError, {}, data⟩, [.onEnumerate devId fpIds' gpIds' (Int32.ofNat fpIds.length)]) ∧
      Holds fpIds' fpIds ∧ Holds gpIds' gpIds ∧ data.Consumed

/-- Elements that reach past the bytes copied are not all written. -/
theorem not_holds_copied {capacity n : Nat} {src : Ptr} {array : Memory} {ids : List Int32}
    (h : Memory.copied capacity src n = .ok array) (hshort : n < 4 * ids.length) : ¬ Holds array ids := by
  obtain ⟨bytes, hbytes, rfl⟩ := Memory.copied_cells h
  intro hholds
  rcases Memory.fetch_cells hholds with hfits | hhole
  · omega
  · simp at hhole

/-! ### The length in front of an array -/

theorem toNat_ofNat_length {ids : List Int32} (h : ids.length ≤ int32Max) :
    (Int32.ofNat ids.length).toInt64.toUInt64.toNat = ids.length := by
  have hint : (Int32.ofNat ids.length).toInt = ids.length := by
    rw [int32Max] at h
    exact Int32.toInt_ofNat_of_lt (by omega)
  have hsize := toNat_ssize (Int32.ofNat ids.length).toInt64
  rw [Int32.toInt_toInt64, hint] at hsize
  omega

theorem elements_length (ids : List Int32) : (elements ids).length = 4 * ids.length := by
  induction ids with
  | nil => rfl
  | cons id rest ih =>
    rw [elements, List.flatMap_cons, List.length_append, Parcel.int32_length, ← elements, ih, List.length_cons]
    omega

/-- Four bytes for each element are what is written. -/
theorem arrayWritable_elements {ids : List Int32} {len : UInt64} (h : len.toNat = ids.length) :
    ArrayWritable len (.ofBytes (elements ids)) := by
  rintro hlen cells hcells -
  cases hcells
  rw [Ptr.covers_some, List.length_map, List.length_map, elements_length, UInt64.toNat_mul, h]
  exact Nat.le_trans (Nat.mod_le _ _) (Nat.le_of_eq (Nat.mul_comm _ _))

/-- The number of elements goes ahead of them. -/
theorem arrayField_ofBytes {ids : List Int32} (h : ids.length ≤ int32Max) (bytes : List UInt8) :
    arrayField (Int32.ofNat ids.length).toInt64.toUInt64 (.ofBytes bytes) =
      Parcel.int32 (Int32.ofNat ids.length) ++
        Parcel.bufferField (some bytes) ((Int32.ofNat ids.length).toInt64.toUInt64 * 4) := by
  have hfits : ¬ int32Max < (Int32.ofNat ids.length).toInt64.toUInt64.toNat := by
    rw [toNat_ofNat_length h]
    omega
  unfold arrayField
  rw [if_neg hfits]
  simp [Memory.ofBytes, Function.comp_def]

open BnGoodixFingerprintDaemonCallback in
/-- The array is copied to a new buffer, as many bytes as it says elements. -/
theorem copied_copyArray {β : Type} {before rest : List UInt8} {objects : List (Nat × β)} {size size' : Int32}
    {array : Memory} {data : Parcel β}
    (h : copyArray (Parcel.between before (Parcel.int32 size ++ rest) objects) = .ok (size', array, data)) :
    ∃ src, Memory.copied (size.toInt64.toUInt64 * 4).toNat src size.toInt64.toUInt64.toNat = .ok array := by
  obtain ⟨array', hcopied, hread⟩ := copyArray_ok_iff.mp h
  cases hread
  rw [Parcel.readInt32_between] at hcopied
  exact ⟨_, hcopied⟩

open BnGoodixFingerprintDaemonCallback in
/-- An empty array is its length alone. -/
theorem copyArray_empty {β : Type} (before rest : List UInt8) (objects : List (Nat × β)) :
    copyArray (Parcel.between before (arrayField 0 (.ofBytes []) ++ rest) objects) =
      .ok (0, some [], Parcel.between (before ++ arrayField 0 (.ofBytes [])) rest objects) := by
  have hempty : arrayField 0 (.ofBytes []) = Parcel.int32 0 ++ Parcel.bufferField (some []) 0 := rfl
  have hsource : receivedPtr (some []) 0 = some [] := by decide
  have hnone : Parcel.Writable (some []) 0 := fun _ => Nat.zero_le 0
  rw [copyArray, hempty, List.append_assoc, Parcel.readInt32_between]
  have hread : (0 : Int32).toInt64.toUInt64 = 0 := rfl
  simp only [hread, readInplace_bufferField hnone, hsource, List.append_assoc]
  rfl

/-! ### The round trip -/

section Arrays
variable {β : Type} (ctx : Context β) (devId : Int64) (fpIds gpIds : List Int32)

theorem writable_enumerating (hequal : gpIds.length = fpIds.length) (hlength : fpIds.length ≤ int32Max) :
    (enumerating devId fpIds gpIds).Writable :=
  ⟨arrayWritable_elements (toNat_ofNat_length hlength),
    arrayWritable_elements ((toNat_ofNat_length hlength).trans hequal.symm)⟩

/-- The stub's branch stands at the device and the two arrays. -/
theorem enumerate_round_trips_decode (hequal : gpIds.length = fpIds.length) (hlength : fpIds.length ≤ int32Max) :
    EnumerateRoundTrips ctx devId fpIds gpIds ↔ ∃ fpIds' gpIds', ∃ data : Parcel β,
      CallbackCode.onEnumerate.decode (Parcel.between (Parcel.interfaceToken callbackDescriptor)
        (enumerating devId fpIds gpIds).fields.flatten []) =
          .ok (.onEnumerate devId fpIds' gpIds' (Int32.ofNat fpIds.length), data) ∧
        Holds fpIds' fpIds ∧ Holds gpIds' gpIds ∧ data.Consumed := by
  have hwritten := (enumerating devId fpIds gpIds).written_ok (β := β)
    (writable_enumerating devId fpIds gpIds hequal hlength)
  have htoken := onTransact_token callbackRecorder ctx (enumerating devId fpIds gpIds) [] rfl
  rw [Notification.extended_nil, List.append_nil] at htoken
  rw [EnumerateRoundTrips, hwritten]
  simp only [Except.ok.injEq, Prod.mk.injEq, and_assoc, exists_and_left, exists_eq_left', htoken,
    notified_recorder_iff]
  rfl

/-- The stub copies a quarter of an array's bytes: all of them only if there are none. -/
theorem enumerate_round_trips_empty (hequal : gpIds.length = fpIds.length) (hlength : fpIds.length ≤ int32Max)
    (h : EnumerateRoundTrips ctx devId fpIds gpIds) : fpIds = [] := by
  obtain ⟨fpIds', gpIds', data, hdecode, hholds, _⟩ := (enumerate_round_trips_decode _ _ _ _ hequal hlength).mp h
  by_contra hne
  have hpos := List.length_pos_iff.mpr hne
  simp only [CallbackCode.decode, enumerating, Notification.fields, List.flatten_cons, Parcel.readInt64_between,
    arrayField_ofBytes hlength, List.append_assoc] at hdecode
  obtain ⟨⟨size, array, rest⟩, hfirst, hdecode⟩ := bind_ok_iff.mp hdecode
  obtain ⟨second, -, hdecode⟩ := bind_ok_iff.mp hdecode
  obtain ⟨src, hcopied⟩ := copied_copyArray hfirst
  rw [toNat_ofNat_length hlength] at hcopied
  have harray := (Notification.onEnumerate.inj (Prod.mk.inj (Except.ok.inj hdecode)).1).2.1
  rw [← harray] at hholds
  exact not_holds_copied hcopied (by omega) hholds

theorem empty_round_trips : EnumerateRoundTrips ctx devId [] [] := by
  have hzero : (Int32.ofNat ([] : List Int32).length).toInt64.toUInt64 = 0 := rfl
  apply (enumerate_round_trips_decode _ _ _ _ rfl (Nat.zero_le _)).mpr
  refine ⟨some [], some [], (enumerating devId [] []).consumed, ?_, rfl, rfl, Parcel.consumed_between _ _⟩
  simp only [CallbackCode.decode, enumerating, Notification.fields, List.flatten_cons, List.flatten_nil,
    Parcel.readInt64_between, elements, List.flatMap_nil, hzero, copyArray_empty, bind, Except.bind]
  rw [Notification.consumed, Notification.passed]
  simp only [Notification.fields, List.flatten_cons, List.flatten_nil, hzero, List.append_assoc, List.append_nil]
  rfl

/-- **An enumeration round-trips exactly when it is empty.** -/
theorem enumerate_round_trips_iff (hequal : gpIds.length = fpIds.length) (hlength : fpIds.length ≤ int32Max) :
    EnumerateRoundTrips ctx devId fpIds gpIds ↔ fpIds = [] := by
  constructor
  · exact enumerate_round_trips_empty ctx devId fpIds gpIds hequal hlength
  · rintro rfl
    obtain rfl := List.length_eq_zero_iff.mp hequal
    exact empty_round_trips ctx devId

end Arrays

/-- No finger at all. -/
theorem enumerate_none_round_trips : EnumerateRoundTrips (.granting true : Context Nat) 1 [] [] :=
  (enumerate_round_trips_iff (.granting true) 1 [] [] rfl (by decide)).mpr rfl

/-- One finger: of its four bytes one is copied. -/
theorem enumerate_one_cut : ¬ EnumerateRoundTrips (.granting true : Context Nat) 1 [7] [3] := by
  intro h
  have hempty := enumerate_round_trips_empty _ _ [7] [3] rfl (by decide) h
  cases hempty

end GoodixFingerprint
