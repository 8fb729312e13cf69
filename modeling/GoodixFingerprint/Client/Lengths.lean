import GoodixFingerprint.Callback.Stub
import GoodixFingerprint.Client.Callback

/-! What a callback transaction makes the client use.

A notification brings up to two buffers with lengths that nobody checks. `used` is what stub
and handler do with memory; `used_ok_iff` says by the declared lengths alone when they come
through, and what they have read by then. -/
namespace GoodixFingerprint
open Binder

/-! ### Faults over memory -/

namespace Notification

theorem message_error {n : Notification} {fault : Fault} (h : n.message = .error fault) : fault.OfMemory := by
  cases n with
  | onAuthenticated =>
    rcases bind_error_iff.mp h with hcopy | ⟨copied, -, hrest⟩
    · exact memcpy_error hcopy
    · cases hrest
  | _ => cases h

theorem elements_error {n : Notification} {fault : Fault} (h : n.elements = .error fault) : fault.OfMemory := by
  cases n with
  | onEnumerate =>
    rcases bind_error_iff.mp h with hfirst | ⟨fpId, -, hrest⟩
    · exact Memory.fetch_error hfirst
    · rcases bind_error_iff.mp hrest with hsecond | ⟨gpId, -, hrest⟩
      · exact Memory.fetch_error hsecond
      · cases hrest
  | onTestCmd => exact Memory.fetch_error h
  | _ => cases h

end Notification

namespace Client
variable {β : Type}
open BnGoodixFingerprintDaemonCallback

theorem copyArray_error {data : Parcel β} {fault : Fault} (h : copyArray data = .error fault) : fault.OfMemory := by
  rcases bind_error_iff.mp h with hcopied | ⟨ids, -, hrest⟩
  · exact Memory.copied_error hcopied
  · cases hrest

theorem decode_error {data : Parcel β} {c : CallbackCode} {fault : Fault} (h : c.decode data = .error fault) :
    fault.OfMemory := by
  cases c with
  | onEnumerate =>
    rcases bind_error_iff.mp h with hfirst | ⟨first, -, hrest⟩
    · exact copyArray_error hfirst
    · rcases bind_error_iff.mp hrest with hsecond | ⟨second, -, hrest⟩
      · exact copyArray_error hsecond
      · cases hrest
  | _ => simp [CallbackCode.decode] at h

/-! ### What is used, by the lengths -/

/-- The memory that stub and handler use behind the interface token: the message that comes of
it, and the cells that are logged. -/
def used (data : Parcel β) (c : CallbackCode) : Except Fault (Option FingerprintMsg × List (Option UInt8)) := do
  let (n, _) ← c.decode data
  let message ← n.message
  let cells ← n.elements
  .ok (message, cells)

theorem used_error {data : Parcel β} {c : CallbackCode} {fault : Fault} (h : used data c = .error fault) :
    fault.OfMemory := by
  rcases bind_error_iff.mp h with hdecode | ⟨received, -, h⟩
  · exact decode_error hdecode
  · rcases bind_error_iff.mp h with hmessage | ⟨message, -, h⟩
    · exact received.1.message_error hmessage
    · rcases bind_error_iff.mp h with hcells | ⟨cells, -, h⟩
      · exact received.1.elements_error hcells
      · cases h

/-- Where the parcel stands once an array has been read. -/
def behindArray (data : Parcel β) : Parcel β := (data.readInt32.2.readInplace data.readInt32.1.toInt64.toUInt64).2

/-- An array that is there, of at least one byte: four times as many are allocated, and the first
element is read. -/
def ArrayUsable (data : Parcel β) : Prop := data.readInt32.2.Reaches data.readInt32.1 ∧ 1 ≤ data.readInt32.1.toInt

/-- Behind the token are lengths that the stub and the handler can use. -/
def Usable (data : Parcel β) : CallbackCode → Prop
  | .onAuthenticated =>
    let (_, data) := data.readInt64
    let (_, data) := data.readInt32
    let (_, data) := data.readInt32
    let (hatSize, data) := data.readInt32
    hatSize = 0 ∨ data.Reaches hatSize ∧ hatSize.toInt ≤ hwAuthTokenSize
  | .onEnumerate =>
    let (_, data) := data.readInt64
    ArrayUsable data ∧ ArrayUsable (behindArray data)
  | .onTestCmd =>
    let (_, data) := data.readInt64
    let (_, data) := data.readInt32
    let (resultLen, data) := data.readInt32
    data.Reaches resultLen ∧ 1 ≤ resultLen.toInt
  | _ => True

/-- The first four cells of the buffer that an array is copied to. -/
def firstCells (data : Parcel β) : List (Option UInt8) :=
  ((data.readInt32.2.peek data.readInt32.1.toInt.toNat).map some ++
    List.replicate (data.readInt32.1.toInt.toNat * 3) none).take 4

/-- What comes of a transaction that can be used: its message, and the cells that are logged. -/
def brought (data : Parcel β) : CallbackCode → Option FingerprintMsg × List (Option UInt8)
  | .onEnrollResult =>
    let (_, data) := data.readInt64
    let (fpId, data) := data.readInt32
    let (gpId, data) := data.readInt32
    (some (.templateEnrolling fpId.toUInt32 gpId.toUInt32 data.readInt32.1.toUInt32), [])
  | .onAcquired =>
    let (_, data) := data.readInt64
    (some (.acquired data.readInt32.1), [])
  | .onAuthenticated =>
    let (_, data) := data.readInt64
    let (fpId, data) := data.readInt32
    let (gpId, data) := data.readInt32
    let (hatSize, data) := data.readInt32
    (some (.authenticated fpId.toUInt32 gpId.toUInt32 (data.peek hatSize.toInt.toNat)), [])
  | .onError =>
    let (_, data) := data.readInt64
    (some (.error data.readInt32.1), [])
  | .onRemoved =>
    let (_, data) := data.readInt64
    let (fpId, data) := data.readInt32
    (some (.templateRemoved fpId.toUInt32 data.readInt32.1.toUInt32), [])
  | .onEnumerate =>
    let (_, data) := data.readInt64
    (none, firstCells data ++ firstCells (behindArray data))
  | .onTestCmd =>
    let (_, data) := data.readInt64
    let (_, data) := data.readInt32
    let (resultLen, data) := data.readInt32
    (none, ((data.peek resultLen.toInt.toNat).map some).take 1)
  | .onHbd => (none, [])

/-- One array of an enumeration, copied to a buffer whose first element is read. -/
theorem copyArray_iff (data : Parcel β) (cells : List (Option UInt8)) :
    (∃ array, copyArray data = .ok (data.readInt32.1, array, behindArray data) ∧ array.fetch 4 = .ok cells) ↔
      ArrayUsable data ∧ cells = firstCells data := by
  have hsize := size_toInt data.readInt32.1
  have hlt := data.readInt32.1.toInt_lt
  have hroom (h : 0 ≤ data.readInt32.1.toInt) : (data.readInt32.1.toInt64.toUInt64 * 4).toNat =
      data.readInt32.1.toInt.toNat * 4 ∧ data.readInt32.1.toInt64.toUInt64.toNat = data.readInt32.1.toInt.toNat := by
    rw [if_pos h] at hsize
    rw [UInt64.toNat_mul, show (4 : UInt64).toNat = 4 from rfl, Nat.mod_eq_of_lt (by omega)]
    omega
  unfold ArrayUsable firstCells
  constructor
  · intro h
    obtain ⟨array, hread, hcells⟩ := h
    obtain ⟨array', hcopied, hsame⟩ := copyArray_ok_iff.mp hread
    cases hsame
    obtain ⟨bytes, hcopy, rfl⟩ := map_ok_iff.mp hcopied
    obtain ⟨hlong, rfl⟩ := Memory.fetch_ok_iff.mp hcells
    rcases (Parcel.memcpy_readInplace ..).mp hcopy with ⟨hzero, rfl⟩ | ⟨hreach, -, rfl⟩
    · rw [hzero] at hlong
      exact absurd hlong (by decide)
    · obtain ⟨hcapacity, hnat⟩ := hroom hreach.1
      rw [hcapacity, hnat, show ∀ n, n * 4 - n = n * 3 from fun n => by omega] at hlong ⊢
      refine ⟨⟨hreach, ?_⟩, rfl⟩
      rw [List.length_append, List.length_map, List.length_replicate, Parcel.peek_length hreach] at hlong
      omega
  · intro h
    obtain ⟨⟨hreach, hfirst⟩, rfl⟩ := h
    obtain ⟨hcapacity, hnat⟩ := hroom hreach.1
    have hcopy := (Parcel.memcpy_readInplace data.readInt32.2 (data.readInt32.1.toInt64.toUInt64 * 4).toNat
      data.readInt32.1 _).mpr (.inr ⟨hreach, by omega, rfl⟩)
    refine ⟨_, copyArray_ok_iff.mpr ⟨_, by rw [Memory.copied, hcopy]; rfl, rfl⟩, Memory.fetch_ok_iff.mpr ?_⟩
    rw [hcapacity, hnat, show ∀ n, n * 4 - n = n * 3 from fun n => by omega, List.length_append, List.length_map,
      List.length_replicate, Parcel.peek_length hreach]
    exact ⟨by omega, rfl⟩

/-- Of a notification that the branch has made, message and elements are left. -/
theorem used_decoded {data rest : Parcel β} {c : CallbackCode} {n : Notification} (h : c.decode data = .ok (n, rest))
    (message : Option FingerprintMsg) (cells : List (Option UInt8)) :
    used data c = .ok (message, cells) ↔ n.message = .ok message ∧ n.elements = .ok cells := by
  have hused : used data c = (do
      let message ← n.message
      let cells ← n.elements
      .ok (message, cells)) := by
    rw [used, h]
    rfl
  rw [hused]
  simp only [bind_ok_iff, Except.ok.injEq, Prod.mk.injEq]
  constructor
  · intro h
    obtain ⟨_, hmessage, _, hcells, rfl, rfl⟩ := h
    exact ⟨hmessage, hcells⟩
  · intro h
    obtain ⟨hmessage, hcells⟩ := h
    exact ⟨message, hmessage, cells, hcells, rfl, rfl⟩

/-- Both arrays are copied, and read at their first element. -/
theorem used_onEnumerate (data : Parcel β) (message : Option FingerprintMsg) (cells : List (Option UInt8)) :
    used data .onEnumerate = .ok (message, cells) ↔
      (ArrayUsable data.readInt64.2 ∧ ArrayUsable (behindArray data.readInt64.2)) ∧ message = none ∧
        cells = firstCells data.readInt64.2 ++ firstCells (behindArray data.readInt64.2) := by
  have hfirst := copyArray_iff data.readInt64.2
  have hsecond := copyArray_iff (behindArray data.readInt64.2)
  constructor
  · intro h
    obtain ⟨⟨n, rest⟩, hdecode, -⟩ := bind_ok_iff.mp h
    obtain ⟨hmessage, hcells⟩ := (used_decoded hdecode message cells).mp h
    obtain ⟨first, hfpIds, hdecode⟩ := bind_ok_iff.mp hdecode
    obtain ⟨fpIds, -, rfl⟩ := copyArray_ok_iff.mp hfpIds
    obtain ⟨second, hgpIds, hdecode⟩ := bind_ok_iff.mp hdecode
    obtain ⟨gpIds, -, rfl⟩ := copyArray_ok_iff.mp hgpIds
    obtain ⟨rfl, -⟩ := Prod.mk.inj (Except.ok.inj hdecode)
    obtain ⟨fpId, hfpId, hcells⟩ := bind_ok_iff.mp hcells
    obtain ⟨gpId, hgpId, hcells⟩ := bind_ok_iff.mp hcells
    have hleft := (hfirst fpId).mp ⟨fpIds, hfpIds, hfpId⟩
    have hright := (hsecond gpId).mp ⟨gpIds, hgpIds, hgpId⟩
    refine ⟨⟨hleft.1, hright.1⟩, (Except.ok.inj hmessage).symm, ?_⟩
    rw [← Except.ok.inj hcells, hleft.2, hright.2]
  · intro h
    obtain ⟨⟨hleft, hright⟩, rfl, rfl⟩ := h
    obtain ⟨fpIds, hfpIds, hfpId⟩ := (hfirst _).mpr ⟨hleft, rfl⟩
    obtain ⟨gpIds, hgpIds, hgpId⟩ := (hsecond _).mpr ⟨hright, rfl⟩
    have hdecode : CallbackCode.onEnumerate.decode data = .ok (.onEnumerate data.readInt64.1 fpIds gpIds
        (behindArray data.readInt64.2).readInt32.1, behindArray (behindArray data.readInt64.2)) := by
      simp only [CallbackCode.decode, bind, Except.bind, hfpIds, hgpIds]
    apply (used_decoded hdecode _ _).mpr
    simp only [Notification.message, Notification.elements, bind, Except.bind, hfpId, hgpId, and_self]

/-- The first byte of a result is read. -/
theorem elements_onTestCmd (data : Parcel β) (devId : Int64) (cmdId resultLen : Int32) (cells : List (Option UInt8)) :
    (Notification.onTestCmd devId cmdId (data.readInplace resultLen.toInt64.toUInt64).1 resultLen).elements =
        .ok cells ↔
      (data.Reaches resultLen ∧ 1 ≤ resultLen.toInt) ∧ cells = ((data.peek resultLen.toInt.toNat).map some).take 1 := by
  rw [Notification.elements, Parcel.readInplace_reaches]
  by_cases hreach : data.Reaches resultLen
  · rw [if_pos hreach, Memory.ofPtr_some, Memory.fetch_ok_iff, List.length_map, Parcel.peek_length hreach]
    have hpos : 1 ≤ resultLen.toInt.toNat ↔ 1 ≤ resultLen.toInt := by omega
    rw [hpos]
    simp only [hreach, true_and]
  · rw [if_neg hreach]
    simp [hreach, Memory.ofPtr, Memory.fetch]

/-- As much of a token is copied as is declared, if it is there and there is room for it. -/
theorem message_onAuthenticated (data : Parcel β) (devId : Int64) (fingerId groupId hatSize : Int32)
    (message : Option FingerprintMsg) :
    (Notification.onAuthenticated devId fingerId groupId (data.readInplace hatSize.toInt64.toUInt64).1
        hatSize).message = .ok message ↔
      (hatSize = 0 ∨ data.Reaches hatSize ∧ hatSize.toInt ≤ hwAuthTokenSize) ∧
        message = some (.authenticated fingerId.toUInt32 groupId.toUInt32 (data.peek hatSize.toInt.toNat)) := by
  rw [Notification.message, bind_ok_iff]
  simp only [Parcel.memcpy_readInplace, Except.ok.injEq]
  constructor
  · intro h
    obtain ⟨bytes, ⟨rfl, rfl⟩ | ⟨hreach, hfits, rfl⟩, rfl⟩ := h
    · exact ⟨.inl rfl, rfl⟩
    · exact ⟨.inr ⟨hreach, hfits⟩, rfl⟩
  · intro h
    obtain ⟨rfl | ⟨hreach, hfits⟩, rfl⟩ := h
    · exact ⟨[], .inl ⟨rfl, rfl⟩, rfl⟩
    · exact ⟨_, .inr ⟨hreach, hfits, rfl⟩, rfl⟩

/-- **The declared lengths say when memory is used within its bounds**, and what it brings then. -/
theorem used_ok_iff (data : Parcel β) (c : CallbackCode) (out : Option FingerprintMsg × List (Option UInt8)) :
    used data c = .ok out ↔ Usable data c ∧ out = brought data c := by
  obtain ⟨message, cells⟩ := out
  cases c with
  | onEnumerate => rw [used_onEnumerate, Usable, brought, Prod.mk.injEq]
  | onTestCmd =>
    have hdecode : CallbackCode.onTestCmd.decode data = .ok (.onTestCmd data.readInt64.1 data.readInt64.2.readInt32.1
        (data.readInt64.2.readInt32.2.readInt32.2.readInplace
          data.readInt64.2.readInt32.2.readInt32.1.toInt64.toUInt64).1 data.readInt64.2.readInt32.2.readInt32.1,
        (data.readInt64.2.readInt32.2.readInt32.2.readInplace
          data.readInt64.2.readInt32.2.readInt32.1.toInt64.toUInt64).2) := by
      rw [CallbackCode.decode]
    rw [used_decoded hdecode, elements_onTestCmd]
    simp only [Notification.message, Except.ok.injEq, Usable, brought, Prod.mk.injEq]
    rw [eq_comm, and_left_comm]
  | onAuthenticated =>
    have hdecode : CallbackCode.onAuthenticated.decode data = .ok (.onAuthenticated data.readInt64.1
        data.readInt64.2.readInt32.1 data.readInt64.2.readInt32.2.readInt32.1
        (data.readInt64.2.readInt32.2.readInt32.2.readInt32.2.readInplace
          data.readInt64.2.readInt32.2.readInt32.2.readInt32.1.toInt64.toUInt64).1
        data.readInt64.2.readInt32.2.readInt32.2.readInt32.1,
        (data.readInt64.2.readInt32.2.readInt32.2.readInt32.2.readInplace
          data.readInt64.2.readInt32.2.readInt32.2.readInt32.1.toInt64.toUInt64).2) := by
      rw [CallbackCode.decode]
    rw [used_decoded hdecode, message_onAuthenticated, and_assoc]
    simp only [Notification.elements, Except.ok.injEq, Usable, brought, Prod.mk.injEq]
    rw [eq_comm (a := ([] : List (Option UInt8)))]
  | _ =>
    simp only [used, CallbackCode.decode, Notification.message, Notification.elements, bind, Except.bind, Usable,
      brought, Except.ok.injEq, true_and]
    exact eq_comm

end Client
end GoodixFingerprint
