import GoodixFingerprint.Callback.Proxy
import GoodixFingerprint.Callback.Stub
import GoodixFingerprint.Interface.RoundTrip

/-! What the client's stub makes of what the daemon's proxy wrote.

`decode_fields` says it for every notification but `onEnumerate`: the same method on the
same numbers, and on buffers of as many bytes. For `onEnumerate` proxy and stub do not
agree on what the length counts, elements or bytes. -/
namespace GoodixFingerprint
open Binder

/-- An array on the wire. -/
def arrayField (len : UInt64) (val : Memory) : List UInt8 :=
  if int32Max < len.toNat then []
  else match val with
    | none => Parcel.int32 (-1)
    | some cells =>
      Parcel.int32 len.toInt64.toInt32 ++ Parcel.bufferField (some (cells.map fun cell => cell.getD 0)) (len * 4)

/-- The array is null, or as long as it is said to be, unless that is refused. -/
def ArrayWritable (len : UInt64) (val : Memory) : Prop :=
  len.toNat ≤ int32Max → ∀ cells ∈ val, Parcel.Writable (some (cells.map fun cell => cell.getD 0)) (len * 4)

theorem writeInt32Array_ok {β : Type} {len : UInt64} {val : Memory} (h : ArrayWritable len val) (p : Parcel β) :
    p.writeInt32Array len val = .ok (p.append (arrayField len val)) := by
  unfold Parcel.writeInt32Array arrayField
  by_cases hlen : int32Max < len.toNat
  · simp [hlen, Parcel.append]
  · rw [if_neg hlen, if_neg hlen]
    cases val with
    | none => rfl
    | some cells =>
      simp only [Parcel.write_ok (h (Nat.not_lt.mp hlen) cells rfl), Parcel.writeInt32]
      simp [Parcel.append]

namespace Notification

/-- What the proxy appends after the token, field by field. -/
def fields : Notification → List (List UInt8)
  | onEnrollResult devId fpId gpId rem =>
    [Parcel.int64 devId, Parcel.int32 fpId, Parcel.int32 gpId, Parcel.int32 rem]
  | onAcquired devId acquiredInfo => [Parcel.int64 devId, Parcel.int32 acquiredInfo]
  | onAuthenticated devId fingerId groupId hat hatSize =>
    [Parcel.int64 devId, Parcel.int32 fingerId, Parcel.int32 groupId, Parcel.int32 hatSize,
      Parcel.bufferField hat hatSize.toInt64.toUInt64]
  | onError devId error => [Parcel.int64 devId, Parcel.int32 error]
  | onRemoved devId fingerId groupId => [Parcel.int64 devId, Parcel.int32 fingerId, Parcel.int32 groupId]
  | onEnumerate devId fpIds gpIds sz =>
    [Parcel.int64 devId, arrayField sz.toInt64.toUInt64 fpIds, arrayField sz.toInt64.toUInt64 gpIds]
  | onTestCmd devId cmdId result resultLen =>
    [Parcel.int64 devId, Parcel.int32 cmdId, Parcel.int32 resultLen,
      Parcel.bufferField result resultLen.toInt64.toUInt64]
  | onHbdData devId heartBeatRate status displayData dataLen =>
    [Parcel.int64 devId, Parcel.int32 heartBeatRate, Parcel.int32 status, Parcel.int32 dataLen,
      Parcel.bufferField displayData dataLen.toInt64.toUInt64]

/-- The parcel of a notification: the token and the fields, none of them read. -/
def parcel {β : Type} (n : Notification) : Parcel β :=
  Parcel.between [] (Parcel.interfaceToken callbackDescriptor ++ n.fields.flatten) []

/-- No buffer is shorter than the length that goes with it, unless that is refused. -/
def Writable : Notification → Prop
  | onAuthenticated _ _ _ hat hatSize => Parcel.Writable hat hatSize.toInt64.toUInt64
  | onEnumerate _ fpIds gpIds sz =>
    ArrayWritable sz.toInt64.toUInt64 fpIds ∧ ArrayWritable sz.toInt64.toUInt64 gpIds
  | onTestCmd _ _ result resultLen => Parcel.Writable result resultLen.toInt64.toUInt64
  | onHbdData _ _ _ displayData dataLen => Parcel.Writable displayData dataLen.toInt64.toUInt64
  | _ => True

/-- The proxy writes the parcel of the notification. -/
theorem written_ok {β : Type} (n : Notification) (h : n.Writable) :
    n.written (β := β) = .ok (n.code.number, n.parcel) := by
  unfold parcel
  cases n with
  | onAuthenticated | onTestCmd | onHbdData =>
    dsimp only [written, IGoodixFingerprintDaemonCallback.call, bpGoodixFingerprintDaemonCallback]
    refine (thrown_notify _ _).trans ?_
    simp only [Parcel.write_ok h, Parcel.writeInterfaceToken_empty, Parcel.writeInt32, Parcel.writeInt64,
      Parcel.append_between, Except.map, code, fields, List.flatten_cons, List.flatten_nil, List.append_nil,
      List.append_assoc]
  | onEnumerate =>
    dsimp only [written, IGoodixFingerprintDaemonCallback.call, bpGoodixFingerprintDaemonCallback]
    refine (thrown_notify _ _).trans ?_
    simp only [writeInt32Array_ok h.1, writeInt32Array_ok h.2, bind, Except.bind, Parcel.writeInterfaceToken_empty,
      Parcel.writeInt64, Parcel.append_between, Except.map, code, fields, List.flatten_cons, List.flatten_nil,
      List.append_nil, List.append_assoc]
  | _ =>
    dsimp only [written, IGoodixFingerprintDaemonCallback.call, bpGoodixFingerprintDaemonCallback]
    refine (thrown_notify _ _).trans ?_
    simp only [Parcel.writeInterfaceToken_empty, Parcel.writeInt32, Parcel.writeInt64, Parcel.append_between,
      Except.map, code, fields, List.flatten_cons, List.flatten_nil, List.append_nil, List.append_assoc]

/-- A written notification with more bytes behind it. -/
def extended {β : Type} (n : Notification) (more : List UInt8) : Parcel β := n.parcel.append more

/-- The parcel of an extended notification with the notification read. -/
def passed {β : Type} (n : Notification) (more : List UInt8) : Parcel β :=
  Parcel.between (Parcel.interfaceToken callbackDescriptor ++ n.fields.flatten) more []

/-- The parcel of a notification with everything read. -/
def consumed {β : Type} (n : Notification) : Parcel β := n.passed []

theorem extended_nil {β : Type} (n : Notification) : n.extended (β := β) [] = n.parcel := by
  simp [extended, Parcel.append]

/-- The token behind it, the stub stands at the fields. -/
theorem extended_token {β : Type} (n : Notification) (more : List UInt8) (expected : String16) :
    (n.extended (β := β) more).checkInterface expected =
      (callbackDescriptor == expected,
        Parcel.between (Parcel.interfaceToken callbackDescriptor) (n.fields.flatten ++ more) []) := by
  rw [extended, parcel, Parcel.append_between, List.append_assoc,
    Parcel.checkInterface_between _ _ callbackDescriptor_named, List.nil_append]

theorem parcel_token {β : Type} (n : Notification) (expected : String16) :
    (n.parcel (β := β)).checkInterface expected =
      (callbackDescriptor == expected,
        Parcel.between (Parcel.interfaceToken callbackDescriptor) n.fields.flatten []) := by
  rw [← n.extended_nil, n.extended_token, List.append_nil]

end Notification

/-- A pointer on the other side of the wire: as many bytes as were sent, if a length was. -/
def receivedPtr (data : Ptr) (len : UInt64) : Ptr :=
  if int32Max < len.toNat then none else some ((data.getD []).take len.toNat)

/-- A buffer is read back byte for byte, a refused one as a null pointer. -/
theorem readInplace_bufferField {β : Type} {data : Ptr} {len : UInt64} (h : Parcel.Writable data len)
    (before rest : List UInt8) (objects : List (Nat × β)) :
    (Parcel.between before (Parcel.bufferField data len ++ rest) objects).readInplace len =
      (receivedPtr data len, Parcel.between (before ++ Parcel.bufferField data len) rest objects) := by
  rw [Parcel.bufferField, receivedPtr]
  by_cases hlen : int32Max < len.toNat
  · simp only [if_pos hlen, Parcel.readInplace, Nat.not_le.mpr hlen, false_and, if_false, List.nil_append,
      List.append_nil]
  · have hfits := Nat.not_lt.mp hlen
    simp only [if_neg hlen]
    exact Parcel.readInplace_between (List.length_take_of_le (h hfits)) hfits before rest objects

/-- The notification as the client gets it. -/
def Notification.received : Notification → Notification
  | onAuthenticated devId fingerId groupId hat hatSize =>
    .onAuthenticated devId fingerId groupId (receivedPtr hat hatSize.toInt64.toUInt64) hatSize
  | onTestCmd devId cmdId result resultLen =>
    .onTestCmd devId cmdId (receivedPtr result resultLen.toInt64.toUInt64) resultLen
  | onHbdData devId heartBeatRate status displayData dataLen =>
    .onHbdData devId heartBeatRate status (receivedPtr displayData dataLen.toInt64.toUInt64) dataLen
  | n => n

/-- The stub's branch reads a written notification back, and stops behind it. -/
theorem Notification.decode_extended {β : Type} (n : Notification) (hn : n.code ≠ .onEnumerate) (h : n.Writable)
    (more : List UInt8) :
    n.code.decode (Parcel.between (β := β) (Parcel.interfaceToken callbackDescriptor) (n.fields.flatten ++ more) []) =
      .ok (n.received, n.passed more) := by
  rw [passed]
  cases n with
  | onEnumerate => exact absurd rfl hn
  | onAuthenticated | onTestCmd | onHbdData =>
    simp only [code, CallbackCode.decode, fields, List.flatten_cons, List.flatten_nil, List.append_assoc,
      Parcel.readInt64_between, Parcel.readInt32_between, readInplace_bufferField h]
    simp only [received, List.append_nil, List.nil_append]
  | _ =>
    simp only [code, CallbackCode.decode, fields, List.flatten_cons, List.flatten_nil, List.append_assoc,
      Parcel.readInt64_between, Parcel.readInt32_between]
    simp only [received, List.append_nil, List.nil_append]

section RoundTrip
variable {m : Type → Type} [Monad m] [LawfulMonad m] {β : Type}
  (this : IGoodixFingerprintDaemonCallback (ExceptT Fault m)) (ctx : Context β)
open BnGoodixFingerprintDaemonCallback

/-- The token the proxy wrote opens the branch of the notification's own code. -/
theorem onTransact_token (n : Notification) (more : List UInt8)
    (hthis : this.getInterfaceDescriptor = callbackDescriptor) :
    onTransact this ctx n.code.number (n.extended more) =
      notified this (n.code.decode
        (Parcel.between (Parcel.interfaceToken callbackDescriptor) (n.fields.flatten ++ more) [])) := by
  rw [onTransact_eq this ctx _ _ n.code (CallbackCode.ofNumber_number n.code), n.extended_token, hthis,
    if_pos (beq_self_eq_true callbackDescriptor)]

/-- A notification is one call of the same method, whatever stands behind it. -/
theorem onTransact_extended_notification (n : Notification) (hn : n.code ≠ .onEnumerate) (h : n.Writable)
    (more : List UInt8) (hthis : this.getInterfaceDescriptor = callbackDescriptor) :
    onTransact this ctx n.code.number (n.extended more) =
      this.call n.received >>= fun _ => pure ⟨noError, {}, n.passed more⟩ := by
  rw [onTransact_token this ctx n more hthis, n.decode_extended hn h, notified_ok]

/-- With nothing behind it the parcel is read to its end. -/
theorem notification_round_trip (n : Notification) (hn : n.code ≠ .onEnumerate) (h : n.Writable)
    (hthis : this.getInterfaceDescriptor = callbackDescriptor) :
    onTransact this ctx n.code.number n.parcel = this.call n.received >>= fun _ => pure ⟨noError, {}, n.consumed⟩ := by
  rw [← n.extended_nil]
  exact onTransact_extended_notification this ctx n hn h [] hthis

end RoundTrip

end GoodixFingerprint
