import GoodixFingerprint.Callback.Interface
import GoodixFingerprint.Interface.Proxy

/-! `BpGoodixFingerprintDaemonCallback`: the daemon's side of the callback interface.

Every method writes the interface token and its arguments and makes a one-way
transaction, whose status it returns; a buffer shorter than its length is a fault. -/
namespace GoodixFingerprint
open Binder

namespace BpGoodixFingerprintDaemonCallback
variable {m : Type → Type} [Monad m] {β : Type} (remote : Transact m β)

/-- The shape every method shares. -/
def call (code : CallbackCode) (write : Parcel β → Except Fault (Parcel β)) : ExceptT Fault m Int32 := do
  let data ← write (({} : Parcel β).writeInterfaceToken callbackDescriptor)
  let (status, _) ← remote code.number data
  pure status

def onEnrollResult (devId : Int64) (fpId gpId rem : Int32) : ExceptT Fault m Int32 :=
  call remote .onEnrollResult fun data =>
    .ok ((((data.writeInt64 devId).writeInt32 fpId).writeInt32 gpId).writeInt32 rem)

def onAcquired (devId : Int64) (acquiredInfo : Int32) : ExceptT Fault m Int32 :=
  call remote .onAcquired fun data => .ok ((data.writeInt64 devId).writeInt32 acquiredInfo)

def onAuthenticated (devId : Int64) (fpId gpId : Int32) (hat : Ptr) (hatSize : Int32) : ExceptT Fault m Int32 :=
  call remote .onAuthenticated fun data =>
    ((((data.writeInt64 devId).writeInt32 fpId).writeInt32 gpId).writeInt32 hatSize).write hat
      hatSize.toInt64.toUInt64

def onError (devId : Int64) (error : Int32) : ExceptT Fault m Int32 :=
  call remote .onError fun data => .ok ((data.writeInt64 devId).writeInt32 error)

def onRemoved (devId : Int64) (fpId gpId : Int32) : ExceptT Fault m Int32 :=
  call remote .onRemoved fun data => .ok (((data.writeInt64 devId).writeInt32 fpId).writeInt32 gpId)

def onEnumerate (devId : Int64) (fpIds gpIds : Memory) (sz : Int32) : ExceptT Fault m Int32 :=
  call remote .onEnumerate fun data => do
    let data ← (data.writeInt64 devId).writeInt32Array sz.toInt64.toUInt64 fpIds
    data.writeInt32Array sz.toInt64.toUInt64 gpIds

def onTestCmd (devId : Int64) (cmdId : Int32) (result : Ptr) (resultLen : Int32) : ExceptT Fault m Int32 :=
  call remote .onTestCmd fun data =>
    (((data.writeInt64 devId).writeInt32 cmdId).writeInt32 resultLen).write result resultLen.toInt64.toUInt64

def onHbdData (devId : Int64) (heartBeatRate status : Int32) (displayData : Ptr) (dataLen : Int32) :
    ExceptT Fault m Int32 :=
  call remote .onHbd fun data =>
    ((((data.writeInt64 devId).writeInt32 heartBeatRate).writeInt32 status).writeInt32 dataLen).write displayData
      dataLen.toInt64.toUInt64

end BpGoodixFingerprintDaemonCallback

/-- The proxy as an implementation of the interface. -/
def bpGoodixFingerprintDaemonCallback {m : Type → Type} [Monad m] {β : Type} (remote : Transact m β) :
    IGoodixFingerprintDaemonCallback (ExceptT Fault m) where
  getInterfaceDescriptor := callbackDescriptor
  onEnrollResult := BpGoodixFingerprintDaemonCallback.onEnrollResult remote
  onAcquired := BpGoodixFingerprintDaemonCallback.onAcquired remote
  onAuthenticated := BpGoodixFingerprintDaemonCallback.onAuthenticated remote
  onError := BpGoodixFingerprintDaemonCallback.onError remote
  onRemoved := BpGoodixFingerprintDaemonCallback.onRemoved remote
  onEnumerate := BpGoodixFingerprintDaemonCallback.onEnumerate remote
  onTestCmd := BpGoodixFingerprintDaemonCallback.onTestCmd remote
  onHbdData := BpGoodixFingerprintDaemonCallback.onHbdData remote

/-- The code and the parcel that the proxy hands to `transact` for a notification, or the fault
over a buffer of its. -/
def Notification.written {β : Type} (n : Notification) : Except Fault (UInt32 × Parcel β) :=
  thrown ((bpGoodixFingerprintDaemonCallback (m := Except (UInt32 × Parcel β)) fun code data =>
    .error (code, data)).call n)

/-- A method by what it writes. -/
theorem thrown_notify {β : Type} (code : CallbackCode) (write : Parcel β → Except Fault (Parcel β)) :
    thrown (BpGoodixFingerprintDaemonCallback.call (m := Except (UInt32 × Parcel β))
      (fun code data => .error (code, data)) code write) =
        (write (({} : Parcel β).writeInterfaceToken callbackDescriptor)).map fun data => (code.number, data) := by
  unfold BpGoodixFingerprintDaemonCallback.call
  cases write (({} : Parcel β).writeInterfaceToken callbackDescriptor) <;> rfl

section Transaction
variable {m : Type → Type} [Monad m] [LawfulMonad m] {β : Type} (remote : Transact m β)

theorem bp_notify_eq (code : CallbackCode) (write : Parcel β → Except Fault (Parcel β)) :
    BpGoodixFingerprintDaemonCallback.call remote code write = (do
      let w ← thrown (BpGoodixFingerprintDaemonCallback.call (m := Except (UInt32 × Parcel β))
        (fun code data => .error (code, data)) code write)
      let (status, _) ← remote w.1 w.2
      pure status) := by
  rw [thrown_notify, BpGoodixFingerprintDaemonCallback.call]
  cases write (({} : Parcel β).writeInterfaceToken callbackDescriptor) with
  | error fault => rw [Except.map, lift_error_bind, lift_error_bind]
  | ok data => rw [Except.map, lift_ok_bind, lift_ok_bind]

/-- The proxy transacts once, with what `written` says, or faults before. -/
theorem bp_notify (n : Notification) :
    (bpGoodixFingerprintDaemonCallback remote).call n = (do
      let w ← n.written
      let (status, _) ← remote w.1 w.2
      pure status) := by
  cases n <;>
    dsimp only [Notification.written, IGoodixFingerprintDaemonCallback.call, bpGoodixFingerprintDaemonCallback] <;>
    exact bp_notify_eq remote _ _

theorem bp_notify_ok (n : Notification) (code : UInt32) (data : Parcel β) (h : n.written = .ok (code, data)) :
    (bpGoodixFingerprintDaemonCallback remote).call n =
      ExceptT.lift (remote code data >>= fun (status, _) => pure status) := by
  rw [bp_notify, h, lift_ok_bind]
  apply ExceptT.ext
  simp [Except.map]

end Transaction
end GoodixFingerprint
