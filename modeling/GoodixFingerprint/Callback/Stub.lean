import GoodixFingerprint.Callback.Interface
import GoodixFingerprint.Interface.Stub

/-! `BnGoodixFingerprintDaemonCallback::onTransact`: the client's side of the callback
interface.

A branch checks the interface token, reads its arguments and calls the method, whose
status it drops. The branch of `ON_ENUMERATE` copies its two arrays to buffers of its
own before, which may fault, so the implementation's monad has faults. -/
namespace GoodixFingerprint
open Binder

namespace BnGoodixFingerprintDaemonCallback
variable {m : Type → Type} [Monad m] {β : Type}

/-- `CHECK_INTERFACE`, then the branch. -/
def checked (this : IGoodixFingerprintDaemonCallback (ExceptT Fault m)) (data : Parcel β)
    (branch : Parcel β → ExceptT Fault m (Outcome β)) : ExceptT Fault m (Outcome β) :=
  let (ok, data) := data.checkInterface this.getInterfaceDescriptor
  if ok then branch data else pure ⟨permissionDenied, {}, data⟩

/-- One array of `ON_ENUMERATE`: its size, and a buffer of four times as many bytes with that
many copied to it. With a negative size there is neither a buffer nor a source. -/
def copyArray (data : Parcel β) : Except Fault (Int32 × Memory × Parcel β) := do
  let (size, data) := data.readInt32
  let (src, data) := data.readInplace size.toInt64.toUInt64
  let ids ← Memory.copied (size.toInt64.toUInt64 * 4).toNat src size.toInt64.toUInt64.toNat
  .ok (size, ids, data)

def onTransact (this : IGoodixFingerprintDaemonCallback (ExceptT Fault m)) (ctx : Context β)
    (code : UInt32) (data : Parcel β) : ExceptT Fault m (Outcome β) :=
  match CallbackCode.ofNumber code with
  | some .onEnrollResult => checked this data fun data => do
    let (devId, data) := data.readInt64
    let (fpId, data) := data.readInt32
    let (gpId, data) := data.readInt32
    let (rem, data) := data.readInt32
    let _ ← this.onEnrollResult devId fpId gpId rem
    pure ⟨noError, {}, data⟩
  | some .onAcquired => checked this data fun data => do
    let (devId, data) := data.readInt64
    let (acquiredInfo, data) := data.readInt32
    let _ ← this.onAcquired devId acquiredInfo
    pure ⟨noError, {}, data⟩
  | some .onAuthenticated => checked this data fun data => do
    let (devId, data) := data.readInt64
    let (fpId, data) := data.readInt32
    let (gpId, data) := data.readInt32
    let (hatSize, data) := data.readInt32
    let (hat, data) := data.readInplace hatSize.toInt64.toUInt64
    let _ ← this.onAuthenticated devId fpId gpId hat hatSize
    pure ⟨noError, {}, data⟩
  | some .onError => checked this data fun data => do
    let (devId, data) := data.readInt64
    let (error, data) := data.readInt32
    let _ ← this.onError devId error
    pure ⟨noError, {}, data⟩
  | some .onRemoved => checked this data fun data => do
    let (devId, data) := data.readInt64
    let (fpId, data) := data.readInt32
    let (gpId, data) := data.readInt32
    let _ ← this.onRemoved devId fpId gpId
    pure ⟨noError, {}, data⟩
  | some .onEnumerate => checked this data fun data => do
    let (devId, data) := data.readInt64
    let (_, fpIds, data) ← copyArray data
    let (gpIdsSize, gpIds, data) ← copyArray data
    let _ ← this.onEnumerate devId fpIds gpIds gpIdsSize
    pure ⟨noError, {}, data⟩
  | some .onTestCmd => checked this data fun data => do
    let (devId, data) := data.readInt64
    let (cmdId, data) := data.readInt32
    let (resultLen, data) := data.readInt32
    let (result, data) := data.readInplace resultLen.toInt64.toUInt64
    let _ ← this.onTestCmd devId cmdId result resultLen
    pure ⟨noError, {}, data⟩
  | some .onHbd => checked this data fun data => do
    let (devId, data) := data.readInt64
    let (heartBeatRate, data) := data.readInt32
    let (status, data) := data.readInt32
    let (dataLen, data) := data.readInt32
    let (displayData, data) := data.readInplace dataLen.toInt64.toUInt64
    let _ ← this.onHbdData devId heartBeatRate status displayData dataLen
    pure ⟨noError, {}, data⟩
  | none => pure (ctx.bbinderOnTransact code data)

end BnGoodixFingerprintDaemonCallback

/-! ### What every branch does -/

open BnGoodixFingerprintDaemonCallback in
/-- The notification a branch makes of the parcel behind the token, and the parcel after it. -/
def CallbackCode.decode {β : Type} (data : Parcel β) : CallbackCode → Except Fault (Notification × Parcel β)
  | .onEnrollResult =>
    let (devId, data) := data.readInt64
    let (fpId, data) := data.readInt32
    let (gpId, data) := data.readInt32
    let (rem, data) := data.readInt32
    .ok (.onEnrollResult devId fpId gpId rem, data)
  | .onAcquired =>
    let (devId, data) := data.readInt64
    let (acquiredInfo, data) := data.readInt32
    .ok (.onAcquired devId acquiredInfo, data)
  | .onAuthenticated =>
    let (devId, data) := data.readInt64
    let (fpId, data) := data.readInt32
    let (gpId, data) := data.readInt32
    let (hatSize, data) := data.readInt32
    let (hat, data) := data.readInplace hatSize.toInt64.toUInt64
    .ok (.onAuthenticated devId fpId gpId hat hatSize, data)
  | .onError =>
    let (devId, data) := data.readInt64
    let (error, data) := data.readInt32
    .ok (.onError devId error, data)
  | .onRemoved =>
    let (devId, data) := data.readInt64
    let (fpId, data) := data.readInt32
    let (gpId, data) := data.readInt32
    .ok (.onRemoved devId fpId gpId, data)
  | .onEnumerate => do
    let (devId, data) := data.readInt64
    let (_, fpIds, data) ← copyArray data
    let (gpIdsSize, gpIds, data) ← copyArray data
    .ok (.onEnumerate devId fpIds gpIds gpIdsSize, data)
  | .onTestCmd =>
    let (devId, data) := data.readInt64
    let (cmdId, data) := data.readInt32
    let (resultLen, data) := data.readInt32
    let (result, data) := data.readInplace resultLen.toInt64.toUInt64
    .ok (.onTestCmd devId cmdId result resultLen, data)
  | .onHbd =>
    let (devId, data) := data.readInt64
    let (heartBeatRate, data) := data.readInt32
    let (status, data) := data.readInt32
    let (dataLen, data) := data.readInt32
    let (displayData, data) := data.readInplace dataLen.toInt64.toUInt64
    .ok (.onHbdData devId heartBeatRate status displayData dataLen, data)

namespace BnGoodixFingerprintDaemonCallback
variable {m : Type → Type} [Monad m] {β : Type}

/-- An array is read if its copy is within bounds, and behind it is whatever is behind the size. -/
theorem copyArray_ok_iff {data : Parcel β} {read : Int32 × Memory × Parcel β} :
    copyArray data = .ok read ↔ ∃ array, Memory.copied (data.readInt32.1.toInt64.toUInt64 * 4).toNat
      (data.readInt32.2.readInplace data.readInt32.1.toInt64.toUInt64).1 data.readInt32.1.toInt64.toUInt64.toNat =
        .ok array ∧
      read = (data.readInt32.1, array, (data.readInt32.2.readInplace data.readInt32.1.toInt64.toUInt64).2) := by
  rw [copyArray, bind_ok_iff]
  simp only [Except.ok.injEq, eq_comm]

/-- A decoded notification's method, its status dropped. -/
def notified (this : IGoodixFingerprintDaemonCallback (ExceptT Fault m))
    (decoded : Except Fault (Notification × Parcel β)) : ExceptT Fault m (Outcome β) := do
  let (n, data) ← decoded
  let _ ← this.call n
  pure ⟨noError, {}, data⟩

theorem checked_eq (this : IGoodixFingerprintDaemonCallback (ExceptT Fault m)) (data : Parcel β)
    (branch : Parcel β → ExceptT Fault m (Outcome β)) :
    checked this data branch =
      if (data.checkInterface this.getInterfaceDescriptor).1 then
        branch (data.checkInterface this.getInterfaceDescriptor).2
      else pure ⟨permissionDenied, {}, (data.checkInterface this.getInterfaceDescriptor).2⟩ := rfl

section Lawful
variable [LawfulMonad m] (this : IGoodixFingerprintDaemonCallback (ExceptT Fault m))

theorem notified_ok (n : Notification) (data : Parcel β) :
    notified this (.ok (n, data)) = this.call n >>= fun _ => pure ⟨noError, {}, data⟩ := by
  rw [notified, lift_ok_bind]

theorem notified_error (fault : Fault) :
    notified this (.error fault : Except Fault (Notification × Parcel β)) = throw fault := by
  rw [notified, lift_error_bind]

/-- The branch that may fault before it has a notification. -/
theorem notified_onEnumerate (data : Parcel β) :
    (do
      let (_, fpIds, rest) ← copyArray data.readInt64.2
      let (gpIdsSize, gpIds, rest) ← copyArray rest
      let _ ← this.onEnumerate data.readInt64.1 fpIds gpIds gpIdsSize
      pure ⟨noError, {}, rest⟩) = notified this (CallbackCode.onEnumerate.decode data) := by
  simp only [CallbackCode.decode]
  cases copyArray data.readInt64.2 with
  | error fault =>
    rw [lift_error_bind]
    exact (notified_error this fault).symm
  | ok first =>
    rw [lift_ok_bind]
    cases hsecond : copyArray first.2.2 with
    | error fault =>
      simp only [bind, Except.bind, hsecond, notified_error]
      exact lift_error_bind fault _
    | ok second =>
      simp only [bind, Except.bind, hsecond, notified_ok]
      exact lift_ok_bind second _

theorem onTransact_eq (ctx : Context β) (code : UInt32) (data : Parcel β) (c : CallbackCode)
    (hc : CallbackCode.ofNumber code = some c) :
    onTransact this ctx code data =
      if (data.checkInterface this.getInterfaceDescriptor).1 then
        notified this (c.decode (data.checkInterface this.getInterfaceDescriptor).2)
      else pure ⟨permissionDenied, {}, (data.checkInterface this.getInterfaceDescriptor).2⟩ := by
  unfold onTransact
  rw [hc]
  cases c with
  | onEnumerate => simp only [checked_eq, notified_onEnumerate]
  | _ => simp only [checked_eq, CallbackCode.decode, notified_ok, IGoodixFingerprintDaemonCallback.call]

end Lawful
end BnGoodixFingerprintDaemonCallback

/-! ### A client that only listens -/

/-- A client that notes the notifications it gets. -/
def callbackRecorder : IGoodixFingerprintDaemonCallback (ExceptT Fault (StateM (List Notification))) :=
  .ofCall callbackDescriptor fun n notifications => (.ok 0, notifications ++ [n])

section Recorder
variable {β : Type}
open BnGoodixFingerprintDaemonCallback

/-- What the recorder notes is what was decoded. -/
theorem notified_recorder (decoded : Except Fault (Notification × Parcel β)) :
    notified callbackRecorder decoded [] =
      match decoded with
      | .ok received => (.ok ⟨noError, {}, received.2⟩, [received.1])
      | .error fault => (.error fault, []) := by
  cases decoded with
  | error fault => rfl
  | ok received =>
    rw [notified_ok, callbackRecorder, IGoodixFingerprintDaemonCallback.call_ofCall]
    rfl

theorem notified_recorder_iff (decoded : Except Fault (Notification × Parcel β)) (n : Notification)
    (data : Parcel β) :
    notified callbackRecorder decoded [] = (.ok ⟨noError, {}, data⟩, [n]) ↔ decoded = .ok (n, data) := by
  rw [notified_recorder]
  cases decoded with
  | error fault => exact ⟨fun h => (by cases h), fun h => (by cases h)⟩
  | ok received =>
    obtain ⟨n', data'⟩ := received
    constructor
    · intro h
      cases h
      rfl
    · intro h
      cases h
      rfl

end Recorder
end GoodixFingerprint
