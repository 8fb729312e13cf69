import GoodixFingerprint.Interface.Daemon

/-! `BnGoodixFingerprintDaemon::onTransact`: the daemon's side of the interface.

A branch checks the interface token and, except for the three test codes, the
caller's permission, then reads its arguments, calls the method and writes the
reply. The implementation behind the methods is a parameter, in any monad. -/
namespace GoodixFingerprint
open Binder

/-- `NO_ERROR`. -/
def noError : Int32 := 0
/-- `PERMISSION_DENIED`, `-EPERM`. -/
def permissionDenied : Int32 := -1

/-- `UNKNOWN_TRANSACTION`, `-EBADMSG`. -/
def unknownTransaction : Int32 := -74

@[irreducible] def halFingerprintPermission : String16 := String16.ofString "android.permission.MANAGE_FINGERPRINT"

/-- What `onTransact` leaves: its status, the reply, and the parcel as far as it was read. -/
structure Outcome (β : Type) where
  status : Int32
  reply : Parcel β
  data : Parcel β

/-- What `onTransact` reads that neither the parcel nor the daemon holds. -/
structure Context (β : Type) where
  callingPid : Int32
  callingUid : Int32
  /-- `PermissionCache::checkPermission`. -/
  permissionCache : String16 → Int32 → Int32 → Bool
  /-- What an uninitialised byte on the stack happens to hold. -/
  uninitialized : UInt8
  /-- `BBinder::onTransact`, which answers the codes the interface does not define. -/
  bbinderOnTransact : UInt32 → Parcel β → Outcome β

/-- A context that grants the permission to everybody or to nobody. -/
def Context.granting {β : Type} (granted : Bool) : Context β where
  callingPid := 1000
  callingUid := 1000
  permissionCache _ _ _ := granted
  uninitialized := 0
  bbinderOnTransact _ data := ⟨unknownTransaction, {}, data⟩

/-- The value a branch writes into its reply, by its kind. -/
def Code.Kind.write {β : Type} : (k : Code.Kind) → k.Result → Parcel β → Parcel β
  | unit, _, reply => reply.writeNoException
  | int32, ret, reply => reply.writeNoException.writeInt32 ret
  | uint64, ret, reply => reply.writeNoException.writeInt64 ret.toInt64
  | int64, ret, reply => reply.writeNoException.writeInt64 ret

namespace BnGoodixFingerprintDaemon
variable {m : Type → Type} [Monad m] {β : Type}

def checkPermission (ctx : Context β) (permission : String16) : Bool :=
  ctx.permissionCache permission ctx.callingPid ctx.callingUid

/-- `CHECK_INTERFACE`, then the branch. -/
def checked (this : IGoodixFingerprintDaemon m β) (data : Parcel β)
    (branch : Parcel β → m (Outcome β)) : m (Outcome β) :=
  let (ok, data) := data.checkInterface this.getInterfaceDescriptor
  if ok then branch data else pure ⟨permissionDenied, {}, data⟩

/-- `CHECK_INTERFACE` and the permission check, then the branch. -/
def guarded (this : IGoodixFingerprintDaemon m β) (ctx : Context β) (data : Parcel β)
    (branch : Parcel β → m (Outcome β)) : m (Outcome β) :=
  checked this data fun data =>
    if !checkPermission ctx halFingerprintPermission then pure ⟨permissionDenied, {}, data⟩
    else branch data

/-- `writeNoException`, the returned value, `NO_ERROR`. -/
def replied (k : Code.Kind) (ret : k.Result) (data : Parcel β) : m (Outcome β) :=
  pure ⟨noError, k.write ret {}, data⟩

def onTransact (this : IGoodixFingerprintDaemon m β) (ctx : Context β) (code : UInt32)
    (data : Parcel β) : m (Outcome β) :=
  match Code.ofNumber code with
  | some .authenticate => guarded this ctx data fun data => do
    let (sessionId, data) := data.readInt64
    let (groupId, data) := data.readInt32
    let ret ← this.authenticate sessionId.toUInt64 groupId.toUInt32
    replied .int32 ret data
  | some .cancelAuthentication => guarded this ctx data fun data => do
    let ret ← this.stopAuthentication
    replied .int32 ret data
  | some .enroll => guarded this ctx data fun data => do
    let (tokenSize, data) := data.readInt32
    let (token, data) := data.readInplace tokenSize.toInt64.toUInt64
    let (groupId, data) := data.readInt32
    let (timeout, data) := data.readInt32
    let ret ← this.enroll token tokenSize.toInt64 groupId timeout
    replied .int32 ret data
  | some .cancelEnrollment => guarded this ctx data fun data => do
    let ret ← this.stopEnrollment
    replied .int32 ret data
  | some .preEnroll => guarded this ctx data fun data => do
    let ret ← this.preEnroll
    replied .uint64 ret data
  | some .postEnroll => guarded this ctx data fun data => do
    let ret ← this.postEnroll
    replied .int32 ret data
  | some .remove => guarded this ctx data fun data => do
    let (fingerId, data) := data.readInt32
    let (groupId, data) := data.readInt32
    let ret ← this.remove fingerId groupId
    replied .int32 ret data
  | some .getAuthenticatorId => guarded this ctx data fun data => do
    let ret ← this.getAuthenticatorId
    replied .uint64 ret data
  | some .setActiveGroup => guarded this ctx data fun data => do
    let (group, data) := data.readInt32
    let (pathSize, data) := data.readInt32
    let (path, data) := data.readInplace pathSize.toInt64.toUInt64
    let ret ← this.setActiveGroup group path pathSize.toInt64
    replied .int32 ret data
  | some .openHal => guarded this ctx data fun data => do
    let ret ← this.openHal
    replied .int64 ret data
  | some .closeHal => guarded this ctx data fun data => do
    let ret ← this.closeHal
    replied .int32 ret data
  | some .init => guarded this ctx data fun data => do
    let (callback, data) := data.readStrongBinder
    let ret ← this.init callback
    replied .unit ret data
  | some .setSafeClass => guarded this ctx data fun data => do
    let (safeClass, data) := data.readInt32
    let ret ← this.setSafeClass safeClass.toUInt32
    replied .int32 ret data
  | some .navigate => guarded this ctx data fun data => do
    let (navMode, data) := data.readInt32
    let ret ← this.navigate navMode.toUInt32
    replied .int32 ret data
  | some .cancelNavigation => guarded this ctx data fun data => do
    let ret ← this.stopNavigation
    replied .int32 ret data
  | some .enableFingerprintModule => guarded this ctx data fun data => do
    let (flag, data) := data.read 1
    let ret ← this.enableFingerprintModule ((flag.getD []).headD ctx.uninitialized)
    replied .int32 ret data
  | some .cameraCapture => guarded this ctx data fun data => do
    let ret ← this.cameraCapture
    replied .int32 ret data
  | some .cancelCameraCapture => guarded this ctx data fun data => do
    let ret ← this.stopCameraCapture
    replied .int32 ret data
  | some .enableFfFeature => guarded this ctx data fun data => do
    let (flag, data) := data.read 1
    let ret ← this.enableFfFeature ((flag.getD []).headD ctx.uninitialized)
    replied .int32 ret data
  | some .testInit => checked this data fun data => do
    let (callback, data) := data.readStrongBinder
    let ret ← this.testInit callback
    replied .unit ret data
  | some .testCmd => checked this data fun data => do
    let (cmdId, data) := data.readInt32
    let (paramLen, data) := data.readInt32
    let (param, data) := data.readInplace paramLen.toInt64.toUInt64
    let ret ← this.testCmd cmdId.toUInt32 param paramLen.toUInt32
    replied .int32 ret data
  | some .startHbd => checked this data fun data => do
    let ret ← this.startHbd
    replied .int32 ret data
  | some .screenOn => guarded this ctx data fun data => do
    let ret ← this.screenOn
    replied .int32 ret data
  | some .screenOff => guarded this ctx data fun data => do
    let ret ← this.screenOff
    replied .int32 ret data
  | none => pure (ctx.bbinderOnTransact code data)

end BnGoodixFingerprintDaemon

/-! ### What every branch does

`Code.decode` collects what the branches read; `onTransact_eq` is the one place where
the branches are taken apart. -/

/-- The codes whose branch checks the caller's permission. -/
def Code.gated : Code → Bool
  | testInit | testCmd | startHbd => false
  | _ => true

/-- The request a branch makes of the parcel behind the token, and the parcel after it. -/
def Code.decode {β : Type} (ctx : Context β) (data : Parcel β) : Code → Request β × Parcel β
  | .authenticate =>
    let (sessionId, data) := data.readInt64
    let (groupId, data) := data.readInt32
    (.authenticate sessionId.toUInt64 groupId.toUInt32, data)
  | .cancelAuthentication => (.stopAuthentication, data)
  | .enroll =>
    let (tokenSize, data) := data.readInt32
    let (token, data) := data.readInplace tokenSize.toInt64.toUInt64
    let (groupId, data) := data.readInt32
    let (timeout, data) := data.readInt32
    (.enroll token tokenSize.toInt64 groupId timeout, data)
  | .cancelEnrollment => (.stopEnrollment, data)
  | .preEnroll => (.preEnroll, data)
  | .remove =>
    let (fingerId, data) := data.readInt32
    let (groupId, data) := data.readInt32
    (.remove fingerId groupId, data)
  | .getAuthenticatorId => (.getAuthenticatorId, data)
  | .setActiveGroup =>
    let (group, data) := data.readInt32
    let (pathSize, data) := data.readInt32
    let (path, data) := data.readInplace pathSize.toInt64.toUInt64
    (.setActiveGroup group path pathSize.toInt64, data)
  | .openHal => (.openHal, data)
  | .closeHal => (.closeHal, data)
  | .init => let (callback, data) := data.readStrongBinder; (.init callback, data)
  | .postEnroll => (.postEnroll, data)
  | .setSafeClass => let (safeClass, data) := data.readInt32; (.setSafeClass safeClass.toUInt32, data)
  | .navigate => let (navMode, data) := data.readInt32; (.navigate navMode.toUInt32, data)
  | .cancelNavigation => (.stopNavigation, data)
  | .enableFingerprintModule =>
    let (flag, data) := data.read 1
    (.enableFingerprintModule ((flag.getD []).headD ctx.uninitialized), data)
  | .cameraCapture => (.cameraCapture, data)
  | .cancelCameraCapture => (.stopCameraCapture, data)
  | .enableFfFeature =>
    let (flag, data) := data.read 1
    (.enableFfFeature ((flag.getD []).headD ctx.uninitialized), data)
  | .testInit => let (callback, data) := data.readStrongBinder; (.testInit callback, data)
  | .testCmd =>
    let (cmdId, data) := data.readInt32
    let (paramLen, data) := data.readInt32
    let (param, data) := data.readInplace paramLen.toInt64.toUInt64
    (.testCmd cmdId.toUInt32 param paramLen.toUInt32, data)
  | .screenOn => (.screenOn, data)
  | .screenOff => (.screenOff, data)
  | .startHbd => (.startHbd, data)

theorem Code.decode_code {β : Type} (ctx : Context β) (data : Parcel β) (c : Code) :
    (c.decode ctx data).1.code = c := by
  cases c <;> rfl

namespace BnGoodixFingerprintDaemon
variable {m : Type → Type} [Monad m] {β : Type}

/-- Both checks of a branch that has them. -/
def Admits (this : IGoodixFingerprintDaemon m β) (ctx : Context β) (data : Parcel β) (c : Code) : Bool :=
  (data.checkInterface this.getInterfaceDescriptor).1 &&
    (!c.gated || checkPermission ctx halFingerprintPermission)

/-- One call of a decoded request and the reply to it. -/
def answer (this : IGoodixFingerprintDaemon m β) (decoded : Request β × Parcel β) : m (Outcome β) :=
  this.call decoded.1 >>= fun ret => replied decoded.1.code.kind ret decoded.2

/-- The branch of a code that admits the caller. -/
def served (this : IGoodixFingerprintDaemon m β) (ctx : Context β) (data : Parcel β) (c : Code) :
    m (Outcome β) :=
  answer this (c.decode ctx (data.checkInterface this.getInterfaceDescriptor).2)

theorem checked_eq (this : IGoodixFingerprintDaemon m β) (data : Parcel β)
    (branch : Parcel β → m (Outcome β)) :
    checked this data branch =
      if (data.checkInterface this.getInterfaceDescriptor).1 then
        branch (data.checkInterface this.getInterfaceDescriptor).2
      else pure ⟨permissionDenied, {}, (data.checkInterface this.getInterfaceDescriptor).2⟩ := rfl

theorem guarded_eq (this : IGoodixFingerprintDaemon m β) (ctx : Context β) (data : Parcel β)
    (branch : Parcel β → m (Outcome β)) :
    guarded this ctx data branch =
      if (data.checkInterface this.getInterfaceDescriptor).1 &&
          checkPermission ctx halFingerprintPermission then
        branch (data.checkInterface this.getInterfaceDescriptor).2
      else pure ⟨permissionDenied, {}, (data.checkInterface this.getInterfaceDescriptor).2⟩ := by
  rw [guarded, checked_eq]
  cases (data.checkInterface this.getInterfaceDescriptor).1 <;>
    cases checkPermission ctx halFingerprintPermission <;> rfl

theorem onTransact_eq (this : IGoodixFingerprintDaemon m β) (ctx : Context β) (code : UInt32)
    (data : Parcel β) (c : Code) (hc : Code.ofNumber code = some c) :
    onTransact this ctx code data =
      if Admits this ctx data c then served this ctx data c
      else pure ⟨permissionDenied, {}, (data.checkInterface this.getInterfaceDescriptor).2⟩ := by
  unfold onTransact
  rw [hc]
  cases c <;>
    simp only [guarded_eq, checked_eq, Admits, served, answer, Code.decode, Code.gated,
      Request.code, IGoodixFingerprintDaemon.call, Bool.not_true, Bool.not_false, Bool.false_or,
      Bool.true_or, Bool.and_true] <;> rfl

end BnGoodixFingerprintDaemon
end GoodixFingerprint
