import GoodixFingerprint.Interface.Daemon

/-! `BpGoodixFingerprintDaemon`: the caller's side of the interface.

Every method writes the interface token and its arguments, transacts, and reads
the reply. The status of the transaction and the exception code are both read and
dropped. What the transaction does is a parameter, in any monad; what the method adds
to it is the fault of a buffer that is shorter than it is said to be. -/
namespace GoodixFingerprint
open Binder

/-- `IBinder::transact`: a code and a parcel out, a status and a reply parcel back. -/
abbrev Transact (m : Type → Type) (β : Type) := UInt32 → Parcel β → m (Int32 × Parcel β)

/-- The value a method reads from its reply, by its kind. -/
def Code.Kind.read {β : Type} : (k : Code.Kind) → Parcel β → k.Result
  | unit, reply => let (_, _) := reply.readExceptionCode; ()
  | int32, reply => let (_, reply) := reply.readExceptionCode; reply.readInt32.1
  | uint64, reply => let (_, reply) := reply.readExceptionCode; reply.readInt64.1.toUInt64
  | int64, reply => let (_, reply) := reply.readExceptionCode; reply.readInt64.1

theorem Code.Kind.read_empty {β : Type} (k : Code.Kind) : k.read ({} : Parcel β) = k.zero := by
  cases k <;> rfl

namespace BpGoodixFingerprintDaemon
variable {m : Type → Type} [Monad m] {β : Type} (remote : Transact m β)

/-- The shape every method shares. -/
def call (code : Code) (write : Parcel β → Except Fault (Parcel β)) : ExceptT Fault m code.kind.Result := do
  let data ← write (({} : Parcel β).writeInterfaceToken descriptor)
  let (_, reply) ← remote code.number data
  pure (code.kind.read reply)

def init (callback : Option β) : ExceptT Fault m Unit :=
  call remote .init fun data => .ok (data.writeStrongBinder callback)

def enroll (token : Ptr) (tokenLength : Int64) (groupId timeout : Int32) : ExceptT Fault m Int32 :=
  call remote .enroll fun data => do
    let data ← (data.writeInt32 tokenLength.toInt32).write token tokenLength.toUInt64
    .ok ((data.writeInt32 groupId).writeInt32 timeout)

def preEnroll : ExceptT Fault m UInt64 := call remote .preEnroll .ok

def postEnroll : ExceptT Fault m Int32 := call remote .postEnroll .ok

def stopEnrollment : ExceptT Fault m Int32 := call remote .cancelEnrollment .ok

def authenticate (sessionId : UInt64) (groupId : UInt32) : ExceptT Fault m Int32 :=
  call remote .authenticate fun data =>
    .ok ((data.writeInt64 sessionId.toInt64).writeInt32 groupId.toInt32)

def stopAuthentication : ExceptT Fault m Int32 := call remote .cancelAuthentication .ok

def remove (fingerId groupId : Int32) : ExceptT Fault m Int32 :=
  call remote .remove fun data => .ok ((data.writeInt32 fingerId).writeInt32 groupId)

def getAuthenticatorId : ExceptT Fault m UInt64 := call remote .getAuthenticatorId .ok

def setActiveGroup (groupId : Int32) (path : Ptr) (pathLen : Int64) : ExceptT Fault m Int32 :=
  call remote .setActiveGroup fun data =>
    ((data.writeInt32 groupId).writeInt32 pathLen.toInt32).write path pathLen.toUInt64

def setSafeClass (safeClass : UInt32) : ExceptT Fault m Int32 :=
  call remote .setSafeClass fun data => .ok (data.writeInt32 safeClass.toInt32)

def navigate (navMode : UInt32) : ExceptT Fault m Int32 :=
  call remote .navigate fun data => .ok (data.writeInt32 navMode.toInt32)

def stopNavigation : ExceptT Fault m Int32 := call remote .cancelNavigation .ok

def enableFingerprintModule (enableFlag : UInt8) : ExceptT Fault m Int32 :=
  call remote .enableFingerprintModule fun data => data.write (some [enableFlag]) 1

def cameraCapture : ExceptT Fault m Int32 := call remote .cameraCapture .ok

def stopCameraCapture : ExceptT Fault m Int32 := call remote .cancelCameraCapture .ok

def enableFfFeature (enableFlag : UInt8) : ExceptT Fault m Int32 :=
  call remote .enableFfFeature fun data => data.write (some [enableFlag]) 1

def testInit (callback : Option β) : ExceptT Fault m Unit :=
  call remote .testInit fun data => .ok (data.writeStrongBinder callback)

def testCmd (cmdId : UInt32) (param : Ptr) (paramLen : UInt32) : ExceptT Fault m Int32 :=
  call remote .testCmd fun data =>
    ((data.writeInt32 cmdId.toInt32).writeInt32 paramLen.toInt32).write param paramLen.toUInt64

def screenOn : ExceptT Fault m Int32 := call remote .screenOn .ok

def screenOff : ExceptT Fault m Int32 := call remote .screenOff .ok

def startHbd : ExceptT Fault m Int32 := call remote .startHbd .ok

def openHal : ExceptT Fault m Int64 := call remote .openHal .ok

def closeHal : ExceptT Fault m Int32 := call remote .closeHal .ok

end BpGoodixFingerprintDaemon

/-- The proxy as an implementation of the interface. -/
def bpGoodixFingerprintDaemon {m : Type → Type} [Monad m] {β : Type} (remote : Transact m β) :
    IGoodixFingerprintDaemon (ExceptT Fault m) β where
  getInterfaceDescriptor := descriptor
  init := BpGoodixFingerprintDaemon.init remote
  enroll := BpGoodixFingerprintDaemon.enroll remote
  preEnroll := BpGoodixFingerprintDaemon.preEnroll remote
  postEnroll := BpGoodixFingerprintDaemon.postEnroll remote
  stopEnrollment := BpGoodixFingerprintDaemon.stopEnrollment remote
  authenticate := BpGoodixFingerprintDaemon.authenticate remote
  stopAuthentication := BpGoodixFingerprintDaemon.stopAuthentication remote
  remove := BpGoodixFingerprintDaemon.remove remote
  getAuthenticatorId := BpGoodixFingerprintDaemon.getAuthenticatorId remote
  setActiveGroup := BpGoodixFingerprintDaemon.setActiveGroup remote
  setSafeClass := BpGoodixFingerprintDaemon.setSafeClass remote
  navigate := BpGoodixFingerprintDaemon.navigate remote
  stopNavigation := BpGoodixFingerprintDaemon.stopNavigation remote
  enableFingerprintModule := BpGoodixFingerprintDaemon.enableFingerprintModule remote
  cameraCapture := BpGoodixFingerprintDaemon.cameraCapture remote
  stopCameraCapture := BpGoodixFingerprintDaemon.stopCameraCapture remote
  enableFfFeature := BpGoodixFingerprintDaemon.enableFfFeature remote
  testInit := BpGoodixFingerprintDaemon.testInit remote
  testCmd := BpGoodixFingerprintDaemon.testCmd remote
  screenOn := BpGoodixFingerprintDaemon.screenOn remote
  screenOff := BpGoodixFingerprintDaemon.screenOff remote
  startHbd := BpGoodixFingerprintDaemon.startHbd remote
  openHal := BpGoodixFingerprintDaemon.openHal remote
  closeHal := BpGoodixFingerprintDaemon.closeHal remote

/-! ### One transaction for each call -/

/-- What is handed to a `transact` that throws its arguments. -/
def thrown {α β : Type} : Except (UInt32 × Parcel β) (Except Fault α) → Except Fault (UInt32 × Parcel β)
  | .error w => .ok w
  | .ok (.error fault) => .error fault
  | .ok (.ok _) => .ok (0, {})

/-- The code and the parcel that the proxy hands to `transact` for a request, or the fault
over a buffer of its. -/
def Request.written {β : Type} (r : Request β) : Except Fault (UInt32 × Parcel β) :=
  thrown ((bpGoodixFingerprintDaemon (m := Except (UInt32 × Parcel β)) fun code data => .error (code, data)).call r)

/-- A method by what it writes. -/
theorem thrown_call {β : Type} (code : Code) (write : Parcel β → Except Fault (Parcel β)) :
    thrown (BpGoodixFingerprintDaemon.call (m := Except (UInt32 × Parcel β)) (fun code data => .error (code, data))
      code write) = (write (({} : Parcel β).writeInterfaceToken descriptor)).map fun data => (code.number, data) := by
  unfold BpGoodixFingerprintDaemon.call
  cases write (({} : Parcel β).writeInterfaceToken descriptor) <;> rfl

section Transaction
variable {m : Type → Type} [Monad m] [LawfulMonad m] {β : Type} (remote : Transact m β)

theorem bp_call_eq (code : Code) (write : Parcel β → Except Fault (Parcel β)) :
    BpGoodixFingerprintDaemon.call remote code write = (do
      let w ← thrown (BpGoodixFingerprintDaemon.call (m := Except (UInt32 × Parcel β))
        (fun code data => .error (code, data)) code write)
      let (_, reply) ← remote w.1 w.2
      pure (code.kind.read reply)) := by
  rw [thrown_call, BpGoodixFingerprintDaemon.call]
  cases write (({} : Parcel β).writeInterfaceToken descriptor) with
  | error fault => rw [Except.map, lift_error_bind, lift_error_bind]
  | ok data => rw [Except.map, lift_ok_bind, lift_ok_bind]

/-- The proxy transacts once, with what `written` says, and returns what it reads from the
reply, whatever the status; or it faults before. -/
theorem bp_call (r : Request β) :
    (bpGoodixFingerprintDaemon remote).call r = (do
      let w ← r.written
      let (_, reply) ← remote w.1 w.2
      pure (r.code.kind.read reply)) := by
  have hcall := bp_call_eq remote r.code
  cases r <;>
    dsimp only [Request.written, IGoodixFingerprintDaemon.call, bpGoodixFingerprintDaemon] <;>
    exact hcall _

theorem bp_call_ok (r : Request β) (code : UInt32) (data : Parcel β) (h : r.written = .ok (code, data)) :
    (bpGoodixFingerprintDaemon remote).call r =
      ExceptT.lift (remote code data >>= fun (_, reply) => pure (r.code.kind.read reply)) := by
  rw [bp_call, h, lift_ok_bind]
  apply ExceptT.ext
  simp [Except.map]

theorem bp_call_error (r : Request β) (fault : Fault) (h : r.written = .error fault) :
    (bpGoodixFingerprintDaemon remote).call r = throw fault := by
  rw [bp_call, h, lift_error_bind]

end Transaction
end GoodixFingerprint
