import GoodixFingerprint.Client.World

/-! `fingerprint.cpp`: the client's calls.

Each call is written as the source has it, in the order of its effects; between the
transactions the world goes on as the interleaving says. -/
namespace GoodixFingerprint
open Binder

/-- `FINGERPRINT_ERROR`. -/
def fingerprintError : Int32 := -1
/-- `-EINVAL`. -/
def invalidArgument : Int32 := -22

namespace Client
variable (ctx : Context Nat) (i : Interleaving)

def meanwhile (incidents : List Incident) : ClientM Unit := modify fun w => w.pass incidents

/-- `g_service = service`. -/
def setService (service : Option Nat) : ClientM Unit := modify fun w => w.withService service

/-- `binder->linkToDeath(gDeathRecipient, NULL, 0)`, its status ignored. -/
def linkToDeath (binder : Nat) : ClientM Unit := modify fun w => w.link binder

/-- `new GoodixFingerprintDaemonCallbackProxy()`. -/
def newCallback : ClientM Nat := do
  let callback := (← get).callbacks
  modify fun w => w.withCallback
  pure callback

/-- `GoodixFingerprintDaemonCallbackProxy::setDevice`. -/
def setDevice (device : Option Nat) : ClientM Unit := modify fun w => w.withDevice device

/-- The way of `getService` with the binder it has found. -/
def connect (binder : Nat) : ClientM Unit := do
  setService (some binder)
  meanwhile i.beforeLink
  linkToDeath binder
  let callback ← newCallback
  setDevice (← get).gDevice
  meanwhile i.beforeInit
  (interfaceCast ctx i.hal binder).init (some callback)
  meanwhile i.beforeOpenHal
  let ret ← (interfaceCast ctx i.hal binder).openHal
  if ret.toInt32 ≠ 0 then
    setService none

def getService : ClientM (Option Nat) := do
  if (← get).gService = none then
    if let some binder := i.found then
      connect ctx i binder
  return (← get).gService

/-- `GoodixBinderDiednotify::binderDied`. -/
def binderDied : ClientM Unit := do
  setService none
  let _ ← getService ctx i

def fingerprintClose (dev : Option Nat) : ClientM Int32 := do
  if let some dev := dev then
    match ← getService ctx i with
    | none => return fingerprintError
    | some service =>
      meanwhile i.beforeCall
      let _ ← (interfaceCast ctx i.hal service).closeHal
      modify fun w => w.withHeap dev none
      setService none
      return 0
  else return fingerprintError

/-- The shape of the device operations: a method of the service, or an error without one. -/
def operation {α : Type} (error : α) (method : IGoodixFingerprintDaemon ClientM Nat → ClientM α) : ClientM α := do
  match ← getService ctx i with
  | none => return error
  | some service =>
    meanwhile i.beforeCall
    method (interfaceCast ctx i.hal service)

def fingerprintPreEnroll : ClientM UInt64 :=
  operation ctx i fingerprintError.toInt64.toUInt64 fun service => service.preEnroll

def fingerprintEnroll (hat : Ptr) (gid timeoutSec : UInt32) : ClientM Int32 :=
  operation ctx i fingerprintError fun service =>
    service.enroll hat (Int64.ofNat hwAuthTokenSize) gid.toInt32 timeoutSec.toInt32

def fingerprintPostEnroll : ClientM Int32 :=
  operation ctx i fingerprintError fun service => service.postEnroll

def fingerprintGetAuthId : ClientM UInt64 :=
  operation ctx i fingerprintError.toInt64.toUInt64 fun service => service.getAuthenticatorId

def fingerprintCancel : ClientM Int32 :=
  operation ctx i fingerprintError fun service => service.stopEnrollment

def fingerprintRemove (gid fid : UInt32) : ClientM Int32 :=
  operation ctx i fingerprintError fun service => service.remove fid.toInt32 gid.toInt32

/-- The path is copied to a zeroed buffer of `PATH_MAX` bytes before the service is looked for. -/
def fingerprintSetActiveGroup (gid : UInt32) (storePath : List UInt8) : ClientM Int32 := do
  let pathLen := UInt32.ofNat storePath.length
  let copied ← memcpy pathMax (some storePath) pathLen.toNat
  let pathName := copied ++ List.replicate (pathMax - pathLen.toNat) 0
  operation ctx i fingerprintError fun service =>
    service.setActiveGroup gid.toInt32 (some pathName) pathLen.toUInt64.toInt64

def fingerprintAuthenticate (operationId : UInt64) (gid : UInt32) : ClientM Int32 :=
  operation ctx i fingerprintError fun service => service.authenticate operationId gid

def setNotifyCallback (dev : Nat) (notify : Option Nat) : ClientM Int32 := do
  modify fun w => w.withHeap dev (some ⟨notify⟩)
  return 0

/-- Returns the status and what `*device` is set to, if there is a place for it. -/
def fingerprintOpen (device : Bool) : ClientM (Int32 × Option Nat) := do
  if !device then return (invalidArgument, none)
  let dev := (← get).opened
  modify fun w => w.allocate
  match ← getService ctx i with
  | none => return (invalidArgument, some dev)
  | some _ => return (0, some dev)

end Client
end GoodixFingerprint
