import GoodixFingerprint.Binder.DeathLinks
import GoodixFingerprint.Daemon.Hal
import GoodixFingerprint.Interface.Daemon

/-! `GoodixFingerprintDaemonProxy`: the daemon's methods.

A method is a function of the daemon's state that may fault, as dereferencing `NULL`
does; a fault is the death of the process. Beside its three members the state holds
the death links that libbinder keeps for it and what it has done to its devices. -/
namespace GoodixFingerprint
open Binder

/-- The daemon: `β` names the callback binders. -/
structure GoodixFingerprintDaemonProxy (β : Type) where
  mDevice : Option Device := none
  mCallback : Option β := none
  mTestCallback : Option β := none
  /-- What libbinder keeps for this death recipient. -/
  links : DeathLinks β := {}
  /-- Devices allocated so far; the next one's name. -/
  allocated : Device := 0
  effects : List Effect := []

abbrev DaemonM (β : Type) := StateT (GoodixFingerprintDaemonProxy β) (Except Fault)

namespace GoodixFingerprintDaemonProxy
variable {β : Type}

def record (s : GoodixFingerprintDaemonProxy β) (e : Effect) : GoodixFingerprintDaemonProxy β :=
  {s with effects := s.effects ++ [e]}

/-- `mDevice = dev`. -/
def assign (s : GoodixFingerprintDaemonProxy β) (dev : Option Device) : GoodixFingerprintDaemonProxy β :=
  {s.record (.overwrite s.mDevice) with mDevice := dev}

section Methods
variable [DecidableEq β] (hal : Hal)

/-- A HAL function on the daemon's device, its error code returned. -/
def forward (call : Option Device → HalCall) : DaemonM β Int32 := fun s =>
  .ok (hal.error (call s.mDevice), s.record (.called (call s.mDevice) (hal.error (call s.mDevice))))

/-- A HAL function that returns a 64-bit value. -/
def query (call : Option Device → HalCall) : DaemonM β UInt64 := fun s =>
  .ok (hal.value (call s.mDevice), s.record (.queried (call s.mDevice)))

/-- The links after a slot is given another binder: one to the new binder, and the old
binder's gone if it differs. -/
def relink (slot callback : Option β) (links : DeathLinks β) : Except Fault (DeathLinks β) :=
  let links := match slot with
    | some old => if callback ≠ some old then links.unlinkToDeath old else links
    | none => links
  match callback with
  | none => .error .nullPointer
  | some b => .ok (links.linkToDeath b)

def init (callback : Option β) : DaemonM β Unit := fun s => do
  let links ← relink s.mCallback callback s.links
  .ok ((), {s with links := links, mCallback := callback})

def enroll (token : Ptr) (tokenSize : Int64) (groupId timeout : Int32) : DaemonM β Int32 :=
  if tokenSize.toUInt64 ≠ UInt64.ofNat hwAuthTokenSize then pure (-1)
  else forward hal fun dev => .enroll dev token groupId.toUInt32 timeout.toUInt32

def preEnroll : DaemonM β UInt64 := query hal .preEnroll

def postEnroll : DaemonM β Int32 := forward hal .postEnroll

def stopEnrollment : DaemonM β Int32 := forward hal .cancel

def authenticate (sessionId : UInt64) (groupId : UInt32) : DaemonM β Int32 :=
  forward hal fun dev => .authenticate dev sessionId groupId

def stopAuthentication : DaemonM β Int32 := forward hal .cancel

def remove (fingerId groupId : Int32) : DaemonM β Int32 :=
  forward hal fun dev => .remove dev groupId.toUInt32 fingerId.toUInt32

def getAuthenticatorId : DaemonM β UInt64 := query hal .getAuthId

/-- The path is copied to a local buffer and terminated there; nothing but a log line reads it. -/
def setActiveGroup (groupId : Int32) (path : Ptr) (pathLen : Int64) : DaemonM β Int32 :=
  if (pathMax : Int) ≤ pathLen.toInt ∨ pathLen.toInt ≤ 0 then pure (-1)
  else fun s => do
    let pathName ← Memory.copied pathMax path pathLen.toInt.toNat
    let _ ← pathName.store pathLen.toInt.toNat 0
    forward hal (fun dev => .setActiveGroup dev groupId.toUInt32) s

def setSafeClass (safeClass : UInt32) : DaemonM β Int32 :=
  forward hal fun dev => .setSafeClass dev safeClass

def navigate (navMode : UInt32) : DaemonM β Int32 := forward hal fun dev => .navigate dev navMode

def stopNavigation : DaemonM β Int32 := forward hal .cancel

def enableFingerprintModule (enableFlag : UInt8) : DaemonM β Int32 :=
  forward hal fun dev => .enableFingerprintModule dev enableFlag

def cameraCapture : DaemonM β Int32 := forward hal .cameraCapture

def stopCameraCapture : DaemonM β Int32 := forward hal .cancel

def enableFfFeature (enableFlag : UInt8) : DaemonM β Int32 :=
  forward hal fun dev => .enableFfFeature dev enableFlag

def testInit (callback : Option β) : DaemonM β Unit := fun s => do
  let links ← relink s.mTestCallback callback s.links
  .ok ((), {s with links := links, mTestCallback := callback})

def testCmd (cmdId : UInt32) (param : Ptr) (paramLen : UInt32) : DaemonM β Int32 :=
  forward hal fun dev => .testCmd dev cmdId param paramLen

def screenOn : DaemonM β Int32 := forward hal fun _ => .screenOn

def screenOff : DaemonM β Int32 := forward hal fun _ => .screenOff

def startHbd : DaemonM β Int32 := forward hal .startHbd

/-- `-EINVAL`. -/
def einval : Int64 := -22

/-- `openHal` as a function of the state: `mDevice` is the new device whatever
`gf_hal_init` makes of it. -/
def opened (s : GoodixFingerprintDaemonProxy β) : GoodixFingerprintDaemonProxy β :=
  (({s with allocated := s.allocated + 1}.assign (some s.allocated)).record
    (.called (.init (some s.allocated)) (hal.error (.init (some s.allocated)))))

def openHal : DaemonM β Int64 := fun s =>
  .ok (if hal.error (.init (some s.allocated)) ≠ gfSuccess then einval else 0, s.opened hal)

/-- `closeHal` as a function of the state: `gf_hal_exit` is called on whatever `mDevice` is. -/
def closed (s : GoodixFingerprintDaemonProxy β) : GoodixFingerprintDaemonProxy β :=
  let s := s.record (.called (.exit s.mDevice) (hal.error (.exit s.mDevice)))
  match s.mDevice with
  | some dev => (s.record (.free dev)).assign none
  | none => s

def closeHal : DaemonM β Int32 := fun s => .ok (0, s.closed hal)

/-- The death of a binder that the daemon has linked to. -/
def binderDied (who : β) (s : GoodixFingerprintDaemonProxy β) : GoodixFingerprintDaemonProxy β :=
  if s.mTestCallback = some who then {s with mTestCallback := none}
  else
    let s := s.closed hal
    if s.mCallback = some who then {s with mCallback := none} else s

end Methods
end GoodixFingerprintDaemonProxy

/-- The daemon as an implementation of the interface. -/
def goodixFingerprintDaemonProxy {β : Type} [DecidableEq β] (hal : Hal) :
    IGoodixFingerprintDaemon (DaemonM β) β where
  getInterfaceDescriptor := descriptor
  init := GoodixFingerprintDaemonProxy.init
  enroll := GoodixFingerprintDaemonProxy.enroll hal
  preEnroll := GoodixFingerprintDaemonProxy.preEnroll hal
  postEnroll := GoodixFingerprintDaemonProxy.postEnroll hal
  stopEnrollment := GoodixFingerprintDaemonProxy.stopEnrollment hal
  authenticate := GoodixFingerprintDaemonProxy.authenticate hal
  stopAuthentication := GoodixFingerprintDaemonProxy.stopAuthentication hal
  remove := GoodixFingerprintDaemonProxy.remove hal
  getAuthenticatorId := GoodixFingerprintDaemonProxy.getAuthenticatorId hal
  setActiveGroup := GoodixFingerprintDaemonProxy.setActiveGroup hal
  setSafeClass := GoodixFingerprintDaemonProxy.setSafeClass hal
  navigate := GoodixFingerprintDaemonProxy.navigate hal
  stopNavigation := GoodixFingerprintDaemonProxy.stopNavigation hal
  enableFingerprintModule := GoodixFingerprintDaemonProxy.enableFingerprintModule hal
  cameraCapture := GoodixFingerprintDaemonProxy.cameraCapture hal
  stopCameraCapture := GoodixFingerprintDaemonProxy.stopCameraCapture hal
  enableFfFeature := GoodixFingerprintDaemonProxy.enableFfFeature hal
  testInit := GoodixFingerprintDaemonProxy.testInit
  testCmd := GoodixFingerprintDaemonProxy.testCmd hal
  screenOn := GoodixFingerprintDaemonProxy.screenOn hal
  screenOff := GoodixFingerprintDaemonProxy.screenOff hal
  startHbd := GoodixFingerprintDaemonProxy.startHbd hal
  openHal := GoodixFingerprintDaemonProxy.openHal hal
  closeHal := GoodixFingerprintDaemonProxy.closeHal hal

end GoodixFingerprint
