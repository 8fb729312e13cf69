import GoodixFingerprint.Binder.Parcel

/-! `IGoodixFingerprintDaemon`: the transaction codes, the methods, and a request as data.

The interface is a record of methods over an arbitrary monad, so that the proxy,
the stub's target and the daemon itself are all values of one type. A `Request` is
one method with its arguments; `call` invokes it, and `ofCall` is the interface
that treats every request alike. -/
namespace GoodixFingerprint
open Binder

/-- The transaction codes, in the order of the source's enumeration. -/
inductive Code where
  | authenticate | cancelAuthentication | enroll | cancelEnrollment | preEnroll | remove
  | getAuthenticatorId | setActiveGroup | openHal | closeHal | init | postEnroll | setSafeClass
  | navigate | cancelNavigation | enableFingerprintModule | cameraCapture | cancelCameraCapture
  | enableFfFeature | testInit | testCmd | screenOn | screenOff | startHbd
  deriving DecidableEq

namespace Code

def number : Code → UInt32
  | authenticate => firstCallTransaction + 0
  | cancelAuthentication => firstCallTransaction + 1
  | enroll => firstCallTransaction + 2
  | cancelEnrollment => firstCallTransaction + 3
  | preEnroll => firstCallTransaction + 4
  | remove => firstCallTransaction + 5
  | getAuthenticatorId => firstCallTransaction + 6
  | setActiveGroup => firstCallTransaction + 7
  | openHal => firstCallTransaction + 8
  | closeHal => firstCallTransaction + 9
  | init => firstCallTransaction + 10
  | postEnroll => firstCallTransaction + 11
  | setSafeClass => firstCallTransaction + 12
  | navigate => firstCallTransaction + 13
  | cancelNavigation => firstCallTransaction + 14
  | enableFingerprintModule => firstCallTransaction + 15
  | cameraCapture => firstCallTransaction + 16
  | cancelCameraCapture => firstCallTransaction + 17
  | enableFfFeature => firstCallTransaction + 18
  | testInit => firstCallTransaction + 19
  | testCmd => firstCallTransaction + 20
  | screenOn => firstCallTransaction + 21
  | screenOff => firstCallTransaction + 22
  | startHbd => firstCallTransaction + 23

def all : List Code :=
  [authenticate, cancelAuthentication, enroll, cancelEnrollment, preEnroll, remove,
    getAuthenticatorId, setActiveGroup, openHal, closeHal, init, postEnroll, setSafeClass,
    navigate, cancelNavigation, enableFingerprintModule, cameraCapture, cancelCameraCapture,
    enableFfFeature, testInit, testCmd, screenOn, screenOff, startHbd]

/-- The `switch` on a code number: its case, or the default. -/
def ofNumber (n : UInt32) : Option Code := all.find? fun c => c.number == n

theorem ofNumber_number (c : Code) : ofNumber c.number = some c := by
  cases c <;> decide

/-- What a method returns. -/
inductive Kind where
  | unit | int32 | uint64 | int64
  deriving DecidableEq

def kind : Code → Kind
  | init | testInit => .unit
  | preEnroll | getAuthenticatorId => .uint64
  | openHal => .int64
  | _ => .int32

end Code

namespace Code.Kind

abbrev Result : Kind → Type
  | unit => Unit
  | int32 => Int32
  | uint64 => UInt64
  | int64 => Int64

def isZero : (k : Kind) → k.Result → Bool
  | unit, _ => true
  | int32, v => v == 0
  | uint64, v => v == 0
  | int64, v => v == 0

/-- What a caller reads from an empty reply. -/
def zero : (k : Kind) → k.Result
  | unit => ()
  | int32 => 0
  | uint64 => 0
  | int64 => 0

theorem isZero_zero (k : Kind) : k.isZero k.zero = true := by
  cases k <;> rfl

end Code.Kind

/-- The name both sides of the interface carry. -/
@[irreducible] def descriptor : String16 := String16.ofString "android.hardware.fingerprint.IGoodixFingerprintDaemon"

theorem descriptor_named : Parcel.Named descriptor := by
  unfold Parcel.Named descriptor
  decide

/-- The binder interface methods, over the monad that their effects live in. -/
structure IGoodixFingerprintDaemon (m : Type → Type) (β : Type) where
  getInterfaceDescriptor : String16
  init : (callback : Option β) → m Unit
  enroll : (token : Ptr) → (tokenLength : Int64) → (groupId timeout : Int32) → m Int32
  preEnroll : m UInt64
  postEnroll : m Int32
  stopEnrollment : m Int32
  authenticate : (sessionId : UInt64) → (groupId : UInt32) → m Int32
  stopAuthentication : m Int32
  remove : (fingerId groupId : Int32) → m Int32
  getAuthenticatorId : m UInt64
  setActiveGroup : (groupId : Int32) → (path : Ptr) → (pathLen : Int64) → m Int32
  setSafeClass : (safeClass : UInt32) → m Int32
  navigate : (navMode : UInt32) → m Int32
  stopNavigation : m Int32
  enableFingerprintModule : (enableFlag : UInt8) → m Int32
  cameraCapture : m Int32
  stopCameraCapture : m Int32
  enableFfFeature : (enableFlag : UInt8) → m Int32
  testInit : (callback : Option β) → m Unit
  testCmd : (cmdId : UInt32) → (param : Ptr) → (paramLen : UInt32) → m Int32
  screenOn : m Int32
  screenOff : m Int32
  startHbd : m Int32
  openHal : m Int64
  closeHal : m Int32

/-- One method with its arguments. -/
inductive Request (β : Type) where
  | init (callback : Option β)
  | enroll (token : Ptr) (tokenLength : Int64) (groupId timeout : Int32)
  | preEnroll
  | postEnroll
  | stopEnrollment
  | authenticate (sessionId : UInt64) (groupId : UInt32)
  | stopAuthentication
  | remove (fingerId groupId : Int32)
  | getAuthenticatorId
  | setActiveGroup (groupId : Int32) (path : Ptr) (pathLen : Int64)
  | setSafeClass (safeClass : UInt32)
  | navigate (navMode : UInt32)
  | stopNavigation
  | enableFingerprintModule (enableFlag : UInt8)
  | cameraCapture
  | stopCameraCapture
  | enableFfFeature (enableFlag : UInt8)
  | testInit (callback : Option β)
  | testCmd (cmdId : UInt32) (param : Ptr) (paramLen : UInt32)
  | screenOn
  | screenOff
  | startHbd
  | openHal
  | closeHal
  deriving DecidableEq

namespace Request
variable {β : Type}

def code : Request β → Code
  | init .. => .init
  | enroll .. => .enroll
  | preEnroll => .preEnroll
  | postEnroll => .postEnroll
  | stopEnrollment => .cancelEnrollment
  | authenticate .. => .authenticate
  | stopAuthentication => .cancelAuthentication
  | remove .. => .remove
  | getAuthenticatorId => .getAuthenticatorId
  | setActiveGroup .. => .setActiveGroup
  | setSafeClass .. => .setSafeClass
  | navigate .. => .navigate
  | stopNavigation => .cancelNavigation
  | enableFingerprintModule .. => .enableFingerprintModule
  | cameraCapture => .cameraCapture
  | stopCameraCapture => .cancelCameraCapture
  | enableFfFeature .. => .enableFfFeature
  | testInit .. => .testInit
  | testCmd .. => .testCmd
  | screenOn => .screenOn
  | screenOff => .screenOff
  | startHbd => .startHbd
  | openHal => .openHal
  | closeHal => .closeHal

abbrev Result (r : Request β) : Type := r.code.kind.Result

end Request

namespace IGoodixFingerprintDaemon
variable {m : Type → Type} {β : Type}

/-- The method a request names, on its arguments. -/
def call (d : IGoodixFingerprintDaemon m β) : (r : Request β) → m r.Result
  | .init callback => d.init callback
  | .enroll token tokenLength groupId timeout => d.enroll token tokenLength groupId timeout
  | .preEnroll => d.preEnroll
  | .postEnroll => d.postEnroll
  | .stopEnrollment => d.stopEnrollment
  | .authenticate sessionId groupId => d.authenticate sessionId groupId
  | .stopAuthentication => d.stopAuthentication
  | .remove fingerId groupId => d.remove fingerId groupId
  | .getAuthenticatorId => d.getAuthenticatorId
  | .setActiveGroup groupId path pathLen => d.setActiveGroup groupId path pathLen
  | .setSafeClass safeClass => d.setSafeClass safeClass
  | .navigate navMode => d.navigate navMode
  | .stopNavigation => d.stopNavigation
  | .enableFingerprintModule enableFlag => d.enableFingerprintModule enableFlag
  | .cameraCapture => d.cameraCapture
  | .stopCameraCapture => d.stopCameraCapture
  | .enableFfFeature enableFlag => d.enableFfFeature enableFlag
  | .testInit callback => d.testInit callback
  | .testCmd cmdId param paramLen => d.testCmd cmdId param paramLen
  | .screenOn => d.screenOn
  | .screenOff => d.screenOff
  | .startHbd => d.startHbd
  | .openHal => d.openHal
  | .closeHal => d.closeHal

/-- The interface whose every method is one function of the request. -/
def ofCall (name : String16) (f : (r : Request β) → m r.Result) : IGoodixFingerprintDaemon m β where
  getInterfaceDescriptor := name
  init callback := f (.init callback)
  enroll token tokenLength groupId timeout := f (.enroll token tokenLength groupId timeout)
  preEnroll := f .preEnroll
  postEnroll := f .postEnroll
  stopEnrollment := f .stopEnrollment
  authenticate sessionId groupId := f (.authenticate sessionId groupId)
  stopAuthentication := f .stopAuthentication
  remove fingerId groupId := f (.remove fingerId groupId)
  getAuthenticatorId := f .getAuthenticatorId
  setActiveGroup groupId path pathLen := f (.setActiveGroup groupId path pathLen)
  setSafeClass safeClass := f (.setSafeClass safeClass)
  navigate navMode := f (.navigate navMode)
  stopNavigation := f .stopNavigation
  enableFingerprintModule enableFlag := f (.enableFingerprintModule enableFlag)
  cameraCapture := f .cameraCapture
  stopCameraCapture := f .stopCameraCapture
  enableFfFeature enableFlag := f (.enableFfFeature enableFlag)
  testInit callback := f (.testInit callback)
  testCmd cmdId param paramLen := f (.testCmd cmdId param paramLen)
  screenOn := f .screenOn
  screenOff := f .screenOff
  startHbd := f .startHbd
  openHal := f .openHal
  closeHal := f .closeHal

theorem call_ofCall (name : String16) (f : (r : Request β) → m r.Result) (r : Request β) :
    (ofCall name f).call r = f r := by
  cases r <;> rfl

end IGoodixFingerprintDaemon
end GoodixFingerprint
