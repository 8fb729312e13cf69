import GoodixFingerprint.Binder.Parcel

/-! The fingerprint HAL as the daemon uses it.

The library behind `gf_hal.h` is closed, so a `Hal` is any assignment of results to
calls. Every call returns: that the library itself may fault (on a `NULL` token, say, or
on a test command) or hang is left out. What is recorded is which function was called and on
what; devices are named by the order of their allocation, and a device pointer may be `NULL`. -/
namespace GoodixFingerprint
open Binder

/-- `GF_SUCCESS`. -/
def gfSuccess : Int32 := 0

/-- `sizeof(hw_auth_token_t)`: a packed version, challenge, user, authenticator, its type,
time stamp and code. -/
def hwAuthTokenSize : Nat := 1 + 8 + 8 + 8 + 4 + 8 + 32

/-- `PATH_MAX`. -/
def pathMax : Nat := 4096

/-- A `gf_fingerprint_device_t` by its allocation. -/
abbrev Device := Nat

/-- The functions of `gf_hal.h` that the daemon calls, with their arguments. -/
inductive HalCall where
  | init (dev : Option Device)
  | exit (dev : Option Device)
  | cancel (dev : Option Device)
  | preEnroll (dev : Option Device)
  | enroll (dev : Option Device) (hat : Ptr) (groupId timeoutSec : UInt32)
  | postEnroll (dev : Option Device)
  | authenticate (dev : Option Device) (operationId : UInt64) (groupId : UInt32)
  | getAuthId (dev : Option Device)
  | remove (dev : Option Device) (groupId fingerId : UInt32)
  | setActiveGroup (dev : Option Device) (groupId : UInt32)
  | screenOn
  | screenOff
  | testCmd (dev : Option Device) (cmdId : UInt32) (param : Ptr) (paramLen : UInt32)
  | setSafeClass (dev : Option Device) (safeClass : UInt32)
  | navigate (dev : Option Device) (navMode : UInt32)
  | enableFingerprintModule (dev : Option Device) (enableFlag : UInt8)
  | cameraCapture (dev : Option Device)
  | enableFfFeature (dev : Option Device) (enableFlag : UInt8)
  | startHbd (dev : Option Device)
  deriving DecidableEq

namespace HalCall

def isInit : HalCall → Bool
  | init _ => true
  | _ => false

def isExit : HalCall → Bool
  | exit _ => true
  | _ => false

/-- The device that a call is made on. -/
def device : HalCall → Option Device
  | init dev | exit dev | cancel dev | preEnroll dev | enroll dev .. | postEnroll dev | authenticate dev ..
  | getAuthId dev | remove dev .. | setActiveGroup dev _ | testCmd dev .. | setSafeClass dev _ | navigate dev _
  | enableFingerprintModule dev _ | cameraCapture dev | enableFfFeature dev _ | startHbd dev => dev
  | screenOn | screenOff => none

end HalCall

/-- What each call returns: a `gf_error_t`, or a 64-bit value for the two functions that
return one. -/
structure Hal where
  error : HalCall → Int32
  value : HalCall → UInt64

/-- A HAL on which every call succeeds. -/
def Hal.succeeding : Hal := ⟨fun _ => gfSuccess, fun _ => 0⟩

/-- What the daemon does to its devices, in order. -/
inductive Effect where
  /-- A call that returned an error code. -/
  | called (call : HalCall) (err : Int32)
  /-- A call that returned a 64-bit value. -/
  | queried (call : HalCall)
  | free (dev : Device)
  /-- `mDevice` is assigned, and held this before. -/
  | overwrite (old : Option Device)
  deriving DecidableEq

/-- The session calls among the effects: `gf_hal_init` and `gf_hal_exit`. -/
def Effect.isSession : Effect → Bool
  | called call _ => call.isInit || call.isExit
  | _ => false

end GoodixFingerprint
