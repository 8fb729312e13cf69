import GoodixFingerprint.Binder.Parcel

/-! `IGoodixFingerprintDaemonCallback`: the transaction codes, the methods, and a
notification as data.

As for the daemon's interface, the methods are a record over an arbitrary monad and a
`Notification` is one method with its arguments. -/
namespace GoodixFingerprint
open Binder

/-- The transaction codes, in the order of the source's enumeration. -/
inductive CallbackCode where
  | onEnrollResult | onAcquired | onAuthenticated | onError | onRemoved | onEnumerate | onTestCmd | onHbd
  deriving DecidableEq

namespace CallbackCode

def number : CallbackCode → UInt32
  | onEnrollResult => firstCallTransaction + 0
  | onAcquired => firstCallTransaction + 1
  | onAuthenticated => firstCallTransaction + 2
  | onError => firstCallTransaction + 3
  | onRemoved => firstCallTransaction + 4
  | onEnumerate => firstCallTransaction + 5
  | onTestCmd => firstCallTransaction + 6
  | onHbd => firstCallTransaction + 7

def all : List CallbackCode :=
  [onEnrollResult, onAcquired, onAuthenticated, onError, onRemoved, onEnumerate, onTestCmd, onHbd]

/-- The `switch` on a code number: its case, or the default. -/
def ofNumber (n : UInt32) : Option CallbackCode := all.find? fun c => c.number == n

theorem ofNumber_number (c : CallbackCode) : ofNumber c.number = some c := by
  cases c <;> decide

end CallbackCode

/-- The name both sides of the interface carry. -/
@[irreducible] def callbackDescriptor : String16 :=
  String16.ofString "android.hardware.fingerprint.IGoodixFingerprintDaemonCallback"

theorem callbackDescriptor_named : Parcel.Named callbackDescriptor := by
  unfold Parcel.Named callbackDescriptor
  decide

/-- The binder interface methods, over the monad that their effects live in. -/
structure IGoodixFingerprintDaemonCallback (m : Type → Type) where
  getInterfaceDescriptor : String16
  onEnrollResult : (devId : Int64) → (fpId gpId rem : Int32) → m Int32
  onAcquired : (devId : Int64) → (acquiredInfo : Int32) → m Int32
  onAuthenticated : (devId : Int64) → (fingerId groupId : Int32) → (hat : Ptr) → (hatSize : Int32) → m Int32
  onError : (devId : Int64) → (error : Int32) → m Int32
  onRemoved : (devId : Int64) → (fingerId groupId : Int32) → m Int32
  onEnumerate : (devId : Int64) → (fpIds gpIds : Memory) → (sz : Int32) → m Int32
  onTestCmd : (devId : Int64) → (cmdId : Int32) → (result : Ptr) → (resultLen : Int32) → m Int32
  onHbdData : (devId : Int64) → (heartBeatRate status : Int32) → (displayData : Ptr) → (dataLen : Int32) → m Int32

/-- One method with its arguments. -/
inductive Notification where
  | onEnrollResult (devId : Int64) (fpId gpId rem : Int32)
  | onAcquired (devId : Int64) (acquiredInfo : Int32)
  | onAuthenticated (devId : Int64) (fingerId groupId : Int32) (hat : Ptr) (hatSize : Int32)
  | onError (devId : Int64) (error : Int32)
  | onRemoved (devId : Int64) (fingerId groupId : Int32)
  | onEnumerate (devId : Int64) (fpIds gpIds : Memory) (sz : Int32)
  | onTestCmd (devId : Int64) (cmdId : Int32) (result : Ptr) (resultLen : Int32)
  | onHbdData (devId : Int64) (heartBeatRate status : Int32) (displayData : Ptr) (dataLen : Int32)
  deriving DecidableEq

def Notification.code : Notification → CallbackCode
  | onEnrollResult .. => .onEnrollResult
  | onAcquired .. => .onAcquired
  | onAuthenticated .. => .onAuthenticated
  | onError .. => .onError
  | onRemoved .. => .onRemoved
  | onEnumerate .. => .onEnumerate
  | onTestCmd .. => .onTestCmd
  | onHbdData .. => .onHbd

namespace IGoodixFingerprintDaemonCallback
variable {m : Type → Type}

/-- The method a notification names, on its arguments. -/
def call (c : IGoodixFingerprintDaemonCallback m) : Notification → m Int32
  | .onEnrollResult devId fpId gpId rem => c.onEnrollResult devId fpId gpId rem
  | .onAcquired devId acquiredInfo => c.onAcquired devId acquiredInfo
  | .onAuthenticated devId fingerId groupId hat hatSize => c.onAuthenticated devId fingerId groupId hat hatSize
  | .onError devId error => c.onError devId error
  | .onRemoved devId fingerId groupId => c.onRemoved devId fingerId groupId
  | .onEnumerate devId fpIds gpIds sz => c.onEnumerate devId fpIds gpIds sz
  | .onTestCmd devId cmdId result resultLen => c.onTestCmd devId cmdId result resultLen
  | .onHbdData devId heartBeatRate status displayData dataLen =>
    c.onHbdData devId heartBeatRate status displayData dataLen

/-- The interface whose every method is one function of the notification. -/
def ofCall (name : String16) (f : Notification → m Int32) : IGoodixFingerprintDaemonCallback m where
  getInterfaceDescriptor := name
  onEnrollResult devId fpId gpId rem := f (.onEnrollResult devId fpId gpId rem)
  onAcquired devId acquiredInfo := f (.onAcquired devId acquiredInfo)
  onAuthenticated devId fingerId groupId hat hatSize := f (.onAuthenticated devId fingerId groupId hat hatSize)
  onError devId error := f (.onError devId error)
  onRemoved devId fingerId groupId := f (.onRemoved devId fingerId groupId)
  onEnumerate devId fpIds gpIds sz := f (.onEnumerate devId fpIds gpIds sz)
  onTestCmd devId cmdId result resultLen := f (.onTestCmd devId cmdId result resultLen)
  onHbdData devId heartBeatRate status displayData dataLen :=
    f (.onHbdData devId heartBeatRate status displayData dataLen)

theorem call_ofCall (name : String16) (f : Notification → m Int32) (n : Notification) :
    (ofCall name f).call n = f n := by
  cases n <;> rfl

end IGoodixFingerprintDaemonCallback
end GoodixFingerprint
