import GoodixFingerprint.Callback.Stub
import GoodixFingerprint.Client.World

/-! `GoodixFingerprintDaemonCallbackProxy`: the client's end of the callback interface.

Five handlers make a message of their arguments and call `notify` of the device they have
been given, whatever has become of that device; without a device the message is dropped.
The other three only write to the log, two of them the first elements of what they are
brought. Every handler uses its memory first and its device, if at all, last: `call_eq`. -/
namespace GoodixFingerprint
open Binder

namespace Client

/-- `mDevice->notify(&message)`, if there is a device. -/
def dispatch (message : FingerprintMsg) : ClientM Unit := fun w =>
  match w.mDevice with
  | none => (.ok (), w)
  | some dev =>
    match w.heap dev with
    | none => (.error .dangling, w)
    | some device =>
      match device.notify with
      | none => (.error .nullFunction, w)
      | some notify => (.ok (), w.deliver notify message)

/-- A handler once it has its message. -/
def passOn (message : FingerprintMsg) : ClientM Int32 := do
  dispatch message
  return 0

def onEnrollResult (_devId : Int64) (fpId gpId rem : Int32) : ClientM Int32 :=
  passOn (.templateEnrolling fpId.toUInt32 gpId.toUInt32 rem.toUInt32)

def onAcquired (_devId : Int64) (acquiredInfo : Int32) : ClientM Int32 := passOn (.acquired acquiredInfo)

/-- The token is copied to the message whether there is a device or not. -/
def onAuthenticated (_devId : Int64) (fingerId groupId : Int32) (hat : Ptr) (hatSize : Int32) : ClientM Int32 := do
  let copied ← memcpy hwAuthTokenSize hat hatSize.toInt64.toUInt64.toNat
  passOn (.authenticated fingerId.toUInt32 groupId.toUInt32 copied)

def onError (_devId : Int64) (error : Int32) : ClientM Int32 := passOn (.error error)

def onRemoved (_devId : Int64) (fingerId groupId : Int32) : ClientM Int32 :=
  passOn (.templateRemoved fingerId.toUInt32 groupId.toUInt32)

/-- The first elements of both arrays are logged. -/
def onEnumerate (_devId : Int64) (fpIds gpIds : Memory) (_sz : Int32) : ClientM Int32 := do
  let _ ← fpIds.fetch 4
  let _ ← gpIds.fetch 4
  return 0

/-- The first byte of the result is logged. -/
def onTestCmd (_devId : Int64) (_cmdId : Int32) (result : Ptr) (_resultLen : Int32) : ClientM Int32 := do
  let _ ← (Memory.ofPtr result).fetch 1
  return 0

/-- Of the data only the address is logged. -/
def onHbdData (_devId : Int64) (_heartBeatRate _status : Int32) (_displayData : Ptr) (_dataLen : Int32) :
    ClientM Int32 := return 0

end Client

def goodixFingerprintDaemonCallbackProxy : IGoodixFingerprintDaemonCallback ClientM where
  getInterfaceDescriptor := callbackDescriptor
  onEnrollResult := Client.onEnrollResult
  onAcquired := Client.onAcquired
  onAuthenticated := Client.onAuthenticated
  onError := Client.onError
  onRemoved := Client.onRemoved
  onEnumerate := Client.onEnumerate
  onTestCmd := Client.onTestCmd
  onHbdData := Client.onHbdData

namespace Notification

/-- The message that the handler makes for the device. -/
def message : Notification → Except Fault (Option FingerprintMsg)
  | .onEnrollResult _ fpId gpId rem => .ok (some (.templateEnrolling fpId.toUInt32 gpId.toUInt32 rem.toUInt32))
  | .onAcquired _ acquiredInfo => .ok (some (.acquired acquiredInfo))
  | .onAuthenticated _ fingerId groupId hat hatSize => do
    let copied ← memcpy hwAuthTokenSize hat hatSize.toInt64.toUInt64.toNat
    .ok (some (.authenticated fingerId.toUInt32 groupId.toUInt32 copied))
  | .onError _ error => .ok (some (.error error))
  | .onRemoved _ fingerId groupId => .ok (some (.templateRemoved fingerId.toUInt32 groupId.toUInt32))
  | .onEnumerate .. | .onTestCmd .. | .onHbdData .. => .ok none

/-- The array elements that the handler logs. -/
def elements : Notification → Except Fault (List (Option UInt8))
  | .onEnumerate _ fpIds gpIds _ => do
    let fpId ← fpIds.fetch 4
    let gpId ← gpIds.fetch 4
    .ok (fpId ++ gpId)
  | .onTestCmd _ _ result _ => (Memory.ofPtr result).fetch 1
  | _ => .ok []

/-- The message of a handler that has used its memory. -/
def handled (n : Notification) : Except Fault (Option FingerprintMsg) := do
  let message ← n.message
  let _ ← n.elements
  .ok message

theorem handled_ok_iff {n : Notification} {message : Option FingerprintMsg} :
    n.handled = .ok message ↔ n.message = .ok message ∧ ∃ cells, n.elements = .ok cells := by
  rw [handled, bind_ok_iff]
  simp only [bind_ok_iff, Except.ok.injEq]
  constructor
  · intro h
    obtain ⟨_, hmessage, cells, hcells, rfl⟩ := h
    exact ⟨hmessage, cells, hcells⟩
  · intro h
    obtain ⟨hmessage, cells, hcells⟩ := h
    exact ⟨message, hmessage, cells, hcells, rfl⟩

/-- What is left to do with a message. -/
def deliver : Option FingerprintMsg → ClientM Int32
  | none => return 0
  | some message => Client.passOn message

/-- A handler makes its message and reads its elements, and then passes the message on. -/
theorem call_eq (n : Notification) (w : World) :
    goodixFingerprintDaemonCallbackProxy.call n w =
      match n.handled with
      | .ok message => deliver message w
      | .error fault => (.error fault, w) := by
  cases n with
  | onAuthenticated devId fingerId groupId hat hatSize =>
    simp only [IGoodixFingerprintDaemonCallback.call, goodixFingerprintDaemonCallbackProxy, Client.onAuthenticated,
      handled, message, elements]
    cases memcpy hwAuthTokenSize hat hatSize.toInt64.toUInt64.toNat <;> rfl
  | onEnumerate devId fpIds gpIds sz =>
    simp only [IGoodixFingerprintDaemonCallback.call, goodixFingerprintDaemonCallbackProxy, Client.onEnumerate,
      handled, message, elements]
    cases fpIds.fetch 4 with
    | error fault => rfl
    | ok fpId => cases gpIds.fetch 4 <;> rfl
  | onTestCmd devId cmdId result resultLen =>
    simp only [IGoodixFingerprintDaemonCallback.call, goodixFingerprintDaemonCallbackProxy, Client.onTestCmd,
      handled, message, elements]
    cases (Memory.ofPtr result).fetch 1 <;> rfl
  | _ => rfl

end Notification

namespace Client

/-- There is a device, and its messages go somewhere. -/
def Notifies (w : World) (notify : Nat) : Prop := ∃ dev, w.mDevice = some dev ∧ w.heap dev = some ⟨some notify⟩

/-- A message reaches somebody, is dropped, or goes through a pointer that leads nowhere. -/
theorem passOn_eq (message : FingerprintMsg) (w : World) :
    passOn message w =
      match w.mDevice with
      | none => (.ok 0, w)
      | some dev =>
        match w.heap dev with
        | none => (.error .dangling, w)
        | some ⟨none⟩ => (.error .nullFunction, w)
        | some ⟨some notify⟩ => (.ok 0, w.deliver notify message) := by
  simp only [passOn, dispatch, bind, ExceptT.bind, ExceptT.mk, StateT.bind]
  cases w.mDevice with
  | none => rfl
  | some dev =>
    dsimp only
    rcases w.heap dev with _ | ⟨_ | notify⟩
    · rfl
    · rfl
    · rfl

theorem passOn_notifies {w : World} {notify : Nat} (h : Notifies w notify) (message : FingerprintMsg) :
    passOn message w = (.ok 0, w.deliver notify message) := by
  obtain ⟨dev, hdevice, hnotify⟩ := h
  rw [passOn_eq]
  simp only [hdevice, hnotify]

end Client
end GoodixFingerprint
