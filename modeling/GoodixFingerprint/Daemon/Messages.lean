import GoodixFingerprint.Callback.Proxy
import GoodixFingerprint.Daemon.Run

/-! The messages of the HAL and where they go.

`hal_notify_callback` looks at the main slot before it looks at the message, also where
the message is for the other slot. Each message is one notification to one receiver, and
that is what is sent unless a test message finds the main slot empty. -/
namespace GoodixFingerprint
open Binder

/-- The bytes of a `hw_auth_token_t`. -/
abbrev HwAuthToken := {bytes : List UInt8 // bytes.length = hwAuthTokenSize}

/-- A `gf_fingerprint_msg_t`, by its type. -/
inductive GfFingerprintMsg where
  | error (error : Int32)
  | acquired (acquiredInfo : Int32)
  | templateEnrolling (gid fid samplesRemaining : UInt32) (msg : UInt64)
  | templateRemoved (gid fid : UInt32)
  | authenticated (gid fid : UInt32) (hat : HwAuthToken)
  | testCmd (cmdId : Int32) (result : Ptr) (resultLen : Int32)
  | hbd (heartBeatRate status : Int32) (displayData : Ptr) (dataLen : Int32)
  /-- A type that the enumeration does not have. -/
  | unknown (type : {type : Int32 // type ∉ [-1, 1, 3, 4, 5, 6, 7]})
  deriving DecidableEq

namespace GfFingerprintMsg

/-- The `type` field: `GF_FINGERPRINT_ERROR` and so on. -/
def type : GfFingerprintMsg → Int32
  | error _ => -1
  | acquired _ => 1
  | templateEnrolling .. => 3
  | templateRemoved .. => 4
  | authenticated .. => 5
  | testCmd .. => 6
  | hbd .. => 7
  | unknown type => type

/-- `GF_FINGERPRINT_TEST_CMD` and `GF_FINGERPRINT_HBD`. -/
def isTest : GfFingerprintMsg → Bool
  | testCmd .. | hbd .. => true
  | _ => false

theorem isTest_iff (msg : GfFingerprintMsg) : msg.isTest = true ↔ msg.type = 6 ∨ msg.type = 7 := by
  cases msg with
  | unknown type =>
    obtain ⟨type, hnot⟩ := type
    constructor
    · intro h
      cases h
    · intro h
      rcases h with rfl | rfl
      · exact absurd hnot (by decide)
      · exact absurd hnot (by decide)
  | _ => simp [isTest, type]

end GfFingerprintMsg

namespace GoodixFingerprintDaemonProxy
variable {β : Type} {m : Type → Type} [Monad m]

/-- `(int64_t) mDevice`, for devices at these addresses. -/
def deviceId (address : Device → Int64) (s : GoodixFingerprintDaemonProxy β) : Int64 :=
  match s.mDevice with
  | none => 0
  | some dev => address dev

/-- A call of a receiver, its status dropped. -/
def notify (call : m Int32) : StateT (GoodixFingerprintDaemonProxy β) m Unit := fun s => do
  let _ ← call
  pure ((), s)

/-- `proxy` is the callback that a binder stands for; `alogd` prints a string to the log. -/
def halNotifyCallback (proxy : β → IGoodixFingerprintDaemonCallback m) (alogd : Ptr → m Unit)
    (address : Device → Int64) (msg : GfFingerprintMsg) : StateT (GoodixFingerprintDaemonProxy β) m Unit := fun s =>
  match s.mCallback with
  | none => pure ((), s)
  | some callback =>
    let device := s.deviceId address
    match msg with
    | .error error => notify ((proxy callback).onError device error) s
    | .acquired acquiredInfo => notify ((proxy callback).onAcquired device acquiredInfo) s
    | .authenticated gid fid hat =>
      notify ((proxy callback).onAuthenticated device fid.toInt32 gid.toInt32 (some hat.1)
        (Int32.ofNat hwAuthTokenSize)) s
    | .templateEnrolling gid fid samplesRemaining _ =>
      notify ((proxy callback).onEnrollResult device fid.toInt32 gid.toInt32 samplesRemaining.toInt32) s
    | .templateRemoved gid fid => notify ((proxy callback).onRemoved device fid.toInt32 gid.toInt32) s
    | .testCmd cmdId result resultLen => do
      alogd result
      match s.mTestCallback with
      | none => pure ((), s)
      | some testCallback => notify ((proxy testCallback).onTestCmd device cmdId result resultLen) s
    | .hbd heartBeatRate status displayData dataLen =>
      match s.mTestCallback with
      | none => pure ((), s)
      | some testCallback =>
        notify ((proxy testCallback).onHbdData device heartBeatRate status displayData dataLen) s
    | .unknown _ => pure ((), s)

end GoodixFingerprintDaemonProxy

/-! ### One notification, one receiver -/

namespace GfFingerprintMsg

/-- The notification that a message is, on a device. -/
def notification (device : Int64) : GfFingerprintMsg → Option Notification
  | .error err => some (.onError device err)
  | .acquired acquiredInfo => some (.onAcquired device acquiredInfo)
  | .templateEnrolling gid fid samplesRemaining _ =>
    some (.onEnrollResult device fid.toInt32 gid.toInt32 samplesRemaining.toInt32)
  | .templateRemoved gid fid => some (.onRemoved device fid.toInt32 gid.toInt32)
  | .authenticated gid fid hat =>
    some (.onAuthenticated device fid.toInt32 gid.toInt32 (some hat.1) (Int32.ofNat hwAuthTokenSize))
  | .testCmd cmdId result resultLen => some (.onTestCmd device cmdId result resultLen)
  | .hbd heartBeatRate status displayData dataLen => some (.onHbdData device heartBeatRate status displayData dataLen)
  | .unknown _ => none

/-- What of a message is printed as a string: the result of a test. -/
def printed {m : Type → Type} [Monad m] (alogd : Ptr → m Unit) : GfFingerprintMsg → m Unit
  | .testCmd _ result _ => alogd result
  | _ => pure ()

end GfFingerprintMsg

namespace Daemon
variable {β : Type} (address : Device → Int64) (s : GoodixFingerprintDaemonProxy β) (msg : GfFingerprintMsg)

/-- Whom a message is for. -/
def addressee : Option β := if msg.isTest then s.mTestCallback else s.mCallback

/-- What is to be sent: the message's notification, to whom it is for. -/
def routed : Option (β × Notification) :=
  (addressee s msg).bind fun b => (msg.notification (s.deviceId address)).map fun n => (b, n)

/-- What is sent: with the main slot empty, nothing. -/
def dispatched : Option (β × Notification) := if s.mCallback.isNone then none else routed address s msg

/-- What is printed: with the main slot empty, nothing. -/
def logged {m : Type → Type} [Monad m] (alogd : Ptr → m Unit) : m Unit :=
  if s.mCallback.isNone then pure () else msg.printed alogd

/-- `hal_notify_callback` is at most one call of one receiver, after the log has been written. -/
theorem halNotifyCallback_eq {m : Type → Type} [Monad m] [LawfulMonad m]
    (proxy : β → IGoodixFingerprintDaemonCallback m) (alogd : Ptr → m Unit) :
    GoodixFingerprintDaemonProxy.halNotifyCallback proxy alogd address msg s = (do
      logged s msg alogd
      match dispatched address s msg with
      | none => pure ((), s)
      | some (b, n) => (proxy b).call n >>= fun _ => pure ((), s)) := by
  obtain ⟨mDevice, mCallback, mTestCallback, links, allocated, effects⟩ := s
  cases mCallback with
  | none =>
    rw [show logged _ msg alogd = pure () from rfl, pure_bind]
    rfl
  | some callback =>
    cases msg with
    | testCmd => cases mTestCallback <;> rfl
    | hbd =>
      rw [show logged _ _ alogd = pure () from rfl, pure_bind]
      cases mTestCallback <;> rfl
    | _ =>
      rw [show logged _ _ alogd = pure () from rfl, pure_bind]
      rfl

/-! ### Routing -/

/-- A receiver that notes what it is sent. -/
def noting (b : β) : IGoodixFingerprintDaemonCallback (StateM (List (β × Notification))) :=
  .ofCall callbackDescriptor fun n log => (0, log ++ [(b, n)])

/-- Logging that is left alone. -/
def unlogged (_string : Ptr) : StateM (List (β × Notification)) Unit := pure ()

/-- The message goes to whom it is for, once, to nobody else, and nothing else happens. -/
def Routed : Prop :=
  ∀ log, GoodixFingerprintDaemonProxy.halNotifyCallback noting unlogged address msg s log =
    (((), s), log ++ (routed address s msg).toList)

theorem halNotifyCallback_noting (log : List (β × Notification)) :
    GoodixFingerprintDaemonProxy.halNotifyCallback noting unlogged address msg s log =
      (((), s), log ++ (dispatched address s msg).toList) := by
  have hprinted : msg.printed (unlogged (β := β)) = pure () := by cases msg <;> rfl
  rw [halNotifyCallback_eq, logged, hprinted, ite_self, pure_bind]
  cases dispatched address s msg with
  | none =>
    rw [Option.toList_none, List.append_nil]
    rfl
  | some t =>
    simp only [noting, IGoodixFingerprintDaemonCallback.call_ofCall]
    rfl

/-- Every type that the enumeration has is a notification, and no other. -/
theorem notification_isSome_iff (device : Int64) :
    (msg.notification device).isSome = true ↔ msg.type ∈ [-1, 1, 3, 4, 5, 6, 7] := by
  cases msg with
  | unknown type => exact ⟨fun h => (by cases h), fun h => absurd h type.2⟩
  | _ => exact ⟨fun _ => by simp [GfFingerprintMsg.type], fun _ => rfl⟩

theorem routed_iff_dispatched : Routed address s msg ↔ dispatched address s msg = routed address s msg := by
  constructor
  · intro h
    have hlog := h []
    rw [halNotifyCallback_noting] at hlog
    have hlist : (dispatched address s msg).toList = (routed address s msg).toList := congrArg Prod.snd hlog
    simpa using congrArg List.head? hlist
  · intro h log
    rw [halNotifyCallback_noting, h]

/-- **A message reaches whom it is for** unless it is for the test callback and there is no main
callback. -/
theorem routed_iff :
    Routed address s msg ↔ (msg.isTest = true → s.mTestCallback ≠ none → s.mCallback ≠ none) := by
  rw [routed_iff_dispatched, dispatched]
  cases hmain : s.mCallback with
  | some callback => simp
  | none =>
    cases htest : msg.isTest with
    | false => simp [routed, addressee, htest, hmain]
    | true =>
      have htype : msg.type ∈ [-1, 1, 3, 4, 5, 6, 7] := by
        rcases msg.isTest_iff.mp htest with h | h
        · simp [h]
        · simp [h]
      obtain ⟨n, hn⟩ := Option.isSome_iff_exists.mp ((notification_isSome_iff msg (s.deviceId address)).mpr htype)
      cases hslot : s.mTestCallback with
      | none => simp [routed, addressee, htest, hslot]
      | some testCallback => simp [routed, addressee, htest, hslot, hn]

/-- With the test callback alone a test result is dropped. -/
theorem test_result_dropped :
    (machine.run (initial (β := Nat)) [.call (.testInit (some 1)) .succeeding]).state.mTestCallback = some 1 ∧
    ¬ Routed (fun _ => 0) (machine.run (initial (β := Nat)) [.call (.testInit (some 1)) .succeeding]).state
      (.testCmd 1 (some [0]) 1) := by
  refine ⟨by decide, ?_⟩
  rw [routed_iff_dispatched]
  decide

end Daemon
end GoodixFingerprint
