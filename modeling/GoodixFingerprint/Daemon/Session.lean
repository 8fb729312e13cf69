import GoodixFingerprint.Daemon.Run

/-! The session: what a privileged client has of the daemon.

A session is a device, a main callback and the calls that started and ended devices.
`Session.call` says what a request does to it, in terms of the session alone, and
`session_change` that the daemon does just that: the test callback, the death links and
every other call of the HAL leave the session as it is. -/
namespace GoodixFingerprint
open Binder

structure Session (β : Type) where
  device : Option Device
  callback : Option β
  allocated : Device
  calls : List Effect
  deriving DecidableEq

def Session.call {β : Type} (hal : Hal) (v : Session β) : Request β → Session β
  | .init (some b) => {v with callback := some b}
  | .openHal => {v with
      device := some v.allocated
      allocated := v.allocated + 1
      calls := v.calls ++ [.called (.init (some v.allocated)) (hal.error (.init (some v.allocated)))]}
  | .closeHal => {v with
      device := none
      calls := v.calls ++ [.called (.exit v.device) (hal.error (.exit v.device))]}
  | _ => v

theorem Effect.Forwarded.isSession {e : Effect} (he : e.Forwarded) : e.isSession = false := by
  cases e with
  | called call err => simp [Effect.isSession, he.1, he.2]
  | queried => rfl
  | free | overwrite => cases he

namespace GoodixFingerprintDaemonProxy
variable {β : Type}

def session (s : GoodixFingerprintDaemonProxy β) : Session β :=
  ⟨s.mDevice, s.mCallback, s.allocated, s.effects.filter Effect.isSession⟩

theorem session_record (s : GoodixFingerprintDaemonProxy β) (e : Effect) (he : e.Forwarded) :
    (s.record e).session = s.session := by
  simp [session, record, he.isSession]

theorem isSession_closing (hal : Hal) (dev : Option Device) :
    (closing hal dev).filter Effect.isSession = [.called (.exit dev) (hal.error (.exit dev))] := by
  cases dev <;> rfl

theorem isSession_opening (hal : Hal) (s : GoodixFingerprintDaemonProxy β) :
    (opening hal s).filter Effect.isSession =
      [.called (.init (some s.allocated)) (hal.error (.init (some s.allocated)))] := rfl

theorem session_closed (hal : Hal) (s : GoodixFingerprintDaemonProxy β) :
    (s.closed hal).session = s.session.call hal .closeHal := by
  rw [closed_eq]
  simp [session, Session.call, isSession_closing]

variable [DecidableEq β]

/-- A call does to the session what its request says. -/
theorem session_change {hal : Hal} {r : Request β} {s s' : GoodixFingerprintDaemonProxy β}
    (h : Change hal s r s') : s'.session = s.session.call hal r := by
  cases h with
  | registered b => rfl
  | testRegistered b => rfl
  | opened =>
    rw [opened_eq]
    simp [session, Session.call, isSession_opening]
  | closed => exact session_closed hal s
  | forwarded r e hr he =>
    rw [session_record s e he]
    cases r <;> simp_all [Session.call, Request.code]
  | refused r hr => cases r <;> simp_all [Session.call, Request.code]

end GoodixFingerprintDaemonProxy

namespace Daemon
variable {β : Type} [DecidableEq β]

theorem session_notified_test (hal : Hal) (who : β) (s : GoodixFingerprintDaemonProxy β)
    (h : s.mTestCallback = some who) : (notified hal who s).session = s.session := by
  rw [notified_test hal who s h]
  rfl

/-- Every other notice adds a call of `gf_hal_exit`. -/
theorem session_notified_other (hal : Hal) (who : β) (s : GoodixFingerprintDaemonProxy β)
    (h : s.mTestCallback ≠ some who) :
    (notified hal who s).session.calls =
      s.session.calls ++ [.called (.exit s.mDevice) (hal.error (.exit s.mDevice))] := by
  rw [notified_other hal who s h]
  simp [GoodixFingerprintDaemonProxy.session, GoodixFingerprintDaemonProxy.isSession_closing]

end Daemon
end GoodixFingerprint
