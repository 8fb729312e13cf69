import GoodixFingerprint.Daemon.Messages
import GoodixFingerprint.Daemon.Wire

/-! Who holds the callback slots, by the history of the daemon.

A slot is a latch: a registration puts a binder there, another registration or the notice of
its death takes it out again. So a message of the HAL goes to the binder whose registration
was the last to be served, and what matters of the other slot is whether it is empty. -/
namespace GoodixFingerprint
open Binder

namespace Daemon
variable {β : Type} [DecidableEq β]
open GoodixFingerprintDaemonProxy

/-- A live daemon is handed `b` for a slot: `register` is `init` or `testInit`. -/
def Takes (register : Option β → Request β) (b : β) (t : Process (GoodixFingerprintDaemonProxy β) × Arrival β) : Prop :=
  t.1.alive = true ∧ ∃ hal, t.2.event = some (.call (register (some b)) hal)

/-- A live daemon is handed another binder for the slot. -/
def Displaces (register : Option β → Request β) (b : β) (t : Process (GoodixFingerprintDaemonProxy β) × Arrival β) :
    Prop := ∃ other, other ≠ b ∧ Takes register other t

/-- A live daemon is told that `b` has died. -/
def Notices (b : β) (t : Process (GoodixFingerprintDaemonProxy β) × Arrival β) : Prop :=
  t.1.alive = true ∧ ∃ hal, t.2.event = some (.notice b hal)

/-- The main slot gives `b` up. A notice does not reach it if `b` is the test callback too. -/
def Leaves (b : β) (t : Process (GoodixFingerprintDaemonProxy β) × Arrival β) : Prop :=
  Displaces .init b t ∨ Notices b t ∧ t.1.state.mTestCallback ≠ some b

/-- The test slot gives `b` up. -/
def TestLeaves (b : β) (t : Process (GoodixFingerprintDaemonProxy β) × Arrival β) : Prop :=
  Displaces .testInit b t ∨ Notices b t

/-- `b` was registered as the main callback, and has not left since. -/
def Registered (events : List (Arrival β)) (b : β) : Prop :=
  History.Since (Takes .init b) (Leaves b) (arrivals.steps initial events)

/-- `b` was registered as the test callback, and has not left since. -/
def TestRegistered (events : List (Arrival β)) (b : β) : Prop :=
  History.Since (Takes .testInit b) (TestLeaves b) (arrivals.steps initial events)

/-! ### One step -/

/-- A call gives each slot the binder that it registers there. -/
theorem slots_call (p : Process (GoodixFingerprintDaemonProxy β)) (hp : p.alive = true) (r : Request β) (hal : Hal) :
    (next p (.call r hal)).state.mCallback = (match r with | .init (some b) => some b | _ => p.state.mCallback) ∧
    (next p (.call r hal)).state.mTestCallback =
      (match r with | .testInit (some b) => some b | _ => p.state.mTestCallback) := by
  simp only [next, Process.invoke, hp, if_true]
  cases hcall : (goodixFingerprintDaemonProxy hal).call r p.state with
  | error fault =>
    rcases call_faults hal r p.state fault hcall with rfl | rfl | hcode
    · exact ⟨rfl, rfl⟩
    · exact ⟨rfl, rfl⟩
    · cases r with
      | setActiveGroup => exact ⟨rfl, rfl⟩
      | _ => cases hcode
  | ok out =>
    obtain ⟨v, s'⟩ := out
    have hchange := call_changes hal r p.state s' v hcall
    cases hchange with
    | registered b => exact ⟨rfl, rfl⟩
    | testRegistered b => exact ⟨rfl, rfl⟩
    | opened => exact ⟨rfl, rfl⟩
    | closed =>
      rw [closed_eq]
      exact ⟨rfl, rfl⟩
    | forwarded _ _ hr =>
      cases r with
      | init | testInit => simp [Request.code] at hr
      | _ => exact ⟨rfl, rfl⟩
    | refused _ hr =>
      cases r with
      | init | testInit => simp [Request.code] at hr
      | _ => exact ⟨rfl, rfl⟩

/-- A notice clears one slot, the test slot first. -/
theorem slots_notice (p : Process (GoodixFingerprintDaemonProxy β)) (hp : p.alive = true) (who : β) (hal : Hal) :
    (next p (.notice who hal)).state.mCallback =
      (if p.state.mTestCallback ≠ some who ∧ p.state.mCallback = some who then none else p.state.mCallback) ∧
    (next p (.notice who hal)).state.mTestCallback =
      if p.state.mTestCallback = some who then none else p.state.mTestCallback := by
  rw [next_notice p hp]
  by_cases htest : p.state.mTestCallback = some who
  · rw [notified_test hal who _ htest]
    simp [htest]
  · rw [notified_other hal who _ htest]
    simp [htest]

/-- What a dead daemon is sent is nothing to it. -/
theorem slots_dead (p : Process (GoodixFingerprintDaemonProxy β)) (hp : p.alive = false) (e : Arrival β) :
    (receive p e).state.mCallback = p.state.mCallback ∧ (receive p e).state.mTestCallback = p.state.mTestCallback := by
  rw [receive_event]
  cases e.event with
  | none => exact ⟨rfl, rfl⟩
  | some a =>
    cases a with
    | died b => exact ⟨rfl, rfl⟩
    | notice who hal => simp [next, hp]
    | call r hal =>
      rw [Option.elim_some, next_dead p hp]
      exact ⟨rfl, rfl⟩

theorem main_slot_next (p : Process (GoodixFingerprintDaemonProxy β)) (e : Arrival β) (b : β) :
    (receive p e).state.mCallback = some b ↔ Takes .init b (p, e) ∨ p.state.mCallback = some b ∧ ¬ Leaves b (p, e) := by
  unfold Leaves Displaces Notices Takes
  cases hp : p.alive with
  | false => simp [(slots_dead p hp e).1]
  | true =>
    rw [receive_event]
    cases e.event with
    | none => simp
    | some a =>
      cases a with
      | died b' => simp [next]
      | notice who hal =>
        rw [Option.elim_some, (slots_notice p hp who hal).1]
        by_cases hwho : who = b
        · subst hwho
          by_cases htest : p.state.mTestCallback = some who
          · simp [htest]
          · simp [htest]
        · by_cases hmain : p.state.mTestCallback ≠ some who ∧ p.state.mCallback = some who
          · simp [hmain, hwho]
          · simp [if_neg hmain, hwho]
      | call r hal =>
        rw [Option.elim_some, (slots_call p hp r hal).1]
        cases r with
        | init callback =>
          cases callback with
          | none => simp
          | some new =>
            by_cases hnew : new = b
            · simp [hnew]
            · simp [hnew]
        | _ => simp

theorem test_slot_next (p : Process (GoodixFingerprintDaemonProxy β)) (e : Arrival β) (b : β) :
    (receive p e).state.mTestCallback = some b ↔
      Takes .testInit b (p, e) ∨ p.state.mTestCallback = some b ∧ ¬ TestLeaves b (p, e) := by
  unfold TestLeaves Displaces Notices Takes
  cases hp : p.alive with
  | false => simp [(slots_dead p hp e).2]
  | true =>
    rw [receive_event]
    cases e.event with
    | none => simp
    | some a =>
      cases a with
      | died b' => simp [next]
      | notice who hal =>
        rw [Option.elim_some, (slots_notice p hp who hal).2]
        by_cases hwho : who = b
        · simp [hwho]
        · by_cases htest : p.state.mTestCallback = some who
          · simp [htest, hwho]
          · simp [htest, hwho]
      | call r hal =>
        rw [Option.elim_some, (slots_call p hp r hal).2]
        cases r with
        | testInit callback =>
          cases callback with
          | none => simp
          | some new =>
            by_cases hnew : new = b
            · simp [hnew]
            · simp [hnew]
        | _ => simp

/-! ### Whole runs -/

theorem main_slot_run (events : List (Arrival β)) (b : β) :
    (arrivals.run (initial (β := β)) events).state.mCallback = some b ↔ Registered events b :=
  arrivals.latch_iff (X := fun p => p.state.mCallback = some b) (fun p e => main_slot_next p e b) initial events
    fun h => (by cases h)

theorem test_slot_run (events : List (Arrival β)) (b : β) :
    (arrivals.run (initial (β := β)) events).state.mTestCallback = some b ↔ TestRegistered events b :=
  arrivals.latch_iff (X := fun p => p.state.mTestCallback = some b) (fun p e => test_slot_next p e b) initial events
    fun h => (by cases h)

theorem dispatched_history (address : Device → Int64) (events : List (Arrival β)) (msg : GfFingerprintMsg) (b : β)
    (n : Notification) :
    dispatched address (arrivals.run initial events).state msg = some (b, n) ↔
      msg.notification ((arrivals.run (initial (β := β)) events).state.deviceId address) = some n ∧
        if msg.isTest then TestRegistered events b ∧ ∃ main, Registered events main else Registered events b := by
  simp only [← main_slot_run, ← test_slot_run]
  unfold dispatched routed addressee
  cases hmain : (arrivals.run (initial (β := β)) events).state.mCallback with
  | none => simp
  | some main =>
    cases hslot : (arrivals.run (initial (β := β)) events).state.mTestCallback with
    | none =>
      cases htest : msg.isTest with
      | false => simp [and_comm]
      | true => simp
    | some test =>
      cases htest : msg.isTest with
      | false => simp [and_comm]
      | true => simp [and_comm]

/-- **Who is sent a message, by the history**: a message of the standard types goes to the binder
registered last, and one of the test types to the one registered last for tests, provided
that some binder is registered at all. -/
theorem message_by_history (address : Device → Int64) (events : List (Arrival β)) (msg : GfFingerprintMsg) (b : β)
    (n : Notification) (log : List (β × Notification)) :
    halNotifyCallback noting unlogged address msg (arrivals.run initial events).state log =
        (((), (arrivals.run initial events).state), log ++ [(b, n)]) ↔
      msg.notification ((arrivals.run (initial (β := β)) events).state.deviceId address) = some n ∧
        if msg.isTest then TestRegistered events b ∧ ∃ main, Registered events main else Registered events b := by
  rw [← dispatched_history, halNotifyCallback_noting]
  have hlog (p : GoodixFingerprintDaemonProxy β) (sent : Option (β × Notification)) :
      ((((), p), log ++ sent.toList) : (Unit × GoodixFingerprintDaemonProxy β) × List (β × Notification)) =
        (((), p), log ++ [(b, n)]) ↔ sent = some (b, n) := by
    cases sent with
    | none => simp
    | some t => simp
  exact hlog _ _

end Daemon
end GoodixFingerprint
