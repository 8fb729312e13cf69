import GoodixFingerprint.Daemon.Steps
import GoodixFingerprint.Interface.Process
import GoodixFingerprint.Machine.Run

/-! Runs of the daemon.

The daemon's process is taken through method calls, deaths of the binders it may be
linked to, and the notices of those deaths, each with the results that the HAL gives
meanwhile. A dead process does nothing. -/
namespace GoodixFingerprint
open Binder

namespace Daemon
variable {β : Type} [DecidableEq β]

inductive Event (β : Type) where
  | call (r : Request β) (hal : Hal)
  /-- A binder dies, and its obituary is sent. -/
  | died (b : β)
  /-- One pending notice is delivered to `binderDied`. -/
  | notice (who : β) (hal : Hal)

/-- The daemon after a notice has been taken from the pending ones and delivered. -/
def notified (hal : Hal) (who : β) (s : GoodixFingerprintDaemonProxy β) : GoodixFingerprintDaemonProxy β :=
  ({s with links := s.links.deliver who} : GoodixFingerprintDaemonProxy β).binderDied hal who

def next (p : Process (GoodixFingerprintDaemonProxy β)) :
    Event β → Process (GoodixFingerprintDaemonProxy β)
  | .call r hal => (p.invoke (goodixFingerprintDaemonProxy hal) r).2
  | .died b => {p with state := {p.state with links := p.state.links.sendObituary b}}
  | .notice who hal => if p.alive then {p with state := notified hal who p.state} else p

/-- Only a pending notice can be delivered. -/
def Enabled (p : Process (GoodixFingerprintDaemonProxy β)) : Event β → Prop
  | .notice who _ => 0 < p.state.links.pending who
  | _ => True

def machine : Machine (Process (GoodixFingerprintDaemonProxy β)) (Event β) := ⟨next, Enabled⟩

instance (p : Process (GoodixFingerprintDaemonProxy β)) (e : Event β) : Decidable (machine.Enabled p e) :=
  match e with
  | .call _ _ => isTrue trivial
  | .died _ => isTrue trivial
  | .notice who _ => inferInstanceAs (Decidable (0 < p.state.links.pending who))

/-- A daemon that has just started. -/
def initial : Process (GoodixFingerprintDaemonProxy β) := {state := {}}

theorem next_dead (p : Process (GoodixFingerprintDaemonProxy β)) (hp : p.alive = false) (r : Request β)
    (hal : Hal) : next p (.call r hal) = p := by
  simp [next, Process.invoke, hp]

/-- A call leaves the state alone or changes it as its method does. -/
theorem next_call (p : Process (GoodixFingerprintDaemonProxy β)) (r : Request β) (hal : Hal) :
    (next p (.call r hal)).state = p.state ∨
      (p.alive = true ∧ Change hal p.state r (next p (.call r hal)).state) := by
  cases hp : p.alive with
  | false => exact .inl (by rw [next_dead p hp])
  | true =>
    simp only [next, Process.invoke, hp, if_true]
    cases hcall : (goodixFingerprintDaemonProxy hal).call r p.state with
    | error fault => exact .inl rfl
    | ok out =>
      obtain ⟨v, s⟩ := out
      exact .inr ⟨trivial, GoodixFingerprintDaemonProxy.call_changes hal r p.state s v hcall⟩

theorem next_open (p : Process (GoodixFingerprintDaemonProxy β)) (hp : p.alive = true) (hal : Hal) :
    (next p (.call .openHal hal)).state = p.state.opened hal := by
  simp only [next, Process.invoke, hp, if_true]
  rfl

theorem next_close (p : Process (GoodixFingerprintDaemonProxy β)) (hp : p.alive = true) (hal : Hal) :
    (next p (.call .closeHal hal)).state = p.state.closed hal := by
  simp only [next, Process.invoke, hp, if_true]
  rfl

theorem next_testInit_none (p : Process (GoodixFingerprintDaemonProxy β)) (hp : p.alive = true) (hal : Hal) :
    (next p (.call (.testInit none) hal)).alive = false := by
  simp only [next, Process.invoke, hp, if_true]
  rfl

theorem next_notice (p : Process (GoodixFingerprintDaemonProxy β)) (hp : p.alive = true) (who : β)
    (hal : Hal) : (next p (.notice who hal)).state = notified hal who p.state := by
  simp [next, hp]

/-- The test callback's death clears its slot and nothing else. -/
theorem notified_test (hal : Hal) (who : β) (s : GoodixFingerprintDaemonProxy β)
    (h : s.mTestCallback = some who) :
    notified hal who s = {s with links := s.links.deliver who, mTestCallback := none} := by
  unfold notified GoodixFingerprintDaemonProxy.binderDied
  rw [if_pos h]

/-- Any other death closes the device, and clears the main slot if it is its binder's. -/
theorem notified_other (hal : Hal) (who : β) (s : GoodixFingerprintDaemonProxy β)
    (h : s.mTestCallback ≠ some who) :
    notified hal who s = {s with
      mDevice := none
      mCallback := if s.mCallback = some who then none else s.mCallback
      links := s.links.deliver who
      effects := s.effects ++ GoodixFingerprintDaemonProxy.closing hal s.mDevice} := by
  unfold notified GoodixFingerprintDaemonProxy.binderDied
  rw [if_neg h, GoodixFingerprintDaemonProxy.closed_eq]
  by_cases hmain : s.mCallback = some who
  · simp [hmain]
  · simp [hmain]

theorem notified_links (hal : Hal) (who : β) (s : GoodixFingerprintDaemonProxy β) :
    (notified hal who s).links = s.links.deliver who := by
  by_cases h : s.mTestCallback = some who
  · rw [notified_test hal who s h]
  · rw [notified_other hal who s h]

/-- Effects are only ever added. -/
theorem effects_next (p : Process (GoodixFingerprintDaemonProxy β)) (e : Event β) :
    p.state.effects <+: (next p e).state.effects := by
  cases e with
  | call r hal =>
    rcases next_call p r hal with hsame | ⟨-, hchange⟩
    · exact ⟨[], by rw [hsame, List.append_nil]⟩
    · revert hchange
      generalize (next p (.call r hal)).state = s'
      intro hchange
      cases hchange with
      | registered | testRegistered | refused => exact List.prefix_rfl
      | opened => rw [GoodixFingerprintDaemonProxy.opened_eq]; exact List.prefix_append ..
      | closed => rw [GoodixFingerprintDaemonProxy.closed_eq]; exact List.prefix_append ..
      | forwarded => exact List.prefix_append ..
  | died b => exact List.prefix_rfl
  | notice who hal =>
    cases hp : p.alive with
    | false => simp [next, hp]
    | true =>
      rw [next_notice p hp]
      by_cases htest : p.state.mTestCallback = some who
      · exact ⟨[], by rw [notified_test hal who _ htest, List.append_nil]⟩
      · rw [notified_other hal who _ htest]
        exact List.prefix_append ..

theorem effects_run (p : Process (GoodixFingerprintDaemonProxy β)) (events : List (Event β)) :
    p.state.effects <+: (machine.run p events).state.effects := by
  induction events generalizing p with
  | nil => exact List.prefix_rfl
  | cons e rest ih => exact (effects_next p e).trans (ih _)

/-- Client 0 opens the device, and a test callback is registered twice before it dies. -/
def testCallbackTwice : List (Event Nat) :=
  [.call (.init (some 0)) .succeeding, .call .openHal .succeeding, .call (.testInit (some 1)) .succeeding,
    .call (.testInit (some 1)) .succeeding, .died 1, .notice 1 .succeeding, .notice 1 .succeeding]

end Daemon
end GoodixFingerprint
