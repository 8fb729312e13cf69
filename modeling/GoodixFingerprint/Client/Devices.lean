import GoodixFingerprint.Client.World
import GoodixFingerprint.Machine.History
import GoodixFingerprint.Machine.Run

/-! The client's devices.

What the calls do to the devices comes down to four actions. `Recorded` reads from the
actions so far which device the callbacks are given, and of every device whether it is
still there and whether it can be told of anything. -/
namespace GoodixFingerprint

inductive DeviceAction where
  /-- `fingerprint_open` makes a device. -/
  | allocate
  /-- `getService` gives the callbacks the device there is, and makes the handshake. -/
  | connect
  /-- `fingerprint_close` frees a device. -/
  | free (dev : Nat)
  | setNotify (dev : Nat) (notify : Option Nat)
  deriving DecidableEq

structure Devices where
  opened : Nat := 0
  gDevice : Option Nat := none
  mDevice : Option Nat := none
  heap : Nat → Option FingerprintDevice := fun _ => none

namespace Devices

def act (s : Devices) : DeviceAction → Devices
  | .allocate =>
    {s with opened := s.opened + 1, gDevice := some s.opened, heap := Function.update s.heap s.opened (some {})}
  | .connect => {s with mDevice := s.gDevice}
  | .free dev => {s with heap := Function.update s.heap dev none}
  | .setNotify dev notify => {s with heap := Function.update s.heap dev (some ⟨notify⟩)}

/-- Only what is there is told whom to notify. -/
def Allowed (s : Devices) : DeviceAction → Prop
  | .setNotify dev _ => s.heap dev ≠ none
  | _ => True

def machine : Machine Devices DeviceAction := ⟨act, Allowed⟩

/-- The device of the latest `fingerprint_open`. -/
def newest (s : Devices) : Option Nat :=
  match s.opened with
  | 0 => none
  | d + 1 => some d

theorem newest_eq_some (s : Devices) (d : Nat) : s.newest = some d ↔ s.opened = d + 1 := by
  unfold newest
  cases s.opened <;> simp

/-- A device not allocated yet is not the newest. -/
theorem newest_ne_opened (s : Devices) : s.newest ≠ some s.opened := by
  rw [Ne, newest_eq_some]
  omega

end Devices

/-! ### What the actions so far say -/

namespace DeviceAction

/-- `d` is the latest device made. -/
def Latest (d : Nat) (actions : List DeviceAction) : Prop := actions.count .allocate = d + 1

/-- The device `d` was made, and not freed since. -/
def Kept (d : Nat) (actions : List DeviceAction) : Prop :=
  ∃ a b, actions = a ++ .allocate :: b ∧ a.count .allocate = d ∧ .free d ∉ b

/-- The handlers were last given the device `d`, which was then the latest. -/
def Given (d : Nat) (actions : List DeviceAction) : Prop :=
  ∃ a b, actions = a ++ .connect :: b ∧ .connect ∉ b ∧ Latest d a

/-- The device `d` was last told to notify somebody, and not freed since. -/
def Told (d : Nat) (actions : List DeviceAction) : Prop :=
  History.Since (fun a => ∃ notify, a = .setNotify d (some notify)) (fun a => a = .free d ∨ a = .setNotify d none)
    actions

variable {d : Nat} {actions : List DeviceAction}

theorem not_kept_nil : ¬ Kept d [] := by
  intro h
  obtain ⟨front, back, h, -⟩ := h
  simp at h

theorem kept_concat (a : DeviceAction) :
    Kept d (actions ++ [a]) ↔ a = .allocate ∧ actions.count .allocate = d ∨ Kept d actions ∧ a ≠ .free d := by
  constructor
  · intro h
    obtain ⟨front, back, hactions, hcount, hfree⟩ := h
    rcases History.concat_split hactions with ⟨rfl, rfl, -⟩ | ⟨between, hfront, rfl⟩
    · exact .inl ⟨rfl, hcount⟩
    · simp only [List.mem_append, List.mem_singleton, not_or] at hfree
      exact .inr ⟨⟨front, between, hfront, hcount, hfree.1⟩, Ne.symm hfree.2⟩
  · intro h
    rcases h with ⟨rfl, hcount⟩ | ⟨⟨front, back, rfl, hcount, hfree⟩, ha⟩
    · exact ⟨actions, [], rfl, hcount, List.not_mem_nil⟩
    · refine ⟨front, back ++ [a], by simp, hcount, ?_⟩
      simp only [List.mem_append, List.mem_singleton, not_or]
      exact ⟨hfree, Ne.symm ha⟩

theorem not_given_nil : ¬ Given d [] := by
  intro h
  obtain ⟨front, back, h, -⟩ := h
  simp at h

theorem given_concat (a : DeviceAction) :
    Given d (actions ++ [a]) ↔ a = .connect ∧ Latest d actions ∨ a ≠ .connect ∧ Given d actions := by
  constructor
  · intro h
    obtain ⟨front, back, hactions, hlast, hcount⟩ := h
    rcases History.concat_split hactions with ⟨rfl, rfl, -⟩ | ⟨between, hfront, rfl⟩
    · exact .inl ⟨rfl, hcount⟩
    · simp only [List.mem_append, List.mem_singleton, not_or] at hlast
      exact .inr ⟨Ne.symm hlast.2, front, between, hfront, hlast.1, hcount⟩
  · intro h
    rcases h with ⟨rfl, hcount⟩ | ⟨ha, front, back, rfl, hlast, hcount⟩
    · exact ⟨actions, [], rfl, List.not_mem_nil, hcount⟩
    · refine ⟨front, back ++ [a], by simp, ?_, hcount⟩
      simp only [List.mem_append, List.mem_singleton, not_or]
      exact ⟨hlast, Ne.symm ha⟩

/-- What was given has been made. -/
theorem Given.made (h : Given d actions) : d < actions.count .allocate := by
  obtain ⟨front, back, rfl, -, hcount⟩ := h
  rw [List.count_append]
  unfold Latest at hcount
  omega

end DeviceAction

namespace Devices
open DeviceAction

/-- Every device is as the actions say it is. -/
structure Recorded (actions : List DeviceAction) (s : Devices) : Prop where
  opened : s.opened = actions.count .allocate
  newest : s.gDevice = s.newest
  fresh : ∀ d, s.opened ≤ d → s.heap d = none
  kept : ∀ d, s.heap d ≠ none ↔ Kept d actions
  given : ∀ d, s.mDevice = some d ↔ Given d actions
  told : ∀ d, (∃ notify, s.heap d = some ⟨some notify⟩) ↔ Told d actions

variable {actions : List DeviceAction} {s : Devices}

/-! ### One action -/

/-- An action that gives the handlers nothing. -/
theorem Recorded.given_other (h : Recorded actions s) (a : DeviceAction) (ha : a ≠ .connect) (d : Nat) :
    s.mDevice = some d ↔ Given d (actions ++ [a]) := by
  rw [given_concat, h.given]
  exact ⟨fun hgiven => .inr ⟨ha, hgiven⟩, fun hgiven => (hgiven.resolve_left fun hc => ha hc.1).2⟩

theorem Recorded.allocate (h : Recorded actions s) : Recorded (actions ++ [.allocate]) (s.act .allocate) := by
  refine ⟨by simp [act, h.opened], rfl, fun d hd => ?_, fun d => ?_, h.given_other _ (by simp), fun d => ?_⟩
  · have hlt : s.opened + 1 ≤ d := hd
    simp only [act, Function.update_of_ne (show d ≠ s.opened by omega)]
    exact h.fresh d (by omega)
  · rw [kept_concat, ← h.opened]
    by_cases hd : d = s.opened
    · simp [act, hd]
    · simp [act, Function.update_of_ne hd, h.kept, Ne.symm hd]
  · rw [Told, History.since_concat]
    by_cases hd : d = s.opened
    · subst hd
      have hnone := (h.told s.opened).not.mp (by simp [h.fresh])
      simp only [Told] at hnone
      simp [act, hnone]
    · simp only [act, Function.update_of_ne hd, h.told]
      simp [Told]

theorem Recorded.connect (h : Recorded actions s) : Recorded (actions ++ [.connect]) (s.act .connect) := by
  refine ⟨by simp [act, h.opened], h.newest, h.fresh, fun d => ?_, fun d => ?_, fun d => ?_⟩
  · rw [kept_concat]
    simpa [act] using h.kept d
  · rw [given_concat, Latest]
    simp only [act, h.newest, newest_eq_some, h.opened]
    simp
  · rw [Told, History.since_concat]
    simpa [act, Told] using h.told d

theorem Recorded.free (h : Recorded actions s) (dev : Nat) : Recorded (actions ++ [.free dev]) (s.act (.free dev)) := by
  refine ⟨by simp [act, h.opened], h.newest, fun d hd => ?_, fun d => ?_, h.given_other _ (by simp), fun d => ?_⟩
  · by_cases hdev : d = dev
    · simp [act, hdev]
    · simp only [act, Function.update_of_ne hdev]
      exact h.fresh d hd
  · rw [kept_concat]
    by_cases hdev : d = dev
    · simp [act, hdev]
    · simp [act, Function.update_of_ne hdev, h.kept, Ne.symm hdev]
  · rw [Told, History.since_concat]
    by_cases hdev : d = dev
    · simp [act, hdev]
    · simp only [act, Function.update_of_ne hdev, h.told]
      simp [Told, Ne.symm hdev]

theorem Recorded.setNotify (h : Recorded actions s) (dev : Nat) (notify : Option Nat) (hdev : s.heap dev ≠ none) :
    Recorded (actions ++ [.setNotify dev notify]) (s.act (.setNotify dev notify)) := by
  refine ⟨by simp [act, h.opened], h.newest, fun d hd => ?_, fun d => ?_, h.given_other _ (by simp), fun d => ?_⟩
  · have hne : d ≠ dev := fun heq => hdev (by rw [← heq]; exact h.fresh d hd)
    simp only [act, Function.update_of_ne hne]
    exact h.fresh d hd
  · rw [kept_concat]
    by_cases hd : d = dev
    · subst hd
      simp [act, (h.kept d).mp hdev]
    · simp [act, Function.update_of_ne hd, h.kept]
  · rw [Told, History.since_concat]
    by_cases hd : d = dev
    · subst hd
      cases notify <;> simp [act]
    · simp only [act, Function.update_of_ne hd, h.told]
      simp [Told, Ne.symm hd]

theorem recorded_initial : Recorded [] {} := by
  refine ⟨rfl, rfl, fun d _ => rfl, fun d => ?_, fun d => ?_, fun d => ?_⟩
  · exact ⟨fun h => absurd rfl h, fun h => absurd h not_kept_nil⟩
  · exact ⟨fun h => (by cases h), fun h => absurd h not_given_nil⟩
  · exact ⟨fun ⟨_, h⟩ => (by cases h), fun h => absurd h History.not_since_nil⟩

/-- **The actions so far say what the state is.** -/
theorem recorded_run (actions : List DeviceAction) (hadmits : machine.Admits {} actions) :
    Recorded actions (machine.run {} actions) := by
  refine machine.tracks_run (R := Recorded) (fun h s a hallowed hrecorded => ?_) [] {} actions recorded_initial hadmits
  cases a with
  | allocate => exact hrecorded.allocate
  | connect => exact hrecorded.connect
  | free dev => exact hrecorded.free dev
  | setNotify dev notify => exact hrecorded.setNotify dev notify hallowed

/-! ### What is read off -/

theorem Recorded.latest (h : Recorded actions s) (d : Nat) : s.newest = some d ↔ Latest d actions := by
  rw [newest_eq_some, h.opened, Latest]

/-- The handlers have no device that is not made yet. -/
theorem Recorded.older (h : Recorded actions s) : s.mDevice ≠ some s.opened := by
  intro hdevice
  have hmade := ((h.given _).mp hdevice).made
  rw [h.opened] at hmade
  exact Nat.lt_irrefl _ hmade

end Devices
end GoodixFingerprint
