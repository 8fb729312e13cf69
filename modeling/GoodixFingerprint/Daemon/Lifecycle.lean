import GoodixFingerprint.Daemon.Run
import GoodixFingerprint.Machine.History

/-! The life of a device.

`Balanced` reads the daemon's effects in order: a device that `gf_hal_init` accepted is
live until `gf_hal_exit` is called on it, only a live device may be exited, and a live one
may be neither freed nor forgotten nor joined by another. The daemon tests none of this
before it acts, so it is left to the order of the calls: `Proper` is what each step needs. -/
namespace GoodixFingerprint
open Binder

namespace Effect

/-- The device that an effect starts or ends. -/
def subject : Effect → Option Device
  | called (.init dev) _ => dev
  | called (.exit dev) _ => dev
  | _ => none

/-- Initialised successfully, and not exited. -/
def Live (effects : List Effect) (d : Device) : Prop :=
  called (.init (some d)) gfSuccess ∈ effects ∧ ∀ err, called (.exit (some d)) err ∉ effects

/-- What an effect may do after those before it. -/
def Allowed (before : List Effect) : Effect → Prop
  | called (.init _) err => err = gfSuccess → ∀ d, ¬ Live before d
  | called (.exit dev) _ => ∃ d, dev = some d ∧ Live before d
  | free d => ¬ Live before d
  | overwrite (some d) => ¬ Live before d
  | _ => True

/-- Every effect is allowed where it stands. -/
def Balanced (effects : List Effect) : Prop := History.Obeys Allowed effects

/-- An effect that starts and ends no device leaves the live ones as they are. -/
theorem live_append_of_subject (before : List Effect) (e : Effect) (he : e.subject = none) (d : Device) :
    Live (before ++ [e]) d ↔ Live before d := by
  have hinit : Effect.called (.init (some d)) gfSuccess ≠ e := by rintro rfl; cases he
  have hexit (err : Int32) : Effect.called (.exit (some d)) err ≠ e := by rintro rfl; cases he
  simp [Live, hinit, hexit]

theorem not_live_exited (before : List Effect) (d : Device) (err : Int32) :
    ¬ Live (before ++ [called (.exit (some d)) err]) d := fun h =>
  h.2 err (List.mem_append_right _ (List.mem_singleton.mpr rfl))

theorem live_exited (before : List Effect) (dev : Option Device) (err : Int32) (d : Device)
    (h : Live (before ++ [called (.exit dev) err]) d) : Live before d := by
  obtain ⟨hinit, hexit⟩ := h
  refine ⟨?_, fun err' hmem => hexit err' (List.mem_append_left _ hmem)⟩
  simpa using hinit

theorem live_initialised (before : List Effect) (new d : Device) (err : Int32)
    (h : Live (before ++ [called (.init (some new)) err]) d) : d = new ∨ Live before d := by
  obtain ⟨hinit, hexit⟩ := h
  rcases List.mem_append.mp hinit with hbefore | hnew
  · exact .inr ⟨hbefore, fun err' hmem => hexit err' (List.mem_append_left _ hmem)⟩
  · left
    simp only [List.mem_singleton, called.injEq, HalCall.init.injEq, Option.some.injEq] at hnew
    exact hnew.1

theorem Forwarded.subject_none {e : Effect} (he : e.Forwarded) : e.subject = none := by
  unfold Forwarded at he
  cases e with
  | called call err =>
    cases call with
    | init | exit => simp [HalCall.isInit, HalCall.isExit] at he
    | _ => rfl
  | queried | free | overwrite => rfl

theorem Forwarded.allowed {e : Effect} (he : e.Forwarded) (before : List Effect) : Allowed before e := by
  unfold Forwarded at he
  cases e with
  | called call err =>
    cases call with
    | init | exit => simp [HalCall.isInit, HalCall.isExit] at he
    | _ => trivial
  | queried => trivial
  | free | overwrite => cases he

end Effect

namespace Daemon
variable {β : Type}
open GoodixFingerprintDaemonProxy Effect

/-- `mDevice` is a live device. -/
def HoldsLive (s : GoodixFingerprintDaemonProxy β) : Prop := ∃ d, s.mDevice = some d ∧ Live s.effects d

/-- Devices in `mDevice` or ever started or ended have been allocated. -/
structure Numbered (s : GoodixFingerprintDaemonProxy β) : Prop where
  device_allocated : ∀ d, s.mDevice = some d → d < s.allocated
  subject_allocated : ∀ e ∈ s.effects, ∀ d, e.subject = some d → d < s.allocated

/-- Only the device, the allocator and the effects matter. -/
theorem Numbered.congr {s s' : GoodixFingerprintDaemonProxy β} (h : Numbered s) (hdevice : s'.mDevice = s.mDevice)
    (hallocated : s'.allocated = s.allocated) (heffects : s'.effects = s.effects) : Numbered s' := by
  obtain ⟨hheld, hsubject⟩ := h
  refine ⟨?_, ?_⟩
  · rw [hdevice, hallocated]
    exact hheld
  · rw [heffects, hallocated]
    exact hsubject

/-- Closing ends the device that is closed. -/
theorem subject_closing (hal : Hal) (dev : Option Device) (e : Effect) (he : e ∈ closing hal dev) (d : Device)
    (hd : e.subject = some d) : dev = some d := by
  cases dev with
  | none =>
    rw [closing, List.mem_singleton] at he
    subst he
    cases hd
  | some held =>
    simp only [closing, List.mem_cons, List.not_mem_nil, or_false] at he
    rcases he with rfl | rfl | rfl
    · exact hd
    · cases hd
    · cases hd

theorem numbered_closed (hal : Hal) (s : GoodixFingerprintDaemonProxy β) (h : Numbered s) :
    Numbered {s with mDevice := none, effects := s.effects ++ closing hal s.mDevice} := by
  refine ⟨fun _ hd => (by cases hd), fun e he d hd => ?_⟩
  rcases List.mem_append.mp he with he | he
  · exact h.subject_allocated e he d hd
  · exact h.device_allocated d (subject_closing hal s.mDevice e he d hd)

theorem numbered_opened (hal : Hal) (s : GoodixFingerprintDaemonProxy β) (h : Numbered s) :
    Numbered (s.opened hal) := by
  rw [opened_eq]
  refine ⟨fun d hd => ?_, fun e he d hd => ?_⟩
  · cases hd
    exact Nat.lt_succ_self _
  · rcases List.mem_append.mp he with he | he
    · exact Nat.lt_succ_of_lt (h.subject_allocated e he d hd)
    · simp only [opening, List.mem_cons, List.not_mem_nil, or_false] at he
      rcases he with rfl | rfl
      · cases hd
      · cases hd
        exact Nat.lt_succ_self _

/-- A record that starts and ends no device. -/
theorem numbered_recorded (s : GoodixFingerprintDaemonProxy β) (h : Numbered s) (e : Effect)
    (he : e.subject = none) : Numbered (s.record e) := by
  refine ⟨h.device_allocated, fun e' he' d hd => ?_⟩
  rcases List.mem_append.mp he' with he' | he'
  · exact h.subject_allocated e' he' d hd
  · rw [List.mem_singleton.mp he', he] at hd
    cases hd

theorem numbered_initial : Numbered (initial (β := β)).state :=
  ⟨fun _ h => (by cases h), fun _ h => (by cases h)⟩

/-- The devices are numbered, and what is live is in `mDevice`. -/
structure Tracked (s : GoodixFingerprintDaemonProxy β) : Prop extends Numbered s where
  live_held : ∀ d, Live s.effects d → s.mDevice = some d

theorem tracked_initial : Tracked (initial (β := β)).state where
  toNumbered := numbered_initial
  live_held := fun _ h => by cases h.1

theorem Tracked.congr {s s' : GoodixFingerprintDaemonProxy β} (h : Tracked s) (hdevice : s'.mDevice = s.mDevice)
    (hallocated : s'.allocated = s.allocated) (heffects : s'.effects = s.effects) : Tracked s' := by
  refine ⟨h.toNumbered.congr hdevice hallocated heffects, ?_⟩
  rw [heffects, hdevice]
  exact h.live_held

theorem balanced_opening (hal : Hal) (s : GoodixFingerprintDaemonProxy β) (h : Tracked s) :
    History.Continues Allowed s.effects (opening hal s) ↔ ¬ HoldsLive s := by
  have hsame (d : Device) : Live (s.effects ++ [.overwrite s.mDevice]) d ↔ Live s.effects d :=
    live_append_of_subject _ _ rfl d
  unfold HoldsLive opening
  simp only [History.Continues, Allowed, hsame, and_true]
  constructor
  · rintro ⟨hover, -⟩ ⟨d, hd, hlive⟩
    rw [hd] at hover
    exact hover hlive
  · intro hnone
    refine ⟨?_, fun _ d hlive => hnone ⟨d, h.live_held d hlive, hlive⟩⟩
    cases hd : s.mDevice with
    | none => trivial
    | some d => exact fun hlive => hnone ⟨d, hd, hlive⟩

theorem balanced_closing (hal : Hal) (s : GoodixFingerprintDaemonProxy β) :
    History.Continues Allowed s.effects (closing hal s.mDevice) ↔ HoldsLive s := by
  unfold HoldsLive closing
  cases hd : s.mDevice with
  | none => simp [History.Continues, Allowed]
  | some d =>
    have hexited := not_live_exited s.effects d (hal.error (.exit (some d)))
    have hfreed := (live_append_of_subject
      (s.effects ++ [.called (.exit (some d)) (hal.error (.exit (some d)))]) (.free d) rfl d).not.mpr hexited
    simp only [History.Continues, Allowed, hexited, hfreed, not_false_eq_true, and_true]

/-- An open that loses no live device leaves at most the new one live. -/
theorem tracked_opened (hal : Hal) (s : GoodixFingerprintDaemonProxy β) (h : Tracked s)
    (hnone : ¬ HoldsLive s) : Tracked (s.opened hal) := by
  refine ⟨numbered_opened hal s h.toNumbered, fun d hlive => ?_⟩
  simp only [opened_eq, opening] at hlive ⊢
  rw [← List.singleton_append, ← List.append_assoc] at hlive
  rcases live_initialised _ _ _ _ hlive with rfl | hold
  · rfl
  · rw [live_append_of_subject _ _ rfl] at hold
    exact absurd ⟨d, h.live_held d hold, hold⟩ hnone

/-- A close leaves nothing live. -/
theorem not_live_closing (hal : Hal) (s : GoodixFingerprintDaemonProxy β) (h : Tracked s) (d : Device) :
    ¬ Live (s.effects ++ closing hal s.mDevice) d := by
  intro hlive
  have hexited : Live (s.effects ++ [.called (.exit s.mDevice) (hal.error (.exit s.mDevice))]) d := by
    unfold closing at hlive
    cases hd : s.mDevice with
    | none => rwa [hd] at hlive
    | some held =>
      rw [hd] at hlive
      rw [show s.effects ++ _ = ((s.effects ++ [.called (.exit (some held)) (hal.error (.exit (some held)))]) ++
        [.free held]) ++ [.overwrite (some held)] by simp] at hlive
      rwa [live_append_of_subject _ _ rfl, live_append_of_subject _ _ rfl] at hlive
  rw [h.live_held d (live_exited _ _ _ _ hexited)] at hexited
  exact not_live_exited _ _ _ hexited

theorem tracked_closed (hal : Hal) (s : GoodixFingerprintDaemonProxy β) (h : Tracked s) :
    Tracked {s with mDevice := none, effects := s.effects ++ closing hal s.mDevice} where
  toNumbered := numbered_closed hal s h.toNumbered
  live_held := fun d hlive => absurd hlive (not_live_closing hal s h d)

theorem tracked_forwarded (s : GoodixFingerprintDaemonProxy β) (h : Tracked s) (e : Effect)
    (he : e.Forwarded) : Tracked (s.record e) where
  toNumbered := numbered_recorded s h.toNumbered e he.subject_none
  live_held := fun d hlive => h.live_held d ((live_append_of_subject _ _ he.subject_none d).mp hlive)

/-! ### What each step needs -/

variable [DecidableEq β]

/-- A device is opened only when none is live, and closed only when one is. -/
def Proper (p : Process (GoodixFingerprintDaemonProxy β)) : Event β → Prop
  | .call .openHal _ => p.alive = true → ¬ HoldsLive p.state
  | .call .closeHal _ => p.alive = true → HoldsLive p.state
  | .notice who _ => p.alive = true → p.state.mTestCallback = some who ∨ HoldsLive p.state
  | _ => True

/-- Balanced so far, and tracked. -/
def BalancedState (p : Process (GoodixFingerprintDaemonProxy β)) : Prop :=
  Balanced p.state.effects ∧ Tracked p.state

/-- A proper step keeps the balance. -/
theorem balanced_next (p : Process (GoodixFingerprintDaemonProxy β)) (e : Event β) (hC : Proper p e)
    (h : BalancedState p) : BalancedState (next p e) := by
  obtain ⟨hbal, htrack⟩ := h
  cases e with
  | call r hal =>
    rcases next_call p r hal with hsame | ⟨hp, hchange⟩
    · rw [BalancedState, hsame]
      exact ⟨hbal, htrack⟩
    · unfold BalancedState
      revert hchange
      generalize (next p (.call r hal)).state = s'
      intro hchange
      cases hchange with
      | registered b | testRegistered b => exact ⟨hbal, htrack.congr rfl rfl rfl⟩
      | refused => exact ⟨hbal, htrack⟩
      | opened =>
        refine ⟨?_, tracked_opened hal _ htrack (hC hp)⟩
        rw [opened_eq]
        exact (History.obeys_append Allowed _ _).mpr ⟨hbal, (balanced_opening hal _ htrack).mpr (hC hp)⟩
      | closed =>
        rw [closed_eq]
        exact ⟨(History.obeys_append Allowed _ _).mpr ⟨hbal, (balanced_closing hal _).mpr (hC hp)⟩,
          tracked_closed hal _ htrack⟩
      | forwarded r e hr he =>
        exact ⟨(History.obeys_append Allowed _ _).mpr ⟨hbal, he.allowed _, trivial⟩, tracked_forwarded _ htrack e he⟩
  | died b => exact ⟨hbal, htrack.congr rfl rfl rfl⟩
  | notice who hal =>
    cases hp : p.alive with
    | false => simpa [BalancedState, next, hp] using ⟨hbal, htrack⟩
    | true =>
      rw [BalancedState, next_notice p hp]
      by_cases htest : p.state.mTestCallback = some who
      · rw [notified_test hal who _ htest]
        exact ⟨hbal, htrack.congr rfl rfl rfl⟩
      · have hlive := (hC hp).resolve_left htest
        rw [notified_other hal who _ htest]
        exact ⟨(History.obeys_append Allowed _ _).mpr ⟨hbal, (balanced_closing hal _).mpr hlive⟩,
          (tracked_closed hal _ htrack).congr rfl rfl rfl⟩

/-- Only a proper step keeps the balance. -/
theorem proper_of_balanced (p : Process (GoodixFingerprintDaemonProxy β)) (e : Event β)
    (htrack : Tracked p.state) (hbal : Balanced (next p e).state.effects) : Proper p e := by
  cases e with
  | call r hal =>
    cases r with
    | openHal =>
      intro hp
      rw [next_open p hp, opened_eq] at hbal
      exact (balanced_opening hal _ htrack).mp ((History.obeys_append Allowed _ _).mp hbal).2
    | closeHal =>
      intro hp
      rw [next_close p hp, closed_eq] at hbal
      exact (balanced_closing hal _).mp ((History.obeys_append Allowed _ _).mp hbal).2
    | _ => trivial
  | died b => trivial
  | notice who hal =>
    intro hp
    by_cases htest : p.state.mTestCallback = some who
    · exact .inl htest
    · rw [next_notice p hp, notified_other hal who _ htest] at hbal
      exact .inr ((balanced_closing hal _).mp ((History.obeys_append Allowed _ _).mp hbal).2)

/-! ### Whole runs -/

theorem balanced_run_from (p : Process (GoodixFingerprintDaemonProxy β)) (h : BalancedState p)
    (events : List (Event β)) :
    Balanced (machine.run p events).state.effects ↔ ∀ t ∈ machine.steps p events, Proper t.1 t.2 := by
  constructor
  · intro hbal
    induction events generalizing p with
    | nil => intro t ht; cases ht
    | cons e rest ih =>
      obtain ⟨more, hmore⟩ := effects_run (next p e) rest
      have hnext : Balanced (next p e).state.effects := by
        rw [show (machine.run p (e :: rest)).state.effects = _ from hmore.symm] at hbal
        exact ((History.obeys_append Allowed _ _).mp hbal).1
      have hproper := proper_of_balanced p e h.2 hnext
      intro t ht
      rcases List.mem_cons.mp ht with rfl | ht
      · exact hproper
      · exact ih _ (balanced_next p e hproper h) hbal t ht
  · intro hproper
    exact (machine.invariant_run (C := Proper) balanced_next p events h hproper).1

/-- **The device's life is balanced exactly in proper runs**: every open finds no live
device, and every close, also that of a notice, finds one. -/
theorem balanced_iff (events : List (Event β)) :
    Balanced (machine.run initial events).state.effects ↔
      ∀ t ∈ machine.steps initial events, Proper t.1 t.2 :=
  balanced_run_from initial ⟨History.obeys_nil Allowed, tracked_initial⟩ events

/-- Opened twice, the first device is forgotten while it is live. -/
theorem opened_twice_unbalanced :
    machine.Admits (initial (β := Nat))
      [.call (.init (some 0)) .succeeding, .call .openHal .succeeding, .call .openHal .succeeding] ∧
    ¬ Balanced (machine.run (initial (β := Nat))
      [.call (.init (some 0)) .succeeding, .call .openHal .succeeding, .call .openHal .succeeding]).state.effects := by
  refine ⟨by decide, fun hbal => ?_⟩
  have heffects : (machine.run (initial (β := Nat))
      [.call (.init (some 0)) .succeeding, .call .openHal .succeeding, .call .openHal .succeeding]).state.effects =
      [.overwrite none, .called (.init (some 0)) gfSuccess, .overwrite (some 0),
        .called (.init (some 1)) gfSuccess] := by decide
  rw [heffects] at hbal
  have hforgotten := hbal [.overwrite none, .called (.init (some 0)) gfSuccess] (.overwrite (some 0)) _ rfl
  exact hforgotten ⟨by decide, fun err => by simp⟩

end Daemon
end GoodixFingerprint
