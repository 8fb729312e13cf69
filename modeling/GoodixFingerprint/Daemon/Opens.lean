import GoodixFingerprint.Daemon.Lifecycle

/-! Opens that fail.

`openHal` stores the new device before it knows whether `gf_hal_init` accepts it, and
leaves it there when it does not. What is in `mDevice` is therefore an initialised device
exactly while no open has failed. -/
namespace GoodixFingerprint
open Binder

namespace Effect

/-- The device that an effect is about, if it is a call. -/
def device : Effect → Option Device
  | called call _ | queried call => call.device
  | _ => none

/-- A call passed on to the HAL is made on a device that is live. -/
def Working (before : List Effect) (e : Effect) : Prop := e.Forwarded → ∀ d, e.device = some d → Live before d

end Effect

namespace Daemon
variable {β : Type}
open GoodixFingerprintDaemonProxy Effect

/-- What `mDevice` holds has been initialised, and not exited. -/
def Clean (s : GoodixFingerprintDaemonProxy β) : Prop := ∀ d, s.mDevice = some d → Live s.effects d

/-- A new device is live after its open exactly if `gf_hal_init` accepts it. -/
theorem live_opening (hal : Hal) (s : GoodixFingerprintDaemonProxy β) (h : Numbered s) :
    Live (s.effects ++ opening hal s) s.allocated ↔ hal.error (.init (some s.allocated)) = gfSuccess := by
  have hfresh (call : HalCall) (err : Int32) (hsubject : (Effect.called call err).subject = some s.allocated) :
      Effect.called call err ∉ s.effects := fun hmem =>
    Nat.lt_irrefl _ (h.subject_allocated _ hmem _ hsubject)
  rw [Live, opening]
  simp only [List.mem_append, List.mem_cons, List.not_mem_nil, or_false, reduceCtorEq, false_or, called.injEq,
    true_and, not_or]
  constructor
  · intro h
    rcases h with ⟨hold | hnew, -⟩
    · exact absurd hold (hfresh _ _ rfl)
    · exact hnew.symm
  · intro hok
    exact ⟨.inr hok.symm, fun err => ⟨hfresh _ err rfl, fun hcall => hcall.1.elim⟩⟩

/-- Opening and closing pass nothing on. -/
theorem working_opening (hal : Hal) (s : GoodixFingerprintDaemonProxy β) :
    History.Continues Working s.effects (opening hal s) :=
  ⟨fun h => (by cases h), fun h => (by cases h.1), trivial⟩

theorem working_closing (hal : Hal) (before : List Effect) (dev : Option Device) :
    History.Continues Working before (closing hal dev) := by
  cases dev with
  | none => exact ⟨fun h => (by cases h.2), trivial⟩
  | some d => exact ⟨fun h => (by cases h.2), fun h => (by cases h), fun h => (by cases h), trivial⟩

variable [DecidableEq β]

/-- What is passed on is passed on `mDevice`, or on no device. -/
theorem call_device (hal : Hal) (r : Request β) (s s' : GoodixFingerprintDaemonProxy β) (v : r.Result)
    (hr : r.code ∉ [.init, .testInit, .openHal, .closeHal])
    (h : (goodixFingerprintDaemonProxy hal).call r s = .ok (v, s')) :
    s' = s ∨ ∃ e, s' = s.record e ∧ (e.device = s.mDevice ∨ e.device = none) := by
  cases r with
  | init | testInit | openHal | closeHal => simp [Request.code] at hr
  | screenOn | screenOff =>
    cases h
    exact .inr ⟨_, rfl, .inr rfl⟩
  | enroll token tokenSize groupId timeout =>
    rw [call_enroll] at h
    split at h
    · cases h
      exact .inl rfl
    · cases h
      exact .inr ⟨_, rfl, .inl rfl⟩
  | setActiveGroup groupId path pathLen =>
    rw [call_setActiveGroup] at h
    split at h
    · cases h
      exact .inl rfl
    · obtain ⟨bytes, -, h⟩ := bind_ok_iff.mp h
      cases h
      exact .inr ⟨_, rfl, .inl rfl⟩
  | _ =>
    cases h
    exact .inr ⟨_, rfl, .inl rfl⟩

theorem device_forwarded (hal : Hal) (r : Request β) (s : GoodixFingerprintDaemonProxy β) (v : r.Result) (e : Effect)
    (hr : r.code ∉ [.init, .testInit, .openHal, .closeHal])
    (h : (goodixFingerprintDaemonProxy hal).call r s = .ok (v, s.record e)) (d : Device) (hd : e.device = some d) :
    s.mDevice = some d := by
  rcases call_device hal r s _ v hr h with hsame | ⟨e', hrecord, hdevice⟩
  · have heffects := congrArg effects hsame
    simp [record] at heffects
  · have heffects := congrArg effects hrecord
    simp only [record, List.append_cancel_left_eq, List.cons.injEq, and_true] at heffects
    subst heffects
    rcases hdevice with hheld | hnone
    · rw [← hheld]
      exact hd
    · rw [hnone] at hd
      cases hd

/-! ### Whole runs -/

/-- An open finds a HAL that accepts the device. -/
def InitSucceeds (p : Process (GoodixFingerprintDaemonProxy β)) : Event β → Prop
  | .call .openHal hal => p.alive = true → hal.error (.init (some p.state.allocated)) = gfSuccess
  | _ => True

/-- An open that fails finds no working device to replace. -/
def SparesWorking (p : Process (GoodixFingerprintDaemonProxy β)) : Event β → Prop
  | .call .openHal hal =>
    p.alive = true → hal.error (.init (some p.state.allocated)) ≠ gfSuccess → ¬ HoldsLive p.state
  | _ => True

/-- In every state of the run `mDevice` is clean; all that is passed on is passed on a live
device, and no failing open replaces one. -/
structure FailuresClean (events : List (Event β)) : Prop where
  clean : ∀ a b, events = a ++ b → Clean (machine.run initial a).state
  working : History.Obeys Working (machine.run initial events).state.effects
  spared : ∀ t ∈ machine.steps initial events, SparesWorking t.1 t.2

structure CleanState (s : GoodixFingerprintDaemonProxy β) : Prop where
  clean : Clean s
  numbered : Numbered s
  working : History.Obeys Working s.effects

omit [DecidableEq β] in
theorem cleanState_closed (hal : Hal) (s : GoodixFingerprintDaemonProxy β) (hnumbered : Numbered s)
    (hworking : History.Obeys Working s.effects) (callback : Option β) (links : DeathLinks β) :
    CleanState {s with
      mDevice := none, mCallback := callback, links := links, effects := s.effects ++ closing hal s.mDevice} := by
  have hclosed := numbered_closed hal s hnumbered
  refine ⟨fun d hd => (by cases hd), hclosed.congr rfl rfl rfl, ?_⟩
  exact (History.obeys_append Working _ _).mpr ⟨hworking, working_closing hal _ _⟩

omit [DecidableEq β] in
/-- The open before may have left a device behind: only the new one counts. -/
theorem cleanState_opened (hal : Hal) (s : GoodixFingerprintDaemonProxy β) (hnumbered : Numbered s)
    (hworking : History.Obeys Working s.effects) (hinit : hal.error (.init (some s.allocated)) = gfSuccess) :
    CleanState (s.opened hal) := by
  have hopened := numbered_opened hal s hnumbered
  have hlive := (live_opening hal s hnumbered).mpr hinit
  rw [opened_eq] at hopened ⊢
  refine ⟨fun d hd => ?_, hopened, ?_⟩
  · cases hd
    exact hlive
  · exact (History.obeys_append Working _ _).mpr ⟨hworking, working_opening hal _⟩

omit [DecidableEq β] in
theorem cleanState_forwarded (s : GoodixFingerprintDaemonProxy β) (h : CleanState s) (e : Effect)
    (hsubject : e.subject = none) (hdevice : ∀ d, e.device = some d → s.mDevice = some d) :
    CleanState (s.record e) := by
  refine ⟨fun d hd => ?_, numbered_recorded s h.numbered e hsubject, ?_⟩
  · exact (live_append_of_subject _ _ hsubject d).mpr (h.clean d hd)
  · refine (History.obeys_concat Working _ _).mpr ⟨h.working, fun _ d hd => ?_⟩
    exact h.clean d (hdevice d hd)

theorem cleanState_next (p : Process (GoodixFingerprintDaemonProxy β)) (e : Event β) (hC : InitSucceeds p e)
    (h : CleanState p.state) : CleanState (next p e).state := by
  obtain ⟨hclean, hnumbered, hworking⟩ := h
  cases e with
  | call r hal =>
    cases hp : p.alive with
    | false =>
      rw [next_dead p hp]
      exact ⟨hclean, hnumbered, hworking⟩
    | true =>
      simp only [next, Process.invoke, hp, if_true]
      cases hcall : (goodixFingerprintDaemonProxy hal).call r p.state with
      | error fault => exact ⟨hclean, hnumbered, hworking⟩
      | ok out =>
        obtain ⟨v, s'⟩ := out
        have hchange := call_changes hal r p.state s' v hcall
        cases hchange with
        | registered b | testRegistered b => exact ⟨hclean, hnumbered.congr rfl rfl rfl, hworking⟩
        | refused => exact ⟨hclean, hnumbered, hworking⟩
        | opened => exact cleanState_opened hal _ hnumbered hworking (hC hp)
        | closed =>
          rw [closed_eq]
          exact cleanState_closed hal _ hnumbered hworking p.state.mCallback p.state.links
        | forwarded r e hr he =>
          exact cleanState_forwarded _ ⟨hclean, hnumbered, hworking⟩ e he.subject_none
            (device_forwarded hal r p.state v e hr hcall)
  | died b => exact ⟨hclean, hnumbered.congr rfl rfl rfl, hworking⟩
  | notice who hal =>
    cases hp : p.alive with
    | false => simpa [next, hp] using ⟨hclean, hnumbered, hworking⟩
    | true =>
      rw [next_notice p hp]
      by_cases htest : p.state.mTestCallback = some who
      · rw [notified_test hal who _ htest]
        exact ⟨hclean, hnumbered.congr rfl rfl rfl, hworking⟩
      · rw [notified_other hal who _ htest]
        exact cleanState_closed hal _ hnumbered hworking _ _

/-- An open that fails leaves its device behind. -/
theorem initSucceeds_of_clean (p : Process (GoodixFingerprintDaemonProxy β)) (e : Event β) (h : CleanState p.state)
    (hnext : Clean (next p e).state) : InitSucceeds p e := by
  cases e with
  | call r hal =>
    cases r with
    | openHal =>
      intro hp
      rw [next_open p hp, opened_eq] at hnext
      exact (live_opening hal _ h.numbered).mp (hnext _ rfl)
    | _ => trivial
  | died b => trivial
  | notice who hal => trivial

omit [DecidableEq β] in
theorem cleanState_initial : CleanState (initial (β := β)).state :=
  ⟨fun _ h => (by cases h), numbered_initial, History.obeys_nil Working⟩

/-- Every state of a run is clean exactly if no open of it fails. -/
theorem clean_iff (events : List (Event β)) :
    (∀ a b, events = a ++ b → Clean (machine.run initial a).state) ↔
      ∀ t ∈ machine.steps initial events, InitSucceeds t.1 t.2 :=
  machine.always_iff (C := InitSucceeds) (I := fun p => CleanState p.state) (P := fun p => Clean p.state)
    cleanState_next (fun _ h => h.clean) initSucceeds_of_clean initial events cleanState_initial

/-- **Failures leave the daemon clean exactly in runs without one**: as long as every open finds
a HAL that accepts the device, `mDevice` is live or `NULL`, and no failed device is used. -/
theorem failures_clean_iff (events : List (Event β)) :
    FailuresClean events ↔ ∀ t ∈ machine.steps initial events, InitSucceeds t.1 t.2 := by
  constructor
  · intro h
    exact (clean_iff events).mp h.clean
  · intro hC
    have hstate := machine.invariant_run (C := InitSucceeds) (I := fun p => CleanState p.state) cleanState_next
      initial events cleanState_initial hC
    refine ⟨(clean_iff events).mpr hC, hstate.working, fun t ht => ?_⟩
    have hinit := hC t ht
    rw [SparesWorking.eq_def]
    split
    · next hal he =>
      rw [he] at hinit
      exact fun hp hfails => absurd (hinit hp) hfails
    · trivial

/-- A HAL whose `gf_hal_init` fails, with `GF_ERROR_OPEN_DEVICE_FAILED`. -/
def uninitialising : Hal := ⟨fun call => if call.isInit then 1014 else gfSuccess, fun _ => 0⟩

/-- The device whose initialisation failed takes the place of one that works, and is used. -/
theorem failed_open_kept :
    (machine.run (initial (β := Nat)) [.call .openHal .succeeding, .call .openHal uninitialising,
      .call (.authenticate 1 0) .succeeding]).state.effects =
        [.overwrite none, .called (.init (some 0)) gfSuccess, .overwrite (some 0), .called (.init (some 1)) 1014,
          .called (.authenticate (some 1) 1 0) gfSuccess] ∧
    ¬ FailuresClean (β := Nat) [.call .openHal .succeeding, .call .openHal uninitialising,
      .call (.authenticate 1 0) .succeeding] := by
  refine ⟨by decide, fun h => ?_⟩
  have hfails := (clean_iff _).mp h.clean ({state := (initial (β := Nat)).state.opened .succeeding},
    .call .openHal uninitialising) ((machine.mem_steps _ _ _).mpr ⟨[.call .openHal .succeeding], _, rfl, rfl⟩) rfl
  exact absurd hfails (by decide)

end Daemon
end GoodixFingerprint
