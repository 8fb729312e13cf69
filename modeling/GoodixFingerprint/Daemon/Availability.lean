import GoodixFingerprint.Daemon.Arguments
import GoodixFingerprint.Daemon.Wire

/-! What kills the daemon.

Three branches hand on a pointer that the method dereferences untested: a registration
without a binder, and a path whose length is in range and which the parcel does not hold.
Whether a transaction kills is up to its bytes and its caller alone, not to the daemon's
state, so with a HAL that returns from every call the daemon lives exactly as long as no
such transaction arrives. -/
namespace GoodixFingerprint
open Binder

/-- The codes whose branch may dereference what is not there. -/
def Code.dereferences : Code → Bool
  | init | testInit | setActiveGroup => true
  | _ => false

namespace Daemon
variable {β : Type} [DecidableEq β]
open BnGoodixFingerprintDaemon GoodixFingerprintDaemonProxy

/-- A transaction that is let in, and whose pointer the parcel does not hold. -/
def Lethal : Arrival β → Prop
  | .transaction ctx _ code data =>
    ∃ c, Code.ofNumber code = some c ∧ c.dereferences = true ∧ (data.checkInterface descriptor).1 = true ∧
      (c.gated = true → checkPermission ctx halFingerprintPermission = true) ∧
      ¬ Supplied (data.checkInterface descriptor).2 c
  | _ => False

/-- A call crashes exactly if its pointer is not there. -/
theorem call_crashes_iff (hal : Hal) (data : Parcel β) (r : Request β) (hspan : Spanning data r)
    (s : GoodixFingerprintDaemonProxy β) :
    (∃ fault, (goodixFingerprintDaemonProxy hal).call r s = .error fault) ↔
      r.code.dereferences = true ∧ ¬ Present r := by
  cases r with
  | init callback =>
    cases callback with
    | none => exact ⟨fun _ => ⟨rfl, fun h => h rfl⟩, fun _ => ⟨_, rfl⟩⟩
    | some b => simp [call_init, Present]
  | testInit callback =>
    cases callback with
    | none => exact ⟨fun _ => ⟨rfl, fun h => h rfl⟩, fun _ => ⟨_, rfl⟩⟩
    | some b => simp [call_testInit, Present]
  | setActiveGroup groupId path pathLen =>
    have hsize := toNat_ssize pathLen
    rw [call_setActiveGroup]
    simp only [Request.code, Code.dereferences, Present, true_and]
    by_cases hlen : (pathMax : Int) ≤ pathLen.toInt ∨ pathLen.toInt ≤ 0
    · rw [if_pos hlen]
      simp only [reduceCtorEq, exists_false, false_iff, not_not]
      intro hpos hmax
      omega
    · rw [if_neg hlen]
      cases path with
      | none =>
        rw [memcpy, if_neg (by omega)]
        exact ⟨fun _ h => h (by omega) (by omega) rfl, fun _ => ⟨_, rfl⟩⟩
      | some bytes =>
        obtain ⟨hlength, -⟩ := hspan bytes rfl
        have hcopy : memcpy pathMax (some bytes) pathLen.toInt.toNat = .ok (bytes.take pathLen.toInt.toNat) :=
          memcpy_some_iff.mpr ⟨by omega, by omega, rfl⟩
        rw [hcopy]
        refine ⟨fun h => ?_, fun h => absurd (fun _ _ => Option.some_ne_none bytes) h⟩
        obtain ⟨fault, h⟩ := h
        cases h
  | enroll token tokenSize groupId timeout =>
    rw [call_enroll]
    refine ⟨fun h => ?_, fun h => (by cases h.1)⟩
    obtain ⟨fault, h⟩ := h
    split at h <;> cases h
  | _ =>
    refine ⟨fun h => ?_, fun h => (by cases h.1)⟩
    obtain ⟨fault, h⟩ := h
    cases h

/-- A call kills a live daemon exactly if it crashes. -/
theorem alive_call (p : Process (GoodixFingerprintDaemonProxy β)) (r : Request β) (hal : Hal) :
    (next p (.call r hal)).alive = true ↔
      p.alive = true ∧ ¬ ∃ fault, (goodixFingerprintDaemonProxy hal).call r p.state = .error fault := by
  cases hp : p.alive with
  | false => simp [next_dead p hp, hp]
  | true =>
    simp only [next, Process.invoke, hp, if_true, true_and]
    cases hcall : (goodixFingerprintDaemonProxy hal).call r p.state with
    | ok out => simp
    | error fault => simp

theorem alive_receive (p : Process (GoodixFingerprintDaemonProxy β)) (e : Arrival β) :
    (receive p e).alive = true ↔ p.alive = true ∧ ¬ Lethal e := by
  cases e with
  | died b => simp [receive, next, Lethal]
  | notice who hal =>
    cases hp : p.alive with
    | false => simp [receive, next, hp]
    | true => simp [receive, next, hp, Lethal]
  | transaction ctx hal code data =>
    have hlethal : Lethal (.transaction ctx hal code data) ↔
        ∃ r, requested ctx code data = some r ∧ r.code.dereferences = true ∧ ¬ Present r := by
      simp only [Lethal, requested_iff]
      constructor
      · intro h
        obtain ⟨c, hc, hderef, htoken, hperm, hsupplied⟩ := h
        have hcode := Code.decode_code ctx (data.checkInterface descriptor).2 c
        refine ⟨(c.decode ctx (data.checkInterface descriptor).2).1, ⟨?_, htoken, ?_, ?_⟩, ?_, ?_⟩
        · rw [hcode, hc]
        · rw [hcode]
          exact hperm
        · rw [hcode]
        · rw [hcode]
          exact hderef
        · rw [present_iff]
          exact hsupplied
      · intro h
        obtain ⟨r, ⟨hc, htoken, hperm, hdecode⟩, hderef, hpresent⟩ := h
        refine ⟨r.code, hc, hderef, htoken, hperm, ?_⟩
        rw [← present_iff ctx, hdecode]
        exact hpresent
    rw [receive_event, Arrival.event, hlethal]
    cases hr : requested ctx code data with
    | none => simp
    | some r =>
      obtain ⟨-, -, -, hdecode⟩ := (requested_iff ctx code data r).mp hr
      have hspan := spanning_decode ctx r.code (data.checkInterface descriptor).2 data
        (data.checkInterface_mData descriptor)
      rw [hdecode] at hspan
      rw [Option.map_some, Option.elim_some, alive_call, call_crashes_iff hal data r hspan]
      simp

theorem alive_run (p : Process (GoodixFingerprintDaemonProxy β)) (events : List (Arrival β)) :
    (arrivals.run p events).alive = true ↔ p.alive = true ∧ ∀ e ∈ events, ¬ Lethal e := by
  induction events generalizing p with
  | nil => simp [Machine.run]
  | cons e rest ih =>
    have hnext : (arrivals.next p e).alive = true ↔ p.alive = true ∧ ¬ Lethal e := alive_receive p e
    rw [Machine.run, ih, hnext, List.forall_mem_cons, and_assoc]

/-- **The daemon lives exactly as long as nothing lethal arrives**, and without the permission
nothing is lethal but a test callback that is null. -/
theorem alive_iff_nothing_lethal (events : List (Arrival β)) :
    ((arrivals.run (initial (β := β)) events).alive = true ↔ ∀ e ∈ events, ¬ Lethal e) ∧
      ∀ (ctx : Context β) hal code data, checkPermission ctx halFingerprintPermission = false →
        (Lethal (.transaction ctx hal code data) ↔ NullTestInit code data) := by
  refine ⟨?_, fun ctx hal code data hperm => ?_⟩
  · rw [alive_run]
    exact and_iff_right rfl
  · constructor
    · intro h
      obtain ⟨c, hc, hderef, htoken, hgated, hsupplied⟩ := h
      cases c with
      | testInit => exact ⟨hc, htoken, not_not.mp hsupplied⟩
      | init | setActiveGroup => exact absurd (hgated rfl) (by simp [hperm])
      | _ => cases hderef
    · intro h
      obtain ⟨hc, htoken, hnull⟩ := h
      exact ⟨.testInit, hc, rfl, htoken, fun h => (by cases h), not_not.mpr hnull⟩

end Daemon
end GoodixFingerprint
