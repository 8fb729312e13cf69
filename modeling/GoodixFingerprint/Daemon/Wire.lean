import GoodixFingerprint.Daemon.Noninterference
import GoodixFingerprint.Machine.Trace

/-! The daemon behind the wire.

Whatever bytes arrive, the daemon is taken through a run of method calls: a transaction is
the call that the stub decodes from it, or nothing. `Arrival.event` is that reading, and
`Event.arrival` the way back for the requests that a proxy writes. -/
namespace GoodixFingerprint
open Binder

namespace Daemon
variable {β : Type} [DecidableEq β]
open BnGoodixFingerprintDaemon

/-- The request that a transaction is served as, if the stub lets it in. -/
def requested (ctx : Context β) (code : UInt32) (data : Parcel β) : Option (Request β) :=
  match Code.ofNumber code with
  | some c =>
    if (data.checkInterface descriptor).1 && (!c.gated || checkPermission ctx halFingerprintPermission) then
      some (c.decode ctx (data.checkInterface descriptor).2).1
    else none
  | none => none

/-- What an arrival is to the daemon, if anything. -/
def Arrival.event : Arrival β → Option (Event β)
  | .transaction ctx hal code data => (requested ctx code data).map fun r => .call r hal
  | .died b => some (.died b)
  | .notice who hal => some (.notice who hal)

omit [DecidableEq β] in
/-- A request is served only with the token, and one that is gated only with the permission. -/
theorem requested_iff (ctx : Context β) (code : UInt32) (data : Parcel β) (r : Request β) :
    requested ctx code data = some r ↔
      Code.ofNumber code = some r.code ∧ (data.checkInterface descriptor).1 = true ∧
        (r.code.gated = true → checkPermission ctx halFingerprintPermission = true) ∧
        (r.code.decode ctx (data.checkInterface descriptor).2).1 = r := by
  unfold requested
  cases hc : Code.ofNumber code with
  | none => simp
  | some c =>
    constructor
    · intro h
      obtain ⟨hadmits, h⟩ := Option.ite_none_right_eq_some.mp h
      have hcode : r.code = c := by
        rw [← Option.some.inj h]
        exact Code.decode_code ctx _ c
      simp only [Bool.and_eq_true, Bool.or_eq_true, Bool.not_eq_true'] at hadmits
      refine ⟨by rw [hcode], hadmits.1, fun hgated => ?_, ?_⟩
      · rw [hcode] at hgated
        exact hadmits.2.resolve_left (by simp [hgated])
      · rw [hcode]
        exact Option.some.inj h
    · intro h
      obtain ⟨hcode, htoken, hperm, hdecode⟩ := h
      cases hcode
      refine Option.ite_none_right_eq_some.mpr ⟨?_, by rw [hdecode]⟩
      simp only [Bool.and_eq_true, Bool.or_eq_true, Bool.not_eq_true']
      exact ⟨htoken, (Bool.eq_false_or_eq_true r.code.gated).symm.imp id hperm⟩

/-- An arrival is its event to the daemon. -/
theorem receive_event (p : Process (GoodixFingerprintDaemonProxy β)) (e : Arrival β) :
    receive p e = e.event.elim p (next p) := by
  cases e with
  | died b => rfl
  | notice who hal => rfl
  | transaction ctx hal code data =>
    rw [receive_transaction, Arrival.event, requested]
    cases Code.ofNumber code with
    | none => rfl
    | some c =>
      have hadmits : Admits (goodixFingerprintDaemonProxy hal) ctx data c =
        ((data.checkInterface descriptor).1 && (!c.gated || checkPermission ctx halFingerprintPermission)) := rfl
      simp only [hadmits]
      cases (data.checkInterface descriptor).1 && (!c.gated || checkPermission ctx halFingerprintPermission) with
      | false => rfl
      | true => rfl

theorem run_arrivals (p : Process (GoodixFingerprintDaemonProxy β)) (events : List (Arrival β)) :
    arrivals.run p events = machine.run p (events.filterMap Arrival.event) :=
  arrivals.run_filterMap machine Arrival.event receive_event p events

/-- Notices are the only events that have to be enabled. -/
theorem enabled_event (p : Process (GoodixFingerprintDaemonProxy β)) (e : Arrival β) :
    arrivals.Enabled p e ↔ ∀ a, e.event = some a → machine.Enabled p a := by
  cases e with
  | died b => simp [arrivals, machine, Arrival.event, Enabled]
  | notice who hal => simp [arrivals, machine, Arrival.event]
  | transaction ctx hal code data =>
    refine ⟨fun _ a ha => ?_, fun _ => trivial⟩
    obtain ⟨r, -, rfl⟩ := Option.map_eq_some_iff.mp ha
    trivial

theorem admits_arrivals (p : Process (GoodixFingerprintDaemonProxy β)) (events : List (Arrival β)) :
    arrivals.Admits p events ↔ machine.Admits p (events.filterMap Arrival.event) := by
  induction events generalizing p with
  | nil => exact ⟨fun _ => machine.admits_nil p, fun _ => arrivals.admits_nil p⟩
  | cons e rest ih =>
    have hnext : arrivals.next p e = e.event.elim p (next p) := receive_event p e
    rw [arrivals.admits_cons, ih, enabled_event, hnext, List.filterMap_cons]
    cases e.event with
    | none => simp
    | some a =>
      rw [machine.admits_cons]
      simp only [Option.some.injEq, forall_eq', Option.elim_some]
      rfl

/-! ### The way back -/

/-- An event as it arrives: a call as the transaction that the proxy writes. -/
def Event.arrival (ctx : Context β) : Event β → Arrival β
  | .call r hal => .transaction ctx hal r.code.number r.parcel
  | .died b => .died b
  | .notice who hal => .notice who hal

/-- Calls whose pointers span their lengths. -/
def Event.Fits : Event β → Prop
  | .call r _ => r.Fits
  | _ => True

theorem receive_arrival (ctx : Context β) (hperm : checkPermission ctx halFingerprintPermission = true)
    (p : Process (GoodixFingerprintDaemonProxy β)) (e : Event β) (he : e.Fits) :
    receive p (e.arrival ctx) = next p e := by
  cases e with
  | died b => rfl
  | notice who hal => rfl
  | call r hal => exact receive_written p ctx hal r he fun _ => hperm

/-- What a permitted caller's proxy writes, the daemon is taken through. -/
theorem run_written (ctx : Context β) (hperm : checkPermission ctx halFingerprintPermission = true)
    (p : Process (GoodixFingerprintDaemonProxy β)) (events : List (Event β)) (hfits : ∀ e ∈ events, e.Fits) :
    arrivals.run p (events.map (Event.arrival ctx)) = machine.run p events := by
  induction events generalizing p with
  | nil => rfl
  | cons e rest ih =>
    rw [List.forall_mem_cons] at hfits
    have hnext : arrivals.next p (e.arrival ctx) = next p e := receive_arrival ctx hperm p e hfits.1
    rw [List.map_cons, Machine.run, hnext]
    exact ih _ hfits.2

/-- **Transactions refine method calls**: whatever arrives, in whatever bytes, the daemon is taken
through the calls that the stub decodes, in order, and the notices are on time in the one run
exactly if they are in the other. And any calls can be made in this way: those that a
permitted caller's proxy writes are the calls that are made. -/
theorem transactions_refine_calls (p : Process (GoodixFingerprintDaemonProxy β)) (events : List (Arrival β)) :
    arrivals.run p events = machine.run p (events.filterMap Arrival.event) ∧
      (arrivals.Admits p events ↔ machine.Admits p (events.filterMap Arrival.event)) ∧
      ∀ (ctx : Context β) (calls : List (Event β)), checkPermission ctx halFingerprintPermission = true →
        (∀ e ∈ calls, e.Fits) → arrivals.run p (calls.map (Event.arrival ctx)) = machine.run p calls :=
  ⟨run_arrivals p events, admits_arrivals p events, fun ctx calls hperm hfits => run_written ctx hperm p calls hfits⟩

/-- A permitted client registers, opens the device and enrols with a token, all by transactions. -/
theorem transactions_refine_calls_enrolling :
    arrivals.run (initial (β := Nat)) ([.call (.init (some 0)) .succeeding, .call .openHal .succeeding,
      .call (.enroll (some (List.replicate 69 1)) 69 5 60) .succeeding].map (Event.arrival (.granting true))) =
    machine.run initial [.call (.init (some 0)) .succeeding, .call .openHal .succeeding,
      .call (.enroll (some (List.replicate 69 1)) 69 5 60) .succeeding] := by
  have hrefine := transactions_refine_calls (initial (β := Nat)) []
  refine hrefine.2.2 (.granting true) _ rfl ?_
  intro e he
  simp only [List.mem_cons, List.not_mem_nil, or_false] at he
  rcases he with rfl | rfl | rfl
  · trivial
  · trivial
  · exact ⟨List.replicate 69 1, rfl, by decide, rfl⟩

end Daemon
end GoodixFingerprint
