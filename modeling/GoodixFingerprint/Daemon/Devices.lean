import GoodixFingerprint.Daemon.Opens
import GoodixFingerprint.Daemon.Wire
import GoodixFingerprint.Machine.Ledger

/-! The devices as memory.

`openHal` allocates a device and `closeHal` frees one; in between every call of the HAL is
handed the pointer. Whatever is sent to the daemon, no device is freed twice or used after
it was freed. What can happen is that one is forgotten: an open over an open device
overwrites the only pointer to it, and those devices are all that is ever lost. -/
namespace GoodixFingerprint
open Binder

/-- What an effect is to the memory of the devices. -/
def Effect.entries : Effect → List (Ledger.Entry Device)
  | called (.init (some d)) _ => [.acquire d, .use d]
  | called call _ | queried call => (call.device.map .use).toList
  | free d => [.release d]
  | overwrite _ => []

namespace Daemon
variable {β : Type}
open GoodixFingerprintDaemonProxy Effect

def ledger (s : GoodixFingerprintDaemonProxy β) : List (Ledger.Entry Device) := s.effects.flatMap Effect.entries

/-- The ledger is lawful, and `mDevice` and these devices are what is outstanding. -/
structure Accounted (lost : List Device) (s : GoodixFingerprintDaemonProxy β) : Prop where
  lawful : History.Obeys Ledger.Lawful (ledger s)
  outstanding : Ledger.outstanding (ledger s) = s.mDevice.toList ++ lost
  acquired_allocated : ∀ d, .acquire d ∈ ledger s → d < s.allocated

theorem Accounted.held {lost : List Device} {s : GoodixFingerprintDaemonProxy β} (h : Accounted lost s) (d : Device)
    (hd : s.mDevice = some d) : Ledger.Held (ledger s) d := by
  rw [← Ledger.mem_outstanding _ h.lawful, h.outstanding, hd]
  exact List.mem_cons_self ..

/-- The device that was there is forgotten. -/
theorem accounted_opened (hal : Hal) (lost : List Device) (s : GoodixFingerprintDaemonProxy β) (h : Accounted lost s) :
    Accounted (s.mDevice.toList ++ lost) (s.opened hal) := by
  have hledger : ledger (s.opened hal) = ledger s ++ [.acquire s.allocated, .use s.allocated] := by
    rw [ledger, opened_eq, List.flatMap_append]
    rfl
  have hfresh : Ledger.Entry.acquire s.allocated ∉ ledger s := fun hmem =>
    Nat.lt_irrefl _ (h.acquired_allocated _ hmem)
  refine ⟨?_, ?_, fun d hd => ?_⟩
  · rw [hledger]
    refine (History.obeys_append Ledger.Lawful _ _).mpr ⟨h.lawful, hfresh, ?_, trivial⟩
    exact (Ledger.held_concat _ _ _).mpr (.inl rfl)
  · rw [hledger, Ledger.outstanding_append, h.outstanding, opened_eq]
    rfl
  · rw [hledger] at hd
    rw [opened_eq]
    rcases List.mem_append.mp hd with hd | hd
    · exact Nat.lt_succ_of_lt (h.acquired_allocated d hd)
    · simp only [List.mem_cons, Ledger.Entry.acquire.injEq, reduceCtorEq, List.not_mem_nil, or_false] at hd
      rw [hd]
      exact Nat.lt_succ_self _

/-- A close frees what `mDevice` is, and nothing that was forgotten. -/
theorem accounted_closed (hal : Hal) (lost : List Device) (s : GoodixFingerprintDaemonProxy β) (h : Accounted lost s) :
    Accounted lost (s.closed hal) := by
  rw [closed_eq]
  cases hd : s.mDevice with
  | none =>
    have hledger : (s.effects ++ closing hal none).flatMap Effect.entries = ledger s := by
      rw [List.flatMap_append]
      exact List.append_nil _
    have houtstanding := h.outstanding
    rw [hd] at houtstanding
    exact ⟨by rw [ledger, hledger]; exact h.lawful, by rw [ledger, hledger]; exact houtstanding,
      by rw [ledger, hledger]; exact h.acquired_allocated⟩
  | some d =>
    have hledger : (s.effects ++ closing hal (some d)).flatMap Effect.entries = ledger s ++ [.use d, .release d] := by
      rw [List.flatMap_append]
      rfl
    have hheld := h.held d hd
    refine ⟨?_, ?_, fun d' hd' => ?_⟩
    · rw [ledger, hledger]
      refine (History.obeys_append Ledger.Lawful _ _).mpr ⟨h.lawful, hheld, ?_, trivial⟩
      exact (Ledger.held_concat _ _ _).mpr (.inr ⟨hheld, by simp⟩)
    · rw [ledger, hledger, Ledger.outstanding_append, h.outstanding, hd]
      exact List.erase_cons_head ..
    · rw [ledger, hledger] at hd'
      exact h.acquired_allocated d' (by simpa using hd')

theorem entries_forwarded {e : Effect} (he : e.Forwarded) : e.entries = (e.device.map Ledger.Entry.use).toList := by
  cases e with
  | called call err =>
    cases call with
    | init => cases he.1
    | _ => rfl
  | queried call => rfl
  | free | overwrite => cases he

/-- What is passed on uses the device that `mDevice` is. -/
theorem accounted_forwarded (lost : List Device) (s : GoodixFingerprintDaemonProxy β) (h : Accounted lost s)
    (e : Effect) (he : e.Forwarded) (hdevice : ∀ d, e.device = some d → s.mDevice = some d) :
    Accounted lost (s.record e) := by
  have hledger : ledger (s.record e) = ledger s ++ (e.device.map Ledger.Entry.use).toList := by
    rw [ledger, record, List.flatMap_append, List.flatMap_singleton, entries_forwarded he]
    rfl
  cases hd : e.device with
  | none =>
    rw [hd] at hledger
    simp only [Option.map_none, Option.toList_none, List.append_nil] at hledger
    refine ⟨?_, ?_, fun d' hd' => ?_⟩
    · rw [hledger]
      exact h.lawful
    · rw [hledger]
      exact h.outstanding
    · rw [hledger] at hd'
      exact h.acquired_allocated d' hd'
  | some d =>
    rw [hd] at hledger
    refine ⟨?_, ?_, fun d' hd' => ?_⟩
    · rw [hledger]
      exact (History.obeys_append Ledger.Lawful _ _).mpr ⟨h.lawful, h.held d (hdevice d hd), trivial⟩
    · rw [hledger, Ledger.outstanding_append]
      exact h.outstanding
    · rw [hledger] at hd'
      exact h.acquired_allocated d' (by simpa using hd')

/-! ### Whole runs -/

variable [DecidableEq β]

/-- The device that an event makes the daemon forget. -/
def forgotten (p : Process (GoodixFingerprintDaemonProxy β)) : Event β → Option Device
  | .call .openHal _ => if p.alive then p.state.mDevice else none
  | _ => none

theorem accounted_next (lost : List Device) (p : Process (GoodixFingerprintDaemonProxy β)) (e : Event β)
    (h : Accounted lost p.state) : Accounted ((forgotten p e).toList ++ lost) (next p e).state := by
  cases e with
  | died b => exact ⟨h.1, h.2, h.3⟩
  | notice who hal =>
    cases hp : p.alive with
    | false => simpa [next, hp, forgotten] using h
    | true =>
      rw [next_notice p hp]
      by_cases htest : p.state.mTestCallback = some who
      · rw [notified_test hal who _ htest]
        exact ⟨h.1, h.2, h.3⟩
      · have hclosed := accounted_closed hal lost _ h
        rw [closed_eq] at hclosed
        rw [notified_other hal who _ htest]
        exact ⟨hclosed.1, hclosed.2, hclosed.3⟩
  | call r hal =>
    cases hp : p.alive with
    | false =>
      have hnothing : forgotten p (.call r hal) = none := by
        cases r with
        | openHal => simp [forgotten, hp]
        | _ => rfl
      rw [next_dead p hp, hnothing]
      exact h
    | true =>
      simp only [next, Process.invoke, hp, if_true]
      cases hcall : (goodixFingerprintDaemonProxy hal).call r p.state with
      | error fault =>
        cases r with
        | openHal => cases hcall
        | _ => exact h
      | ok out =>
        obtain ⟨v, s'⟩ := out
        have hchange := call_changes hal r p.state s' v hcall
        cases hchange with
        | opened =>
          simp only [forgotten, hp, if_true]
          exact accounted_opened hal lost _ h
        | registered b | testRegistered b => exact ⟨h.1, h.2, h.3⟩
        | closed => exact accounted_closed hal lost _ h
        | refused r hr =>
          cases r with
          | openHal => simp [Request.code] at hr
          | _ => exact h
        | forwarded r e hr he =>
          cases r with
          | openHal => simp [Request.code] at hr
          | _ => exact accounted_forwarded lost _ h e he (device_forwarded hal _ p.state v e hr hcall)

/-- The device that an arrival makes the daemon forget. -/
def Arrival.forgotten (p : Process (GoodixFingerprintDaemonProxy β)) (e : Arrival β) : Option Device :=
  e.event.bind (Daemon.forgotten p)

/-- The devices that a run makes the daemon forget, the latest first. -/
def forgottenBy (steps : List (Process (GoodixFingerprintDaemonProxy β) × Arrival β)) : List Device :=
  (steps.filterMap fun t => t.2.forgotten t.1).reverse

theorem accounted_receive (lost : List Device) (p : Process (GoodixFingerprintDaemonProxy β)) (e : Arrival β)
    (h : Accounted lost p.state) : Accounted ((e.forgotten p).toList ++ lost) (receive p e).state := by
  rw [receive_event, Arrival.forgotten]
  cases e.event with
  | none => exact h
  | some a => exact accounted_next lost p a h

theorem accounted_run (events : List (Arrival β)) :
    Accounted (forgottenBy (arrivals.steps initial events)) (arrivals.run (initial (β := β)) events).state := by
  apply arrivals.records_run (R := fun h p => Accounted (forgottenBy h) p.state) _ [] initial events
  · exact ⟨History.obeys_nil _, rfl, fun d hd => (by cases hd)⟩
  · intro h p e hp
    have hmore : forgottenBy (h ++ [(p, e)]) = (e.forgotten p).toList ++ forgottenBy h := by
      rw [forgottenBy, List.filterMap_append, List.reverse_append, forgottenBy]
      cases hlost : e.forgotten p with
      | none => simp [hlost]
      | some d => simp [hlost]
    rw [hmore]
    exact accounted_receive _ p e hp

/-- **The devices are memory-safe**: whatever arrives, each is allocated once, and used and freed
only while it is allocated and not freed. -/
theorem devices_memory_safe (events : List (Arrival β)) :
    History.Obeys Ledger.Lawful (ledger (arrivals.run (initial (β := β)) events).state) :=
  (accounted_run events).lawful

/-- **What leaks**: the devices that are allocated and not freed are the one in `mDevice` and
those that an open found there. -/
theorem devices_leaked (events : List (Arrival β)) :
    Ledger.outstanding (ledger (arrivals.run (initial (β := β)) events).state) =
      (arrivals.run (initial (β := β)) events).state.mDevice.toList ++ forgottenBy (arrivals.steps initial events) :=
  (accounted_run events).outstanding

end Daemon
end GoodixFingerprint
