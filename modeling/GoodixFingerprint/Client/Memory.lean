import GoodixFingerprint.Client.Survival

/-! The devices that the client has allocated.

`fingerprint_open` allocates a device before it looks for the service, and only a
`fingerprint_close` that returns 0 frees one. What is left is what was opened and not closed
with success since, whatever `fingerprint_open` returned. -/
namespace GoodixFingerprint
open Binder

namespace Client
variable (ctx : Context Nat)

/-- A `fingerprint_open` that makes the device `d`. -/
def Makes (d : Nat) (t : World × Arrival) : Prop :=
  t.1.crashed = false ∧ t.1.opened = d ∧ ∃ i, t.2 = .event (.fingerprintOpen true i)

/-- A `fingerprint_close` of the device `d` that returns 0. -/
def Releases (d : Nat) (t : World × Arrival) : Prop :=
  t.1.crashed = false ∧ ∃ i, t.2 = .event (.fingerprintClose (some d) i) ∧
    ∃ w, fingerprintClose ctx i (some d) t.1 = (.ok 0, w)

/-- A close succeeds exactly with a service. -/
theorem close_succeeds_iff (i : Interleaving) (dev : Nat) (w : World) :
    (∃ w', fingerprintClose ctx i (some dev) w = (.ok 0, w')) ↔ (w.served ctx i).gService ≠ none := by
  rw [fingerprintClose]
  simp only [bind_ok (getService_eq ctx i w)]
  cases (w.served ctx i).gService with
  | none =>
    refine ⟨?_, fun h => absurd rfl h⟩
    intro h
    obtain ⟨w', h⟩ := h
    cases h
  | some k =>
    simp only [bind_meanwhile, bind_closeHal, bind_modify, bind_setService]
    exact ⟨fun _ => Option.some_ne_none k, fun _ => ⟨_, rfl⟩⟩

/-- To be given to the handlers is nothing to a device. -/
theorem heap_connects (w : World) (i : Interleaving) (s : Devices) :
    (Devices.machine.run s (w.connects i)).heap = s.heap := by
  unfold World.connects
  split <;> rfl

/-- A device is freed only with a service. -/
theorem heap_frees (w : World) (i : Interleaving) (dev d : Nat) (s : Devices) :
    (Devices.machine.run s (w.frees ctx i dev)).heap d ≠ none ↔
      s.heap d ≠ none ∧ ¬ (dev = d ∧ (w.served ctx i).gService ≠ none) := by
  unfold World.frees
  split
  · next hnone => simp [Machine.run, hnone]
  · next hservice =>
    by_cases hd : d = dev
    · simp [Machine.run, Devices.machine, Devices.act, hd, hservice]
    · simp [Machine.run, Devices.machine, Devices.act, hd, Ne.symm hd]

theorem releases_close (w : World) (hw : w.crashed = false) (i : Interleaving) (dev d : Nat) :
    Releases ctx d (w, .event (.fingerprintClose (some dev) i)) ↔ dev = d ∧ (w.served ctx i).gService ≠ none := by
  rw [← close_succeeds_iff ctx i dev]
  constructor
  · intro h
    obtain ⟨-, i', he, hclose⟩ := h
    cases he
    exact ⟨rfl, hclose⟩
  · intro h
    obtain ⟨rfl, hclose⟩ := h
    exact ⟨hw, i, rfl, hclose⟩

/-- One step makes a device, or keeps those it does not free. -/
theorem heap_receive (d : Nat) (w : World) (e : Arrival) (henabled : (arrivals ctx).Enabled w e) :
    ((arrivals ctx).next w e).heap d ≠ none ↔ Makes d (w, e) ∨ w.heap d ≠ none ∧ ¬ Releases ctx d (w, e) := by
  have hheap : ((arrivals ctx).next w e).heap = (Devices.machine.run w.devices (arrivalActions ctx w e)).heap :=
    congrArg Devices.heap (devices_receive ctx w e)
  rw [hheap]
  cases e with
  | transaction peer code data => simp [arrivalActions, Machine.run, Client.devices, Makes, Releases]
  | event e =>
    cases hw : w.crashed with
    | true => simp [arrivalActions, actions, hw, Machine.run, Client.devices, Makes, Releases]
    | false =>
      simp only [arrivalActions, actions, hw, Bool.false_eq_true, if_false]
      cases e with
      | incident | message => simp [Machine.run, Client.devices, Makes, Releases]
      | binderDied k i => simp [heap_connects, Client.devices, Makes, Releases]
      | operation call i =>
        by_cases hrequest : call.request.isOk = true
        · simp [hrequest, heap_connects, Client.devices, Makes, Releases]
        · simp [hrequest, Machine.run, Client.devices, Makes, Releases]
      | fingerprintOpen device i =>
        cases device with
        | false => simp [Machine.run, Client.devices, Makes, Releases]
        | true =>
          rw [Machine.run, heap_connects]
          by_cases hd : d = w.opened
          · simp [Devices.machine, Devices.act, Client.devices, Makes, hw, hd]
          · simp [Devices.machine, Devices.act, Client.devices, Makes, Releases, hd, Ne.symm hd]
      | setNotify dev notify =>
        by_cases hd : d = dev
        · have hthere : w.heap dev ≠ none := henabled
          simp [Machine.run, Devices.machine, Devices.act, Client.devices, Makes, Releases, hd, hthere]
        · simp [Machine.run, Devices.machine, Devices.act, Client.devices, Makes, Releases, hd]
      | fingerprintClose dev i =>
        cases dev with
        | none => simp [Machine.run, Client.devices, Makes, Releases]
        | some dev =>
          rw [Devices.machine.run_append, heap_frees, heap_connects, releases_close ctx w hw]
          simp [Client.devices, Makes]

/-- **A device stays allocated from the `fingerprint_open` that makes it to the `fingerprint_close`
of it that returns 0.** -/
theorem devices_kept (events : List Arrival) (hadmits : (arrivals ctx).Admits initial events) (d : Nat) :
    ((arrivals ctx).run initial events).heap d ≠ none ↔
      History.Since (Makes d) (Releases ctx d) ((arrivals ctx).steps initial events) :=
  (arrivals ctx).latch_when (X := fun w => w.heap d ≠ none) (heap_receive ctx d) initial events (by simp [initial])
    hadmits

/-- No service is found, and the device stays. -/
def failedOpen : List Arrival := [.event (.fingerprintOpen true { found := none, hal := .succeeding })]

theorem devices_kept_failed_open :
    History.Since (Makes 0) (Releases (.granting true) 0) ((arrivals (.granting true)).steps initial failedOpen) :=
  (devices_kept (.granting true) failedOpen (by decide +kernel) 0).mp (by decide +kernel)

end Client
end GoodixFingerprint
