import GoodixFingerprint.Client.Operations
import GoodixFingerprint.Client.Target

/-! What a failed `fingerprint_open` leaves behind.

`fingerprint_open` stores the new device before it looks for the service, and hands it to
the callbacks only if the service has to be looked for. So it does what it should, all or
nothing, exactly if there was no service and one is now bound. -/
namespace GoodixFingerprint
open Binder

namespace Client
variable (ctx : Context Nat) (i : Interleaving)

/-- Neither is a device in use nor would one be by a reconnect. -/
def Unreferenced (w : World) (dev : Nat) : Prop :=
  w.gDevice ≠ some dev ∧ w.mDevice ≠ some dev ∧ ∀ i k, (w.connected ctx i k).mDevice ≠ some dev

/-- With an error nothing has changed and what was allocated is out of reach; without one the new
device is the client's and the callbacks'. -/
def Atomic (device : Bool) (w : World) : Prop :=
  ∀ ret out w', fingerprintOpen ctx i device w = (.ok (ret, out), w') →
    (ret ≠ 0 → w'.gDevice = w.gDevice ∧ w'.mDevice = w.mDevice ∧ w'.gService = w.gService ∧ out = none ∧
      ∀ dev, w.opened ≤ dev → dev < w'.opened → Unreferenced ctx w' dev) ∧
    (ret = 0 → w'.gDevice = some w.opened ∧ w'.mDevice = some w.opened)

/-- There is no service, and one is found that can be opened, as far as the client will know. -/
def Opens (w : World) : Prop :=
  w.gService = none ∧ ∃ k, i.found = some k ∧
    (w.Heard ctx i k → i.hal.error (.init (some (w.daemons k).state.1.allocated)) = gfSuccess)

/-- What `fingerprint_open` returns, and the world it leaves. -/
theorem fingerprintOpen_run (w : World) :
    fingerprintOpen ctx i true w = (.ok (if (w.allocate.served ctx i).gService = none then invalidArgument else 0,
      some w.opened), w.allocate.served ctx i) := by
  rw [fingerprintOpen]
  simp only [Bool.not_true, Bool.false_eq_true, if_false, bind_get, bind_modify, bind_ok (getService_eq ctx i _)]
  cases (w.allocate.served ctx i).gService <;> rfl

/-! ### Whether the service is bound -/

end Client

namespace World
variable (ctx : Context Nat) (i : Interleaving)

theorem state_greeting (j k : Nat) (w : World) :
    (((w.linked i k).greeting i).daemons j).state = (w.daemons j).state := by
  rw [greeting, state_pass]
  show (((w.withService (some k)).pass i.beforeLink).daemons j).state = _
  rw [state_pass]
  rfl

/-- An incarnation that hears the client allocates nothing before it is asked to open. -/
theorem allocated_introduced (k : Nat) (w : World) (h : w.Heard ctx i k) :
    ((((w.linked i k).greeting i).introduced ctx i k (w.linked i k).callbacks).daemons k).state.1.allocated =
      (w.daemons k).state.1.allocated := by
  obtain ⟨-, hstate, -⟩ := asked_heard ctx i.hal h.1 k (.init (some (w.linked i k).callbacks)) trivial _
    h.lives_greeting (GoodixFingerprintDaemonProxy.call_init i.hal _ _)
  rw [introduced, state_pass, hstate, state_greeting]
  rfl

/-- A service found is bound unless `gf_hal_init` is heard to fail. -/
theorem bound_iff (k : Nat) (w : World) : (w.connected ctx i k).gService ≠ none ↔
    (w.Heard ctx i k → i.hal.error (.init (some (w.daemons k).state.1.allocated)) = gfSuccess) := by
  by_cases hheard : w.Heard ctx i k
  · obtain ⟨hanswer, -⟩ := asked_heard ctx i.hal hheard.1 k .openHal trivial _ (hheard.lives_introduced ctx i _) rfl
    rw [gService_connected, openHalAnswer, hanswer, allocated_introduced ctx i k w hheard]
    by_cases hsuccess : i.hal.error (.init (some (w.daemons k).state.1.allocated)) = gfSuccess
    · simp [hheard, hsuccess]
    · simp [hheard, hsuccess, GoodixFingerprintDaemonProxy.einval]
  · rw [(connected_unheard ctx i k w hheard).1]
    simp [hheard]

theorem gDevice_served (w : World) : (w.served ctx i).gDevice = w.gDevice := by
  unfold served
  split
  · rw [congrArg Client.gDevice (client_connected ctx i _ w)]
  · rfl

end World

namespace Client
variable (ctx : Context Nat) (i : Interleaving)

theorem atomic_unless_device (w : World) : Atomic ctx i false w := by
  intro ret out w' hopen
  cases hopen
  refine ⟨fun _ => ⟨rfl, rfl, rfl, rfl, fun dev hge hlt => ?_⟩, fun hzero => ?_⟩
  · omega
  · cases hzero

/-- A device that is new is nowhere yet. -/
theorem not_atomic_failed {w : World} (hfresh : w.gDevice ≠ some w.opened)
    (hfailed : (w.allocate.served ctx i).gService = none) : ¬ Atomic ctx i true w := by
  intro hatomic
  have hopen := fingerprintOpen_run ctx i w
  rw [if_pos hfailed] at hopen
  have hsame := ((hatomic _ _ _ hopen).1 (by decide)).1
  rw [World.gDevice_served] at hsame
  exact hfresh hsame.symm

/-- A client that is bound keeps the callbacks' device. -/
theorem not_atomic_bound {w : World} (hfresh : w.mDevice ≠ some w.opened) (k : Nat) (hbound : w.gService = some k) :
    ¬ Atomic ctx i true w := by
  intro hatomic
  have hserved : w.allocate.served ctx i = w.allocate := World.served_bound ctx i w.allocate k hbound
  have hopen := fingerprintOpen_run ctx i w
  rw [hserved, if_neg (by rw [show w.allocate.gService = some k from hbound]; nofun)] at hopen
  exact hfresh ((hatomic _ _ _ hopen).2 rfl).2

/-- With a service newly bound, the callbacks are given the new device. -/
theorem atomic_connected {w : World} (k : Nat) (hunbound : w.gService = none) (hfound : i.found = some k)
    (hbound : (w.allocate.connected ctx i k).gService ≠ none) : Atomic ctx i true w := by
  have hserved : w.allocate.served ctx i = w.allocate.connected ctx i k :=
    World.served_found ctx i w.allocate k hunbound hfound
  intro ret out w' hopen
  rw [fingerprintOpen_run, hserved, if_neg hbound] at hopen
  cases hopen
  refine ⟨fun hne => absurd rfl hne, fun _ => ⟨?_, ?_⟩⟩
  · rw [congrArg Client.gDevice (World.client_connected ctx i k w.allocate)]
    rfl
  · rw [congrArg Client.mDevice (World.client_connected ctx i k w.allocate)]
    rfl

/-! ### In any state of a run -/

theorem atomic_iff {w : World} (hgDevice : w.gDevice ≠ some w.opened) (hmDevice : w.mDevice ≠ some w.opened)
    (device : Bool) : Atomic ctx i device w ↔ (device = true → Opens ctx i w) := by
  cases device with
  | false => exact ⟨fun _ h => (by cases h), fun _ => atomic_unless_device ctx i w⟩
  | true =>
    constructor
    · intro hatomic _
      cases hservice : w.gService with
      | some k => exact absurd hatomic (not_atomic_bound ctx i hmDevice k hservice)
      | none =>
        cases hfound : i.found with
        | none =>
          have hfailed : (w.allocate.served ctx i).gService = none := by
            rw [World.served_missing ctx i _ hfound]
            exact hservice
          exact absurd hatomic (not_atomic_failed ctx i hgDevice hfailed)
        | some k =>
          refine ⟨hservice, k, hfound, (World.bound_iff ctx i k w.allocate).mp fun hunbound => ?_⟩
          rw [← World.served_found ctx i w.allocate k hservice hfound] at hunbound
          exact not_atomic_failed ctx i hgDevice hunbound hatomic
    · intro hopens
      obtain ⟨hservice, k, hfound, hheard⟩ := hopens rfl
      exact atomic_connected ctx i k hservice hfound ((World.bound_iff ctx i k w.allocate).mpr hheard)

/-- **`fingerprint_open` is all or nothing exactly if it binds a service that it did not have**, or has no place
for the device. -/
theorem open_atomic_iff (events : List Event) (hadmits : (system ctx).Admits initial events) (device : Bool) :
    Atomic ctx i device ((system ctx).run initial events) ↔
      (device = true → Opens ctx i ((system ctx).run initial events)) := by
  have hrecorded := recorded_system ctx events hadmits
  apply atomic_iff
  · rw [show ((system ctx).run initial events).gDevice = _ from hrecorded.newest]
    exact Devices.newest_ne_opened _
  · exact hrecorded.older

/-- The first open of all, with a daemon that runs. -/
theorem first_open_atomic : Atomic (.granting true) {found := some 0, hal := .succeeding} true
    ((system (.granting true)).run initial [.incident .restart]) :=
  (open_atomic_iff (.granting true) {found := some 0, hal := .succeeding} [.incident .restart] (by decide +kernel)
    true).mpr fun _ => ⟨rfl, 0, rfl, fun _ => rfl⟩

/-- Without a daemon the device that could not be opened stays in `g_device`, and with a client that
is still bound the callbacks keep the device before. -/
theorem open_leaves_device :
    ¬ Atomic (.granting true) {found := none, hal := .succeeding} true initial ∧
    ∃ events : List Event, (system (.granting true)).Admits initial events ∧
      ¬ Atomic (.granting true) {found := some 0, hal := .succeeding} true
        ((system (.granting true)).run initial events) := by
  refine ⟨not_atomic_failed _ _ nofun rfl,
    [.incident .restart, .fingerprintOpen true {found := some 0, hal := .succeeding}], by decide +kernel, ?_⟩
  exact not_atomic_bound _ _ (by decide +kernel) 0 (by decide +kernel)

end Client
end GoodixFingerprint
