import GoodixFingerprint.Client.Callback
import GoodixFingerprint.Client.Requests
import GoodixFingerprint.Machine.Run

/-! The client's machine.

A step is one call of the framework, one death notice, one notification of a callback
transaction, or an incident. A client that has faulted takes no further step; what the
daemons do on hearing of its death is left out. -/
namespace GoodixFingerprint
open Binder

namespace World

/-- A death notice taken from the pending ones. -/
def noticed (k : Nat) (w : World) : World := {w with links := w.links.deliver k}

/-- A message dropped, delivered, or sent through a pointer that leads nowhere. -/
def dispatched (w : World) (message : FingerprintMsg) : World :=
  match w.mDevice with
  | none => w
  | some dev =>
    match w.heap dev with
    | some ⟨some notify⟩ => w.deliver notify message
    | _ => w.faulted

/-- What a notification leaves. -/
def handled (n : Notification) (w : World) : World :=
  match n.handled with
  | .ok message => message.elim w w.dispatched
  | .error _ => w.faulted

theorem dispatched_cases (message : FingerprintMsg) (w : World) :
    w.dispatched message = w ∨ w.dispatched message = w.faulted ∨
      ∃ notify, w.dispatched message = w.deliver notify message := by
  unfold dispatched
  split
  · exact .inl rfl
  · split
    · exact .inr (.inr ⟨_, rfl⟩)
    · exact .inr (.inl rfl)

/-- What the three ways preserve, a notification preserves. -/
theorem handled_preserves {I : World → Prop} {w : World} (h : I w) (hfaulted : I w.faulted)
    (hdelivered : ∀ notify message, I (w.deliver notify message)) (n : Notification) : I (w.handled n) := by
  unfold handled
  rcases n.handled with _ | _ | message
  · exact hfaulted
  · exact h
  · show I (w.dispatched message)
    rcases w.dispatched_cases message with heq | heq | ⟨notify, heq⟩
    · rw [heq]
      exact h
    · rw [heq]
      exact hfaulted
    · rw [heq]
      exact hdelivered notify message

theorem act_deliver (message : Option FingerprintMsg) (w : World) :
    w.act (Notification.deliver message) = message.elim w w.dispatched := by
  cases message with
  | none => rfl
  | some message =>
    rw [act, Notification.deliver, Client.passOn_eq, Option.elim_some, dispatched]
    cases w.mDevice with
    | none => rfl
    | some dev =>
      dsimp only
      rcases w.heap dev with _ | ⟨_ | notify⟩
      · rfl
      · rfl
      · rfl

theorem act_call (n : Notification) (w : World) :
    w.act (goodixFingerprintDaemonCallbackProxy.call n) = w.handled n := by
  rw [act, n.call_eq, handled]
  cases n.handled with
  | error fault => rfl
  | ok message => exact act_deliver message w

end World

namespace Client

inductive Event where
  | incident (x : Incident)
  | fingerprintOpen (device : Bool) (i : Interleaving)
  | fingerprintClose (dev : Option Nat) (i : Interleaving)
  | setNotify (dev : Nat) (notify : Option Nat)
  | operation (call : DeviceCall) (i : Interleaving)
  /-- A pending notice of an incarnation's death. -/
  | binderDied (k : Nat) (i : Interleaving)
  | message (n : Notification)

variable (ctx : Context Nat)

def next (w : World) : Event → World
  | .incident x => w.happen x
  | e =>
    if w.crashed then w
    else match e with
      | .incident x => w.happen x
      | .fingerprintOpen device i => w.act (Client.fingerprintOpen ctx i device)
      | .fingerprintClose dev i => w.act (Client.fingerprintClose ctx i dev)
      | .setNotify dev notify => w.act (setNotifyCallback dev notify)
      | .operation call i => w.act (call.perform ctx i)
      | .binderDied k i => (w.noticed k).act (Client.binderDied ctx i)
      | .message n => w.act (goodixFingerprintDaemonCallbackProxy.call n)

/-- A lookup finds an incarnation that has been started, the framework uses devices that it
has not closed, a notice is pending, and a message comes for a callback. -/
def Enabled (w : World) : Event → Prop
  | .incident (.crash k) | .incident (.obituary k) => k < w.started
  | .incident .restart => True
  | .fingerprintOpen _ i | .operation _ i => ∀ k ∈ i.found, k < w.started
  | .fingerprintClose dev i => (∀ d ∈ dev, w.heap d ≠ none) ∧ ∀ k ∈ i.found, k < w.started
  | .setNotify dev _ => w.heap dev ≠ none
  | .binderDied k i => 0 < w.links.pending k ∧ ∀ k ∈ i.found, k < w.started
  | .message _ => 0 < w.callbacks

instance (w : World) (e : Event) : Decidable (Enabled w e) :=
  match e with
  | .incident (.crash k) => inferInstanceAs (Decidable (k < w.started))
  | .incident (.obituary k) => inferInstanceAs (Decidable (k < w.started))
  | .incident .restart => isTrue trivial
  | .fingerprintOpen _ i => inferInstanceAs (Decidable (∀ k ∈ i.found, k < w.started))
  | .operation _ i => inferInstanceAs (Decidable (∀ k ∈ i.found, k < w.started))
  | .fingerprintClose dev i =>
    inferInstanceAs (Decidable ((∀ d ∈ dev, w.heap d ≠ none) ∧ ∀ k ∈ i.found, k < w.started))
  | .setNotify dev _ => inferInstanceAs (Decidable (w.heap dev ≠ none))
  | .binderDied k i => inferInstanceAs (Decidable (0 < w.links.pending k ∧ ∀ k ∈ i.found, k < w.started))
  | .message _ => inferInstanceAs (Decidable (0 < w.callbacks))

/-- A client with one context, whatever it meets. -/
def system : Machine World Event := ⟨next ctx, Enabled⟩

instance (w : World) (e : Event) : Decidable ((system ctx).Enabled w e) := inferInstanceAs (Decidable (Enabled w e))

/-- No daemon has been started yet, and the client has done nothing. -/
def initial : World := {}

/-! ### Each step as a function of the world -/

/-- A step of a client that has not faulted. -/
def stepped (w : World) : Event → World
  | .incident x => w.happen x
  | .fingerprintOpen true i => w.allocate.served ctx i
  | .fingerprintOpen false _ => w
  | .fingerprintClose (some dev) i => w.closed ctx i dev
  | .fingerprintClose none _ => w
  | .setNotify dev notify => w.withHeap dev (some ⟨notify⟩)
  | .operation call i => w.performed ctx i call
  | .binderDied k i => ((w.noticed k).withService none).served ctx i
  | .message n => w.handled n

/-- After a fault there are only incidents. -/
theorem next_crashed {I : World → Prop} {w : World} (hw : w.crashed = true) (h : I w) (hhappen : ∀ x, I (w.happen x))
    (e : Event) : I (next ctx w e) := by
  cases e with
  | incident x => exact hhappen x
  | _ =>
    simp only [next, hw]
    exact h

theorem next_eq (w : World) (hw : w.crashed = false) (e : Event) : next ctx w e = stepped ctx w e := by
  cases e with
  | incident x => rfl
  | fingerprintOpen device i =>
    cases device with
    | true =>
      obtain ⟨ret, hret⟩ := fingerprintOpen_eq ctx i w
      simp [next, hw, World.act, hret, stepped]
    | false =>
      simp only [next, hw]
      rfl
  | fingerprintClose dev i =>
    cases dev with
    | some dev =>
      obtain ⟨ret, hret⟩ := fingerprintClose_eq ctx i dev w
      simp [next, hw, World.act, hret, stepped]
    | none =>
      simp only [next, hw]
      rfl
  | setNotify dev notify =>
    simp only [next, hw]
    rfl
  | operation call i =>
    simp only [next, hw]
    exact World.act_perform ctx i call w
  | binderDied k i => simp [next, hw, World.act, binderDied_eq, stepped]
  | message n =>
    simp only [next, hw]
    exact World.act_call n w

/-! ### What every step preserves -/

/-- What each part of a step preserves, the notices under a condition on the step. -/
structure Preserves (C : World → Event → Prop) (I : World → Prop) : Prop where
  happen : ∀ w x, I w → I (w.happen x)
  faulted : ∀ w, I w → I w.faulted
  allocate : ∀ w, I w → I w.allocate
  withHeap : ∀ w dev device, I w → I (w.withHeap dev device)
  noticed : ∀ w k i, C w (.binderDied k i) → I w → I ((w.noticed k).withService none)
  connected : ∀ w i k, w.gService = none → I w → I (w.connected ctx i k)
  asked : ∀ w hal k r, w.gService = some k → r.code ∈ DeviceCall.codes → I w → I (w.asked ctx hal k r)
  delivered : ∀ w notify message, I w → I (w.deliver notify message)
  closed : ∀ w hal k, w.gService = some k → I w → I ((w.asked ctx hal k .closeHal).withService none)

namespace Preserves
variable {ctx} {C : World → Event → Prop} {I : World → Prop} (h : Preserves ctx C I) (w : World) (i : Interleaving)
include h

theorem pass (xs : List Incident) (hI : I w) : I (w.pass xs) := World.pass_induction h.happen w xs hI

theorem served (hI : I w) : I (w.served ctx i) := by
  unfold World.served
  split
  · next k hservice _ => exact h.connected w i k hservice hI
  · exact hI

theorem operated (r : Request Nat) (hr : r.code ∈ DeviceCall.codes) (hI : I w) : I (w.operated ctx i r) := by
  unfold World.operated
  split
  · exact h.served w i hI
  · next k hservice =>
    split
    · apply h.asked _ _ _ _ _ hr (h.pass _ _ (h.served w i hI))
      rw [World.client_pass]
      exact hservice
    · exact h.faulted _ (h.pass _ _ (h.served w i hI))

theorem fingerprintClose (dev : Nat) (hI : I w) : I (w.closed ctx i dev) := by
  unfold World.closed
  split
  · exact h.served w i hI
  · next k hservice =>
    rw [World.withService_withHeap]
    apply h.withHeap _ dev none
    apply h.closed _ _ _ _ (h.pass _ _ (h.served w i hI))
    rw [World.client_pass]
    exact hservice

/-- One step, from its parts. -/
theorem next (e : Event) (hC : C w e) (hI : I w) : I (next ctx w e) := by
  cases hw : w.crashed with
  | true => exact next_crashed ctx hw hI (fun x => h.happen w x hI) e
  | false =>
    rw [next_eq ctx w hw]
    match e with
    | .incident x => exact h.happen w x hI
    | .fingerprintOpen true i => exact h.served _ i (h.allocate w hI)
    | .fingerprintOpen false _ => exact hI
    | .fingerprintClose (some dev) i => exact h.fingerprintClose w i dev hI
    | .fingerprintClose none _ => exact hI
    | .setNotify dev notify => exact h.withHeap w dev _ hI
    | .operation call i =>
      show I (w.performed ctx i call)
      unfold World.performed
      split
      · next r hrequest => exact h.operated w i r (call.request_code r hrequest) hI
      · exact h.faulted w hI
    | .binderDied k i => exact h.served _ i (h.noticed w k i hC hI)
    | .message n =>
      exact World.handled_preserves hI (h.faulted w hI) (fun notify message => h.delivered w notify message hI) n

theorem run (events : List Event) (hI : I w) (hC : ∀ t ∈ (system ctx).steps w events, C t.1 t.2) :
    I ((system ctx).run w events) :=
  (system ctx).invariant_run (fun w e hC hI => h.next w e hC hI) w events hI hC

end Preserves
end Client
end GoodixFingerprint
