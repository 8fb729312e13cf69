import GoodixFingerprint.Client.Bounds
import GoodixFingerprint.Client.Target
import GoodixFingerprint.Machine.Trace

/-! What makes the client fault.

Callback transactions arrive as bytes. One that is let in is fatal if it declares lengths
that the handler cannot use, or if its message goes to a device that is no longer there or
was never told whom to notify: which device that is, and whether it is there, is what the
client's calls so far say. Of its own calls only two are fatal, one for its path and one
for its token, the latter if there is a service to send it to. -/
namespace GoodixFingerprint
open Binder

namespace Devices
open DeviceAction

variable {actions : List DeviceAction} {s : Devices}

/-- The handlers have a device, and it has nobody to notify. -/
def Astray (actions : List DeviceAction) : Prop := ∃ d, Given d actions ∧ ¬ Told d actions

theorem Recorded.astray (h : Recorded actions s) :
    Astray actions ↔ ∃ d, s.mDevice = some d ∧ ∀ notify, s.heap d ≠ some ⟨some notify⟩ := by
  unfold Astray
  simp only [← h.given, ← h.told, not_exists, ne_eq]

end Devices

namespace Client
open BnGoodixFingerprintDaemonCallback

/-- A handler that has something to pass on. -/
def Dispatches : CallbackCode → Bool
  | .onEnumerate | .onTestCmd | .onHbd => false
  | _ => true

theorem brought_isSome {β : Type} (p : Parcel β) (c : CallbackCode) : (brought p c).1.isSome = Dispatches c := by
  cases c <;> rfl

/-! ### What a step does -/

/-- A parcel that is not let in does nothing. -/
theorem transact_refused (peer : Context Nat) (code : UInt32) (data : Parcel Nat) (w : World)
    (h : CallbackCode.ofNumber code = none ∨ (data.checkInterface callbackDescriptor).1 = false) :
    w.act (onTransact goodixFingerprintDaemonCallbackProxy peer code data) = w := by
  cases hcode : CallbackCode.ofNumber code with
  | none =>
    unfold onTransact
    rw [hcode]
    rfl
  | some c =>
    have htoken := h.resolve_left (by simp [hcode])
    rw [onTransact_eq _ peer code data c hcode]
    have hthis : goodixFingerprintDaemonCallbackProxy.getInterfaceDescriptor = callbackDescriptor := rfl
    rw [hthis, htoken]
    rfl

/-- Lengths that cannot be used are used. -/
theorem act_unusable (p : Parcel Nat) (c : CallbackCode) (w : World) (h : ¬ Usable p c) :
    w.act (notified goodixFingerprintDaemonCallbackProxy (c.decode p)) = w.faulted := by
  cases hused : used p c with
  | error fault => exact World.act_error (notified_unused hused w)
  | ok out => exact absurd ((used_ok_iff p c out).mp hused).1 h

/-- A handler that passes nothing on does nothing else; the others pass a message on. -/
theorem act_usable (p : Parcel Nat) (c : CallbackCode) (w : World) (h : Usable p c) :
    ∃ message : Option FingerprintMsg, message.isSome = Dispatches c ∧
      w.act (notified goodixFingerprintDaemonCallbackProxy (c.decode p)) = message.elim w w.dispatched := by
  have hsome := brought_isSome p c
  cases hbrought : brought p c with
  | mk message cells =>
    rw [hbrought] at hsome
    obtain ⟨n, rest, -, -, hnotified⟩ := notified_used ((used_ok_iff p c (message, cells)).mpr ⟨h, hbrought.symm⟩)
    refine ⟨message, hsome, ?_⟩
    rw [← World.act_deliver, World.act, World.act, hnotified]
    rcases Notification.deliver message w with ⟨_ | ret, w'⟩
    · rfl
    · rfl

/-- A transaction is refused, or fatal for its lengths, or comes down to the message it brings. -/
theorem transact_cases (peer : Context Nat) (code : UInt32) (data : Parcel Nat) (w : World) :
    ((CallbackCode.ofNumber code = none ∨ (data.checkInterface callbackDescriptor).1 = false) ∧
      w.act (onTransact goodixFingerprintDaemonCallbackProxy peer code data) = w) ∨
    ∃ c, CallbackCode.ofNumber code = some c ∧ (data.checkInterface callbackDescriptor).1 = true ∧
      (¬ Usable (data.checkInterface callbackDescriptor).2 c ∧
          w.act (onTransact goodixFingerprintDaemonCallbackProxy peer code data) = w.faulted ∨
        Usable (data.checkInterface callbackDescriptor).2 c ∧
          ∃ message : Option FingerprintMsg, message.isSome = Dispatches c ∧
            w.act (onTransact goodixFingerprintDaemonCallbackProxy peer code data) = message.elim w w.dispatched) := by
  by_cases hrefused : CallbackCode.ofNumber code = none ∨ (data.checkInterface callbackDescriptor).1 = false
  · exact .inl ⟨hrefused, transact_refused peer code data w hrefused⟩
  · rw [not_or, Bool.not_eq_false] at hrefused
    obtain ⟨hcode, htoken⟩ := hrefused
    obtain ⟨c, hcode⟩ := Option.ne_none_iff_exists'.mp hcode
    have hthis : goodixFingerprintDaemonCallbackProxy.getInterfaceDescriptor = callbackDescriptor := rfl
    rw [onTransact_eq _ peer code data c hcode, hthis, if_pos htoken]
    refine .inr ⟨c, hcode, htoken, ?_⟩
    by_cases husable : Usable (data.checkInterface callbackDescriptor).2 c
    · exact .inr ⟨husable, act_usable _ c w husable⟩
    · exact .inl ⟨husable, act_unusable _ c w husable⟩

section Steps
variable (ctx : Context Nat) (i : Interleaving)

end Steps

/-- What comes to the client: a step of its own, or a callback transaction. -/
inductive Arrival where
  | event (e : Event)
  | transaction (peer : Context Nat) (code : UInt32) (data : Parcel Nat)

variable (ctx : Context Nat)

def receive (w : World) : Arrival → World
  | .event e => next ctx w e
  | .transaction peer code data =>
    if w.crashed then w else w.act (onTransact goodixFingerprintDaemonCallbackProxy peer code data)

/-- Nobody has the callback's binder before there is one. -/
def arrivals : Machine World Arrival where
  next := receive ctx
  Enabled w
    | .event e => Enabled w e
    | .transaction .. => 0 < w.callbacks

instance (w : World) (e : Arrival) : Decidable ((arrivals ctx).Enabled w e) :=
  match e with
  | .event e => inferInstanceAs (Decidable (Enabled w e))
  | .transaction .. => inferInstanceAs (Decidable (0 < w.callbacks))

/-- What makes the client fault, where messages go astray or do not, and `getService` returns a service or not. -/
def Lethal (astray : Prop) (serves : Interleaving → Prop) : Arrival → Prop
  | .event (.message n) =>
    match n.handled with
    | .ok message => message.isSome = true ∧ astray
    | .error _ => True
  | .event (.operation call i) =>
    (∃ gid storePath, call = .setActiveGroup gid storePath ∧ pathMax < (UInt32.ofNat storePath.length).toNat) ∨
      (∃ hat gid timeoutSec, call = .enroll hat gid timeoutSec ∧ ¬ hat.Covers hwAuthTokenSize) ∧ serves i
  | .transaction _ code data =>
    ∃ c, CallbackCode.ofNumber code = some c ∧ (data.checkInterface callbackDescriptor).1 = true ∧
      (Usable (data.checkInterface callbackDescriptor).2 c → Dispatches c = true ∧ astray)
  | _ => False

/-- What an arrival does to the devices. -/
def arrivalActions (w : World) : Arrival → List DeviceAction
  | .event e => actions ctx w e
  | .transaction .. => []

/-- A transaction leaves the devices alone. -/
theorem devices_transact (peer : Context Nat) (code : UInt32) (data : Parcel Nat) (w : World) :
    (w.act (onTransact goodixFingerprintDaemonCallbackProxy peer code data)).devices = w.devices := by
  rcases transact_cases peer code data w with ⟨-, hact⟩ | ⟨c, -, -, ⟨-, hact⟩ | ⟨-, message, -, hact⟩⟩
  · rw [hact]
  · rw [hact]
    rfl
  · rw [hact]
    cases message with
    | none => rfl
    | some message =>
      rw [Option.elim_some]
      rcases w.dispatched_cases message with heq | heq | ⟨notify, heq⟩ <;> rw [heq] <;> rfl

theorem devices_receive (w : World) (e : Arrival) :
    ((arrivals ctx).next w e).devices = Devices.machine.run w.devices (arrivalActions ctx w e) := by
  cases e with
  | event e => exact devices_next ctx w e
  | transaction peer code data =>
    show (receive ctx w (.transaction peer code data)).devices = w.devices
    rw [receive]
    split
    · rfl
    · exact devices_transact peer code data w

end Client
end GoodixFingerprint
