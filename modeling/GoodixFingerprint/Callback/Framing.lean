import GoodixFingerprint.Callback.RoundTrip
import Mathlib.Data.List.TakeDrop

/-! Notifications in front of other bytes.

The branch of every notification but `onEnumerate` reads its own fields and looks no further.
What the client is told is what was sent exactly if every buffer is as long as the number
that goes with it says, and a negative number goes with no buffer. -/
namespace GoodixFingerprint
open Binder

/-- A pointer with the length that goes with it. -/
def Spans (data : Ptr) (len : Int32) : Prop :=
  len.toInt < 0 ∧ data = none ∨ ∃ bytes, data = some bytes ∧ (bytes.length : Int) = len.toInt

/-- Only what spans its length comes through as it is. -/
theorem receivedPtr_eq_iff {data : Ptr} {len : Int32} (h : Parcel.Writable data len.toInt64.toUInt64) :
    receivedPtr data len.toInt64.toUInt64 = data ↔ Spans data len := by
  have hsize := size_toInt len
  have hlt := len.toInt_lt
  have hle := len.le_toInt
  unfold receivedPtr Spans
  by_cases hneg : 0 ≤ len.toInt
  · rw [if_pos hneg] at hsize
    have hfits : ¬ int32Max < len.toInt64.toUInt64.toNat := by
      rw [int32Max]
      omega
    rw [if_neg hfits]
    have hcovers := h (Nat.not_lt.mp hfits)
    cases data with
    | none => simp [hneg]
    | some bytes =>
      rw [Ptr.covers_some] at hcovers
      simp only [Option.getD_some, Option.some.injEq, List.take_eq_self_iff, reduceCtorEq, and_false, false_or,
        exists_eq_left']
      omega
  · rw [if_neg hneg] at hsize
    have hrefused : int32Max < len.toInt64.toUInt64.toNat := by
      rw [int32Max]
      omega
    rw [if_pos hrefused]
    cases data with
    | none => simp [Int.not_le.mp hneg]
    | some bytes =>
      simp only [reduceCtorEq, Option.some.injEq, and_false, false_or, exists_eq_left', false_iff]
      omega

namespace Notification

/-- Every pointer spans the length that goes with it. -/
def Whole : Notification → Prop
  | onAuthenticated _ _ _ hat hatSize => Spans hat hatSize
  | onTestCmd _ _ result resultLen => Spans result resultLen
  | onHbdData _ _ _ displayData dataLen => Spans displayData dataLen
  | _ => True

theorem received_eq_iff (n : Notification) (h : n.Writable) : n.received = n ↔ n.Whole := by
  cases n with
  | onAuthenticated | onTestCmd | onHbdData => simp [received, Whole, receivedPtr_eq_iff h]
  | _ => simp [received, Whole]

end Notification

section Framing
variable {m : Type → Type} [Monad m] [LawfulMonad m] {β : Type}
  (this : IGoodixFingerprintDaemonCallback (ExceptT Fault m)) (ctx : Context β)

open BnGoodixFingerprintDaemonCallback in
/-- **A notification that can be written is one call of its method, whatever follows it and whatever the method
returns**, and it arrives as it was sent exactly if its buffer spans its length. -/
theorem notification_framed (n : Notification) (hn : n.code ≠ .onEnumerate) (hwritable : n.Writable)
    (more : List UInt8) (hthis : this.getInterfaceDescriptor = callbackDescriptor) :
    n.written (β := β) = .ok (n.code.number, n.parcel) ∧
      onTransact this ctx n.code.number (n.extended more) =
        this.call n.received >>= (fun _ => pure ⟨noError, {}, n.passed more⟩) ∧
      (n.received = n ↔ n.Whole) :=
  ⟨n.written_ok hwritable, onTransact_extended_notification this ctx n hn hwritable more hthis,
    n.received_eq_iff hwritable⟩

/-- A heart beat with two bytes of data and one byte too many. -/
theorem notification_framed_hbd :
    BnGoodixFingerprintDaemonCallback.onTransact callbackRecorder (.granting true : Context Nat)
        (Notification.onHbdData 1 60 0 (some [8, 9]) 2).code.number
        ((Notification.onHbdData 1 60 0 (some [8, 9]) 2).extended [0]) [] =
      (.ok ⟨noError, {}, (Notification.onHbdData 1 60 0 (some [8, 9]) 2).passed [0]⟩,
        [.onHbdData 1 60 0 (some [8, 9]) 2]) := by
  obtain ⟨-, hcall, hwhole⟩ := notification_framed callbackRecorder (.granting true : Context Nat)
    (.onHbdData 1 60 0 (some [8, 9]) 2) (by decide) (fun _ => Nat.le_refl 2) [0] rfl
  rw [hcall, hwhole.mpr (.inr ⟨[8, 9], rfl, rfl⟩)]
  rfl

end Framing
end GoodixFingerprint
