import GoodixFingerprint.Interface.RoundTrip

/-! Requests in front of other bytes.

A branch of the stub reads its own fields and looks no further, so a request is found again
whatever stands behind it. No request can therefore be taken for the beginning of another,
and what a caller appends changes nothing. -/
namespace GoodixFingerprint
open Binder

namespace Request
variable {β : Type}

/-- **No request begins another** of the same code and the same binder: one that is a part of another,
from the start, is the other. -/
theorem fields_prefix_free (r r' : Request β) (hr : r.Fits) (hr' : r'.Fits) (hcode : r.code = r'.code)
    (hobjects : r.objects = r'.objects) (hfields : r.fields.flatten <+: r'.fields.flatten) : r = r' := by
  obtain ⟨more, hmore⟩ := hfields
  have hshort := decode_extended (.granting true) r hr more
  have hlong := decode_extended (.granting true) r' hr' []
  rw [List.append_nil] at hlong
  rw [hmore, hobjects, hcode, hlong] at hshort
  exact (congrArg Prod.fst hshort).symm

/-- A one-byte token does not begin one of two bytes, whatever these are. -/
theorem fields_prefix_free_enroll : ¬ (enroll (β := Nat) (some [7]) 1 0 60).fields.flatten <+:
    (enroll (β := Nat) (some [7, 8]) 2 0 60).fields.flatten := by
  intro hfields
  cases fields_prefix_free (enroll (β := Nat) (some [7]) 1 0 60) (enroll (some [7, 8]) 2 0 60)
    ⟨[7], rfl, by decide, rfl⟩ ⟨[7, 8], rfl, by decide, rfl⟩ rfl rfl hfields

end Request

section Framing
variable {m : Type → Type} [Monad m] {β : Type}

open BnGoodixFingerprintDaemon in
/-- **What is appended to a request is ignored**: behind what the proxy writes, whatever it is, the transaction
is the same call of the same method, with the same reply, and the position is left where the request ends. -/
theorem appended_bytes_ignored (this : IGoodixFingerprintDaemon m β) (ctx : Context β) (r : Request β) (hr : r.Fits)
    (more : List UInt8) (hthis : this.getInterfaceDescriptor = descriptor)
    (hperm : r.code.gated = true → checkPermission ctx halFingerprintPermission = true) :
    r.written = .ok (r.code.number, r.parcel) ∧
    onTransact this ctx r.code.number (r.extended more) =
      this.call r >>= fun ret => pure ⟨noError, r.code.kind.write ret {}, r.passed more⟩ :=
  ⟨r.written_ok hr.writable, onTransact_extended this ctx r hr more hthis hperm⟩

/-- A template is removed whatever four bytes follow its fields. -/
theorem appended_bytes_ignored_remove :
    BnGoodixFingerprintDaemon.onTransact recorder (.granting true) (Request.remove (β := Nat) 7 1).code.number
        ((Request.remove 7 1).extended [0xde, 0xad, 0xbe, 0xef]) [] =
      (⟨noError, Code.remove.kind.write (0 : Int32) {}, (Request.remove 7 1).passed [0xde, 0xad, 0xbe, 0xef]⟩,
        [.remove 7 1]) := by
  rw [(appended_bytes_ignored recorder (.granting true) (.remove 7 1) trivial [0xde, 0xad, 0xbe, 0xef] rfl
    fun _ => rfl).2]
  rfl

end Framing
end GoodixFingerprint
