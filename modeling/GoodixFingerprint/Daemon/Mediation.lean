import GoodixFingerprint.Daemon.Steps
import GoodixFingerprint.Interface.RoundTrip

/-! Mediation: what a transaction without the token or the permission can do.

A transaction is mediated if it is refused with nothing in the reply and leaves the
daemon, its death links and its HAL as they were. The two checks stand in every branch
of `onTransact` but three, which ask for the token only. -/
namespace GoodixFingerprint
open Binder

namespace Daemon
variable {β : Type} [DecidableEq β]
open BnGoodixFingerprintDaemon

/-- Refused, with an empty reply and nothing changed. -/
def Mediated (hal : Hal) (ctx : Context β) (code : UInt32) (data : Parcel β)
    (s : GoodixFingerprintDaemonProxy β) : Prop :=
  ∃ outcome, onTransact (goodixFingerprintDaemonProxy hal) ctx code data s = .ok (outcome, s) ∧
    outcome.reply = {} ∧ outcome.status ≠ noError

/-- The parcel carries the token and the caller has the permission. -/
def Authorised (ctx : Context β) (data : Parcel β) : Prop :=
  (data.checkInterface descriptor).1 = true ∧ checkPermission ctx halFingerprintPermission = true

/-- Where the two checks together cover what the caller lacks: every branch that has both,
and the three others when the token is missing. For the codes the interface does not
define, `BBinder` has to refuse. -/
def Covered (ctx : Context β) (code : UInt32) (data : Parcel β) : Prop :=
  match Code.ofNumber code with
  | some c => (data.checkInterface descriptor).1 = false ∨ c.gated = true
  | none => (ctx.bbinderOnTransact code data).reply = {} ∧ (ctx.bbinderOnTransact code data).status ≠ noError

/-- What is served is answered with `NO_ERROR`. -/
theorem served_status (hal : Hal) (ctx : Context β) (data : Parcel β) (c : Code)
    (s s' : GoodixFingerprintDaemonProxy β) (outcome : Outcome β)
    (h : served (goodixFingerprintDaemonProxy hal) ctx data c s = .ok (outcome, s')) :
    outcome.status = noError := by
  simp only [served, answer, replied, bind, StateT.bind, Except.bind] at h
  split at h
  · cases h
  · cases h
    rfl

/-- **An unauthorised transaction is mediated exactly where the checks cover it**. -/
theorem mediated_iff (hal : Hal) (ctx : Context β) (code : UInt32) (data : Parcel β)
    (s : GoodixFingerprintDaemonProxy β) (h : ¬ Authorised ctx data) :
    Mediated hal ctx code data s ↔ Covered ctx code data := by
  unfold Mediated Covered
  cases hcode : Code.ofNumber code with
  | none =>
    have hforeign : onTransact (goodixFingerprintDaemonProxy hal) ctx code data s =
        .ok (ctx.bbinderOnTransact code data, s) := by
      unfold onTransact
      rw [hcode]
      rfl
    simp only [hforeign, Except.ok.injEq, Prod.mk.injEq, and_true, exists_eq_left']
  | some c =>
    rw [onTransact_eq _ ctx code data c hcode]
    have hadmits : Admits (goodixFingerprintDaemonProxy hal) ctx data c = true ↔
        ¬ ((data.checkInterface descriptor).1 = false ∨ c.gated = true) := by
      unfold Authorised at h
      unfold Admits
      rw [show (goodixFingerprintDaemonProxy (β := β) hal).getInterfaceDescriptor = descriptor from rfl]
      cases htoken : (data.checkInterface descriptor).1 <;> cases hgated : c.gated <;>
        simp_all
    by_cases hA : Admits (goodixFingerprintDaemonProxy hal) ctx data c = true
    · rw [if_pos hA]
      refine ⟨?_, fun hcov => absurd hcov (hadmits.mp hA)⟩
      intro h
      obtain ⟨outcome, hserved, -, hstatus⟩ := h
      exact absurd (served_status hal ctx data c s s outcome hserved) hstatus
    · rw [if_neg hA]
      refine ⟨fun _ => not_not.mp (hadmits.not.mp hA), fun _ => ⟨_, rfl, rfl, ?_⟩⟩
      show permissionDenied ≠ noError
      decide

/-- A parcel without the token, for a code that asks for the permission as well. -/
theorem close_without_token_mediated :
    Mediated (β := Nat) .succeeding (.granting false) Code.closeHal.number {} {} := by
  refine (mediated_iff .succeeding (.granting false) Code.closeHal.number {} {} fun h => by cases h.2).mpr ?_
  unfold Covered
  rw [Code.ofNumber_number]
  exact .inr rfl

theorem start_hbd_outcome :
    onTransact (goodixFingerprintDaemonProxy .succeeding) (.granting false)
      (Request.startHbd (β := Nat)).code.number (Request.startHbd (β := Nat)).parcel {} =
        .ok (⟨noError, Code.Kind.int32.write gfSuccess {}, Request.startHbd.consumed⟩,
          { effects := [.called (.startHbd none) gfSuccess] }) := by
  rw [onTransact_parcel _ (.granting false) .startHbd trivial rfl fun h => by cases h]
  rfl

/-- With the token alone the heart-beat detection is started, with no device open. -/
theorem start_hbd_unmediated :
    ¬ Authorised (.granting false) (Request.startHbd (β := Nat)).parcel ∧
    ¬ Mediated .succeeding (.granting false) (Request.startHbd (β := Nat)).code.number
      (Request.startHbd (β := Nat)).parcel {} := by
  refine ⟨fun h => (by cases h.2), ?_⟩
  intro h
  obtain ⟨outcome, hout, -, hstatus⟩ := h
  rw [start_hbd_outcome] at hout
  simp only [Except.ok.injEq, Prod.mk.injEq] at hout
  rw [← hout.1] at hstatus
  exact hstatus rfl

end Daemon
end GoodixFingerprint
