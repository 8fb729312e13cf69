import GoodixFingerprint.Daemon.Arguments

/-! Requests cut short.

A reader that finds its field cut off returns zero, and no branch asks. What a request
cut short does is then up to the method: two methods refuse a length of zero, and no
other refuses anything. -/
namespace GoodixFingerprint
open Binder

namespace Request
variable {β : Type}

/-- The parcel of a request, cut off `n` bytes behind the token. -/
def cut (r : Request β) (n : Nat) : Parcel β :=
  {r.parcel with mData := r.parcel.mData.take ((Parcel.interfaceToken descriptor).length + n)}

/-- What a request sends up to and with its last integer or flag. -/
def scalars : Request β → List UInt8
  | r@(.setActiveGroup ..) | r@(.testCmd ..) => (r.fields.take 2).flatten
  | r@(.authenticate ..) | r@(.enroll ..) | r@(.remove ..) | r@(.setSafeClass _) | r@(.navigate _)
  | r@(.enableFingerprintModule _) | r@(.enableFfFeature _) => r.fields.flatten
  | _ => []

/-- The cuts that leave a length which the method refuses. -/
def RefusesCut (r : Request β) (n : Nat) : Prop :=
  match r with
  | .setActiveGroup .. => True
  | .enroll _ tokenSize _ _ => n < 4 ∨ tokenSize.toInt32 ≠ Int32.ofNat hwAuthTokenSize
  | _ => False

theorem cut_eq (r : Request β) (n : Nat) :
    r.cut n = Parcel.between [] (Parcel.interfaceToken descriptor ++ r.fields.flatten.take n) r.objects := by
  have htoken : (Parcel.interfaceToken descriptor).take ((Parcel.interfaceToken descriptor).length + n) =
      Parcel.interfaceToken descriptor := List.take_of_length_le (Nat.le_add_right _ _)
  rw [cut, Request.parcel]
  simp [Parcel.between, List.take_append, htoken]

theorem cut_token (r : Request β) (n : Nat) (expected : String16) :
    (r.cut n).checkInterface expected =
      (descriptor == expected,
        Parcel.between (Parcel.interfaceToken descriptor) (r.fields.flatten.take n) r.objects) := by
  rw [cut_eq, Parcel.checkInterface_between _ _ descriptor_named, List.nil_append]

end Request

namespace Daemon
variable {β : Type} [DecidableEq β] (hal : Hal) (ctx : Context β)
open BnGoodixFingerprintDaemon GoodixFingerprintDaemonProxy

/-- The transaction is answered with an error, and no function of the HAL is called. -/
def Rejected (code : UInt32) (data : Parcel β) (s : GoodixFingerprintDaemonProxy β) : Prop :=
  ∃ outcome, onTransact (goodixFingerprintDaemonProxy hal) ctx code data s = .ok (outcome, s) ∧ outcome.Failed

/-- The call of a decoded request is answered with an error, and changes nothing. -/
def AnswerRejected (decoded : Request β × Parcel β) (s : GoodixFingerprintDaemonProxy β) : Prop :=
  ∃ outcome, answer (goodixFingerprintDaemonProxy hal) decoded s = .ok (outcome, s) ∧ outcome.Failed

theorem rejected_cut (r : Request β) (n : Nat) (s : GoodixFingerprintDaemonProxy β)
    (hperm : r.code.gated = true → checkPermission ctx halFingerprintPermission = true) :
    Rejected hal ctx r.code.number (r.cut n) s ↔ AnswerRejected hal (r.code.decode ctx
      (Parcel.between (Parcel.interfaceToken descriptor) (r.fields.flatten.take n) r.objects)) s := by
  have hadmits : Admits (goodixFingerprintDaemonProxy hal) ctx (r.cut n) r.code = true := by
    rw [Admits, r.cut_token]
    rw [show (goodixFingerprintDaemonProxy (β := β) hal).getInterfaceDescriptor = descriptor from rfl]
    cases hg : r.code.gated with
    | false => simp
    | true => simp [hperm hg]
  rw [Rejected, AnswerRejected, onTransact_eq _ ctx _ _ r.code (Code.ofNumber_number r.code), if_pos hadmits, served,
    r.cut_token]

/-- A call that reaches the HAL rejects nothing. -/
theorem not_rejected (decoded : Request β × Parcel β) (s : GoodixFingerprintDaemonProxy β) (v : decoded.1.Result)
    (e : Effect) (h : (goodixFingerprintDaemonProxy hal).call decoded.1 s = .ok (v, s.record e)) :
    ¬ AnswerRejected hal decoded s := by
  intro hrejected
  obtain ⟨outcome, hanswer, -⟩ := hrejected
  rw [answer_ok hal decoded s _ v h, Except.ok.injEq, Prod.mk.injEq] at hanswer
  have heffects := congrArg GoodixFingerprintDaemonProxy.effects hanswer.2
  simp [GoodixFingerprintDaemonProxy.record] at heffects

/-- A length cut short is read as zero, and zero is refused. -/
theorem rejected_setActiveGroup (groupId : Int32) (path : Ptr) (pathLen : Int64) (n : Nat) (hn : n < 8)
    (s : GoodixFingerprintDaemonProxy β) :
    AnswerRejected hal (Code.setActiveGroup.decode ctx (Parcel.between (Parcel.interfaceToken descriptor)
      ((Request.setActiveGroup (β := β) groupId path pathLen).fields.flatten.take n) [])) s := by
  have hsize : ((Parcel.between (Parcel.interfaceToken descriptor)
      ((Request.setActiveGroup (β := β) groupId path pathLen).fields.flatten.take n)
        ([] : List (Nat × β))).readInt32.2.readInt32).1 = 0 := by
    rw [Request.fields, List.flatten_cons, List.flatten_cons, Parcel.readInt32_cut]
    by_cases hfirst : n < 4
    · rw [if_pos hfirst, Parcel.readInt32_cut, if_pos hfirst]
    · rw [if_neg hfirst, Parcel.readInt32_cut, if_pos (by omega)]
  simp only [Code.decode, hsize]
  exact ⟨_, answer_ok hal (_, _) s s _ (setActiveGroup_refused hal s _ _ _ (.inr (by decide))), failed_refusal _⟩

/-- An authentication token is refused unless the length that is read is its own. -/
theorem rejected_enroll (token : Ptr) (tokenSize : Int64) (groupId timeout : Int32) (n : Nat)
    (s : GoodixFingerprintDaemonProxy β) :
    AnswerRejected hal (Code.enroll.decode ctx (Parcel.between (Parcel.interfaceToken descriptor)
      ((Request.enroll (β := β) token tokenSize groupId timeout).fields.flatten.take n) [])) s ↔
        n < 4 ∨ tokenSize.toInt32 ≠ Int32.ofNat hwAuthTokenSize := by
  have hread : (Parcel.between (Parcel.interfaceToken descriptor)
      ((Request.enroll (β := β) token tokenSize groupId timeout).fields.flatten.take n)
        ([] : List (Nat × β))).readInt32.1 = if n < 4 then 0 else tokenSize.toInt32 := by
    rw [Request.fields, List.flatten_cons, Parcel.readInt32_cut]
    split <;> rfl
  simp only [Code.decode, hread]
  by_cases hrefused : (if n < 4 then 0 else tokenSize.toInt32) = Int32.ofNat hwAuthTokenSize
  · refine ⟨fun h => absurd h (not_rejected hal (_, _) s _ _
      (enroll_passed hal s _ _ _ _ ((tokenSize_iff _).mpr hrefused))), fun h => ?_⟩
    by_cases hn : n < 4
    · rw [if_pos hn] at hrefused
      exact absurd hrefused (by decide)
    · rw [if_neg hn] at hrefused
      exact absurd hrefused (h.resolve_left hn)
  · refine ⟨fun _ => ?_, fun _ => ?_⟩
    · by_cases hn : n < 4
      · exact .inl hn
      · rw [if_neg hn] at hrefused
        exact .inr hrefused
    · exact ⟨_, answer_ok hal (_, _) s s _ (enroll_refused hal s _ _ _ _ ((tokenSize_iff _).not.mpr hrefused)),
        failed_refusal _⟩

/-- **A request cut short is rejected exactly where the cut leaves a length that is refused**. -/
theorem cut_rejected_iff (r : Request β) (n : Nat) (s : GoodixFingerprintDaemonProxy β) (hn : n < r.scalars.length)
    (hperm : r.code.gated = true → checkPermission ctx halFingerprintPermission = true) :
    Rejected hal ctx r.code.number (r.cut n) s ↔ r.RefusesCut n := by
  rw [rejected_cut hal ctx r n s hperm]
  cases r with
  | setActiveGroup groupId path pathLen =>
    have hlength : n < 8 := by simpa [Request.scalars, Request.fields, Parcel.int32_length] using hn
    exact ⟨fun _ => trivial, fun _ => rejected_setActiveGroup hal ctx groupId path pathLen n hlength s⟩
  | enroll token tokenSize groupId timeout => exact rejected_enroll hal ctx token tokenSize groupId timeout n s
  | authenticate | remove | setSafeClass | navigate | enableFingerprintModule | enableFfFeature | testCmd =>
    simp only [Request.code, Code.decode]
    exact ⟨fun h => absurd h (not_rejected hal _ s _ _ rfl), fun h => h.elim⟩
  | _ => simp [Request.scalars] at hn

/-- A request to set a group, cut off in the length of its path. -/
theorem cut_rejected_path :
    Rejected .succeeding (.granting true) Code.setActiveGroup.number
      ((Request.setActiveGroup (β := Nat) 0 (some [47]) 1).cut 5) {} :=
  (cut_rejected_iff .succeeding (.granting true) (.setActiveGroup 0 (some [47]) 1) 5 {}
    (by simp [Request.scalars, Request.fields, Parcel.int32_length]) fun _ => rfl).mpr trivial

/-- A request to remove a finger, cut off behind the token, removes finger 0 of group 0. -/
theorem cut_remove_passed :
    ((onTransact (goodixFingerprintDaemonProxy .succeeding) (.granting true) Code.remove.number
      ((Request.remove (β := Nat) 5 7).cut 0) {}).toOption.map fun out => out.2.effects) =
        some [.called (.remove none 0 0) gfSuccess] ∧
    ¬ Rejected .succeeding (.granting true) Code.remove.number ((Request.remove (β := Nat) 5 7).cut 0) {} := by
  refine ⟨by decide +kernel, fun h => ?_⟩
  rw [show Code.remove.number = (Request.remove (β := Nat) 5 7).code.number from rfl,
    rejected_cut _ _ _ _ _ fun _ => rfl] at h
  simp only [Request.code, Code.decode] at h
  exact not_rejected .succeeding _ {} _ _ rfl h

end Daemon
end GoodixFingerprint
