import GoodixFingerprint.Daemon.Steps
import GoodixFingerprint.Interface.RoundTrip

/-! Arguments that a parcel does not hold.

The stub hands on what its readers return, also where they return nothing: a null
pointer, a null binder, a zero. The methods check lengths against their own bounds, never
against the parcel, so an absent argument is noticed only where its length is refused. -/
namespace GoodixFingerprint
open Binder

/-- What a HAL call is handed lies in the parcel, all of it. -/
def HalCall.Inside {β : Type} (data : Parcel β) : HalCall → Prop
  | .enroll _ hat _ _ => ∃ bytes, hat = some bytes ∧ bytes.length = hwAuthTokenSize ∧ bytes <:+: data.mData
  | .testCmd _ _ param paramLen =>
    ∃ bytes, param = some bytes ∧ bytes.length = paramLen.toNat ∧ bytes <:+: data.mData
  | _ => True

namespace Outcome

/-- An error for the caller, as a status or as the method's result. -/
def Failed {β : Type} (outcome : Outcome β) : Prop :=
  outcome.status ≠ noError ∨ Code.Kind.int32.read outcome.reply ≠ 0

end Outcome

namespace Daemon
variable {β : Type} [DecidableEq β] (hal : Hal) (ctx : Context β)
open BnGoodixFingerprintDaemon GoodixFingerprintDaemonProxy

/-! ### Pointers -/

/-- How a transaction with pointers may go: one call of the HAL on what the parcel holds, a
registration, or a refusal that changes nothing. -/
def Handled (data : Parcel β) (s : GoodixFingerprintDaemonProxy β) (outcome : Outcome β)
    (s' : GoodixFingerprintDaemonProxy β) : Prop :=
  (∃ call err, s' = s.record (.called call err) ∧ call.Inside data) ∨
  (∃ b, s' = s.registered b ∨ s' = s.testRegistered b) ∨ (s' = s ∧ outcome.Failed)

/-- The transaction is answered, and uses only what the parcel holds. -/
def Contained (code : UInt32) (data : Parcel β) (s : GoodixFingerprintDaemonProxy β) : Prop :=
  ∃ outcome s', onTransact (goodixFingerprintDaemonProxy hal) ctx code data s = .ok (outcome, s') ∧
    Handled data s outcome s'

/-- The codes whose arguments are pointers. -/
def pointerCodes : List Code := [.enroll, .setActiveGroup, .testCmd, .init, .testInit]

/-- A pointer argument is there, unless its length is one that the method refuses. -/
def Present : Request β → Prop
  | .enroll token tokenSize _ _ => tokenSize.toUInt64 = UInt64.ofNat hwAuthTokenSize → token ≠ none
  | .setActiveGroup _ path pathLen => 0 < pathLen.toInt → pathLen.toInt < pathMax → path ≠ none
  | .testCmd _ param _ => param ≠ none
  | .init callback | .testInit callback => callback ≠ none
  | _ => True

/-- A call of a decoded request, answered. -/
theorem answer_ok (decoded : Request β × Parcel β) (s s' : GoodixFingerprintDaemonProxy β) (v : decoded.1.Result)
    (h : (goodixFingerprintDaemonProxy hal).call decoded.1 s = .ok (v, s')) :
    answer (goodixFingerprintDaemonProxy hal) decoded s =
      .ok (⟨noError, decoded.1.code.kind.write v {}, decoded.2⟩, s') := by
  rw [answer]
  simp only [bind, StateT.bind, Except.bind, h]
  rfl

theorem answer_error (decoded : Request β × Parcel β) (s : GoodixFingerprintDaemonProxy β) (fault : Fault)
    (h : (goodixFingerprintDaemonProxy hal).call decoded.1 s = .error fault) :
    answer (goodixFingerprintDaemonProxy hal) decoded s = .error fault := by
  rw [answer]
  simp only [bind, StateT.bind, Except.bind, h]

omit [DecidableEq β] in
/-- A method's result of `-1` is an error. -/
theorem failed_refusal (data : Parcel β) : Outcome.Failed ⟨noError, Code.Kind.int32.write (-1) {}, data⟩ := by
  refine .inr ?_
  rw [read_write]
  decide

/-- The call of a decoded request is answered, and uses only what the parcel holds. -/
def AnswerContained (data : Parcel β) (decoded : Request β × Parcel β) (s : GoodixFingerprintDaemonProxy β) : Prop :=
  ∃ outcome s', answer (goodixFingerprintDaemonProxy hal) decoded s = .ok (outcome, s') ∧ Handled data s outcome s'

/-- A served transaction by the request it decodes. -/
theorem contained_served (c : Code) (data : Parcel β) (s : GoodixFingerprintDaemonProxy β)
    (hadmits : Admits (goodixFingerprintDaemonProxy hal) ctx data c = true) :
    Contained hal ctx c.number data s ↔
      AnswerContained hal data (c.decode ctx (data.checkInterface descriptor).2) s := by
  rw [Contained, onTransact_eq _ ctx _ data c (Code.ofNumber_number c), if_pos hadmits]
  rfl

/-- A call of the HAL is handled well if what it is handed lies in the parcel. -/
theorem handled_record (data : Parcel β) (s : GoodixFingerprintDaemonProxy β) (outcome : Outcome β) (call : HalCall)
    (err : Int32) : Handled data s outcome (s.record (.called call err)) ↔ call.Inside data := by
  constructor
  · intro h
    rcases h with ⟨call', err', hsame, hinside⟩ | ⟨b, hsame | hsame⟩ | ⟨hsame, -⟩
    · have heffects := congrArg GoodixFingerprintDaemonProxy.effects hsame
      simp only [GoodixFingerprintDaemonProxy.record, List.append_cancel_left_eq, List.cons.injEq,
        Effect.called.injEq, and_true] at heffects
      rw [heffects.1]
      exact hinside
    · have heffects := congrArg GoodixFingerprintDaemonProxy.effects hsame
      simp [GoodixFingerprintDaemonProxy.record, GoodixFingerprintDaemonProxy.registered] at heffects
    · have heffects := congrArg GoodixFingerprintDaemonProxy.effects hsame
      simp [GoodixFingerprintDaemonProxy.record, GoodixFingerprintDaemonProxy.testRegistered] at heffects
    · have heffects := congrArg GoodixFingerprintDaemonProxy.effects hsame
      simp [GoodixFingerprintDaemonProxy.record] at heffects
  · intro hinside
    exact .inl ⟨call, err, rfl, hinside⟩

/-- A pointer that a request holds spans its length, in the parcel. -/
def Spanning (data : Parcel β) : Request β → Prop
  | .enroll token tokenSize _ _ =>
    ∀ bytes, token = some bytes → bytes.length = tokenSize.toUInt64.toNat ∧ bytes <:+: data.mData
  | .setActiveGroup _ path pathLen =>
    ∀ bytes, path = some bytes → bytes.length = pathLen.toUInt64.toNat ∧ bytes <:+: data.mData
  | .testCmd _ param paramLen =>
    ∀ bytes, param = some bytes → bytes.length = paramLen.toNat ∧ bytes <:+: data.mData
  | _ => True

omit [DecidableEq β] in
/-- The stub's pointers span the lengths that go with them. -/
theorem spanning_decode (c : Code) (p data : Parcel β) (hdata : p.mData = data.mData) :
    Spanning data (c.decode ctx p).1 := by
  cases c with
  | enroll =>
    simp only [Code.decode, Spanning]
    intro bytes hbytes
    obtain ⟨-, hlength, hinside⟩ := Parcel.readInplace_inside _ _ _ hbytes
    rw [p.readInt32_mData, hdata] at hinside
    exact ⟨hlength, hinside⟩
  | setActiveGroup =>
    simp only [Code.decode, Spanning]
    intro bytes hbytes
    obtain ⟨-, hlength, hinside⟩ := Parcel.readInplace_inside _ _ _ hbytes
    rw [Parcel.readInt32_mData, p.readInt32_mData, hdata] at hinside
    exact ⟨hlength, hinside⟩
  | testCmd =>
    simp only [Code.decode, Spanning]
    intro bytes hbytes
    obtain ⟨hmax, hlength, hinside⟩ := Parcel.readInplace_inside _ _ _ hbytes
    rw [Parcel.readInt32_mData, p.readInt32_mData, hdata] at hinside
    exact ⟨hlength.trans (size_nonneg _ hmax).2.symm, hinside⟩
  | _ => trivial

/-- A call that is answered with a result. -/
theorem contained_ok (data rest : Parcel β) (s s' : GoodixFingerprintDaemonProxy β) (r : Request β) (v : r.Result)
    (h : (goodixFingerprintDaemonProxy hal).call r s = .ok (v, s')) :
    AnswerContained hal data (r, rest) s ↔ Handled data s ⟨noError, r.code.kind.write v {}, rest⟩ s' := by
  rw [AnswerContained, answer_ok hal (r, rest) s s' v h]
  simp only [Except.ok.injEq, Prod.mk.injEq]
  constructor
  · intro hcontained
    obtain ⟨outcome, t, ⟨houtcome, ht⟩, hhandled⟩ := hcontained
    rw [houtcome, ht]
    exact hhandled
  · intro hhandled
    exact ⟨_, _, ⟨rfl, rfl⟩, hhandled⟩

theorem contained_error (data rest : Parcel β) (s : GoodixFingerprintDaemonProxy β) (r : Request β) (fault : Fault)
    (h : (goodixFingerprintDaemonProxy hal).call r s = .error fault) :
    ¬ AnswerContained hal data (r, rest) s := by
  rw [AnswerContained, answer_error hal (r, rest) s fault h]
  intro hcontained
  obtain ⟨_, _, hout, -⟩ := hcontained
  cases hout

/-! ### The five methods -/

theorem contained_enroll (data rest : Parcel β) (s : GoodixFingerprintDaemonProxy β) (token : Ptr)
    (tokenSize : Int64) (groupId timeout : Int32) (hspan : Spanning data (.enroll token tokenSize groupId timeout)) :
    AnswerContained hal data (.enroll token tokenSize groupId timeout, rest) s ↔
      Present (.enroll (β := β) token tokenSize groupId timeout) := by
  by_cases hsize : tokenSize.toUInt64 = UInt64.ofNat hwAuthTokenSize
  · have hcall := enroll_passed hal s token tokenSize groupId timeout hsize
    rw [contained_ok hal data rest s _ _ _ hcall, handled_record, Present]
    constructor
    · intro hinside _
      obtain ⟨bytes, htoken, -⟩ := hinside
      rw [htoken]
      exact Option.some_ne_none _
    · intro hpresent
      obtain ⟨bytes, hbytes⟩ := Option.ne_none_iff_exists'.mp (hpresent hsize)
      obtain ⟨hlength, hinside⟩ := hspan bytes hbytes
      rw [hsize] at hlength
      exact ⟨bytes, hbytes, hlength, hinside⟩
  · rw [contained_ok hal data rest s _ _ _ (enroll_refused hal s token tokenSize groupId timeout hsize)]
    exact ⟨fun _ h => absurd h hsize, fun _ => .inr (.inr ⟨rfl, failed_refusal rest⟩)⟩

theorem contained_setActiveGroup (data rest : Parcel β) (s : GoodixFingerprintDaemonProxy β) (groupId : Int32)
    (path : Ptr) (pathLen : Int64) (hspan : Spanning data (.setActiveGroup groupId path pathLen)) :
    AnswerContained hal data (.setActiveGroup groupId path pathLen, rest) s ↔
      Present (.setActiveGroup (β := β) groupId path pathLen) := by
  by_cases hlen : (pathMax : Int) ≤ pathLen.toInt ∨ pathLen.toInt ≤ 0
  · rw [contained_ok hal data rest s _ _ _ (setActiveGroup_refused hal s groupId path pathLen hlen)]
    exact ⟨fun _ hpos hmax => by omega, fun _ => .inr (.inr ⟨rfl, failed_refusal rest⟩)⟩
  · have hsize := toNat_ssize pathLen
    cases path with
    | none =>
      have hcall : (goodixFingerprintDaemonProxy hal).call (.setActiveGroup groupId none pathLen) s =
          .error .nullPointer := by
        rw [call_setActiveGroup, if_neg hlen, memcpy, if_neg (by omega)]
        rfl
      refine ⟨fun h => absurd h (contained_error hal data rest s _ _ hcall), fun hpresent => ?_⟩
      exact absurd rfl (hpresent (by omega) (by omega))
    | some bytes =>
      obtain ⟨hlength, -⟩ := hspan bytes rfl
      have hcall := setActiveGroup_passed hal s groupId bytes pathLen (by omega) (by omega) (by omega)
      rw [contained_ok hal data rest s _ _ _ hcall, handled_record]
      exact ⟨fun _ _ _ => Option.some_ne_none _, fun _ => trivial⟩

theorem contained_testCmd (data rest : Parcel β) (s : GoodixFingerprintDaemonProxy β) (cmdId : UInt32)
    (param : Ptr) (paramLen : UInt32) (hspan : Spanning data (.testCmd cmdId param paramLen)) :
    AnswerContained hal data (.testCmd cmdId param paramLen, rest) s ↔
      Present (.testCmd (β := β) cmdId param paramLen) := by
  obtain ⟨err, hcall⟩ : ∃ err : Int32, (goodixFingerprintDaemonProxy hal).call (.testCmd cmdId param paramLen) s =
      .ok (err, s.record (.called (.testCmd s.mDevice cmdId param paramLen) err)) := ⟨_, rfl⟩
  rw [contained_ok hal data rest s _ _ _ hcall, handled_record, Present]
  constructor
  · intro hinside
    obtain ⟨bytes, hparam, -⟩ := hinside
    rw [hparam]
    exact Option.some_ne_none _
  · intro hpresent
    obtain ⟨bytes, hbytes⟩ := Option.ne_none_iff_exists'.mp hpresent
    exact ⟨bytes, hbytes, hspan bytes hbytes⟩

/-- A null callback is dereferenced. -/
theorem contained_registration (data rest : Parcel β) (s : GoodixFingerprintDaemonProxy β) (r : Request β)
    (callback : Option β) (hr : r = .init callback ∨ r = .testInit callback) :
    AnswerContained hal data (r, rest) s ↔ Present r := by
  rcases hr with rfl | rfl
  · cases callback with
    | none => exact ⟨fun h => absurd h (contained_error hal data rest s _ _ rfl), fun h => absurd rfl h⟩
    | some b =>
      rw [contained_ok hal data rest s _ _ _ (GoodixFingerprintDaemonProxy.call_init hal s b)]
      exact ⟨fun _ => Option.some_ne_none b, fun _ => .inr (.inl ⟨b, .inl rfl⟩)⟩
  · cases callback with
    | none => exact ⟨fun h => absurd h (contained_error hal data rest s _ _ rfl), fun h => absurd rfl h⟩
    | some b =>
      rw [contained_ok hal data rest s _ _ _ (GoodixFingerprintDaemonProxy.call_testInit hal s b)]
      exact ⟨fun _ => Option.some_ne_none b, fun _ => .inr (.inl ⟨b, .inr rfl⟩)⟩

/-- In the parcel, every pointer argument is there whose length, or whose binder, the method does not refuse. -/
def Supplied (data : Parcel β) : Code → Prop
  | .enroll =>
    let (tokenSize, data) := data.readInt32
    tokenSize = Int32.ofNat hwAuthTokenSize → data.Reaches tokenSize
  | .setActiveGroup =>
    let (_, data) := data.readInt32
    let (pathSize, data) := data.readInt32
    0 < pathSize.toInt → pathSize.toInt < pathMax → data.Reaches pathSize
  | .testCmd =>
    let (_, data) := data.readInt32
    let (paramLen, data) := data.readInt32
    data.Reaches paramLen
  | .init | .testInit => data.readStrongBinder.1 ≠ none
  | _ => True

omit [DecidableEq β] in
theorem readInplace_present (p : Parcel β) (len : Int32) :
    (p.readInplace len.toInt64.toUInt64).1 ≠ none ↔ p.Reaches len := by
  rw [Parcel.readInplace_reaches]
  by_cases hreach : p.Reaches len
  · simp [hreach]
  · simp [hreach]

/-- The length of a token, as the method checks it. -/
theorem tokenSize_iff (size : Int32) :
    size.toInt64.toUInt64 = UInt64.ofNat hwAuthTokenSize ↔ size = Int32.ofNat hwAuthTokenSize := by
  constructor
  · intro h
    have hnat : size.toInt64.toUInt64.toNat = hwAuthTokenSize := by
      rw [h]
      decide
    have hint := (size_nonneg size (by rw [hnat]; decide)).1
    rw [hnat] at hint
    apply Int32.toInt_inj.mp
    rw [← hint]
    decide
  · intro h
    rw [h]
    decide

omit [DecidableEq β] in
/-- What the parcel supplies, the stub hands on. -/
theorem present_iff (ctx : Context β) (data : Parcel β) (c : Code) :
    Present (c.decode ctx data).1 ↔ Supplied data c := by
  cases c with
  | enroll => simp only [Code.decode, Present, Supplied, tokenSize_iff, readInplace_present]
  | setActiveGroup => simp only [Code.decode, Present, Supplied, Int32.toInt_toInt64, readInplace_present]
  | testCmd => simp only [Code.decode, Present, Supplied, readInplace_present]
  | init | testInit => simp only [Code.decode, Present, Supplied]
  | _ => exact Iff.rfl

/-- **Only what the parcel holds is used** exactly if every pointer is there whose length, or
whose binder, the method does not refuse. -/
theorem arguments_contained_iff (c : Code) (hc : c ∈ pointerCodes) (data : Parcel β)
    (s : GoodixFingerprintDaemonProxy β) (hadmits : Admits (goodixFingerprintDaemonProxy hal) ctx data c = true) :
    Contained hal ctx c.number data s ↔ Supplied (data.checkInterface descriptor).2 c := by
  have hspan := spanning_decode ctx c (data.checkInterface descriptor).2 data (data.checkInterface_mData descriptor)
  rw [contained_served hal ctx c data s hadmits, ← present_iff ctx]
  cases c with
  | enroll =>
    simp only [Code.decode] at hspan ⊢
    exact contained_enroll hal data _ s _ _ _ _ hspan
  | setActiveGroup =>
    simp only [Code.decode] at hspan ⊢
    exact contained_setActiveGroup hal data _ s _ _ _ hspan
  | testCmd =>
    simp only [Code.decode] at hspan ⊢
    exact contained_testCmd hal data _ s _ _ _ hspan
  | init =>
    simp only [Code.decode]
    exact contained_registration hal data _ s _ _ (.inl rfl)
  | testInit =>
    simp only [Code.decode]
    exact contained_registration hal data _ s _ _ (.inr rfl)
  | _ => simp [pointerCodes] at hc

/-- A parcel with the token and the length of an authentication token, and nothing behind. -/
def tokenAnnounced : Parcel Nat :=
  Parcel.between [] (Parcel.interfaceToken descriptor ++ Parcel.int32 (Int32.ofNat hwAuthTokenSize)) []

/-- The HAL is handed a null token. -/
theorem null_token_used :
    Admits (goodixFingerprintDaemonProxy .succeeding) (.granting true) tokenAnnounced .enroll = true ∧
    ¬ Contained .succeeding (.granting true) Code.enroll.number tokenAnnounced {} := by
  have hadmits : Admits (goodixFingerprintDaemonProxy .succeeding) (.granting true) tokenAnnounced .enroll = true := by
    decide +kernel
  have hdecoded : (Code.enroll.decode (.granting true) (tokenAnnounced.checkInterface descriptor).2).1 =
      .enroll none (Int64.ofNat hwAuthTokenSize) 0 0 := by decide +kernel
  refine ⟨hadmits, fun hcontained => ?_⟩
  have hspan := spanning_decode (.granting true) .enroll (tokenAnnounced.checkInterface descriptor).2 tokenAnnounced
    (tokenAnnounced.checkInterface_mData descriptor)
  rw [contained_served _ _ _ _ _ hadmits] at hcontained
  generalize Code.enroll.decode (.granting true) (tokenAnnounced.checkInterface descriptor).2 = decoded
    at hdecoded hspan hcontained
  obtain ⟨r, rest⟩ := decoded
  cases hdecoded
  exact absurd rfl ((contained_enroll .succeeding tokenAnnounced rest {} none _ 0 0 hspan).mp hcontained (by decide))

/-- The same parcel with the length cut off is refused. -/
theorem arguments_contained_empty :
    Contained .succeeding (.granting true) Code.enroll.number
      (Parcel.between [] (Parcel.interfaceToken descriptor) [] : Parcel Nat) {} := by
  refine (arguments_contained_iff .succeeding (.granting true) .enroll (by simp [pointerCodes]) _ {}
    (by decide +kernel)).mpr ?_
  rw [Supplied]
  intro hsize
  exact absurd hsize (by decide +kernel)

end Daemon
end GoodixFingerprint
