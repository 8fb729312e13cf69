import GoodixFingerprint.Interface.Proxy
import GoodixFingerprint.Interface.Stub

/-! The proxy over the stub is the implementation.

`Request.fields` is what the proxy appends after the token, field by field, and
`decode_fields` that the stub's branch reads the same request back and nothing is
left. From there a request that fits its length field is one call of the same
method on the same arguments, whatever monad the implementation lives in. -/
namespace GoodixFingerprint
open Binder

/-! ### Lengths that survive the 32-bit field -/

theorem ssize_round_trip {n : Nat} (h : n ≤ int32Max) :
    (Int64.ofNat n).toInt32.toInt64 = Int64.ofNat n := by
  unfold int32Max at h
  rw [Int64.toInt32_ofNat', Int32.toInt64_ofNat']
  rw [Int32.toInt_maxValue]
  omega

theorem ssize_toNat {n : Nat} (h : n ≤ int32Max) : (Int64.ofNat n).toUInt64.toNat = n := by
  unfold int32Max at h
  rw [Int64.toUInt64_ofNat', UInt64.toNat_ofNat']
  exact Nat.mod_eq_of_lt (by omega)

theorem uint32_ssize {n : Nat} (h : n ≤ int32Max) :
    (UInt32.ofNat n).toInt32.toInt64 = Int64.ofNat n := by
  unfold int32Max at h
  rw [UInt32.toInt32_ofNat', Int32.toInt64_ofNat']
  rw [Int32.toInt_maxValue]
  omega

theorem uint32_toUInt64 {n : Nat} (h : n ≤ int32Max) :
    (UInt32.ofNat n).toUInt64 = (Int64.ofNat n).toUInt64 := by
  unfold int32Max at h
  apply UInt64.toNat_inj.mp
  rw [ssize_toNat h, UInt32.toNat_toUInt64, UInt32.toNat_ofNat']
  exact Nat.mod_eq_of_lt (by omega)

/-! ### What the proxy writes -/

namespace Request
variable {β : Type}

/-- What follows the token, field by field. -/
def fields : Request β → List (List UInt8)
  | init _ | testInit _ => [List.replicate flatBinderSize 0]
  | enroll token tokenLength groupId timeout =>
    [Parcel.int32 tokenLength.toInt32, Parcel.bufferField token tokenLength.toUInt64, Parcel.int32 groupId,
      Parcel.int32 timeout]
  | authenticate sessionId groupId => [Parcel.int64 sessionId.toInt64, Parcel.int32 groupId.toInt32]
  | remove fingerId groupId => [Parcel.int32 fingerId, Parcel.int32 groupId]
  | setActiveGroup groupId path pathLen =>
    [Parcel.int32 groupId, Parcel.int32 pathLen.toInt32, Parcel.bufferField path pathLen.toUInt64]
  | setSafeClass safeClass => [Parcel.int32 safeClass.toInt32]
  | navigate navMode => [Parcel.int32 navMode.toInt32]
  | enableFingerprintModule enableFlag | enableFfFeature enableFlag => [Parcel.bufferField (some [enableFlag]) 1]
  | testCmd cmdId param paramLen =>
    [Parcel.int32 cmdId.toInt32, Parcel.int32 paramLen.toInt32, Parcel.bufferField param paramLen.toUInt64]
  | _ => []

/-- The binder objects of a request, at their offset behind the token. -/
def objects : Request β → List (Nat × β)
  | init callback | testInit callback =>
    callback.toList.map fun b => ((Parcel.interfaceToken descriptor).length, b)
  | _ => []

/-- The parcel of a request: the token and the fields, none of them read. -/
def parcel (r : Request β) : Parcel β :=
  Parcel.between [] (Parcel.interfaceToken descriptor ++ r.fields.flatten) r.objects

/-- No buffer is shorter than the length that goes with it, unless that is refused. -/
def Writable : Request β → Prop
  | enroll token tokenLength _ _ => Parcel.Writable token tokenLength.toUInt64
  | setActiveGroup _ path pathLen => Parcel.Writable path pathLen.toUInt64
  | testCmd _ param paramLen => Parcel.Writable param paramLen.toUInt64
  | _ => True

instance : (r : Request β) → Decidable r.Writable
  | enroll token tokenLength _ _ => inferInstanceAs (Decidable (Parcel.Writable token tokenLength.toUInt64))
  | setActiveGroup _ path pathLen => inferInstanceAs (Decidable (Parcel.Writable path pathLen.toUInt64))
  | testCmd _ param paramLen => inferInstanceAs (Decidable (Parcel.Writable param paramLen.toUInt64))
  | init _ | preEnroll | postEnroll | stopEnrollment | authenticate .. | stopAuthentication | remove ..
  | getAuthenticatorId | setSafeClass _ | navigate _ | stopNavigation | enableFingerprintModule _
  | cameraCapture | stopCameraCapture | enableFfFeature _ | testInit _ | screenOn | screenOff | startHbd
  | openHal | closeHal => isTrue trivial

/-- A flag is one byte, and that is there. -/
theorem writable_flag (enableFlag : UInt8) : Parcel.Writable (some [enableFlag]) 1 := fun _ => Nat.le_refl 1

/-- The proxy writes the parcel of the request. -/
theorem written_ok (r : Request β) (h : r.Writable) : r.written = .ok (r.code.number, r.parcel) := by
  have hthrown := thrown_call (β := β) r.code
  unfold parcel
  cases r with
  | enroll | setActiveGroup | testCmd =>
    dsimp only [written, IGoodixFingerprintDaemon.call, bpGoodixFingerprintDaemon]
    refine (hthrown _).trans ?_
    simp only [Parcel.write_ok h, Parcel.writeInterfaceToken_empty, Parcel.writeInt32,
      Parcel.append_between, bind, Except.bind, Except.map, fields, objects, List.flatten_cons,
      List.flatten_nil, List.append_nil, List.append_assoc]
  | _ =>
    dsimp only [written, IGoodixFingerprintDaemon.call, bpGoodixFingerprintDaemon]
    refine (hthrown _).trans ?_
    simp only [Parcel.write_ok (writable_flag _), Parcel.writeInterfaceToken_empty, Parcel.writeInt32,
      Parcel.writeInt64, Parcel.append_between, Parcel.writeStrongBinder_between, Except.map, fields, objects,
      List.flatten_cons, List.flatten_nil, List.append_nil, List.nil_append, List.append_assoc]

/-- Or it faults over a buffer, with nothing sent. -/
theorem written_error (r : Request β) (h : ¬ r.Writable) : ∃ fault, r.written = .error fault := by
  have hthrown := thrown_call (β := β) r.code
  cases r with
  | enroll | setActiveGroup | testCmd =>
    obtain ⟨fault, hfault⟩ := Parcel.write_error (β := β) h
    refine ⟨fault, ?_⟩
    dsimp only [written, IGoodixFingerprintDaemon.call, bpGoodixFingerprintDaemon]
    refine (hthrown _).trans ?_
    simp only [hfault, bind, Except.bind, Except.map]
  | _ => exact absurd trivial h

/-- Pointer arguments span the length that goes with them, and the length fits the
parcel's 32-bit field. -/
def Fits : Request β → Prop
  | enroll token tokenLength _ _ =>
    ∃ bytes, token = some bytes ∧ bytes.length ≤ int32Max ∧ tokenLength = Int64.ofNat bytes.length
  | setActiveGroup _ path pathLen =>
    ∃ bytes, path = some bytes ∧ bytes.length ≤ int32Max ∧ pathLen = Int64.ofNat bytes.length
  | testCmd _ param paramLen =>
    ∃ bytes, param = some bytes ∧ bytes.length ≤ int32Max ∧ paramLen = UInt32.ofNat bytes.length
  | _ => True

theorem Fits.writable {r : Request β} (h : r.Fits) : r.Writable := by
  cases r with
  | enroll | setActiveGroup =>
    obtain ⟨bytes, rfl, hlen, rfl⟩ := h
    exact fun _ => Nat.le_of_eq (ssize_toNat hlen)
  | testCmd =>
    obtain ⟨bytes, rfl, hlen, rfl⟩ := h
    refine fun _ => Nat.le_of_eq ?_
    rw [uint32_toUInt64 hlen]
    exact ssize_toNat hlen
  | _ => trivial

/-! ### What the stub reads -/

/-- A written request with more bytes behind it. -/
def extended (r : Request β) (more : List UInt8) : Parcel β := r.parcel.append more

/-- The parcel of an extended request with the request read. -/
def passed (r : Request β) (more : List UInt8) : Parcel β :=
  Parcel.between (Parcel.interfaceToken descriptor ++ r.fields.flatten) more r.objects

/-- The parcel of a request with everything read. -/
def consumed (r : Request β) : Parcel β := r.passed []

theorem extended_nil (r : Request β) : r.extended [] = r.parcel := by
  simp [extended, Parcel.append]

/-- The token behind it, the stub stands at the fields. -/
theorem extended_token (r : Request β) (more : List UInt8) (expected : String16) :
    (r.extended more).checkInterface expected =
      (descriptor == expected,
        Parcel.between (Parcel.interfaceToken descriptor) (r.fields.flatten ++ more) r.objects) := by
  rw [extended, parcel, Parcel.append_between, List.append_assoc,
    Parcel.checkInterface_between _ _ descriptor_named, List.nil_append]

theorem parcel_token (r : Request β) (expected : String16) :
    r.parcel.checkInterface expected =
      (descriptor == expected,
        Parcel.between (Parcel.interfaceToken descriptor) r.fields.flatten r.objects) := by
  rw [← r.extended_nil, r.extended_token, List.append_nil]

end Request

/-- A buffer that fits is read back byte for byte. -/
theorem readInplace_field {β : Type} (bytes : List UInt8) (h : bytes.length ≤ int32Max)
    (before rest : List UInt8) (objects : List (Nat × β)) :
    (Parcel.between before
        (Parcel.bufferField (some bytes) (Int64.ofNat bytes.length).toUInt64 ++ rest) objects).readInplace
      (Int64.ofNat bytes.length).toUInt64 =
      (some bytes,
        Parcel.between (before ++ Parcel.bufferField (some bytes) (Int64.ofNat bytes.length).toUInt64) rest
          objects) := by
  have hlen := ssize_toNat h
  rw [Parcel.bufferField_whole bytes _ hlen.symm (by rw [hlen]; exact h),
    Parcel.readInplace_between hlen.symm (by rw [hlen]; exact h)]

/-- The stub's branch reads back the request the proxy wrote, and stops behind it. -/
theorem decode_extended {β : Type} (ctx : Context β) (r : Request β) (hr : r.Fits) (more : List UInt8) :
    r.code.decode ctx
      (Parcel.between (Parcel.interfaceToken descriptor) (r.fields.flatten ++ more) r.objects) =
        (r, r.passed more) := by
  have hflag (flag : UInt8) (before rest : List UInt8) :
      (Parcel.between (β := β) before (Parcel.bufferField (some [flag]) 1 ++ rest) []).read 1 =
        (some [flag], Parcel.between (before ++ Parcel.bufferField (some [flag]) 1) rest []) :=
    readInplace_field [flag] (by simp [int32Max]) before rest []
  unfold Request.passed
  cases r with
  | enroll token tokenLength groupId timeout =>
    obtain ⟨bytes, rfl, hlen, rfl⟩ := hr
    simp only [Request.code, Code.decode, Request.fields, List.flatten_cons, List.flatten_nil,
      List.append_assoc, Parcel.readInt32_between, ssize_round_trip hlen, readInplace_field bytes hlen]
    simp only [List.append_nil, List.nil_append]
  | setActiveGroup groupId path pathLen =>
    obtain ⟨bytes, rfl, hlen, rfl⟩ := hr
    simp only [Request.code, Code.decode, Request.fields, List.flatten_cons, List.flatten_nil,
      List.append_assoc, Parcel.readInt32_between, ssize_round_trip hlen, readInplace_field bytes hlen]
    simp only [List.append_nil, List.nil_append]
  | testCmd cmdId param paramLen =>
    obtain ⟨bytes, rfl, hlen, rfl⟩ := hr
    simp only [Request.code, Code.decode, Request.fields, List.flatten_cons, List.flatten_nil,
      List.append_assoc, Parcel.readInt32_between, uint32_ssize hlen, uint32_toUInt64 hlen,
      readInplace_field bytes hlen, UInt32.toUInt32_toInt32]
    simp only [List.append_nil, List.nil_append]
  | init callback | testInit callback =>
    simp only [Request.code, Code.decode, Request.fields, Request.objects, List.flatten_cons,
      List.flatten_nil, List.append_nil, Parcel.readStrongBinder_between]
  | _ =>
    simp only [Request.code, Code.decode, Request.fields, Request.objects, List.flatten_cons,
      List.flatten_nil, List.append_assoc, List.nil_append, List.append_nil, Parcel.readInt32_between,
      Parcel.readInt64_between, hflag, Option.getD_some, List.headD_cons, UInt32.toUInt32_toInt32,
      UInt64.toUInt64_toInt64]

/-- With nothing behind it, it is read to the end of the parcel. -/
theorem decode_fields {β : Type} (ctx : Context β) (r : Request β) (hr : r.Fits) :
    r.code.decode ctx
      (Parcel.between (Parcel.interfaceToken descriptor) r.fields.flatten r.objects) =
        (r, r.consumed) := by
  have hdecode := decode_extended ctx r hr []
  rw [List.append_nil] at hdecode
  exact hdecode

/-- What a method returns is what the proxy decodes from the reply. -/
theorem read_write {β : Type} (k : Code.Kind) (ret : k.Result) :
    k.read (k.write ret ({} : Parcel β)) = ret := by
  have hreply (bytes : List UInt8) : (({} : Parcel β).writeNoException).append bytes =
      Parcel.between [] (Parcel.int32 0 ++ (bytes ++ [])) [] := by
    simp [Parcel.writeNoException, Parcel.writeInt32, Parcel.append, Parcel.between]
  cases k with
  | unit => rfl
  | int32 =>
    simp only [Code.Kind.read, Code.Kind.write, Parcel.writeInt32, Parcel.readExceptionCode, hreply,
      Parcel.readInt32_between]
  | uint64 =>
    simp only [Code.Kind.read, Code.Kind.write, Parcel.writeInt64, Parcel.readExceptionCode, hreply,
      Parcel.readInt32_between, Parcel.readInt64_between, UInt64.toUInt64_toInt64]
  | int64 =>
    simp only [Code.Kind.read, Code.Kind.write, Parcel.writeInt64, Parcel.readExceptionCode, hreply,
      Parcel.readInt32_between, Parcel.readInt64_between]

/-! ### The round trip -/

section RoundTrip
variable {m : Type → Type} [Monad m] {β : Type}

open BnGoodixFingerprintDaemon in
/-- The stub makes of a written request one call of its method, and replies with the result,
whatever stands behind the request. -/
theorem onTransact_extended (this : IGoodixFingerprintDaemon m β) (ctx : Context β)
    (r : Request β) (hr : r.Fits) (more : List UInt8) (hthis : this.getInterfaceDescriptor = descriptor)
    (hperm : r.code.gated = true → checkPermission ctx halFingerprintPermission = true) :
    onTransact this ctx r.code.number (r.extended more) =
      this.call r >>= fun ret => pure ⟨noError, r.code.kind.write ret {}, r.passed more⟩ := by
  have hadmits : Admits this ctx (r.extended more) r.code = true := by
    unfold Admits
    rw [r.extended_token, hthis]
    cases hg : r.code.gated
    · simp
    · simp [hperm hg]
  rw [onTransact_eq this ctx _ _ r.code (Code.ofNumber_number r.code), if_pos hadmits,
    served, r.extended_token, decode_extended ctx r hr more]
  rfl

open BnGoodixFingerprintDaemon in
theorem onTransact_parcel (this : IGoodixFingerprintDaemon m β) (ctx : Context β)
    (r : Request β) (hr : r.Fits) (hthis : this.getInterfaceDescriptor = descriptor)
    (hperm : r.code.gated = true → checkPermission ctx halFingerprintPermission = true) :
    onTransact this ctx r.code.number r.parcel =
      this.call r >>= fun ret => pure ⟨noError, r.code.kind.write ret {}, r.consumed⟩ := by
  rw [← r.extended_nil]
  exact onTransact_extended this ctx r hr [] hthis hperm

/-- A transaction that reaches the stub and answers whatever the stub answers. -/
def deliver (this : IGoodixFingerprintDaemon m β) (ctx : Context β) : Transact m β :=
  fun code data => (fun o => (o.status, o.reply)) <$> BnGoodixFingerprintDaemon.onTransact this ctx code data

/-- **The proxy over the stub is the implementation**: a request that fits is written without a
fault, is one call of the same method on the same arguments, the parcel is consumed to its end,
and the value comes back unchanged. -/
theorem request_round_trip [LawfulMonad m] (this : IGoodixFingerprintDaemon m β) (ctx : Context β)
    (r : Request β) (hr : r.Fits) (hthis : this.getInterfaceDescriptor = descriptor)
    (hperm : BnGoodixFingerprintDaemon.checkPermission ctx halFingerprintPermission = true) :
    r.written = .ok (r.code.number, r.parcel) ∧
    r.consumed.Consumed ∧
    BnGoodixFingerprintDaemon.onTransact this ctx r.code.number r.parcel =
      this.call r >>= (fun ret => pure ⟨noError, r.code.kind.write ret {}, r.consumed⟩) ∧
    (∀ ret : r.Result, r.code.kind.read (r.code.kind.write ret ({} : Parcel β)) = ret) ∧
    (bpGoodixFingerprintDaemon (deliver this ctx)).call r = ExceptT.lift (this.call r) := by
  have hwritten := r.written_ok hr.writable
  have hserved := onTransact_parcel this ctx r hr hthis fun _ => hperm
  refine ⟨hwritten, Parcel.consumed_between _ _, hserved, read_write r.code.kind, ?_⟩
  rw [bp_call_ok _ r _ _ hwritten, deliver, hserved]
  simp only [map_eq_pure_bind, bind_assoc, pure_bind, read_write, bind_pure]

end RoundTrip

/-- An implementation that notes the requests it gets. -/
def recorder : IGoodixFingerprintDaemon (StateM (List (Request Nat))) Nat :=
  .ofCall descriptor fun r requests => (r.code.kind.zero, requests ++ [r])

/-- A token of three bytes, group and timeout, through the proxy and the stub. -/
theorem enroll_round_trip :
    (bpGoodixFingerprintDaemon (deliver recorder (.granting true))).call
      (.enroll (some [1, 2, 3]) 3 5 60) [] = (.ok (0 : Int32), [.enroll (some [1, 2, 3]) 3 5 60]) := by
  rw [(request_round_trip recorder (.granting true) (.enroll (some [1, 2, 3]) 3 5 60)
    ⟨[1, 2, 3], rfl, by decide, rfl⟩ rfl rfl).2.2.2.2]
  rfl

end GoodixFingerprint
