import GoodixFingerprint.Callback.RoundTrip
import GoodixFingerprint.Client.Lengths

/-! The memory that the client uses on behalf of the daemon.

Stub and handler keep to the memory they have, and a token that is passed on is whole, exactly
if the declared lengths are what the handler takes them for. -/
namespace GoodixFingerprint
open Binder

namespace Client
variable {β : Type} (ctx : Context β) (w : World)
open BnGoodixFingerprintDaemonCallback

/-- A transaction uses no memory but what it may use, reads no element but what was received, hands
no token to `notify` but a whole one, and does nothing at all without the interface token. -/
structure InBounds (code : UInt32) (data : Parcel β) : Prop where
  contained : ∀ fault, (onTransact goodixFingerprintDaemonCallbackProxy ctx code data w).1 = .error fault →
    ¬ fault.OfMemory
  received : ∀ n ∈ (onTransact callbackRecorder ctx code data []).2, ∀ cells, n.elements = .ok cells → none ∉ cells
  /-- Whatever is behind `mDevice`, freed or not. -/
  token : ∀ heap outcome w' notify fid gid hat,
    onTransact goodixFingerprintDaemonCallbackProxy ctx code data {w with heap := heap} = (.ok outcome, w') →
    w'.delivered = w.delivered ++ [(notify, .authenticated fid gid hat)] →
    hat.length = hwAuthTokenSize ∧ hat <:+: data.mData
  rejected : (data.checkInterface callbackDescriptor).1 = false →
    ∃ outcome, onTransact goodixFingerprintDaemonCallbackProxy ctx code data w = (.ok outcome, w) ∧
      (CallbackCode.ofNumber code ≠ none → outcome.status = permissionDenied)

/-- An array of at least one element by its size in bytes, and as many bytes. -/
def ArraySized (data : Parcel β) : Prop := data.readInt32.2.Reaches data.readInt32.1 ∧ 4 ≤ data.readInt32.1.toInt

/-- A token of the right size; without a device, a shorter one as well. -/
def TokenSized (hatSize : Int32) (data : Parcel β) : Prop :=
  data.Reaches hatSize ∧ hatSize.toInt = hwAuthTokenSize ∨
    w.mDevice = none ∧ (hatSize = 0 ∨ data.Reaches hatSize ∧ hatSize.toInt ≤ hwAuthTokenSize)

/-- The lengths that a parcel declares behind its token. -/
def Sized (data : Parcel β) : CallbackCode → Prop
  | .onAuthenticated =>
    let (_, data) := data.readInt64
    let (_, data) := data.readInt32
    let (_, data) := data.readInt32
    let (hatSize, data) := data.readInt32
    TokenSized w hatSize data
  | .onEnumerate =>
    let (_, data) := data.readInt64
    ArraySized data ∧ ArraySized (behindArray data)
  | .onTestCmd =>
    let (_, data) := data.readInt64
    let (_, data) := data.readInt32
    let (resultLen, data) := data.readInt32
    data.Reaches resultLen ∧ 1 ≤ resultLen.toInt
  | _ => True

/-! ### From the parcel to what is used of it -/

/-- A code the interface does not have reaches no handler. -/
theorem in_bounds_unknown (code : UInt32) (data : Parcel β) (hcode : CallbackCode.ofNumber code = none) :
    InBounds ctx w code data := by
  have hrun {σ : Type} (this : IGoodixFingerprintDaemonCallback (ExceptT Fault (StateM σ))) (s : σ) :
      onTransact this ctx code data s = (.ok (ctx.bbinderOnTransact code data), s) := by
    unfold onTransact
    rw [hcode]
    rfl
  refine ⟨fun fault h => ?_, fun n hn => ?_, ?_, fun _ => ⟨_, hrun _ w, fun h => absurd hcode h⟩⟩
  · rw [hrun] at h
    cases h
  · rw [hrun] at hn
    cases hn
  · intro heap outcome w' notify fid gid hat h hdelivered
    rw [hrun] at h
    cases h
    simp at hdelivered

/-- A parcel without the token is refused. -/
theorem in_bounds_refused (code : UInt32) (c : CallbackCode) (data : Parcel β)
    (hcode : CallbackCode.ofNumber code = some c) (htoken : (data.checkInterface callbackDescriptor).1 = false) :
    InBounds ctx w code data := by
  have hrun {σ : Type} (this : IGoodixFingerprintDaemonCallback (ExceptT Fault (StateM σ))) (s : σ)
      (hthis : this.getInterfaceDescriptor = callbackDescriptor) : onTransact this ctx code data s =
        (.ok ⟨permissionDenied, {}, (data.checkInterface callbackDescriptor).2⟩, s) := by
    rw [onTransact_eq this ctx code data c hcode, hthis, htoken]
    rfl
  refine ⟨fun fault h => ?_, fun n hn => ?_, ?_, fun _ => ⟨_, hrun _ w rfl, fun _ => rfl⟩⟩
  · rw [hrun _ w rfl] at h
    cases h
  · rw [hrun _ [] rfl] at hn
    cases hn
  · intro heap outcome w' notify fid gid hat h hdelivered
    rw [hrun _ _ rfl] at h
    cases h
    simp at hdelivered

/-- What is used of the transaction, and then the message to `notify`. -/
theorem notified_used {p : Parcel β} {c : CallbackCode} {message : Option FingerprintMsg}
    {cells : List (Option UInt8)} (h : used p c = .ok (message, cells)) :
    ∃ n rest, c.decode p = .ok (n, rest) ∧ n.elements = .ok cells ∧
      ∀ v : World, notified goodixFingerprintDaemonCallbackProxy (c.decode p) v =
        ((Notification.deliver message v).1.map fun _ => ⟨noError, {}, rest⟩, (Notification.deliver message v).2) := by
  obtain ⟨⟨n, rest⟩, hdecode, -⟩ := bind_ok_iff.mp h
  obtain ⟨hmessage, hcells⟩ := (used_decoded hdecode message cells).mp h
  refine ⟨n, rest, hdecode, hcells, fun v => ?_⟩
  have hcall : goodixFingerprintDaemonCallbackProxy.call n v = Notification.deliver message v := by
    rw [n.call_eq, Notification.handled_ok_iff.mpr ⟨hmessage, cells, hcells⟩]
  rw [hdecode, notified_ok]
  simp only [bind, ExceptT.bind, ExceptT.mk, StateT.bind, hcall]
  rcases Notification.deliver message v with ⟨_ | ret, v'⟩
  · rfl
  · rfl

/-- What cannot be used is a fault. -/
theorem notified_unused {p : Parcel β} {c : CallbackCode} {fault : Fault} (h : used p c = .error fault) (v : World) :
    notified goodixFingerprintDaemonCallbackProxy (c.decode p) v = (.error fault, v) := by
  rcases bind_error_iff.mp h with hdecode | ⟨⟨n, rest⟩, hdecode, hrest⟩
  · rw [hdecode, notified_error]
    rfl
  · have hhandled : n.handled = .error fault := by
      rcases bind_error_iff.mp hrest with hmessage | ⟨message, hmessage, hrest⟩
      · exact bind_error_iff.mpr (.inl hmessage)
      · rcases bind_error_iff.mp hrest with hcells | ⟨cells, -, hrest⟩
        · exact bind_error_iff.mpr (.inr ⟨message, hmessage, bind_error_iff.mpr (.inl hcells)⟩)
        · cases hrest
    have hcall : goodixFingerprintDaemonCallbackProxy.call n v = (.error fault, v) := by rw [n.call_eq, hhandled]
    rw [hdecode, notified_ok]
    simp only [bind, ExceptT.bind, ExceptT.mk, StateT.bind, hcall]
    rfl

/-- The device alone is what a message can still fault over. -/
theorem deliver_fault {message : Option FingerprintMsg} {v : World} {fault : Fault}
    (h : (Notification.deliver message v).1 = .error fault) : ¬ fault.OfMemory := by
  cases message with
  | none => cases h
  | some message =>
    rw [Notification.deliver, passOn_eq] at h
    cases hdevice : v.mDevice with
    | none =>
      simp only [hdevice] at h
      cases h
    | some dev =>
      rcases hheap : v.heap dev with _ | ⟨_ | notify⟩
      · simp only [hdevice, hheap, Except.error.injEq] at h
        rw [← h]
        exact id
      · simp only [hdevice, hheap, Except.error.injEq] at h
        rw [← h]
        exact id
      · simp only [hdevice, hheap] at h
        cases h

/-- What has reached `notify` is the message, and there was a device. -/
theorem deliver_delivered {message : Option FingerprintMsg} {v v' : World} {ret : Int32} {notify : Nat}
    {passed : FingerprintMsg} (h : Notification.deliver message v = (.ok ret, v'))
    (hdelivered : v'.delivered = v.delivered ++ [(notify, passed)]) : message = some passed ∧ v.mDevice ≠ none := by
  cases message with
  | none =>
    cases h
    simp at hdelivered
  | some message =>
    rw [Notification.deliver, passOn_eq] at h
    cases hdevice : v.mDevice with
    | none =>
      simp only [hdevice] at h
      cases h
      simp at hdelivered
    | some dev =>
      rcases hheap : v.heap dev with _ | ⟨_ | notify'⟩
      · simp only [hdevice, hheap] at h
        cases h
      · simp only [hdevice, hheap] at h
        cases h
      · simp only [hdevice, hheap] at h
        cases h
        obtain ⟨-, rfl⟩ : notify' = notify ∧ message = passed := by simpa [World.deliver] using hdelivered
        exact ⟨rfl, Option.some_ne_none dev⟩

/-- A token that is passed on is whole, and part of the parcel. -/
def WholeToken (data : Parcel β) (message : Option FingerprintMsg) : Prop :=
  ∀ fid gid hat, message = some (.authenticated fid gid hat) → hat.length = hwAuthTokenSize ∧ hat <:+: data.mData

/-- With the interface token it is what is used that matters. -/
theorem in_bounds_used (code : UInt32) (c : CallbackCode) (data : Parcel β)
    (hcode : CallbackCode.ofNumber code = some c) (htoken : (data.checkInterface callbackDescriptor).1 = true) :
    InBounds ctx w code data ↔ ∃ message cells,
      used (data.checkInterface callbackDescriptor).2 c = .ok (message, cells) ∧ none ∉ cells ∧
        (w.mDevice ≠ none → WholeToken data message) := by
  have hrun {σ : Type} (this : IGoodixFingerprintDaemonCallback (ExceptT Fault (StateM σ))) (s : σ)
      (hthis : this.getInterfaceDescriptor = callbackDescriptor) : onTransact this ctx code data s =
        notified this (c.decode (data.checkInterface callbackDescriptor).2) s := by
    rw [onTransact_eq this ctx code data c hcode, hthis, if_pos htoken]
  constructor
  · intro h
    cases hused : used (data.checkInterface callbackDescriptor).2 c with
    | error fault =>
      refine absurd (used_error hused) (h.contained fault ?_)
      rw [hrun _ w rfl, notified_unused hused]
    | ok out =>
      obtain ⟨message, cells⟩ := out
      obtain ⟨n, rest, hdecode, hcells, hnotified⟩ := notified_used hused
      refine ⟨message, cells, rfl, h.received n ?_ cells hcells, ?_⟩
      · rw [hrun _ [] rfl, hdecode, notified_recorder]
        exact List.mem_singleton_self n
      · rintro hdevice fid gid hat rfl
        obtain ⟨dev, hdev⟩ := Option.ne_none_iff_exists'.mp hdevice
        have hnotifies : Notifies {w with heap := fun _ => some ⟨some 0⟩} 0 := ⟨dev, hdev, rfl⟩
        have hpassed : onTransact goodixFingerprintDaemonCallbackProxy ctx code data
            {w with heap := fun _ => some ⟨some 0⟩} =
            (.ok ⟨noError, {}, rest⟩,
              World.deliver 0 (.authenticated fid gid hat) {w with heap := fun _ => some ⟨some 0⟩}) := by
          rw [hrun _ _ rfl, hnotified, Notification.deliver, passOn_notifies hnotifies]
          rfl
        exact h.token _ _ _ 0 fid gid hat hpassed rfl
  · intro h
    obtain ⟨message, cells, hused, hwritten, hwhole⟩ := h
    obtain ⟨n, rest, hdecode, hcells, hnotified⟩ := notified_used hused
    refine ⟨fun fault h => ?_, fun m hm cells' hcells' => ?_, ?_, fun h => absurd htoken (by simp [h])⟩
    · rw [hrun _ w rfl, hnotified] at h
      cases hdeliver : (Notification.deliver message w).1 with
      | error fault' =>
        rw [hdeliver] at h
        obtain rfl := Except.error.inj h
        exact deliver_fault hdeliver
      | ok ret =>
        rw [hdeliver] at h
        cases h
    · rw [hrun _ [] rfl, hdecode, notified_recorder] at hm
      obtain rfl := List.mem_singleton.mp hm
      rwa [Except.ok.inj (hcells'.symm.trans hcells)]
    · intro heap outcome w' notify fid gid hat h hdelivered
      rw [hrun _ _ rfl, hnotified] at h
      cases hdeliver : Notification.deliver message {w with heap := heap} with
      | mk result v =>
        rw [hdeliver] at h
        cases result with
        | error fault => cases h
        | ok ret =>
          cases h
          obtain ⟨hmessage, hdevice⟩ := deliver_delivered hdeliver hdelivered
          exact hwhole hdevice fid gid hat hmessage

/-! ### From what is used to the lengths -/

/-- The first element of an array was received if the array's bytes are those of one at least. -/
theorem firstCells_received {data : Parcel β} (h : ArrayUsable data) :
    none ∉ firstCells data ↔ 4 ≤ data.readInt32.1.toInt := by
  obtain ⟨hreach, hfirst⟩ := h
  have hlength := Parcel.peek_length hreach
  have hmap : (none : Option UInt8) ∉ (data.readInt32.2.peek data.readInt32.1.toInt.toNat).map some := by simp
  unfold firstCells
  rw [List.take_append, List.take_replicate, List.mem_append, List.mem_replicate, List.length_map, hlength]
  constructor
  · intro h
    by_contra hshort
    exact h (.inr ⟨by omega, rfl⟩)
  · rintro hlong (hread | ⟨hmore, -⟩)
    · exact hmap (List.mem_of_mem_take hread)
    · omega

/-- A token copied is part of the parcel, and whole if it is of the right size. -/
theorem wholeToken_iff (data p : Parcel β) (hp : p.mData = data.mData) (fid gid : UInt32) (hatSize : Int32)
    (husable : hatSize = 0 ∨ p.Reaches hatSize ∧ hatSize.toInt ≤ hwAuthTokenSize) :
    WholeToken data (some (.authenticated fid gid (p.peek hatSize.toInt.toNat))) ↔
      p.Reaches hatSize ∧ hatSize.toInt = hwAuthTokenSize := by
  constructor
  · intro h
    have hwhole := (h fid gid _ rfl).1
    rcases husable with rfl | ⟨hreach, hfits⟩
    · cases hwhole
    · rw [Parcel.peek_length hreach] at hwhole
      have hnonneg := hreach.1
      exact ⟨hreach, by omega⟩
  · rintro ⟨hreach, hsize⟩ fid' gid' hat hhat
    have hlength := Parcel.peek_length hreach
    cases hhat
    rw [← hp]
    exact ⟨by omega, (List.take_prefix _ _).isInfix.trans (List.drop_suffix _ _).isInfix⟩

/-- A message without a token has no token that is not whole. -/
theorem wholeToken_tokenless (data : Parcel β) {message : Option FingerprintMsg}
    (h : ∀ fid gid hat, message ≠ some (.authenticated fid gid hat)) : WholeToken data message :=
  fun fid gid hat hmessage => absurd hmessage (h fid gid hat)

/-- What is used is in bounds if the lengths are right. -/
theorem used_sized (data p : Parcel β) (hp : p.mData = data.mData) (c : CallbackCode) :
    (∃ message cells, used p c = .ok (message, cells) ∧ none ∉ cells ∧ (w.mDevice ≠ none → WholeToken data message)) ↔
      Sized w p c := by
  have hbrought : (∃ message cells, used p c = .ok (message, cells) ∧ none ∉ cells ∧
      (w.mDevice ≠ none → WholeToken data message)) ↔
        Usable p c ∧ none ∉ (brought p c).2 ∧ (w.mDevice ≠ none → WholeToken data (brought p c).1) := by
    simp only [used_ok_iff]
    constructor
    · intro h
      obtain ⟨message, cells, ⟨husable, hsame⟩, hrest⟩ := h
      rw [← hsame]
      exact ⟨husable, hrest⟩
    · intro h
      obtain ⟨husable, hrest⟩ := h
      exact ⟨_, _, ⟨husable, rfl⟩, hrest⟩
  rw [hbrought]
  cases c with
  | onEnumerate =>
    have hnone : WholeToken data none := wholeToken_tokenless data (by simp)
    have hsized (q : Parcel β) : ArraySized q ↔ ArrayUsable q ∧ none ∉ firstCells q := by
      constructor
      · intro h
        obtain ⟨hreach, hfour⟩ := h
        exact ⟨⟨hreach, by omega⟩, (firstCells_received ⟨hreach, by omega⟩).mpr hfour⟩
      · intro h
        obtain ⟨husable, hread⟩ := h
        exact ⟨husable.1, (firstCells_received husable).mp hread⟩
    simp only [Usable, brought, Sized, hsized, List.mem_append, not_or, hnone, implies_true, and_true]
    exact and_and_and_comm
  | onTestCmd =>
    have hnone : WholeToken data none := wholeToken_tokenless data (by simp)
    have hreceived (bytes : List UInt8) : none ∉ (bytes.map some).take 1 := fun h => by
      simpa using List.mem_of_mem_take h
    simp only [Usable, brought, Sized, hreceived, not_false_eq_true, hnone, implies_true, and_true]
  | onAuthenticated =>
    have hdata : p.readInt64.2.readInt32.2.readInt32.2.readInt32.2.mData = data.mData := by
      simp only [Parcel.readInt32_mData, Parcel.readInt64_mData, hp]
    have hwhole := wholeToken_iff data _ hdata p.readInt64.2.readInt32.1.toUInt32
      p.readInt64.2.readInt32.2.readInt32.1.toUInt32 p.readInt64.2.readInt32.2.readInt32.2.readInt32.1
    simp only [Usable, brought, Sized, TokenSized, List.not_mem_nil, not_false_eq_true, true_and]
    constructor
    · intro h
      obtain ⟨husable, htoken⟩ := h
      by_cases hdevice : w.mDevice = none
      · exact .inr ⟨hdevice, husable⟩
      · exact .inl ((hwhole husable).mp (htoken hdevice))
    · intro h
      rcases h with ⟨hreach, hsize⟩ | ⟨hdevice, husable⟩
      · have hfits := And.intro hreach (Int.le_of_eq hsize)
        exact ⟨.inr hfits, fun _ => (hwhole (.inr hfits)).mpr ⟨hreach, hsize⟩⟩
      · exact ⟨husable, fun h => absurd hdevice h⟩
  | _ =>
    simp only [Usable, brought, Sized, List.not_mem_nil, not_false_eq_true, true_and, iff_true]
    exact fun _ => wholeToken_tokenless data (by simp)

/-- **A transaction stays in bounds exactly when its lengths are what the handlers take them for.** -/
theorem in_bounds_iff (code : UInt32) (data : Parcel β) :
    InBounds ctx w code data ↔ ∀ c, CallbackCode.ofNumber code = some c →
      (data.checkInterface callbackDescriptor).1 = true → Sized w (data.checkInterface callbackDescriptor).2 c := by
  cases hcode : CallbackCode.ofNumber code with
  | none => exact ⟨fun _ c hc => (by cases hc), fun _ => in_bounds_unknown ctx w code data hcode⟩
  | some c =>
    cases htoken : (data.checkInterface callbackDescriptor).1 with
    | false => exact ⟨fun _ _ _ h => (by cases h), fun _ => in_bounds_refused ctx w code c data hcode htoken⟩
    | true =>
      rw [in_bounds_used ctx w code c data hcode htoken,
        used_sized w data _ (data.checkInterface_mData callbackDescriptor) c]
      simp

/-- One byte more than a token has. -/
def oversizedToken : Notification := .onAuthenticated 1 7 3 (some (List.replicate 70 0)) 70

/-- It is copied behind the end of the message. -/
theorem oversized_token_overflows : ¬ InBounds (.granting true : Context Nat) {}
    oversizedToken.code.number oversizedToken.parcel := by
  have htoken : ((oversizedToken.parcel (β := Nat)).checkInterface callbackDescriptor).1 = true := by
    rw [oversizedToken.parcel_token]
    exact beq_self_eq_true callbackDescriptor
  rw [in_bounds_used _ _ _ .onAuthenticated _ (by decide) htoken,
    used_sized _ _ _ (Parcel.checkInterface_mData _ callbackDescriptor), oversizedToken.parcel_token]
  simp only [oversizedToken, Notification.fields, List.flatten_cons, Sized, TokenSized, Parcel.readInt64_between,
    Parcel.readInt32_between]
  intro h
  rcases h with ⟨-, hsize⟩ | ⟨-, hzero | ⟨-, hsize⟩⟩
  · exact absurd hsize (by decide)
  · exact absurd hzero (by decide)
  · exact absurd hsize (by decide)

end Client
end GoodixFingerprint
