import GoodixFingerprint.Client.Requests
import GoodixFingerprint.Daemon.Messages

/-! The device operations from end to end.

With a service that is bound and hears it, an operation of the framework is one call of
the HAL on the daemon's device: the operation's counterpart, with every argument in its
role but the path of `set_active_group`, for which the HAL has no parameter. -/
namespace GoodixFingerprint
open Binder

/-- What the framework or the HAL is told, by its role. -/
inductive Argument where
  | hat (bytes : List UInt8)
  | gid (gid : UInt32)
  | fid (fid : UInt32)
  | timeoutSec (timeoutSec : UInt32)
  | operationId (operationId : UInt64)
  | storePath (path : List UInt8)
  deriving DecidableEq

def Argument.isStorePath : Argument → Bool
  | storePath _ => true
  | _ => false

/-- The arguments of the calls that an operation can lead to, besides the device. -/
def HalCall.arguments : HalCall → List Argument
  | enroll _ hat groupId timeoutSec => (hat.map Argument.hat).toList ++ [.gid groupId, .timeoutSec timeoutSec]
  | authenticate _ operationId groupId => [.operationId operationId, .gid groupId]
  | remove _ groupId fingerId => [.gid groupId, .fid fingerId]
  | setActiveGroup _ groupId => [.gid groupId]
  | _ => []

namespace World

theorem state_happen (k : Nat) (w : World) (x : Incident) : ((w.happen x).daemons k).state = (w.daemons k).state := by
  cases x with
  | crash j =>
    simp only [happen]
    by_cases hk : k = j
    · subst hk
      simp
    · simp [Function.update_of_ne hk]
  | restart => rfl
  | obituary j =>
    by_cases hj : (w.daemons j).alive = true
    · simp [happen, hj]
    · simp [happen, hj]

theorem state_pass (k : Nat) (w : World) (xs : List Incident) :
    ((w.pass xs).daemons k).state = (w.daemons k).state :=
  pass_induction (I := fun v => (v.daemons k).state = (w.daemons k).state)
    (fun v x h => (state_happen k v x).trans h) w xs rfl

end World

namespace Client
namespace DeviceCall

/-- What the operation returns. -/
abbrev Result : DeviceCall → Type
  | .preEnroll | .getAuthenticatorId => UInt64
  | _ => Int32

/-- The function in the device's table. -/
def invoke (ctx : Context Nat) (i : Interleaving) : (call : DeviceCall) → ClientM call.Result
  | .preEnroll => fingerprintPreEnroll ctx i
  | .enroll hat gid timeoutSec => fingerprintEnroll ctx i hat gid timeoutSec
  | .postEnroll => fingerprintPostEnroll ctx i
  | .getAuthenticatorId => fingerprintGetAuthId ctx i
  | .cancel => fingerprintCancel ctx i
  | .remove gid fid => fingerprintRemove ctx i gid fid
  | .setActiveGroup gid storePath => fingerprintSetActiveGroup ctx i gid storePath
  | .authenticate operationId gid => fingerprintAuthenticate ctx i operationId gid

/-- The framework gives a whole token, and a path that is neither empty nor too long. -/
def WellFormed : DeviceCall → Prop
  | .enroll hat _ _ => ∃ token : HwAuthToken, hat = some token.1
  | .setActiveGroup _ storePath => 0 < storePath.length ∧ storePath.length < pathMax
  | _ => True

def arguments : DeviceCall → List Argument
  | .enroll hat gid timeoutSec => (hat.map Argument.hat).toList ++ [.gid gid, .timeoutSec timeoutSec]
  | .remove gid fid => [.gid gid, .fid fid]
  | .setActiveGroup gid storePath => [.gid gid, .storePath storePath]
  | .authenticate operationId gid => [.operationId operationId, .gid gid]
  | _ => []

/-- The function of the HAL that goes by the operation's name. -/
def Counterpart : DeviceCall → HalCall → Prop
  | .preEnroll, .preEnroll _ | .enroll .., .enroll .. | .postEnroll, .postEnroll _
  | .getAuthenticatorId, .getAuthId _ | .cancel, .cancel _ | .remove .., .remove ..
  | .setActiveGroup .., .setActiveGroup .. | .authenticate .., .authenticate .. => True
  | _, _ => False

/-- What the HAL returns for a call, in the operation's type. -/
def halResult (hal : Hal) (h : HalCall) : (call : DeviceCall) → call.Result
  | .preEnroll | .getAuthenticatorId => hal.value h
  | .enroll .. | .postEnroll | .cancel | .remove .. | .setActiveGroup .. | .authenticate .. => hal.error h

/-- A call of the HAL as it is recorded. -/
def effect (hal : Hal) (h : HalCall) : DeviceCall → Effect
  | .preEnroll | .getAuthenticatorId => .queried h
  | _ => .called h (hal.error h)

end DeviceCall

section Operations
variable (ctx : Context Nat) (i : Interleaving) (w : World) (k : Nat)

/-- The operation returns what the HAL returns for its counterpart, called on the daemon's device with
these arguments; that is all that happens to the daemon, and to other daemons nothing happens. -/
def Refined (call : DeviceCall) (passed : List Argument) : Prop :=
  ∃ (h : HalCall) (w' : World), call.invoke ctx i w = (.ok (call.halResult i.hal h), w') ∧
    (w'.daemons k).state.1 = (w.daemons k).state.1.record (call.effect i.hal h) ∧
    (∀ j, j ≠ k → (w'.daemons j).state = (w.daemons j).state) ∧
    call.Counterpart h ∧ h.device = (w.daemons k).state.1.mDevice ∧ h.arguments = passed

/-- Bound to an incarnation that hears the client until the request is there. -/
structure Connected : Prop where
  bound : w.gService = some k
  granted : ctx.granted = true
  lives : w.lives k = true
  not_crashed : .crash k ∉ i.beforeCall

variable {ctx i w k}

/-- An operation of a connected client is one request. -/
theorem operation_connected (hconnected : Connected ctx i w k) (r : Request Nat) (hr : r.Writable) (err : r.Result) :
    operation ctx i err (fun service => service.call r) w =
      (.ok ((w.pass i.beforeCall).answer ctx i.hal k r), (w.pass i.beforeCall).asked ctx i.hal k r) := by
  rw [operation, bind_ok (getService_eq ctx i w), World.served_bound ctx i w k hconnected.bound, hconnected.bound]
  simp only [bind_meanwhile]
  exact interfaceCast_call ctx i.hal k r _ hr

/-- It returns what the method returns, and the daemon lives and is what the method leaves. -/
theorem operation_runs (hconnected : Connected ctx i w k) (r : Request Nat) (hr : r.Fits) (err v : r.Result)
    (s : GoodixFingerprintDaemonProxy Nat)
    (hcall : (goodixFingerprintDaemonProxy i.hal).call r (w.daemons k).state.1 = .ok (v, s)) :
    ∃ w', operation ctx i err (fun service => service.call r) w = (.ok v, w') ∧ (w'.daemons k).state.1 = s ∧
      w'.lives k = true ∧ ∀ j, j ≠ k → (w'.daemons j).state = (w.daemons j).state := by
  have hlives : (w.pass i.beforeCall).lives k = true := by
    rw [World.lives_pass, hconnected.lives]
    simpa using hconnected.not_crashed
  rw [← World.state_pass k w i.beforeCall] at hcall
  obtain ⟨hanswer, hstate, hlives', -⟩ := World.asked_heard ctx i.hal hconnected.granted k r hr _ hlives hcall
  refine ⟨_, (operation_connected hconnected r hr.writable err).trans (by rw [hanswer]), hstate, hlives', ?_⟩
  intro j hj
  simp only [World.asked, Function.update_of_ne hj, World.state_pass]

/-- Only as much of the path is sent as its length says. -/
theorem setActiveGroup_sent {m : Type → Type} [Monad m] {β : Type} (remote : Transact m β) (groupId : Int32)
    (path rest : List UInt8) (hfits : path.length ≤ int32Max) :
    (bpGoodixFingerprintDaemon remote).setActiveGroup groupId (some (path ++ rest)) (Int64.ofNat path.length) =
      (bpGoodixFingerprintDaemon remote).setActiveGroup groupId (some path) (Int64.ofNat path.length) := by
  have hlen := ssize_toNat hfits
  have hsame (p : Parcel β) : p.write (some (path ++ rest)) (Int64.ofNat path.length).toUInt64 =
      p.write (some path) (Int64.ofNat path.length).toUInt64 := by
    rw [Parcel.write_ok, Parcel.write_ok]
    · simp only [Parcel.bufferField, hlen, Option.getD_some, List.take_left, List.take_length]
    · exact fun _ => Nat.le_of_eq hlen
    · intro _
      rw [hlen, Ptr.covers_some, List.length_append]
      exact Nat.le_add_right _ _
  simp only [bpGoodixFingerprintDaemon, BpGoodixFingerprintDaemon.setActiveGroup, hsame]
  rfl

/-- A length as it is kept, and as it is sent. -/
theorem ofNat_length (length : Nat) (hfits : length % 2 ^ 32 ≤ pathMax) :
    (UInt32.ofNat length).toUInt64.toInt64 = Int64.ofNat (length % 2 ^ 32) := by
  have hmax : length % 2 ^ 32 ≤ int32Max := Nat.le_trans hfits (by decide)
  have hofNat : UInt32.ofNat length = UInt32.ofNat (length % 2 ^ 32) := by
    apply UInt32.toNat_inj.mp
    rw [UInt32.toNat_ofNat', UInt32.toNat_ofNat', Nat.mod_mod]
  rw [hofNat, uint32_toUInt64 hmax, Int64.toInt64_toUInt64]

/-- The buffer that the path is copied to makes no difference if it holds as much of the path as is sent. -/
theorem fingerprintSetActiveGroup_eq (gid : UInt32) (storePath : List UInt8) (n : Nat)
    (hn : storePath.length % 2 ^ 32 = n) (hfits : n ≤ pathMax) :
    fingerprintSetActiveGroup ctx i gid storePath w =
      operation ctx i fingerprintError (fun service =>
        service.call (.setActiveGroup gid.toInt32 (some (storePath.take n)) (Int64.ofNat n))) w := by
  have hle : n ≤ storePath.length := hn ▸ Nat.mod_le ..
  have hnat : (UInt32.ofNat storePath.length).toNat = n := by rw [UInt32.toNat_ofNat', hn]
  have hlen : (UInt32.ofNat storePath.length).toUInt64.toInt64 = Int64.ofNat n := by
    rw [ofNat_length _ (hn ▸ hfits), hn]
  have hcopy : memcpy pathMax (some storePath) n = .ok (storePath.take n) := memcpy_some_iff.mpr ⟨hle, hfits, rfl⟩
  have hlength : (storePath.take n).length = n := List.length_take_of_le hle
  have hsent (service : Nat) : (interfaceCast ctx i.hal service).setActiveGroup gid.toInt32
      (some (storePath.take n ++ List.replicate (pathMax - n) 0)) (Int64.ofNat n) =
        (interfaceCast ctx i.hal service).setActiveGroup gid.toInt32 (some (storePath.take n)) (Int64.ofNat n) := by
    have hwhole := setActiveGroup_sent (World.transact ctx i.hal service) gid.toInt32 (storePath.take n)
      (List.replicate (pathMax - n) 0) (by rw [hlength]; exact Nat.le_trans hfits (by decide))
    rw [hlength] at hwhole
    exact hwhole
  rw [fingerprintSetActiveGroup]
  simp only [hnat, hcopy, lift_ok_bind, hlen, operation, hsent]
  rfl

theorem toInt_length {n : Nat} (hn : n ≤ pathMax) : (Int64.ofNat n).toInt = n :=
  Int64.toInt_ofNat_of_lt (Nat.lt_of_le_of_lt hn (by decide))

/-- From the run of the method to the call of the HAL. -/
theorem refined_of_runs {call : DeviceCall} {passed : List Argument} (h : HalCall)
    (hruns : ∃ w', call.invoke ctx i w = (.ok (call.halResult i.hal h), w') ∧
      (w'.daemons k).state.1 = (w.daemons k).state.1.record (call.effect i.hal h) ∧ w'.lives k = true ∧
      ∀ j, j ≠ k → (w'.daemons j).state = (w.daemons j).state)
    (hcounterpart : call.Counterpart h) (hdevice : h.device = (w.daemons k).state.1.mDevice)
    (hpassed : h.arguments = passed) : Refined ctx i w k call passed := by
  obtain ⟨w', hinvoke, hstate, -, hothers⟩ := hruns
  exact ⟨h, w', hinvoke, hstate, hothers, hcounterpart, hdevice, hpassed⟩

/-- **An operation is one call of its counterpart in the HAL**, on the daemon's device and with all its arguments
but the path. -/
theorem operation_refined (hconnected : Connected ctx i w k) (call : DeviceCall) (hcall : call.WellFormed) :
    Refined ctx i w k call (call.arguments.filter fun argument => !argument.isStorePath) := by
  cases call with
  | preEnroll =>
    exact refined_of_runs (.preEnroll (w.daemons k).state.1.mDevice)
      (operation_runs hconnected .preEnroll trivial fingerprintError.toInt64.toUInt64 _ _ rfl) trivial rfl rfl
  | enroll hat gid timeoutSec =>
    obtain ⟨token, rfl⟩ := hcall
    have hfits : (Request.enroll (β := Nat) (some token.1) (Int64.ofNat hwAuthTokenSize) gid.toInt32
        timeoutSec.toInt32).Fits := ⟨token.1, rfl, by rw [token.2]; decide, by rw [token.2]⟩
    exact refined_of_runs (.enroll (w.daemons k).state.1.mDevice (some token.1) gid timeoutSec)
      (operation_runs hconnected _ hfits fingerprintError _ _ rfl) trivial rfl rfl
  | postEnroll =>
    exact refined_of_runs (.postEnroll (w.daemons k).state.1.mDevice)
      (operation_runs hconnected .postEnroll trivial fingerprintError _ _ rfl) trivial rfl rfl
  | getAuthenticatorId =>
    exact refined_of_runs (.getAuthId (w.daemons k).state.1.mDevice)
      (operation_runs hconnected .getAuthenticatorId trivial fingerprintError.toInt64.toUInt64 _ _ rfl) trivial rfl rfl
  | cancel =>
    exact refined_of_runs (.cancel (w.daemons k).state.1.mDevice)
      (operation_runs hconnected .stopEnrollment trivial fingerprintError _ _ rfl) trivial rfl rfl
  | remove gid fid =>
    exact refined_of_runs (.remove (w.daemons k).state.1.mDevice gid fid)
      (operation_runs hconnected (.remove fid.toInt32 gid.toInt32) trivial fingerprintError _ _ rfl) trivial rfl rfl
  | setActiveGroup gid storePath =>
    obtain ⟨hpos, hfits⟩ := hcall
    have hmax : storePath.length ≤ int32Max := Nat.le_trans (Nat.le_of_lt hfits) (by decide)
    refine refined_of_runs (.setActiveGroup (w.daemons k).state.1.mDevice gid) ?_ trivial rfl rfl
    have hlength : storePath.length % 2 ^ 32 = storePath.length :=
      Nat.mod_eq_of_lt (Nat.lt_of_lt_of_le hfits (by decide))
    have hint := toInt_length (Nat.le_of_lt hfits)
    have hcall := GoodixFingerprintDaemonProxy.setActiveGroup_passed i.hal (w.daemons k).state.1 gid.toInt32 storePath
      (Int64.ofNat storePath.length) (by omega) (by omega) (Int.le_of_eq hint)
    rw [DeviceCall.invoke, fingerprintSetActiveGroup_eq gid storePath _ hlength (Nat.le_of_lt hfits), List.take_length]
    exact operation_runs hconnected (.setActiveGroup gid.toInt32 (some storePath) (Int64.ofNat storePath.length))
      ⟨storePath, rfl, hmax, rfl⟩ fingerprintError _ _ hcall
  | authenticate operationId gid =>
    exact refined_of_runs (.authenticate (w.daemons k).state.1.mDevice operationId gid)
      (operation_runs hconnected (.authenticate operationId gid) trivial fingerprintError _ _ rfl) trivial rfl rfl

end Operations

/-- A client bound to an incarnation. -/
def boundClient : World := {gService := some 0, started := 1}

theorem boundClient_connected : Connected (.granting true) {found := none, hal := .succeeding} boundClient 0 :=
  ⟨rfl, rfl, rfl, List.not_mem_nil⟩

/-- A template is removed by the group and the finger that were asked for. -/
theorem remove_refined : Refined (.granting true) {found := none, hal := .succeeding} boundClient 0 (.remove 3 7)
    [.gid 3, .fid 7] :=
  operation_refined boundClient_connected (.remove 3 7) trivial

/-- The path goes no further than the daemon. -/
theorem store_path_not_passed :
    Connected (.granting true) {found := none, hal := .succeeding} boundClient 0 ∧
    (DeviceCall.setActiveGroup 3 [47, 100]).WellFormed ∧
    ¬ Refined (.granting true) {found := none, hal := .succeeding} boundClient 0 (.setActiveGroup 3 [47, 100])
      (DeviceCall.setActiveGroup 3 [47, 100]).arguments := by
  refine ⟨boundClient_connected, ⟨by decide, by decide⟩, ?_⟩
  intro h
  obtain ⟨h, w', -, -, -, hcounterpart, -, hpassed⟩ := h
  cases h with
  | setActiveGroup dev groupId => cases hpassed
  | _ => cases hcounterpart

end Client
end GoodixFingerprint
