import GoodixFingerprint.Client.Fingerprint

/-! What the client's calls do, as functions of the world.

`connected` is the whole way of `getService` from the lookup to `openHal`; `served`,
`operated` and `closed` are what `getService`, a device operation and `fingerprint_close`
leave. The `_eq` lemmas say that the calls of `fingerprint.cpp` are these functions. -/
namespace GoodixFingerprint
open Binder

namespace World
variable (ctx : Context Nat) (i : Interleaving)

/-- Bound to an incarnation and linked to its death. -/
def linked (k : Nat) (w : World) : World := ((w.withService (some k)).pass i.beforeLink).link k

/-- With a new callback, and the callback's device set. -/
def greeting (w : World) : World := (w.withCallback.withDevice w.gDevice).pass i.beforeInit

/-- With the callback sent to the incarnation. -/
def introduced (k callback : Nat) (w : World) : World :=
  (w.asked ctx i.hal k (.init (some callback))).pass i.beforeOpenHal

/-- With the service dropped if the answer is not zero. -/
def kept (ret : Int64) (w : World) : World := if ret.toInt32 ≠ 0 then w.withService none else w

/-- With `openHal` asked for. -/
def admitted (k : Nat) (w : World) : World :=
  (w.asked ctx i.hal k .openHal).kept (w.openHalAnswer ctx i.hal k)

/-- The way of `getService` to a service it has found. -/
def connected (k : Nat) (w : World) : World :=
  (((w.linked i k).greeting i).introduced ctx i k (w.linked i k).callbacks).admitted ctx i k

/-- What `getService` leaves. -/
def served (w : World) : World :=
  match w.gService, i.found with
  | none, some k => w.connected ctx i k
  | _, _ => w

theorem served_found (w : World) (k : Nat) (hunbound : w.gService = none) (hfound : i.found = some k) :
    w.served ctx i = w.connected ctx i k := by
  rw [served, hunbound, hfound]

theorem served_missing (w : World) (hfound : i.found = none) : w.served ctx i = w := by
  rw [served, hfound]
  cases w.gService <;> rfl

theorem served_bound (w : World) (k : Nat) (hbound : w.gService = some k) : w.served ctx i = w := by
  rw [served, hbound]

/-- The world after an action of the client, which may fault. -/
def act {α : Type} (action : ClientM α) (w : World) : World :=
  match action w with
  | (.ok _, w') => w'
  | (.error _, w') => w'.faulted

/-- A request made of whatever service there is, after `getService`: sent, unless it cannot be
written. -/
def operated (r : Request Nat) (w : World) : World :=
  match (w.served ctx i).gService with
  | none => w.served ctx i
  | some k =>
    if r.Writable then ((w.served ctx i).pass i.beforeCall).asked ctx i.hal k r
    else ((w.served ctx i).pass i.beforeCall).faulted

/-- What `fingerprint_close` leaves. -/
def closed (dev : Nat) (w : World) : World :=
  match (w.served ctx i).gService with
  | none => w.served ctx i
  | some k =>
    ((((w.served ctx i).pass i.beforeCall).asked ctx i.hal k .closeHal).withHeap dev none).withService none

end World

namespace Client
variable (ctx : Context Nat) (i : Interleaving)

/-! Each statement of a call followed by the rest of it. -/

section Bind
variable {α β : Type}

theorem bind_ok {x : ClientM β} {w w' : World} {b : β} (h : x w = (.ok b, w')) (f : β → ClientM α) :
    (x >>= f) w = f b w' := by
  simp only [bind, ExceptT.bind, ExceptT.mk, StateT.bind, h]
  rfl

theorem bind_error {x : ClientM β} {w w' : World} {fault : Fault} (h : x w = (.error fault, w')) (f : β → ClientM α) :
    (x >>= f) w = (.error fault, w') := by
  simp only [bind, ExceptT.bind, ExceptT.mk, StateT.bind, h]
  rfl

theorem bind_get (f : World → ClientM α) (w : World) : ((get : ClientM World) >>= f) w = f w w :=
  bind_ok rfl f

theorem bind_modify (g : World → World) (f : Unit → ClientM α) (w : World) :
    ((modify g : ClientM Unit) >>= f) w = f () (g w) :=
  bind_ok rfl f

theorem bind_setService (service : Option Nat) (f : Unit → ClientM α) (w : World) :
    (setService service >>= f) w = f () (w.withService service) :=
  bind_ok rfl f

theorem bind_meanwhile (incidents : List Incident) (f : Unit → ClientM α) (w : World) :
    (meanwhile incidents >>= f) w = f () (w.pass incidents) :=
  bind_ok rfl f

theorem bind_linkToDeath (k : Nat) (f : Unit → ClientM α) (w : World) :
    (linkToDeath k >>= f) w = f () (w.link k) :=
  bind_ok rfl f

theorem bind_newCallback (f : Nat → ClientM α) (w : World) :
    (newCallback >>= f) w = f w.callbacks w.withCallback :=
  bind_ok rfl f

theorem bind_setDevice (device : Option Nat) (f : Unit → ClientM α) (w : World) :
    (setDevice device >>= f) w = f () (w.withDevice device) :=
  bind_ok rfl f

/-- A method of the service is a request to its incarnation. -/
theorem bind_init (hal : Hal) (k callback : Nat) (f : Unit → ClientM α) (w : World) :
    ((interfaceCast ctx hal k).init (some callback) >>= f) w =
      f () (w.asked ctx hal k (.init (some callback))) :=
  bind_ok (interfaceCast_call ctx hal k (.init (some callback)) w trivial) f

theorem bind_openHal (hal : Hal) (k : Nat) (f : Int64 → ClientM α) (w : World) :
    ((interfaceCast ctx hal k).openHal >>= f) w =
      f (w.openHalAnswer ctx hal k) (w.asked ctx hal k .openHal) :=
  bind_ok (interfaceCast_call ctx hal k .openHal w trivial) f

theorem bind_closeHal (hal : Hal) (k : Nat) (f : Int32 → ClientM α) (w : World) :
    ((interfaceCast ctx hal k).closeHal >>= f) w =
      f (w.answer ctx hal k .closeHal) (w.asked ctx hal k .closeHal) :=
  bind_ok (interfaceCast_call ctx hal k .closeHal w trivial) f

end Bind

theorem keep_eq (ret : Int64) (w : World) :
    (if ret.toInt32 ≠ 0 then setService none else pure () : ClientM Unit) w =
      (.ok (), w.kept ret) := by
  rw [World.kept]
  split <;> rfl

theorem connect_eq (k : Nat) (w : World) : connect ctx i k w = (.ok (), w.connected ctx i k) := by
  simp only [connect, bind_setService, bind_meanwhile, bind_linkToDeath, bind_newCallback, bind_get,
    bind_setDevice, bind_init, bind_openHal]
  rw [keep_eq]
  rfl

theorem getService_eq (w : World) : getService ctx i w = (.ok (w.served ctx i).gService, w.served ctx i) := by
  rw [getService, bind_get, World.served]
  cases hservice : w.gService with
  | some k =>
    rw [if_neg (by simp)]
    simp only [bind_get, hservice]
    rfl
  | none =>
    rw [if_pos rfl]
    cases i.found with
    | none =>
      simp only [bind_get, hservice]
      rfl
    | some k =>
      simp only [bind_ok (connect_eq ctx i k w), bind_get]
      rfl

theorem binderDied_eq (w : World) :
    binderDied ctx i w = (.ok (), (w.withService none).served ctx i) := by
  rw [binderDied, bind_setService, bind_ok (getService_eq ctx i _)]
  rfl

/-- Some answer, and the world that `closed` says. -/
theorem fingerprintClose_eq (dev : Nat) (w : World) :
    ∃ ret, fingerprintClose ctx i (some dev) w = (.ok ret, w.closed ctx i dev) := by
  rw [fingerprintClose, World.closed]
  simp only [bind_ok (getService_eq ctx i w)]
  cases (w.served ctx i).gService with
  | none => exact ⟨_, rfl⟩
  | some k =>
    simp only [bind_meanwhile, bind_closeHal, bind_modify, bind_setService]
    exact ⟨0, rfl⟩

theorem fingerprintOpen_eq (w : World) :
    ∃ ret, fingerprintOpen ctx i true w = (.ok ret, w.allocate.served ctx i) := by
  rw [fingerprintOpen]
  simp only [Bool.not_true, Bool.false_eq_true, if_false, bind_get, bind_modify, bind_ok (getService_eq ctx i _)]
  cases (w.allocate.served ctx i).gService <;> exact ⟨_, rfl⟩

/-! ### The device operations -/

/-- A device operation of the framework, with its arguments. -/
inductive DeviceCall where
  | preEnroll
  | enroll (hat : Ptr) (gid timeoutSec : UInt32)
  | postEnroll
  | getAuthenticatorId
  | cancel
  | remove (gid fid : UInt32)
  | setActiveGroup (gid : UInt32) (storePath : List UInt8)
  | authenticate (operationId : UInt64) (gid : UInt32)

namespace DeviceCall

/-- The function in the device's table, its result dropped. -/
def perform : DeviceCall → ClientM Unit
  | .preEnroll => do let _ ← fingerprintPreEnroll ctx i
  | .enroll hat gid timeoutSec => do let _ ← fingerprintEnroll ctx i hat gid timeoutSec
  | .postEnroll => do let _ ← fingerprintPostEnroll ctx i
  | .getAuthenticatorId => do let _ ← fingerprintGetAuthId ctx i
  | .cancel => do let _ ← fingerprintCancel ctx i
  | .remove gid fid => do let _ ← fingerprintRemove ctx i gid fid
  | .setActiveGroup gid storePath => do let _ ← fingerprintSetActiveGroup ctx i gid storePath
  | .authenticate operationId gid => do let _ ← fingerprintAuthenticate ctx i operationId gid

/-- The request that the function makes, if it gets that far. -/
def request : DeviceCall → Except Fault (Request Nat)
  | .preEnroll => .ok .preEnroll
  | .enroll hat gid timeoutSec => .ok (.enroll hat (Int64.ofNat hwAuthTokenSize) gid.toInt32 timeoutSec.toInt32)
  | .postEnroll => .ok .postEnroll
  | .getAuthenticatorId => .ok .getAuthenticatorId
  | .cancel => .ok .stopEnrollment
  | .remove gid fid => .ok (.remove fid.toInt32 gid.toInt32)
  | .setActiveGroup gid storePath => do
    let pathLen := UInt32.ofNat storePath.length
    let copied ← memcpy pathMax (some storePath) pathLen.toNat
    .ok (.setActiveGroup gid.toInt32 (some (copied ++ List.replicate (pathMax - pathLen.toNat) 0))
      pathLen.toUInt64.toInt64)
  | .authenticate operationId gid => .ok (.authenticate operationId gid)

/-- The codes of the device operations. -/
def codes : List Code :=
  [.preEnroll, .enroll, .postEnroll, .getAuthenticatorId, .cancelEnrollment, .remove, .setActiveGroup,
    .authenticate]

theorem request_code (call : DeviceCall) (r : Request Nat) (h : call.request = .ok r) : r.code ∈ codes := by
  cases call with
  | setActiveGroup gid storePath =>
    obtain ⟨copied, -, hr⟩ := bind_ok_iff.mp h
    cases hr
    simp [codes, Request.code]
  | _ =>
    cases h
    simp [codes, Request.code]

end DeviceCall
end Client

namespace World
open Client
variable (ctx : Context Nat) (i : Interleaving)

/-- What a device operation leaves, which may fault over its arguments before it looks for the service. -/
def performed (call : DeviceCall) (w : World) : World :=
  match call.request with
  | .ok r => w.operated ctx i r
  | .error _ => w.faulted

theorem act_ok {α : Type} {action : ClientM α} {w w' : World} {a : α} (h : action w = (.ok a, w')) :
    w.act action = w' := by
  rw [act, h]

theorem act_error {α : Type} {action : ClientM α} {w w' : World} {fault : Fault} (h : action w = (.error fault, w')) :
    w.act action = w'.faulted := by
  rw [act, h]

/-- What is done with the result of an action makes no difference to the world. -/
theorem act_return {α β : Type} (action : ClientM α) (f : α → β) (w : World) :
    w.act (do let a ← action; return f a) = w.act action := by
  rcases haction : action w with ⟨_ | a, w'⟩
  · rw [act_error haction, act_error (bind_error haction _)]
  · rw [act_ok haction, act_ok (bind_ok haction _)]

/-- An operation whose method is a request. -/
theorem act_operation (r : Request Nat) (error : r.Result) (w : World) :
    w.act (operation ctx i error fun service => service.call r) = w.operated ctx i r := by
  rw [operation, operated, act]
  simp only [bind_ok (getService_eq ctx i w)]
  cases (w.served ctx i).gService with
  | none => rfl
  | some k =>
    simp only [bind_meanwhile]
    by_cases hr : r.Writable
    · rw [interfaceCast_call ctx i.hal k r _ hr, if_pos hr]
    · obtain ⟨fault, hfault⟩ := interfaceCast_fault ctx i.hal k r ((w.served ctx i).pass i.beforeCall) hr
      rw [hfault, if_neg hr]

/-- Every device operation is its request, made of whatever service there is. -/
theorem act_perform (call : DeviceCall) (w : World) : w.act (call.perform ctx i) = w.performed ctx i call := by
  cases call with
  | preEnroll => exact (act_return _ _ w).trans (act_operation ctx i .preEnroll fingerprintError.toInt64.toUInt64 w)
  | enroll hat gid timeoutSec =>
    exact (act_return _ _ w).trans (act_operation ctx i
      (.enroll hat (Int64.ofNat hwAuthTokenSize) gid.toInt32 timeoutSec.toInt32) fingerprintError w)
  | postEnroll => exact (act_return _ _ w).trans (act_operation ctx i .postEnroll fingerprintError w)
  | getAuthenticatorId =>
    exact (act_return _ _ w).trans (act_operation ctx i .getAuthenticatorId fingerprintError.toInt64.toUInt64 w)
  | cancel => exact (act_return _ _ w).trans (act_operation ctx i .stopEnrollment fingerprintError w)
  | remove gid fid =>
    exact (act_return _ _ w).trans (act_operation ctx i (.remove fid.toInt32 gid.toInt32) fingerprintError w)
  | authenticate operationId gid =>
    exact (act_return _ _ w).trans (act_operation ctx i (.authenticate operationId gid) fingerprintError w)
  | setActiveGroup gid storePath =>
    refine (act_return _ _ w).trans ?_
    rw [fingerprintSetActiveGroup, performed, DeviceCall.request]
    cases memcpy pathMax (some storePath) (UInt32.ofNat storePath.length).toNat with
    | error fault => rfl
    | ok copied =>
      rw [lift_ok_bind]
      exact act_operation ctx i (.setActiveGroup gid.toInt32
        (some (copied ++ List.replicate (pathMax - (UInt32.ofNat storePath.length).toNat) 0))
        (UInt32.ofNat storePath.length).toUInt64.toInt64) fingerprintError w

end World
end GoodixFingerprint
