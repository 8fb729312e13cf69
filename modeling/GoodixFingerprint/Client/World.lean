import GoodixFingerprint.Binder.DeathLinks
import GoodixFingerprint.Daemon.Proxy
import GoodixFingerprint.Interface.Process

/-! The client, the daemon incarnations it may be bound to, and what happens to them.

Beside the client there are the death links of its one recipient and the daemon
incarnations. An incarnation is a process that logs the methods it has run, each with
the callback of the session the client was in; a crash ends it for good, and a restart
starts the next. -/
namespace GoodixFingerprint
open Binder

/-- A `fingerprint_msg_t`, by its type. -/
inductive FingerprintMsg where
  | error (error : Int32)
  | acquired (acquiredInfo : Int32)
  | templateEnrolling (fid gid samplesRemaining : UInt32)
  | templateRemoved (fid gid : UInt32)
  | authenticated (fid gid : UInt32) (hat : List UInt8)
  deriving DecidableEq

/-- A `fingerprint_device_t`, as far as it changes: the function its messages go to. -/
structure FingerprintDevice where
  notify : Option Nat := none
  deriving DecidableEq

/-- The process of `fingerprint.cpp`: its globals, its devices, and what it has created. -/
structure Client where
  /-- The client has faulted. -/
  crashed : Bool := false
  /-- `g_service`, by the incarnation that its binder belongs to. -/
  gService : Option Nat := none
  /-- `g_device`, by its allocation. -/
  gDevice : Option Nat := none
  /-- `GoodixFingerprintDaemonCallbackProxy::mDevice`. -/
  mDevice : Option Nat := none
  /-- The devices that are allocated and not freed. -/
  heap : Nat → Option FingerprintDevice := fun _ => none
  /-- Devices allocated so far. -/
  opened : Nat := 0
  /-- Callback objects created so far. -/
  callbacks : Nat := 0
  /-- The callback of the `getService` that established `g_service`. -/
  session : Option Nat := none
  /-- The messages that reached a `notify` function. -/
  delivered : List (Nat × FingerprintMsg) := []

/-- A daemon incarnation: the daemon and the methods it has run. -/
abbrev Incarnation := GoodixFingerprintDaemonProxy Nat × List (Executed (Option Nat) Nat)

/-- A transaction that the client makes, and the client as it is then. -/
structure Transmission where
  client : Client
  /-- The incarnation that the binder belongs to. -/
  service : Nat
  code : UInt32

structure World extends Client where
  /-- What libbinder keeps for `gDeathRecipient`. -/
  links : DeathLinks Nat := {}
  daemons : Nat → Process Incarnation := fun _ => {state := ({}, [])}
  /-- Incarnations started so far. -/
  started : Nat := 0
  /-- The transactions so far, whatever came of them. -/
  sent : List Transmission := []

/-- What can happen between two transactions. -/
inductive Incident where
  | crash (k : Nat)
  | restart
  /-- The death of an incarnation becomes known to libbinder. -/
  | obituary (k : Nat)
  deriving DecidableEq

/-- What a client call meets on its way. -/
structure Interleaving where
  /-- What the service manager returns: an incarnation, perhaps a dead one. -/
  found : Option Nat
  beforeLink : List Incident := []
  beforeInit : List Incident := []
  beforeOpenHal : List Incident := []
  /-- Between `getService` and the transaction that follows it. -/
  beforeCall : List Incident := []
  hal : Hal

namespace World

def faulted (w : World) : World := {w with crashed := true}

def withService (service : Option Nat) (w : World) : World := {w with gService := service}

def withDevice (device : Option Nat) (w : World) : World := {w with mDevice := device}

/-- A new callback object, whose session this is from now on. -/
def withCallback (w : World) : World := {w with callbacks := w.callbacks + 1, session := some w.callbacks}

def link (k : Nat) (w : World) : World := {w with links := w.links.linkToDeath k}

def withHeap (dev : Nat) (device : Option FingerprintDevice) (w : World) : World :=
  {w with heap := Function.update w.heap dev device}

theorem withService_withHeap (service : Option Nat) (dev : Nat) (device : Option FingerprintDevice) (w : World) :
    (w.withHeap dev device).withService service = (w.withService service).withHeap dev device := rfl

/-- A new device in the heap and in `g_device`. -/
def allocate (w : World) : World :=
  {w.withHeap w.opened (some {}) with opened := w.opened + 1, gDevice := some w.opened}

/-- A message handed to a `notify` function. -/
def deliver (notify : Nat) (message : FingerprintMsg) (w : World) : World :=
  {w with delivered := w.delivered ++ [(notify, message)]}

def happen (w : World) : Incident → World
  | .crash k => {w with daemons := Function.update w.daemons k {w.daemons k with alive := false}}
  | .restart => {w with started := w.started + 1}
  | .obituary k => if (w.daemons k).alive then w else {w with links := w.links.sendObituary k}

def pass (w : World) (incidents : List Incident) : World := incidents.foldl happen w

/-- What every incident preserves. -/
theorem pass_induction {I : World → Prop} (hstep : ∀ w x, I w → I (happen w x)) (w : World) (xs : List Incident)
    (h : I w) : I (w.pass xs) := by
  induction xs generalizing w with
  | nil => exact h
  | cons x rest ih => exact ih _ (hstep w x h)

section Requests
variable (ctx : Context Nat) (hal : Hal)

/-- The incarnation's methods, logged under the client's session. -/
def service (w : World) : IGoodixFingerprintDaemon (StateT Incarnation (Except Fault)) Nat :=
  (goodixFingerprintDaemonProxy hal).traced w.session

/-- A transaction on an incarnation's binder. -/
def transact (k : Nat) : Transact (StateM World) Nat := fun code data w =>
  let (answer, p) := (w.daemons k).transact (w.service hal) ctx code data
  (answer, {w with daemons := Function.update w.daemons k p, sent := w.sent ++ [⟨w.toClient, k, code⟩]})

/-- A request sent to an incarnation. -/
def asked (k : Nat) (r : Request Nat) (w : World) : World :=
  {w with
    daemons := Function.update w.daemons k ((w.daemons k).asked (w.service hal) ctx r)
    sent := w.sent ++ [⟨w.toClient, k, r.code.number⟩]}

/-- What the client reads from the answer. -/
def answer (k : Nat) (r : Request Nat) (w : World) : r.Result := (w.daemons k).answer (w.service hal) ctx r

/-- The answer to `openHal`. -/
def openHalAnswer (k : Nat) (w : World) : Int64 := w.answer ctx hal k .openHal

end Requests

end World

/-- The client's code, which may fault, after what it has done so far. -/
abbrev ClientM := ExceptT Fault (StateM World)

/-- `interface_cast`: the proxy for an incarnation's binder. -/
def interfaceCast (ctx : Context Nat) (hal : Hal) (k : Nat) : IGoodixFingerprintDaemon ClientM Nat :=
  bpGoodixFingerprintDaemon (World.transact ctx hal k)

section Cast
variable (ctx : Context Nat) (hal : Hal) (k : Nat) (r : Request Nat) (w : World)

/-- A method of the proxy is one request to the incarnation. -/
theorem interfaceCast_call (hr : r.Writable) :
    (interfaceCast ctx hal k).call r w = (.ok (w.answer ctx hal k r), w.asked ctx hal k r) := by
  rw [interfaceCast, bp_call_ok _ r _ _ (r.written_ok hr), World.answer, Process.answer, World.asked,
    ← Process.transact_asked]
  rfl

/-- Over a buffer that is too short it faults, and nothing is sent. -/
theorem interfaceCast_fault (hr : ¬ r.Writable) : ∃ fault, (interfaceCast ctx hal k).call r w = (.error fault, w) := by
  obtain ⟨fault, hfault⟩ := r.written_error hr
  refine ⟨fault, ?_⟩
  rw [interfaceCast, bp_call_error _ r fault hfault]
  rfl

end Cast
end GoodixFingerprint
