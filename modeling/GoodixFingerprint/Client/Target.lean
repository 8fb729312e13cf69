import GoodixFingerprint.Client.Devices
import GoodixFingerprint.Client.System

/-! Where callback messages go.

The handlers use the device that `getService` gave them when it last made the handshake,
which neither `fingerprint_close` nor a later `fingerprint_open` of a client still bound
takes back. The client's steps amount to actions on its devices, and `proper_iff` says by
the actions so far which messages come to the device they should or to none, and which
handshakes are made with a device there is. -/
namespace GoodixFingerprint
open Binder

def Client.devices (c : Client) : Devices := ⟨c.opened, c.gDevice, c.mDevice, c.heap⟩

namespace World
variable (ctx : Context Nat) (i : Interleaving)

/-- A service is looked for and found. -/
def connects (w : World) : List DeviceAction := if w.gService = none ∧ i.found ≠ none then [.connect] else []

theorem devices_connected (k : Nat) (w : World) : (w.connected ctx i k).devices = w.devices.act .connect := by
  show (w.connected ctx i k).toClient.devices = _
  rw [client_connected]
  rfl

theorem devices_served (w : World) : (w.served ctx i).devices = Devices.machine.run w.devices (w.connects i) := by
  unfold connects
  cases hservice : w.gService with
  | some k =>
    rw [served_bound ctx i w k hservice, if_neg (fun h => nomatch h.1)]
    rfl
  | none =>
    cases hfound : i.found with
    | none =>
      rw [served_missing ctx i w hfound, if_neg (fun h => h.2 rfl)]
      rfl
    | some k =>
      rw [served_found ctx i w k hservice hfound, if_pos ⟨rfl, nofun⟩, devices_connected]
      rfl

theorem devices_pass (w : World) (xs : List Incident) : (w.pass xs).devices = w.devices :=
  congrArg Client.devices (client_pass w xs)

theorem devices_operated (r : Request Nat) (w : World) :
    (w.operated ctx i r).devices = Devices.machine.run w.devices (w.connects i) := by
  rw [← devices_served ctx]
  unfold operated
  split
  · rfl
  · split <;> exact devices_pass _ _

/-- The device that `fingerprint_close` frees. -/
def frees (dev : Nat) (w : World) : List DeviceAction :=
  if (w.served ctx i).gService = none then [] else [.free dev]

theorem devices_closed (dev : Nat) (w : World) :
    (w.closed ctx i dev).devices = Devices.machine.run w.devices (w.connects i ++ w.frees ctx i dev) := by
  rw [Devices.machine.run_append, ← devices_served ctx]
  unfold closed frees
  cases hservice : (w.served ctx i).gService with
  | none =>
    rw [if_pos rfl]
    rfl
  | some k =>
    rw [if_neg nofun]
    show Devices.act ((w.served ctx i).pass i.beforeCall).devices (.free dev) = _
    rw [devices_pass]
    rfl

theorem admits_connects (w : World) (s : Devices) : Devices.machine.Admits s (w.connects i) := by
  unfold connects
  split
  · exact (Devices.machine.admits_cons _ _ _).mpr ⟨trivial, Devices.machine.admits_nil _⟩
  · exact Devices.machine.admits_nil _

theorem admits_frees (dev : Nat) (w : World) (s : Devices) : Devices.machine.Admits s (w.frees ctx i dev) := by
  unfold frees
  split
  · exact Devices.machine.admits_nil _
  · exact (Devices.machine.admits_cons _ _ _).mpr ⟨trivial, Devices.machine.admits_nil _⟩

end World

namespace Client
variable (ctx : Context Nat)

/-- What a step does to the devices. -/
def actions (w : World) (e : Event) : List DeviceAction :=
  if w.crashed then []
  else match e with
    | .fingerprintOpen true i => .allocate :: w.allocate.connects i
    | .fingerprintClose (some dev) i => w.connects i ++ w.frees ctx i dev
    | .setNotify dev notify => [.setNotify dev notify]
    | .operation call i => if call.request.isOk then w.connects i else []
    | .binderDied k i => ((w.noticed k).withService none).connects i
    | _ => []

theorem devices_next (w : World) (e : Event) :
    (next ctx w e).devices = Devices.machine.run w.devices (actions ctx w e) := by
  unfold actions
  cases hw : w.crashed with
  | true =>
    rw [if_pos rfl]
    exact next_crashed ctx (I := fun v => v.devices = w.devices) hw rfl
      (fun x => congrArg Client.devices (World.client_happen w x)) e
  | false =>
    rw [if_neg nofun, next_eq ctx w hw]
    match e with
    | .incident x => exact congrArg Client.devices (World.client_happen w x)
    | .fingerprintOpen true i => exact World.devices_served ctx i w.allocate
    | .fingerprintOpen false _ => rfl
    | .fingerprintClose (some dev) i => exact World.devices_closed ctx i dev w
    | .fingerprintClose none _ => rfl
    | .setNotify dev notify => rfl
    | .operation call i =>
      show (w.performed ctx i call).devices =
        Devices.machine.run w.devices (if call.request.isOk then w.connects i else [])
      unfold World.performed
      cases hrequest : call.request with
      | error fault => rfl
      | ok r => exact World.devices_operated ctx i r w
    | .binderDied k i => exact World.devices_served ctx i _
    | .message n =>
      exact World.handled_preserves (I := fun v => v.devices = w.devices) rfl rfl (fun _ _ => rfl) n

theorem admits_actions (w : World) (e : Event) (henabled : Enabled w e) :
    Devices.machine.Admits w.devices (actions ctx w e) := by
  unfold actions
  split
  · exact Devices.machine.admits_nil _
  · match e with
    | .incident _ | .fingerprintOpen false _ | .fingerprintClose none _ | .message _ =>
      exact Devices.machine.admits_nil _
    | .fingerprintOpen true i =>
      exact (Devices.machine.admits_cons _ _ _).mpr ⟨trivial, World.admits_connects i _ _⟩
    | .fingerprintClose (some dev) i =>
      exact (Devices.machine.admits_append _ _ _).mpr
        ⟨World.admits_connects i _ _, World.admits_frees ctx i dev _ _⟩
    | .setNotify dev notify =>
      exact (Devices.machine.admits_cons _ _ _).mpr ⟨henabled, Devices.machine.admits_nil _⟩
    | .operation call i =>
      dsimp only
      split
      · exact World.admits_connects i _ _
      · exact Devices.machine.admits_nil _
    | .binderDied k i => exact World.admits_connects i _ _

/-- The actions of a run say what has become of the devices. -/
theorem recorded_system (events : List Event) (hadmits : (system ctx).Admits initial events) :
    Devices.Recorded ((system ctx).trace (actions ctx) initial events) ((system ctx).run initial events).devices := by
  have hnext (w : World) (e : Event) :
      ((system ctx).next w e).devices = Devices.machine.run w.devices (actions ctx w e) := devices_next ctx w e
  rw [(system ctx).run_trace Devices.machine (fun w => w.devices) (actions ctx) hnext]
  exact Devices.recorded_run _ ((system ctx).admits_trace Devices.machine (fun w => w.devices) (actions ctx) hnext
    (admits_actions ctx) initial events hadmits)

end Client

/-! ### What is sent -/

/-- `init` or `openHal`. -/
def Transmission.Greets (t : Transmission) : Prop :=
  Code.ofNumber t.code = some .init ∨ Code.ofNumber t.code = some .openHal

/-- The newest device is there. -/
def Devices.Served (s : Devices) : Prop := ∃ d ∈ s.newest, s.heap d ≠ none

namespace World
variable (ctx : Context Nat) (i : Interleaving)

/-- On the way from one world to another, the newest device was there whenever `init` or `openHal` was sent. -/
def Greeted (w w' : World) : Prop := ∀ t ∈ w'.sent.drop w.sent.length, t.Greets → t.client.devices.Served

theorem sent_happen (w : World) (x : Incident) : (w.happen x).sent = w.sent := by
  cases x with
  | crash | restart => rfl
  | obituary k =>
    by_cases hk : (w.daemons k).alive = true
    · simp [happen, hk]
    · simp [happen, hk]

theorem sent_pass (w : World) (xs : List Incident) : (w.pass xs).sent = w.sent :=
  pass_induction (I := fun v => v.sent = w.sent) (fun v x h => (sent_happen v x).trans h) w xs rfl

theorem greeted_append {w w' : World} {ts : List Transmission} (h : w'.sent = w.sent ++ ts) :
    Greeted w w' ↔ ∀ t ∈ ts, t.Greets → t.client.devices.Served := by
  rw [Greeted, h, List.drop_left]

/-- The handshake is `init` and `openHal`, with the devices as they are after `setDevice`. -/
theorem sent_connected (k : Nat) (w : World) : ∃ c : Client, c.devices = w.devices.act .connect ∧
    (w.connected ctx i k).sent = w.sent ++ [⟨c, k, Code.init.number⟩, ⟨c, k, Code.openHal.number⟩] := by
  have hclient := client_introduced ctx i k (w.linked i k).callbacks ((w.linked i k).greeting i)
  have hgreeting : ((w.linked i k).greeting i).sent = w.sent := by
    rw [greeting, sent_pass]
    show ((w.withService (some k)).pass i.beforeLink).sent = w.sent
    rw [sent_pass]
    rfl
  refine ⟨((w.linked i k).greeting i).toClient, by rw [client_greeting]; rfl, ?_⟩
  have hkept (ret : Int64) (v : World) : (v.kept ret).sent = v.sent := by
    unfold kept
    split <;> rfl
  rw [connected, admitted, hkept, asked, hclient]
  show (pass _ _).sent ++ _ = _
  rw [sent_pass, asked, hgreeting, List.append_assoc]
  rfl

/-- Nothing is sent on the way to a service but the handshake. -/
theorem sent_served (w : World) : ∃ ts, (w.served ctx i).sent = w.sent ++ ts := by
  unfold served
  split
  · next k _ _ =>
    obtain ⟨c, -, hsent⟩ := sent_connected ctx i k w
    exact ⟨_, hsent⟩
  · exact ⟨[], (List.append_nil _).symm⟩

/-- The handshake that `getService` makes, if it makes one, finds the newest device. -/
theorem greeted_served (w : World) :
    Greeted w (w.served ctx i) ↔ (w.gService = none → i.found ≠ none → w.devices.Served) := by
  cases hservice : w.gService with
  | some k =>
    rw [served_bound ctx i w k hservice, greeted_append (List.append_nil _).symm]
    simp
  | none =>
    cases hfound : i.found with
    | none =>
      rw [served_missing ctx i w hfound, greeted_append (List.append_nil _).symm]
      simp
    | some k =>
      obtain ⟨c, hdevices, hsent⟩ := sent_connected ctx i k w
      have hserved : c.devices.Served ↔ w.devices.Served := by rw [hdevices]; rfl
      have hgreets : Transmission.Greets ⟨c, k, Code.init.number⟩ := .inl (Code.ofNumber_number .init)
      rw [served_found ctx i w k hservice hfound, greeted_append hsent]
      simp only [List.forall_mem_cons, List.not_mem_nil, false_imp_iff, implies_true, and_true, hserved]
      constructor
      · intro h _ _
        exact h.1 hgreets
      · intro h
        have hthere := h trivial (Option.some_ne_none k)
        exact ⟨fun _ => hthere, fun _ => hthere⟩

/-- A request that is not of the handshake makes no difference to it. -/
theorem greeted_request {w w' : World} {k : Nat} {r : Request Nat} {c : Client} (hinit : r.code ≠ .init)
    (hopenHal : r.code ≠ .openHal) (h : w'.sent = (w.served ctx i).sent ++ [⟨c, k, r.code.number⟩]) :
    Greeted w w' ↔ Greeted w (w.served ctx i) := by
  obtain ⟨ts, hts⟩ := sent_served ctx i w
  have hsilent : ¬ Transmission.Greets ⟨c, k, r.code.number⟩ := by
    intro h
    rcases h with hcode | hcode
    · exact hinit (Option.some.inj ((Code.ofNumber_number r.code).symm.trans hcode))
    · exact hopenHal (Option.some.inj ((Code.ofNumber_number r.code).symm.trans hcode))
  rw [hts, List.append_assoc] at h
  rw [greeted_append h, greeted_append hts, List.forall_mem_append]
  simp [hsilent]

theorem greeted_operated (r : Request Nat) (hr : r.code ∈ Client.DeviceCall.codes) (w : World) :
    Greeted w (w.operated ctx i r) ↔ Greeted w (w.served ctx i) := by
  have hcode (c : Code) (hc : c ∉ Client.DeviceCall.codes) : r.code ≠ c := fun h => hc (h ▸ hr)
  unfold operated
  split
  · exact Iff.rfl
  · next k _ =>
    split
    · have hsent : (((w.served ctx i).pass i.beforeCall).asked ctx i.hal k r).sent =
          (w.served ctx i).sent ++ [⟨((w.served ctx i).pass i.beforeCall).toClient, k, r.code.number⟩] :=
        congrArg (· ++ _) (sent_pass _ _)
      exact greeted_request ctx i (hcode _ (by decide)) (hcode _ (by decide)) hsent
    · have hsent : ((w.served ctx i).pass i.beforeCall).faulted.sent = (w.served ctx i).sent := sent_pass _ _
      rw [Greeted, hsent]
      rfl

theorem greeted_closed (dev : Nat) (w : World) :
    Greeted w (w.closed ctx i dev) ↔ Greeted w (w.served ctx i) := by
  unfold closed
  split
  · exact Iff.rfl
  · next k _ =>
    have hsent : (((((w.served ctx i).pass i.beforeCall).asked ctx i.hal k .closeHal).withHeap dev none).withService
        none).sent =
          (w.served ctx i).sent ++ [⟨((w.served ctx i).pass i.beforeCall).toClient, k, Code.closeHal.number⟩] :=
      congrArg (· ++ _) (sent_pass _ _)
    exact greeted_request ctx i (r := .closeHal) (by decide) (by decide) hsent

end World

namespace Client
open DeviceAction
variable (ctx : Context Nat)

/-- The handlers have the newest device, and it is there and has somebody to notify. -/
def Addressed (w : World) (notify : Nat) : Prop :=
  ∃ d ∈ w.devices.newest, w.mDevice = some d ∧ w.heap d = some ⟨some notify⟩

/-- A message reaches whom the newest device notifies; if that is nobody, or the handlers have another
device, it is dropped. -/
def Dispatched (n : Notification) (w : World) : Prop :=
  ∀ message, n.handled = .ok (some message) →
    (∀ notify, Addressed w notify →
      goodixFingerprintDaemonCallbackProxy.call n w = (.ok 0, w.deliver notify message)) ∧
    ((∀ notify, ¬ Addressed w notify) → goodixFingerprintDaemonCallbackProxy.call n w = (.ok 0, w))

/-- Messages go to the newest device or nowhere, and a handshake is made only while it is there. -/
def Proper (w : World) (e : Event) : Prop :=
  w.crashed = false → World.Greeted w (next ctx w e) ∧ match e with
    | .message n => Dispatched n w
    | _ => True

/-- If a service is looked for and found, the latest device made was not freed. -/
def Follows (sofar : List DeviceAction) (i : Interleaving) (w : World) : Prop :=
  w.gService = none → i.found ≠ none → ∃ d, Latest d sofar ∧ Kept d sofar

/-- By the actions so far: a message comes before the handlers are given any device, or the one they
were last given is the latest and was told whom to notify; and outside `fingerprint_open` a service is
looked for only while the latest device was not freed. -/
def InOrder (sofar : List DeviceAction) (w : World) (e : Event) : Prop :=
  w.crashed = false → match e with
    | .message n => (∃ message, n.handled = .ok (some message)) → ∀ d, Given d sofar → Latest d sofar ∧ Told d sofar
    | .fingerprintClose (some _) i => Follows sofar i w
    | .operation call i => call.request.isOk = true → Follows sofar i w
    | .binderDied k i => Follows sofar i ((w.noticed k).withService none)
    | _ => True

/-! ### One step -/

/-- A message has one way to go right for each of the two: no device at all, or the right one. -/
theorem dispatched_iff (n : Notification) (w : World) :
    Dispatched n w ↔ ((∃ message, n.handled = .ok (some message)) →
      ∀ d, w.mDevice = some d → w.devices.newest = some d ∧ ∃ notify, w.heap d = some ⟨some notify⟩) := by
  have hcall (message : FingerprintMsg) (h : n.handled = .ok (some message)) :
      goodixFingerprintDaemonCallbackProxy.call n w = passOn message w := by
    rw [n.call_eq, h]
    rfl
  constructor
  · rintro h ⟨message, hmessage⟩ d hdevice
    obtain ⟨-, hdropped⟩ := h message hmessage
    by_contra hwrong
    have hnobody (notify : Nat) : ¬ Addressed w notify := by
      intro h
      obtain ⟨d', hnewest, hdevice', hheap⟩ := h
      obtain rfl : d = d' := Option.some.inj (hdevice.symm.trans hdevice')
      exact hwrong ⟨hnewest, notify, hheap⟩
    -- The message is passed on all the same.
    have hpassed := (hcall message hmessage).symm.trans (hdropped hnobody)
    rw [passOn_eq, hdevice] at hpassed
    rcases hheap : w.heap d with _ | ⟨_ | notify⟩
    · simp only [hheap] at hpassed
      cases hpassed
    · simp only [hheap] at hpassed
      cases hpassed
    · simp only [hheap] at hpassed
      have hdelivered := congrArg (fun out => out.2.delivered.length) hpassed
      simp [World.deliver] at hdelivered
  · intro h message hmessage
    rw [hcall message hmessage]
    constructor
    · rintro notify ⟨d, -, hdevice, hheap⟩
      exact passOn_notifies ⟨d, hdevice, hheap⟩ message
    · intro hnobody
      cases hdevice : w.mDevice with
      | none =>
        rw [passOn_eq, hdevice]
      | some d =>
        obtain ⟨hnewest, notify, hheap⟩ := h ⟨message, hmessage⟩ d hdevice
        exact absurd ⟨d, hnewest, hdevice, hheap⟩ (hnobody notify)

theorem greeted_iff {w w' v : World} {i : Interleaving} {sofar : List DeviceAction}
    (h : Devices.Recorded sofar v.devices) (hgreeted : World.Greeted w w' ↔ World.Greeted v (v.served ctx i)) :
    World.Greeted w w' ↔ Follows sofar i v := by
  have hserved : v.devices.Served ↔ ∃ d, Latest d sofar ∧ Kept d sofar :=
    exists_congr fun d => and_congr (h.latest d) (h.kept d)
  rw [hgreeted, World.greeted_served, hserved]
  rfl

/-- What a step should do, by the actions so far. -/
theorem proper_iff {w : World} {sofar : List DeviceAction} (h : Devices.Recorded sofar w.devices) (e : Event) :
    Proper ctx w e ↔ InOrder sofar w e := by
  unfold Proper InOrder
  apply imp_congr_right
  intro hw
  rw [next_eq ctx w hw]
  have hsilent {w' : World} (hsent : w'.sent = w.sent) : World.Greeted w w' :=
    (World.greeted_append (hsent.trans (List.append_nil _).symm)).mpr (by simp)
  match e with
  | .incident x => exact iff_of_true ⟨hsilent (World.sent_happen w x), trivial⟩ trivial
  | .fingerprintOpen false _ | .fingerprintClose none _ | .setNotify _ _ =>
    exact iff_of_true ⟨hsilent rfl, trivial⟩ trivial
  | .fingerprintOpen true i =>
    simp only [and_true, iff_true]
    refine (World.greeted_served ctx i w.allocate).mpr fun _ _ => ⟨w.opened, rfl, ?_⟩
    simp [World.allocate, World.withHeap, Client.devices]
  | .fingerprintClose (some dev) i =>
    rw [and_true]
    exact greeted_iff ctx h (World.greeted_closed ctx i dev w)
  | .operation call i =>
    dsimp only
    rw [and_true, stepped, World.performed]
    cases hrequest : call.request with
    | error fault => exact iff_of_true (hsilent rfl) (fun hok => (by cases hok))
    | ok r =>
      rw [greeted_iff ctx h (World.greeted_operated ctx i r (call.request_code r hrequest) w)]
      exact ⟨fun hfollows _ => hfollows, fun hfollows => hfollows rfl⟩
  | .binderDied k i =>
    rw [and_true]
    exact greeted_iff ctx (v := (w.noticed k).withService none) h Iff.rfl
  | .message n =>
    have hquiet : World.Greeted w (stepped ctx w (.message n)) :=
      hsilent (World.handled_preserves (I := fun v => v.sent = w.sent) rfl rfl (fun _ _ => rfl) n)
    rw [and_iff_right hquiet]
    exact (dispatched_iff n w).trans (imp_congr_right fun _ => forall_congr' fun d =>
      imp_congr (h.given d) (and_congr (h.latest d) (h.told d)))

/-! ### Whole runs -/

/-- **Messages and handshakes find the newest device exactly if they come in order.** -/
theorem properly_iff (events : List Event) (hadmits : (system ctx).Admits initial events) :
    (∀ t ∈ (system ctx).steps initial events, Proper ctx t.1 t.2) ↔
      ∀ a e b, events = a ++ e :: b →
        InOrder ((system ctx).trace (actions ctx) initial a) ((system ctx).run initial a) e := by
  have hiff (a : List Event) (e : Event) (b : List Event) (h : events = a ++ e :: b) :
      Proper ctx ((system ctx).run initial a) e ↔
        InOrder ((system ctx).trace (actions ctx) initial a) ((system ctx).run initial a) e := by
    rw [h, (system ctx).admits_append] at hadmits
    exact proper_iff ctx (recorded_system ctx a hadmits.1) e
  constructor
  · intro hproper a e b h
    exact (hiff a e b h).mp (hproper (_, e) (((system ctx).mem_steps initial events _).mpr ⟨a, b, h, rfl⟩))
  · rintro horder ⟨w, e⟩ ht
    obtain ⟨a, b, h, rfl⟩ := ((system ctx).mem_steps initial events _).mp ht
    exact (hiff a e b h).mpr (horder a e b h)

/-- The client finds this incarnation, and nothing fails. -/
def finding (k : Nat) : Interleaving := {found := some k, hal := .succeeding}

/-- A device is opened and told whom to notify. -/
def openedDevice : List Event :=
  [.incident .restart, .fingerprintOpen true (finding 0), .setNotify 0 (some 0)]

/-- A message for it goes where it should. -/
theorem message_in_order :
    (∀ t ∈ (system (.granting true)).steps initial (openedDevice ++ [.message (.onAcquired 0 0)]),
      Proper (.granting true) t.1 t.2) ∧
    ((system (.granting true)).run initial (openedDevice ++ [.message (.onAcquired 0 0)])).delivered =
      [(0, .acquired 0)] := by
  refine ⟨(properly_iff (.granting true) _ (by decide +kernel)).mpr
    ((History.obeys_append (fun a e => InOrder ((system (.granting true)).trace (actions (.granting true)) initial a)
      ((system (.granting true)).run initial a) e) [] _).mpr ⟨History.obeys_nil _, ?_⟩), by decide +kernel⟩
  refine ⟨fun _ => trivial, fun _ => trivial, fun _ => trivial, fun _ _ d hgiven => ?_, trivial⟩
  have htrace : (system (.granting true)).trace (actions (.granting true)) initial openedDevice =
      [] ++ [.allocate] ++ [.connect] ++ [.setNotify 0 (some 0)] := by decide +kernel
  have hsofar : [] ++ [.incident .restart] ++ [.fingerprintOpen true (finding 0)] ++ [.setNotify 0 (some 0)] =
    openedDevice := rfl
  rw [hsofar, htrace] at hgiven ⊢
  rw [given_concat, given_concat] at hgiven
  obtain rfl : d = 0 := by simpa [Latest, eq_comm] using hgiven
  exact ⟨rfl, (History.since_concat _ _).mpr (.inl ⟨0, rfl⟩)⟩

/-- A message for a freed device. -/
theorem not_proper_message {w : World} {n : Notification} {d : Nat} (hw : w.crashed = false)
    (hmessage : ∃ message, n.handled = .ok (some message)) (hdevice : w.mDevice = some d) (hfreed : w.heap d = none) :
    ¬ Proper ctx w (.message n) := by
  intro hproper
  obtain ⟨-, notify, hheap⟩ := (dispatched_iff n w).mp (hproper hw).2 hmessage d hdevice
  rw [hfreed] at hheap
  cases hheap

/-- A daemon found by a client whose newest device was freed. -/
theorem not_proper_binderDied {w : World} {k d : Nat} {i : Interleaving} (hw : w.crashed = false)
    (hfound : i.found ≠ none) (hnewest : w.devices.newest = some d) (hfreed : w.heap d = none) :
    ¬ Proper ctx w (.binderDied k i) := by
  intro hproper
  have hgreeted := (hproper hw).1
  rw [next_eq ctx w hw] at hgreeted
  obtain ⟨dev, hdev, hheap⟩ := (World.greeted_served ctx i ((w.noticed k).withService none)).mp hgreeted rfl hfound
  obtain rfl : d = dev := Option.some.inj (hnewest.symm.trans hdev)
  exact hheap hfreed

/-- The device is closed. -/
def closedDevice : List Event := openedDevice ++ [.fingerprintClose (some 0) (finding 0)]

/-- And the daemon is replaced. -/
def replacedDaemon : List Event := closedDevice ++ [.incident (.crash 0), .incident (.obituary 0), .incident .restart]

/-- After `fingerprint_close`, a message goes to the freed device, and a death notice has the
handshake made without any. -/
theorem closed_device_used :
    ((system (.granting true)).Admits initial (closedDevice ++ [.message (.onAcquired 0 0)]) ∧
      ¬ Proper (.granting true) ((system (.granting true)).run initial closedDevice) (.message (.onAcquired 0 0))) ∧
    ((system (.granting true)).Admits initial (replacedDaemon ++ [.binderDied 0 (finding 1)]) ∧
      ¬ Proper (.granting true) ((system (.granting true)).run initial replacedDaemon) (.binderDied 0 (finding 1))) := by
  refine ⟨⟨by decide +kernel, ?_⟩, by decide +kernel, ?_⟩
  · exact not_proper_message _ (d := 0) (by decide +kernel) ⟨_, rfl⟩ (by decide +kernel) (by decide +kernel)
  · exact not_proper_binderDied _ (d := 0) (by decide +kernel) (by decide) (by decide +kernel) (by decide +kernel)

end Client
end GoodixFingerprint
