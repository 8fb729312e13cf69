import GoodixFingerprint.Callback.RoundTrip
import GoodixFingerprint.Client.Callback
import GoodixFingerprint.Client.System
import GoodixFingerprint.Daemon.Messages

/-! Messages on their way from the HAL to the framework.

`hal_notify_callback` sends one-way transactions, which arrive in their order at the
client, where the handlers pass on what they bring. From end to end the standard messages
arrive, and only they: `delivers_run`. -/
namespace GoodixFingerprint
open Binder

namespace GfFingerprintMsg

/-- The message of the framework that a message of the HAL is, if it is one. -/
def standard : GfFingerprintMsg → Option FingerprintMsg
  | .error err => some (.error err)
  | .acquired acquiredInfo => some (.acquired acquiredInfo)
  | .templateEnrolling gid fid samplesRemaining _ => some (.templateEnrolling fid gid samplesRemaining)
  | .templateRemoved gid fid => some (.templateRemoved fid gid)
  | .authenticated gid fid hat => some (.authenticated fid gid hat.1)
  | .testCmd .. | .hbd .. | .unknown _ => none

end GfFingerprintMsg

/-! ### One notification -/

/-- A notification that gets through, and that the client makes nothing else of than this message, or none. -/
structure Notification.Carries (n : Notification) (message : Option FingerprintMsg) : Prop where
  not_onEnumerate : n.code ≠ .onEnumerate
  writable : n.Writable
  handled : n.received.handled = .ok message

theorem receivedPtr_sized (data : Ptr) (len : Int32) (hnonneg : 0 ≤ len.toInt) :
    receivedPtr data len.toInt64.toUInt64 = some ((data.getD []).take len.toInt.toNat) := by
  have hsize := size_toInt len
  have hlt := len.toInt_lt
  rw [if_pos hnonneg] at hsize
  have hnat : len.toInt64.toUInt64.toNat = len.toInt.toNat := by omega
  rw [receivedPtr, if_neg (by rw [hnat, int32Max]; omega), hnat]

/-- A test result has a first byte, which the handler of the client asks for. -/
def GfFingerprintMsg.Readable : GfFingerprintMsg → Prop
  | .testCmd _ _ resultLen => 0 < resultLen.toInt
  | _ => True

/-- The size of a token is that of the token. -/
theorem token_size (hat : HwAuthToken) : (Int32.ofNat hwAuthTokenSize).toInt64.toUInt64.toNat = hat.1.length := by
  rw [hat.2]
  decide

/-- A token is received as it was sent, and copied whole. -/
theorem received_token (hat : HwAuthToken) :
    memcpy hwAuthTokenSize (receivedPtr (some hat.1) (Int32.ofNat hwAuthTokenSize).toInt64.toUInt64)
      (Int32.ofNat hwAuthTokenSize).toInt64.toUInt64.toNat = .ok hat.1 := by
  have hsize : (Int32.ofNat hwAuthTokenSize).toInt.toNat = hat.1.length := by
    rw [hat.2]
    decide
  rw [receivedPtr_sized _ _ (by decide), hsize, Option.getD_some, List.take_length, token_size]
  exact memcpy_whole (Nat.le_of_eq hat.2)

/-- The first byte of a result that was written is there for the client. -/
theorem received_result {result : Ptr} {resultLen : Int32}
    (hwritable : Parcel.Writable result resultLen.toInt64.toUInt64) (hfirst : 0 < resultLen.toInt) :
    ∃ cells, (Memory.ofPtr (receivedPtr result resultLen.toInt64.toUInt64)).fetch 1 = .ok cells := by
  have hsize := size_toInt resultLen
  have hlt := resultLen.toInt_lt
  rw [if_pos (Int.le_of_lt hfirst)] at hsize
  have hcovers : resultLen.toInt64.toUInt64.toNat ≤ (result.getD []).length :=
    hwritable (by rw [int32Max]; omega)
  rw [receivedPtr_sized result resultLen (Int.le_of_lt hfirst), Memory.ofPtr_some]
  refine ⟨_, Memory.fetch_ok_iff.mpr ⟨?_, rfl⟩⟩
  rw [List.length_map, List.length_take]
  omega

/-- A message's notification carries the message. -/
theorem GfFingerprintMsg.carries_notification (msg : GfFingerprintMsg) (device : Int64) (n : Notification)
    (hn : msg.notification device = some n) (hwritable : n.Writable) (hreadable : msg.Readable) :
    n.Carries msg.standard := by
  cases msg with
  | unknown type => cases hn
  | authenticated gid fid hat =>
    cases hn
    refine ⟨by simp [Notification.code], hwritable, Notification.handled_ok_iff.mpr ⟨?_, [], rfl⟩⟩
    simp only [Notification.received, Notification.message, received_token, standard, UInt32.toUInt32_toInt32]
    rfl
  | testCmd cmdId result resultLen =>
    cases hn
    exact ⟨by simp [Notification.code], hwritable,
      Notification.handled_ok_iff.mpr ⟨rfl, received_result hwritable hreadable⟩⟩
  | _ =>
    cases hn
    refine ⟨by simp [Notification.code], hwritable, Notification.handled_ok_iff.mpr ⟨?_, [], rfl⟩⟩
    simp [Notification.received, Notification.message, standard]

/-! ### The way of the transactions -/

/-- What the daemon has handed to the driver, unless it has faulted since. -/
abbrev SenderM (β : Type) := ExceptT Fault (StateM (List (β × UInt32 × Parcel β)))

/-- A transaction handed to the driver, which does not wait for it. -/
def oneWay {β : Type} (receiver : β) : Transact (StateM (List (β × UInt32 × Parcel β))) β :=
  fun code data sent => ((noError, {}), sent ++ [(receiver, code, data)])

section Sender
variable {β : Type} (address : Device → Int64) (s : GoodixFingerprintDaemonProxy β) (msg : GfFingerprintMsg)

/-- `hal_notify_callback` in the daemon's process. -/
def halNotify : SenderM β (Unit × GoodixFingerprintDaemonProxy β) :=
  GoodixFingerprintDaemonProxy.halNotifyCallback (fun receiver => bpGoodixFingerprintDaemonCallback (oneWay receiver))
    (fun string => printString string) address msg s

/-- Whether the daemon is still there then, and what it has handed to the driver. -/
def sent : Bool × List (β × UInt32 × Parcel β) :=
  let (outcome, out) := halNotify address s msg []
  (outcome.isOk, out)

/-- The daemon can print the result of a test, and has as many bytes for whom it tests as it says. -/
def Sendable : GfFingerprintMsg → Prop
  | .testCmd _ result resultLen => result.Terminated ∧
    (s.mTestCallback ≠ none → Parcel.Writable result resultLen.toInt64.toUInt64)
  | .hbd _ _ displayData dataLen => s.mTestCallback ≠ none → Parcel.Writable displayData dataLen.toInt64.toUInt64
  | _ => True

variable {s msg}

theorem Sendable.logged (h : Sendable s msg) :
    Daemon.logged s msg (fun string => (printString string : SenderM β Unit)) = pure () := by
  unfold Daemon.logged
  split
  · rfl
  · cases msg with
    | testCmd cmdId result resultLen =>
      rw [GfFingerprintMsg.printed, printString_ok h.1]
      rfl
    | _ => rfl

theorem Sendable.writable (h : Sendable s msg) (t : β × Notification) (ht : t ∈ Daemon.dispatched address s msg) :
    t.2.Writable := by
  unfold Daemon.dispatched at ht
  split at ht
  · cases ht
  · obtain ⟨b, haddressee, ht⟩ := Option.bind_eq_some_iff.mp ht
    obtain ⟨n, hn, rfl⟩ := Option.map_eq_some_iff.mp ht
    have hslot (htest : msg.isTest = true) : s.mTestCallback ≠ none := by
      rw [Daemon.addressee, if_pos htest] at haddressee
      rw [haddressee]
      exact Option.some_ne_none b
    cases msg with
    | unknown type => cases hn
    | authenticated gid fid hat =>
      cases hn
      exact fun _ => Nat.le_of_eq (token_size hat)
    | testCmd =>
      cases hn
      exact h.2 (hslot rfl)
    | hbd =>
      cases hn
      exact h (hslot rfl)
    | _ =>
      cases hn
      trivial

/-- A message that can be sent is sent, with nothing left out. -/
theorem sent_eq (h : Sendable s msg) : sent address s msg =
    (true, (Daemon.dispatched address s msg).toList.map fun t => (t.1, t.2.code.number, t.2.parcel)) := by
  rw [sent, halNotify, Daemon.halNotifyCallback_eq, h.logged, pure_bind]
  cases hdispatched : Daemon.dispatched address s msg with
  | none => rfl
  | some t =>
    have hwritten := t.2.written_ok (β := β) (h.writable address t hdispatched)
    simp only [bp_notify_ok _ t.2 _ _ hwritten]
    rfl

end Sender

/-- The client and the daemon, and what is on the way to one callback of the client, the oldest first. -/
structure Delivery (β : Type) where
  client : World := {}
  /-- The daemon has not faulted over a message. -/
  alive : Bool := true
  inFlight : List (UInt32 × Parcel β) := []

namespace Delivery
variable {β : Type} [DecidableEq β] (address : Device → Int64) (ctx : Context β) (b : β)

inductive Event (β : Type) where
  /-- The HAL has a message for the daemon, as it is then. -/
  | notify (s : GoodixFingerprintDaemonProxy β) (msg : GfFingerprintMsg)
  | arrive
  /-- The client goes on otherwise. -/
  | meanwhile (client : World)

def next (d : Delivery β) : Event β → Delivery β
  | .notify s msg =>
    if d.alive then
      let (alive, out) := sent address s msg
      {d with alive := alive, inFlight := d.inFlight ++ (out.filter fun t => t.1 = b).map fun t => t.2}
    else d
  | .arrive =>
    match d.inFlight with
    | [] => d
    | (code, data) :: rest =>
      {d with
        client := if d.client.crashed then d.client
          else d.client.act (BnGoodixFingerprintDaemonCallback.onTransact goodixFingerprintDaemonCallbackProxy ctx
            code data)
        inFlight := rest}
  | .meanwhile client => {d with client := client}

/-- The callback is the daemon's, and whatever the client does, it passes on no message by that,
does not fault, and has a device with somebody to notify. -/
def Enabled (d : Delivery β) : Event β → Prop
  | .notify s _ => s.mCallback = some b
  | .arrive => True
  | .meanwhile client => client.delivered = d.client.delivered ∧ client.crashed = d.client.crashed ∧
    ∃ notify, Client.Notifies client notify

def machine : Machine (Delivery β) (Event β) := ⟨next address ctx b, Enabled b⟩

/-- The messages of the HAL in a run. -/
def messages (events : List (Event β)) : List GfFingerprintMsg :=
  events.filterMap fun
    | .notify _ msg => some msg
    | _ => none

/-- The messages passed on. -/
def passedOn (d : Delivery β) : List FingerprintMsg := d.client.delivered.map Prod.snd

/-- The daemon can send the message, and a test result for this callback has a first byte. -/
def Deliverable : Event β → Prop
  | .notify s msg => Sendable s msg ∧ (s.mTestCallback = some b → msg.Readable)
  | _ => True

/-- Everything so far has been passed on, or is on its way to a client that will pass it on. -/
structure Tracks (base : List FingerprintMsg) (messages : List GfFingerprintMsg) (d : Delivery β) : Prop where
  sends : d.alive = true
  receives : d.client.crashed = false
  notifies : ∃ notify, Client.Notifies d.client notify
  carried : ∃ coming : List (Notification × Option FingerprintMsg),
    d.inFlight = coming.map (fun t => (t.1.code.number, t.1.parcel)) ∧ (∀ t ∈ coming, t.1.Carries t.2) ∧
      d.passedOn ++ coming.filterMap Prod.snd = base ++ messages.filterMap GfFingerprintMsg.standard

/-! ### One step -/

omit [DecidableEq β] in
/-- What a notification that carries a message does to a client that notifies. -/
theorem act_parcel {n : Notification} {message : Option FingerprintMsg} (h : n.Carries message) {w : World}
    {notify : Nat} (hnotifies : Client.Notifies w notify) :
    w.act (BnGoodixFingerprintDaemonCallback.onTransact goodixFingerprintDaemonCallbackProxy ctx
      n.code.number n.parcel) = message.elim w fun message => w.deliver notify message := by
  rw [notification_round_trip _ ctx n h.not_onEnumerate h.writable rfl]
  refine (World.act_return _ _ w).trans ?_
  rw [World.act, n.received.call_eq, h.handled]
  cases message with
  | none => rfl
  | some message =>
    simp only [Notification.deliver, Client.passOn_notifies hnotifies]
    rfl

/-- What is handed to the driver for this callback carries the message, if it is a standard one. -/
theorem sent_carries (s : GoodixFingerprintDaemonProxy β) (msg : GfFingerprintMsg) (hcallback : s.mCallback = some b)
    (hdeliverable : Deliverable b (.notify s msg)) :
    ∃ coming : List (Notification × Option FingerprintMsg),
      ((sent address s msg).2.filter fun t => t.1 = b).map (fun t => t.2) =
          coming.map (fun t => (t.1.code.number, t.1.parcel)) ∧
        (∀ t ∈ coming, t.1.Carries t.2) ∧ coming.filterMap Prod.snd = msg.standard.toList := by
  obtain ⟨hsendable, hreadable⟩ := hdeliverable
  have hwritable := hsendable.writable address
  rw [sent_eq address hsendable]
  rw [Daemon.dispatched, hcallback, Daemon.routed, Daemon.addressee] at hwritable ⊢
  simp only [Option.isNone_some, Bool.false_eq_true, if_false, hcallback] at hwritable ⊢
  cases hn : msg.notification (s.deviceId address) with
  | none =>
    have hnone : msg.standard = none := by
      cases msg with
      | unknown type => rfl
      | _ => cases hn
    exact ⟨[], by simp, by simp, by simp [hnone]⟩
  | some n =>
    rw [hn] at hwritable
    cases htest : msg.isTest with
    | false =>
      rw [htest] at hwritable
      have hstandard : msg.Readable := by
        cases msg with
        | testCmd => cases htest
        | _ => trivial
      have hcarries := msg.carries_notification _ n hn (hwritable (b, n) rfl) hstandard
      refine ⟨[(n, msg.standard)], by simp, by simpa using hcarries, ?_⟩
      cases msg.standard <;> rfl
    | true =>
      rw [htest] at hwritable
      have hnone : msg.standard = none := by
        cases msg with
        | testCmd | hbd => rfl
        | _ => cases htest
      cases hslot : s.mTestCallback with
      | none => exact ⟨[], by simp, by simp, by simp [hnone]⟩
      | some receiver =>
        rw [hslot] at hwritable
        by_cases hreceiver : receiver = b
        · have hcarries := msg.carries_notification _ n hn (hwritable (receiver, n) rfl)
            (hreadable (by rw [hslot, hreceiver]))
          exact ⟨[(n, msg.standard)], by simp [hreceiver], by simpa using hcarries, by simp [hnone]⟩
        · exact ⟨[], by simp [hreceiver], by simp, by simp [hnone]⟩

theorem tracks_notify {base : List FingerprintMsg} {sofar : List GfFingerprintMsg} {d : Delivery β}
    (h : Tracks base sofar d) (s : GoodixFingerprintDaemonProxy β) (msg : GfFingerprintMsg)
    (hcallback : s.mCallback = some b) (hdeliverable : Deliverable b (.notify s msg)) :
    Tracks base (sofar ++ [msg]) (next address ctx b d (.notify s msg)) := by
  obtain ⟨coming, hflight, hcarries, hpassed⟩ := h.carried
  obtain ⟨more, hsent, hmore, hstandard⟩ := sent_carries address b s msg hcallback hdeliverable
  rw [next, if_pos h.sends]
  refine ⟨by rw [sent_eq address hdeliverable.1], h.receives, h.notifies, coming ++ more, ?_, ?_, ?_⟩
  · rw [List.map_append, ← hflight, ← hsent]
  · exact List.forall_mem_append.mpr ⟨hcarries, hmore⟩
  · rw [List.filterMap_append, hstandard, List.filterMap_append, ← List.append_assoc, ← List.append_assoc, ← hpassed]
    cases hmsg : msg.standard <;> simp [passedOn, hmsg]

/-- With nothing on its way nothing arrives; else the oldest notification does. -/
theorem tracks_arrive {base : List FingerprintMsg} {sofar : List GfFingerprintMsg} {d : Delivery β}
    (h : Tracks base sofar d) : Tracks base sofar (next address ctx b d .arrive) := by
  obtain ⟨coming, hflight, hcarries, hpassed⟩ := h.carried
  obtain ⟨notify, hnotifies⟩ := h.notifies
  cases coming with
  | nil =>
    have hnone : d.inFlight = [] := hflight
    have hsame : next address ctx b d .arrive = d := by simp only [next, hnone]
    rw [hsame]
    exact h
  | cons t rest =>
    have hnext : next address ctx b d .arrive =
        {d with
          client := t.2.elim d.client fun message => d.client.deliver notify message
          inFlight := rest.map fun t => (t.1.code.number, t.1.parcel)} := by
      rw [← act_parcel ctx (hcarries t (List.mem_cons_self ..)) hnotifies]
      simp only [next, hflight, List.map_cons, h.receives]
      rfl
    rw [hnext]
    have hrest : ∀ t ∈ rest, t.1.Carries t.2 := fun t ht => hcarries t (List.mem_cons_of_mem _ ht)
    obtain ⟨n, message⟩ := t
    cases message with
    | none =>
      rw [List.filterMap_cons_none rfl] at hpassed
      exact ⟨h.sends, h.receives, ⟨notify, hnotifies⟩, rest, rfl, hrest, hpassed⟩
    | some message =>
      refine ⟨h.sends, h.receives, ⟨notify, hnotifies⟩, rest, rfl, hrest, ?_⟩
      rw [← hpassed]
      simp [passedOn, World.deliver]

theorem tracks_next {base : List FingerprintMsg} {sofar : List GfFingerprintMsg} {d : Delivery β}
    (h : Tracks base sofar d) (e : Event β) (henabled : Enabled b d e) (hdeliverable : Deliverable b e) :
    Tracks base (sofar ++ messages [e]) (next address ctx b d e) := by
  cases e with
  | notify s msg => exact tracks_notify address ctx b h s msg henabled hdeliverable
  | arrive =>
    have hmessages : sofar ++ messages [Event.arrive (β := β)] = sofar := List.append_nil _
    rw [hmessages]
    exact tracks_arrive address ctx b h
  | meanwhile client =>
    obtain ⟨hdelivered, hcrashed, hnotifies⟩ := henabled
    obtain ⟨coming, hflight, hcarries, hpassed⟩ := h.carried
    refine ⟨h.sends, hcrashed.trans h.receives, hnotifies, coming, hflight, hcarries, ?_⟩
    have hmessages : sofar ++ messages [Event.meanwhile (β := β) client] = sofar := List.append_nil _
    rw [hmessages, ← hpassed, passedOn, passedOn, next, hdelivered]

/-! ### A whole run -/

theorem tracks_run {base : List FingerprintMsg} {sofar : List GfFingerprintMsg} {d : Delivery β}
    (h : Tracks base sofar d) (events : List (Event β)) (hadmits : (machine address ctx b).Admits d events)
    (hdeliverable : ∀ e ∈ events, Deliverable b e) :
    Tracks base (sofar ++ messages events) ((machine address ctx b).run d events) := by
  induction events generalizing sofar d with
  | nil =>
    rw [messages, List.filterMap_nil, List.append_nil]
    exact h
  | cons e rest ih =>
    rw [Machine.admits_cons] at hadmits
    have hstep := tracks_next address ctx b h e hadmits.1 (hdeliverable e (List.mem_cons_self ..))
    have hrun := ih hstep hadmits.2 fun e he => hdeliverable e (List.mem_cons_of_mem _ he)
    rw [List.append_assoc, messages, messages, ← List.filterMap_append] at hrun
    exact hrun

end Delivery
end GoodixFingerprint
