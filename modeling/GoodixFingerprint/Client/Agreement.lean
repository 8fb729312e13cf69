import GoodixFingerprint.Client.Conformance
import GoodixFingerprint.Daemon.HalTrace
import GoodixFingerprint.Daemon.Messages
import GoodixFingerprint.Daemon.Opens

/-! The client and the daemon agree.

The daemon tests neither that its device is open nor whom its messages are for: that is left
to the order in which the client calls it. With the client's order both come out right. A
living service holds a device that works and the callback of the session the client is in,
and no incarnation ever hands the HAL a device that does not work. -/
namespace GoodixFingerprint
open Binder

/-- A call that does not start a device is made on one that is live. -/
def Effect.Attended (before : List Effect) (e : Effect) : Prop :=
  ∀ call, e.call = some call → call.isInit = false → ∃ d, call.device = some d ∧ Live before d

namespace GoodixFingerprintDaemonProxy
variable {β : Type} [DecidableEq β]

/-- A device operation is refused or one call on `mDevice`. -/
theorem call_operation (hal : Hal) (r : Request β) (hr : r.code ∈ Client.DeviceCall.codes)
    (s s' : GoodixFingerprintDaemonProxy β) (v : r.Result)
    (h : (goodixFingerprintDaemonProxy hal).call r s = .ok (v, s')) :
    s' = s ∨ ∃ e call, s' = s.record e ∧ e.Forwarded ∧ e.call = some call ∧ call.device = s.mDevice := by
  cases r with
  | enroll token tokenSize groupId timeout =>
    rw [call_enroll] at h
    split at h
    · cases h
      exact .inl rfl
    · cases h
      exact .inr ⟨_, _, rfl, ⟨rfl, rfl⟩, rfl, rfl⟩
  | setActiveGroup groupId path pathLen =>
    rw [call_setActiveGroup] at h
    split at h
    · cases h
      exact .inl rfl
    · obtain ⟨bytes, -, h⟩ := bind_ok_iff.mp h
      cases h
      exact .inr ⟨_, _, rfl, ⟨rfl, rfl⟩, rfl, rfl⟩
  | preEnroll | getAuthenticatorId =>
    cases h
    exact .inr ⟨_, _, rfl, trivial, rfl, rfl⟩
  | postEnroll | stopEnrollment | authenticate | remove =>
    cases h
    exact .inr ⟨_, _, rfl, ⟨rfl, rfl⟩, rfl, rfl⟩
  | _ => simp [Request.code, Client.DeviceCall.codes] at hr

end GoodixFingerprintDaemonProxy

namespace Daemon
variable {β : Type}
open GoodixFingerprintDaemonProxy Effect

/-- The devices are numbered, and every call is attended. -/
structure Attentive (s : GoodixFingerprintDaemonProxy β) : Prop where
  numbered : Numbered s
  attended : History.Obeys Attended s.effects

theorem attentive_registered [DecidableEq β] (s : GoodixFingerprintDaemonProxy β) (h : Attentive s) (b : β) :
    Attentive (s.registered b) := ⟨⟨h.numbered.1, h.numbered.2⟩, h.attended⟩

theorem attentive_opened (hal : Hal) (s : GoodixFingerprintDaemonProxy β) (h : Attentive s) :
    Attentive (s.opened hal) := by
  refine ⟨numbered_opened hal s h.numbered, ?_⟩
  rw [opened_eq]
  refine (History.obeys_append Attended _ _).mpr ⟨h.attended, fun call hcall => ?_, fun call hcall hinit => ?_, trivial⟩
  · cases hcall
  · cases hcall
    cases hinit

theorem holdsLive_opened (hal : Hal) (s : GoodixFingerprintDaemonProxy β) (h : Attentive s)
    (hinit : hal.error (.init (some s.allocated)) = gfSuccess) : HoldsLive (s.opened hal) := by
  rw [opened_eq]
  exact ⟨s.allocated, rfl, (live_opening hal s h.numbered).mpr hinit⟩

/-- With a device that works, it can be closed. -/
theorem attentive_closed (hal : Hal) (s : GoodixFingerprintDaemonProxy β) (h : Attentive s) (hlive : HoldsLive s) :
    Attentive (s.closed hal) := by
  obtain ⟨d, hd, hlive⟩ := hlive
  have hnumbered := numbered_closed hal s h.numbered
  rw [closed_eq]
  refine ⟨hnumbered, ?_⟩
  rw [hd]
  refine (History.obeys_append Attended _ _).mpr ⟨h.attended, fun call hcall _ => ?_, fun call hcall => ?_,
    fun call hcall => ?_, trivial⟩
  · cases hcall
    exact ⟨d, rfl, hlive⟩
  · cases hcall
  · cases hcall

/-- With a device that works, it can be used, and goes on to work. -/
theorem attentive_forwarded (s : GoodixFingerprintDaemonProxy β) (h : Attentive s) (hlive : HoldsLive s) (e : Effect)
    (call : HalCall) (he : e.Forwarded) (hcall : e.call = some call) (hdevice : call.device = s.mDevice) :
    Attentive (s.record e) ∧ HoldsLive (s.record e) := by
  obtain ⟨d, hd, hlive⟩ := hlive
  refine ⟨⟨⟨h.numbered.1, fun e' he' d' hd' => ?_⟩, ?_⟩, d, hd, ?_⟩
  · rcases List.mem_append.mp he' with he' | he'
    · exact h.numbered.2 e' he' d' hd'
    · rw [List.mem_singleton.mp he', he.subject_none] at hd'
      cases hd'
  · refine (History.obeys_concat Attended _ _).mpr ⟨h.attended, fun call' hcall' _ => ⟨d, ?_, hlive⟩⟩
    cases hcall.symm.trans hcall'
    exact hdevice.trans hd
  · exact (live_append_of_subject _ _ he.subject_none d).mpr hlive

end Daemon

/-! ### The daemon behind the client's requests -/

namespace World

/-- The daemon of an incarnation. -/
def daemon (k : Nat) (w : World) : GoodixFingerprintDaemonProxy Nat := (w.daemons k).state.1

theorem daemon_pass (k : Nat) (w : World) (xs : List Incident) : (w.pass xs).daemon k = w.daemon k :=
  congrArg Prod.fst (state_pass k w xs)

theorem daemon_greeting (j k : Nat) (i : Interleaving) (w : World) :
    ((w.linked i k).greeting i).daemon j = w.daemon j := congrArg Prod.fst (state_greeting i j k w)

theorem daemon_kept (k : Nat) (ret : Int64) (w : World) : (w.kept ret).daemon k = w.daemon k :=
  congrArg Prod.fst (state_kept k ret w)

section Requests
variable (ctx : Context Nat) (hal : Hal)

theorem daemon_asked_other {j k : Nat} (h : j ≠ k) (r : Request Nat) (w : World) :
    (w.asked ctx hal k r).daemon j = w.daemon j := by
  simp [asked, daemon, Function.update_of_ne h]

/-- The incarnation after a request: as it was, or as the method leaves it, with one more entry. -/
theorem state_asked (k : Nat) (r : Request Nat) (w : World) :
    ((w.asked ctx hal k r).daemons k).state = (w.daemons k).state ∨
    (w.lives k = true ∧ ∃ v, (goodixFingerprintDaemonProxy hal).call (Process.received ctx r) (w.daemon k) =
        .ok (v, (w.asked ctx hal k r).daemon k) ∧
      (w.asked ctx hal k r).log k = w.log k ++ [⟨w.session, Process.received ctx r, v⟩]) := by
  rw [asked, daemon, daemon, log, log, lives]
  simp only [Function.update_self, Process.asked, admits_service]
  by_cases hadmits : (!r.code.gated || ctx.granted) = true
  · rw [if_pos hadmits]
    rcases Process.invoke_traced (goodixFingerprintDaemonProxy hal) w.session (Process.received ctx r)
      (w.daemons k) with ⟨-, heq⟩ | ⟨-, -, heq⟩ | ⟨halive, v, s, hcall, heq⟩
    · refine .inl ?_
      rw [service, heq]
    · refine .inl ?_
      rw [service, heq]
    · refine .inr ⟨halive, v, ?_⟩
      rw [service, heq]
      exact ⟨hcall, rfl⟩
  · rw [if_neg hadmits]
    exact .inl rfl

theorem daemon_asked (k : Nat) (r : Request Nat) (w : World) :
    (w.asked ctx hal k r).daemon k = w.daemon k ∨
    (w.lives k = true ∧ ∃ v, (goodixFingerprintDaemonProxy hal).call (Process.received ctx r) (w.daemon k) =
      .ok (v, (w.asked ctx hal k r).daemon k)) := by
  rcases state_asked ctx hal k r w with hsame | ⟨hlives, v, hcall, -⟩
  · exact .inl (congrArg Prod.fst hsame)
  · exact .inr ⟨hlives, v, hcall⟩

theorem state_asked_fits (k : Nat) (r : Request Nat) (hr : r.Fits) (w : World) :
    ((w.asked ctx hal k r).daemons k).state = (w.daemons k).state ∨
    (w.lives k = true ∧ ∃ v, (goodixFingerprintDaemonProxy hal).call r (w.daemon k) =
        .ok (v, (w.asked ctx hal k r).daemon k) ∧
      (w.asked ctx hal k r).log k = w.log k ++ [⟨w.session, r, v⟩]) := by
  have hasked := state_asked ctx hal k r w
  rw [Process.received_fits ctx r hr] at hasked
  exact hasked

theorem daemon_asked_fits (k : Nat) (r : Request Nat) (hr : r.Fits) (w : World) :
    (w.asked ctx hal k r).daemon k = w.daemon k ∨
    (w.lives k = true ∧ ∃ v, (goodixFingerprintDaemonProxy hal).call r (w.daemon k) =
      .ok (v, (w.asked ctx hal k r).daemon k)) := by
  rcases state_asked_fits ctx hal k r hr w with hsame | ⟨hlives, v, hcall, -⟩
  · exact .inl (congrArg Prod.fst hsame)
  · exact .inr ⟨hlives, v, hcall⟩

/-- A dead incarnation takes no request. -/
theorem state_asked_dead (k : Nat) (r : Request Nat) (w : World) (hdead : w.lives k = false) :
    ((w.asked ctx hal k r).daemons k).state = (w.daemons k).state := by
  rcases state_asked ctx hal k r w with hsame | ⟨hlives, -⟩
  · exact hsame
  · rw [hdead] at hlives
    cases hlives

end Requests

section Connect
variable (ctx : Context Nat) (i : Interleaving)

theorem daemon_connected_other {j k : Nat} (hjk : j ≠ k) (w : World) : (w.connected ctx i k).daemon j = w.daemon j := by
  rw [connected, admitted, daemon_kept, daemon_asked_other ctx i.hal hjk, introduced, daemon_pass,
    daemon_asked_other ctx i.hal hjk, daemon_greeting]

/-- A daemon that hears the client has its callback, and a new device. -/
theorem daemon_connected_heard (k : Nat) (w : World) (h : w.Heard ctx i k) :
    (w.connected ctx i k).daemon k = ((w.daemon k).registered w.callbacks).opened i.hal := by
  obtain ⟨-, hinit, -⟩ := asked_heard ctx i.hal h.1 k (.init (some (w.linked i k).callbacks)) trivial _
    h.lives_greeting (GoodixFingerprintDaemonProxy.call_init i.hal _ _)
  obtain ⟨-, hopen, -⟩ := asked_heard ctx i.hal h.1 k .openHal trivial _ (h.lives_introduced ctx i _) rfl
  have hstate : (((w.linked i k).greeting i).introduced ctx i k (w.linked i k).callbacks).daemon k =
      (w.daemon k).registered w.callbacks := by
    rw [introduced, daemon_pass, daemon, hinit, ← callbacks_linked i k w]
    exact congrArg (fun s => GoodixFingerprintDaemonProxy.registered s _) (daemon_greeting k k i w)
  rw [connected, admitted, daemon_kept, daemon, hopen]
  exact congrArg (fun s => s.opened i.hal) hstate

/-- A daemon that does not hear all of it has the callback at most. -/
theorem state_connected_unheard (k : Nat) (w : World) (h : ¬ w.Heard ctx i k) :
    ((w.connected ctx i k).daemons k).state = (w.daemons k).state ∨
      (w.connected ctx i k).daemon k = (w.daemon k).registered w.callbacks ∧
        ∃ e, (w.connected ctx i k).log k = w.log k ++ [e] ∧ e.request.code = .init := by
  cases hg : ctx.granted with
  | false => exact .inl (state_connected_refused ctx hg i k k w)
  | true =>
    have hdead : (((w.linked i k).greeting i).introduced ctx i k (w.linked i k).callbacks).lives k = false := by
      by_contra hlives
      have hrefused := (introduced_unheard ctx i k w h).2 (by simpa using hlives)
      rw [hg] at hrefused
      cases hrefused
    have hstate : ((w.connected ctx i k).daemons k).state =
        ((((w.linked i k).greeting i).asked ctx i.hal k (.init (some (w.linked i k).callbacks))).daemons k).state := by
      rw [connected, admitted, state_kept, state_asked_dead ctx i.hal k _ _ hdead, introduced, state_pass]
    rcases state_asked_fits ctx i.hal k (.init (some (w.linked i k).callbacks)) trivial
      ((w.linked i k).greeting i) with hsame | ⟨-, v, hcall, hlog⟩
    · exact .inl (hstate.trans (hsame.trans (state_greeting i k k w)))
    · rw [GoodixFingerprintDaemonProxy.call_init, daemon_greeting] at hcall
      rw [log_greeting] at hlog
      have hregistered : (w.daemon k).registered (w.linked i k).callbacks = (w.daemon k).registered w.callbacks := by
        rw [callbacks_linked]
      have hdaemon := (congrArg Prod.snd (Except.ok.inj hcall)).symm.trans hregistered
      exact .inr ⟨(congrArg Prod.fst hstate).trans hdaemon, _, (congrArg Prod.snd hstate).trans hlog, rfl⟩

theorem gService_connected_heard (k : Nat) (w : World) (h : w.Heard ctx i k) (j : Nat)
    (hj : (w.connected ctx i k).gService = some j) :
    j = k ∧ i.hal.error (.init (some (w.daemon k).allocated)) = gfSuccess := by
  refine ⟨?_, (bound_iff ctx i k w).mp (by rw [hj]; exact Option.some_ne_none j) h⟩
  rw [gService_connected] at hj
  split at hj
  · cases hj
  · exact (Option.some.inj hj).symm

end Connect
end World

/-! ### Whole runs -/

namespace Client
variable (ctx : Context Nat)

/-- The service that lives holds a working device and the session's callback. -/
structure Agreed (w : World) (k : Nat) : Prop where
  callback : (w.daemon k).mCallback = w.session
  session : w.session ≠ none
  device : Daemon.HoldsLive (w.daemon k)

structure Agreeing (w : World) : Prop where
  attentive : ∀ k, Daemon.Attentive (w.daemon k)
  agreed : ∀ k, w.gService = some k → w.lives k = true → Agreed w k

theorem Agreeing.happen {w : World} (h : Agreeing w) (x : Incident) : Agreeing (w.happen x) := by
  have hdaemon (k : Nat) : (w.happen x).daemon k = w.daemon k := World.daemon_pass k w [x]
  refine ⟨fun k => by rw [hdaemon]; exact h.attentive k, fun k hk hlives => ?_⟩
  rw [World.client_happen] at hk
  rw [World.lives_happen, Bool.and_eq_true] at hlives
  obtain ⟨hcallback, hsession, hdevice⟩ := h.agreed k hk hlives.1
  refine ⟨?_, ?_, ?_⟩
  · rw [hdaemon, World.client_happen]
    exact hcallback
  · rw [World.client_happen]
    exact hsession
  · rw [hdaemon]
    exact hdevice

theorem Agreeing.unbound {w : World} (h : Agreeing w) : Agreeing (w.withService none) :=
  ⟨h.attentive, fun _ hk => (by cases hk)⟩

/-- A state that differs only in what the daemons and the session are no part of. -/
theorem Agreeing.congr {w w' : World} (h : Agreeing w) (hservice : w'.gService = w.gService)
    (hsession : w'.session = w.session) (hdaemons : w'.daemons = w.daemons) : Agreeing w' := by
  refine ⟨fun k => ?_, fun k hk hlives => ?_⟩
  · rw [World.daemon, hdaemons]
    exact h.attentive k
  · rw [World.lives, hdaemons] at hlives
    obtain ⟨hcallback, hsome, hdevice⟩ := h.agreed k (hservice ▸ hk) hlives
    refine ⟨?_, ?_, ?_⟩
    · rw [World.daemon, hdaemons, hsession]
      exact hcallback
    · rw [hsession]
      exact hsome
    · rw [World.daemon, hdaemons]
      exact hdevice

theorem Agreeing.connected (hg : ctx.granted = true) {w : World} (h : Agreeing w) (i : Interleaving) (k : Nat) :
    Agreeing (w.connected ctx i k) := by
  have hsession : (w.connected ctx i k).session = some w.callbacks :=
    congrArg Client.session (World.client_connected ctx i k w)
  have hregistered := Daemon.attentive_registered (w.daemon k) (h.attentive k) w.callbacks
  refine ⟨fun j => ?_, fun j hj hlives => ?_⟩
  · by_cases hjk : j = k
    · subst hjk
      by_cases hheard : w.Heard ctx i j
      · rw [World.daemon_connected_heard ctx i j w hheard]
        exact Daemon.attentive_opened i.hal _ hregistered
      · rcases World.state_connected_unheard ctx i j w hheard with hsame | ⟨hinit, -⟩
        · rw [World.daemon, hsame]
          exact h.attentive j
        · rw [hinit]
          exact hregistered
    · rw [World.daemon_connected_other ctx i hjk]
      exact h.attentive j
  · by_cases hheard : w.Heard ctx i k
    · obtain ⟨rfl, hinit⟩ := World.gService_connected_heard ctx i k w hheard j hj
      have hdaemon := World.daemon_connected_heard ctx i j w hheard
      refine ⟨?_, ?_, ?_⟩
      · rw [hdaemon, hsession, GoodixFingerprintDaemonProxy.opened_eq]
        rfl
      · rw [hsession]
        exact Option.some_ne_none _
      · rw [hdaemon]
        exact Daemon.holdsLive_opened i.hal _ hregistered hinit
    · obtain ⟨hservice, -, hdead⟩ := World.connected_unheard ctx i k w hheard
      rw [hservice] at hj
      cases hj
      rw [hdead hlives] at hg
      cases hg

/-- What one request to the service leaves of it, if it is an operation. -/
theorem Agreeing.asked {w : World} (h : Agreeing w) (hal : Hal) (k : Nat) (r : Request Nat) (hk : w.gService = some k)
    (hr : r.code ∈ DeviceCall.codes) : Agreeing (w.asked ctx hal k r) := by
  have hone : Daemon.Attentive ((w.asked ctx hal k r).daemon k) ∧
      ((w.asked ctx hal k r).lives k = true → Agreed (w.asked ctx hal k r) k) := by
    rcases World.daemon_asked ctx hal k r w with hsame | ⟨hlives, v, hcall⟩
    · refine ⟨by rw [hsame]; exact h.attentive k, fun hlive => ?_⟩
      obtain ⟨hcallback, hsome, hdevice⟩ := h.agreed k hk (World.lives_of_asked ctx hal k k r w hlive)
      exact ⟨by rw [hsame]; exact hcallback, hsome, by rw [hsame]; exact hdevice⟩
    · obtain ⟨hcallback, hsome, hdevice⟩ := h.agreed k hk hlives
      have hcode : (Process.received ctx r).code ∈ DeviceCall.codes := by
        rw [Process.received_code]
        exact hr
      rcases GoodixFingerprintDaemonProxy.call_operation hal _ hcode _ _ v hcall with
        hsame | ⟨e, call, hrecord, he, hsomecall, hdev⟩
      · rw [hsame]
        exact ⟨h.attentive k, fun _ => ⟨by rw [hsame]; exact hcallback, hsome, by rw [hsame]; exact hdevice⟩⟩
      · obtain ⟨hattentive, hlive⟩ := Daemon.attentive_forwarded _ (h.attentive k) hdevice e call he hsomecall hdev
        rw [hrecord]
        exact ⟨hattentive, fun _ => ⟨by rw [hrecord]; exact hcallback, hsome, by rw [hrecord]; exact hlive⟩⟩
  refine ⟨fun j => ?_, fun j hj hlive => ?_⟩
  · by_cases hjk : j = k
    · rw [hjk]
      exact hone.1
    · rw [World.daemon_asked_other ctx hal hjk]
      exact h.attentive j
  · obtain rfl : k = j := Option.some.inj (hk.symm.trans hj)
    exact hone.2 hlive

theorem Agreeing.closed {w : World} (h : Agreeing w) (hal : Hal) (k : Nat) (hk : w.gService = some k) :
    Agreeing ((w.asked ctx hal k .closeHal).withService none) := by
  refine ⟨fun j => ?_, fun j hj _ => (by cases hj)⟩
  show Daemon.Attentive ((w.asked ctx hal k .closeHal).daemon j)
  by_cases hjk : j = k
  · subst hjk
    rcases World.daemon_asked_fits ctx hal j .closeHal trivial w with hsame | ⟨hlives, v, hcall⟩
    · rw [hsame]
      exact h.attentive j
    · have hclosed : (w.daemon j).closed hal = (w.asked ctx hal j .closeHal).daemon j :=
        congrArg Prod.snd (Except.ok.inj hcall)
      rw [← hclosed]
      exact Daemon.attentive_closed hal _ (h.attentive j) (h.agreed j hk hlives).device
  · rw [World.daemon_asked_other ctx hal hjk]
    exact h.attentive j

theorem agreeing_preserved (hg : ctx.granted = true) : Preserves ctx (fun _ _ => True) Agreeing where
  happen _ x h := h.happen x
  faulted _ h := h.congr rfl rfl rfl
  allocate _ h := h.congr rfl rfl rfl
  withHeap _ _ _ h := h.congr rfl rfl rfl
  noticed w k _ _ h := (h.congr rfl rfl rfl : Agreeing (w.noticed k)).unbound
  connected _ i k _ h := h.connected ctx hg i k
  asked _ hal k r hk hr h := h.asked ctx hal k r hk hr
  delivered _ _ _ h := h.congr rfl rfl rfl
  closed _ hal k hk h := h.closed ctx hal k hk

theorem attentive_initial : Daemon.Attentive ({} : GoodixFingerprintDaemonProxy Nat) :=
  ⟨⟨fun _ h => (by cases h), fun _ h => (by cases h)⟩, History.obeys_nil _⟩

theorem agreeing_run (hg : ctx.granted = true) (events : List Event) : Agreeing ((system ctx).run initial events) :=
  (agreeing_preserved ctx hg).run initial events ⟨fun _ => attentive_initial, fun _ hk => (by cases hk)⟩
    fun _ _ => trivial

/-- If the last thing that an incarnation has run is an operation, the callback of that session is installed. -/
def Installed (w : World) (k : Nat) : Prop :=
  ∀ before e, w.log k = before ++ [e] → e.request.code ∈ DeviceCall.codes → (w.daemon k).mCallback = e.tag

theorem Installed.congr {w w' : World} {k : Nat} (h : Installed w k)
    (hstate : (w'.daemons k).state = (w.daemons k).state) : Installed w' k := by
  intro before e
  rw [World.log, World.daemon, hstate]
  exact h before e

/-- What was run last is no operation. -/
theorem installed_other {w : World} {k : Nat} {log : Log} {e : Executed (Option Nat) Nat} (hlog : w.log k = log ++ [e])
    (he : e.request.code ∉ DeviceCall.codes) : Installed w k := by
  intro before e' hlast hcode
  obtain rfl : e = e' := by simpa using (List.append_inj' (hlog.symm.trans hlast) rfl).2
  exact absurd hcode he

theorem Installed.connected {w : World} {j : Nat} (h : Installed w j) (i : Interleaving) (k : Nat) :
    Installed (w.connected ctx i k) j := by
  by_cases hjk : j = k
  · subst hjk
    by_cases hheard : w.Heard ctx i j
    · obtain ⟨ret, -, -, -, hlog⟩ := World.connected_heard ctx i j w hheard
      exact installed_other (hlog.trans (List.append_assoc _ [_] [_]).symm) (show Code.openHal ∉ _ by decide)
    · rcases World.state_connected_unheard ctx i j w hheard with hsame | ⟨-, e, hlog, hcode⟩
      · exact h.congr hsame
      · exact installed_other hlog (by rw [hcode]; decide)
  · intro before e
    rw [(World.connected_other ctx i hjk w).1, World.daemon_connected_other ctx i hjk]
    exact h before e

theorem Installed.asked_other {w : World} {j k : Nat} (h : Installed w j) (hjk : j ≠ k) (hal : Hal) (r : Request Nat) :
    Installed (w.asked ctx hal k r) j := by
  intro before e
  rw [World.log_asked_other ctx hal hjk, World.daemon_asked_other ctx hal hjk]
  exact h before e

/-- An operation of the service finds the session's callback, and leaves it. -/
theorem Installed.asked {w : World} {j : Nat} (h : Installed w j) (hagreeing : Agreeing w) (hal : Hal) (k : Nat)
    (r : Request Nat) (hk : w.gService = some k) (hr : r.code ∈ DeviceCall.codes) :
    Installed (w.asked ctx hal k r) j := by
  by_cases hjk : j = k
  · subst hjk
    rcases World.state_asked ctx hal j r w with hsame | ⟨hlives, v, hcall, hlog⟩
    · exact h.congr hsame
    · intro before e hlast _
      obtain rfl : (⟨w.session, Process.received ctx r, v⟩ : Executed (Option Nat) Nat) = e := by
        simpa using (List.append_inj' (hlog.symm.trans hlast) rfl).2
      have hcode : (Process.received ctx r).code ∈ DeviceCall.codes := by
        rw [Process.received_code]
        exact hr
      have hcallback := (hagreeing.agreed j hk hlives).callback
      rcases GoodixFingerprintDaemonProxy.call_operation hal _ hcode _ _ v hcall with
        hsame | ⟨_, _, hrecord, -⟩
      · rw [hsame]
        exact hcallback
      · rw [hrecord]
        exact hcallback
  · exact h.asked_other ctx hjk hal r

theorem Installed.closed {w : World} {j : Nat} (h : Installed w j) (hal : Hal) (k : Nat) :
    Installed ((w.asked ctx hal k .closeHal).withService none) j := by
  show Installed (w.asked ctx hal k .closeHal) j
  by_cases hjk : j = k
  · subst hjk
    rcases World.state_asked ctx hal j .closeHal w with hsame | ⟨-, v, -, hlog⟩
    · exact h.congr hsame
    · exact installed_other hlog (by rw [Process.received_code]; decide)
  · exact h.asked_other ctx hjk hal .closeHal

theorem installed_preserved (hg : ctx.granted = true) :
    Preserves ctx (fun _ _ => True) fun w => Agreeing w ∧ ∀ k, Installed w k where
  happen w x h := ⟨h.1.happen x, fun k => (h.2 k).congr (World.state_pass k w [x])⟩
  faulted w h := ⟨(agreeing_preserved ctx hg).faulted w h.1, h.2⟩
  allocate w h := ⟨(agreeing_preserved ctx hg).allocate w h.1, h.2⟩
  withHeap w dev device h := ⟨(agreeing_preserved ctx hg).withHeap w dev device h.1, h.2⟩
  noticed w k i hC h := ⟨(agreeing_preserved ctx hg).noticed w k i hC h.1, h.2⟩
  connected _ i k _ h := ⟨h.1.connected ctx hg i k, fun j => (h.2 j).connected ctx i k⟩
  asked _ hal k r hk hr h := ⟨h.1.asked ctx hal k r hk hr, fun j => (h.2 j).asked ctx h.1 hal k r hk hr⟩
  delivered w notify message h := ⟨(agreeing_preserved ctx hg).delivered w notify message h.1, h.2⟩
  closed _ hal k hk h := ⟨h.1.closed ctx hal k hk, fun j => (h.2 j).closed ctx hal k⟩

/-- **The handshake comes before use**: whatever device operation an incarnation runs for a client with
the permission, it runs in the session of a callback with which the handshake was made in that
incarnation and still holds, and that callback is the one it has installed. -/
theorem handshake_before_use (hg : ctx.granted = true) (events : List Event) (k : Nat) :
    History.Obeys Prepared (((system ctx).run initial events).log k) ∧
      Installed ((system ctx).run initial events) k := by
  have hinitial : Agreeing initial ∧ ∀ k, Installed initial k :=
    ⟨⟨fun _ => attentive_initial, fun _ hk => (by cases hk)⟩, fun _ before e h => by simp [initial, World.log] at h⟩
  exact ⟨prepared_run ctx hg events k,
    ((installed_preserved ctx hg).run initial events hinitial fun _ _ => trivial).2 k⟩

/-- A daemon is started, and an authentication reaches it. -/
theorem handshake_before_authenticate :
    let i : Interleaving := {found := some 0, hal := .succeeding}
    let w := (system (.granting true)).run initial
      [.incident .restart, .fingerprintOpen true i, .operation (.authenticate 7 1) i]
    (w.log 0).map (fun e => e.request.code) = [.init, .openHal, .authenticate] ∧
      History.Obeys Prepared (w.log 0) ∧ Installed w 0 :=
  ⟨by decide +kernel, handshake_before_use (.granting true) rfl _ 0⟩

/-- **The HAL is handed working devices only**: in whatever a client does and meets while it lives, every
call that an incarnation makes of the HAL, but for the one that starts a device, is made on a device
that was started successfully and not ended. (Once the client is gone the daemon hears of its
callback's death, and closes whatever is in `mDevice`; that is not among the events here.) -/
theorem hal_attended (events : List Event) (k : Nat) :
    History.Obeys Effect.Attended (((system ctx).run initial events).daemon k).effects := by
  cases hg : ctx.granted with
  | true => exact ((agreeing_run ctx hg events).attentive k).attended
  | false =>
    rw [World.daemon, untouched_run ctx hg events k]
    exact attentive_initial.attended

/-- A working device, and whatever the HAL has to say of the standard kinds goes to the callback of the
client's session, once, and to nobody else. -/
def Attends (w : World) (k : Nat) : Prop :=
  Daemon.HoldsLive (w.daemon k) ∧ ∃ callback, w.session = some callback ∧
    ∀ address msg log, msg.isTest = false →
      GoodixFingerprintDaemonProxy.halNotifyCallback Daemon.noting Daemon.unlogged address msg (w.daemon k) log =
        (((), w.daemon k),
          log ++ ((msg.notification ((w.daemon k).deviceId address)).map fun n => (callback, n)).toList)

theorem Agreed.attends {w : World} {k : Nat} (h : Agreed w k) : Attends w k := by
  obtain ⟨callback, hsome⟩ := Option.ne_none_iff_exists'.mp h.session
  refine ⟨h.device, callback, hsome, fun address msg log htest => ?_⟩
  have hmain : (w.daemon k).mCallback = some callback := h.callback.trans hsome
  rw [Daemon.halNotifyCallback_noting]
  simp [Daemon.dispatched, Daemon.routed, Daemon.addressee, htest, hmain]

/-- **Client and daemon agree**: in every state that a client with the permission can reach, the service
that it is bound to attends to its session, if it lives. -/
theorem session_agreed (hg : ctx.granted = true) (events : List Event) (k : Nat)
    (hservice : ((system ctx).run initial events).gService = some k)
    (hlives : ((system ctx).run initial events).lives k = true) : Attends ((system ctx).run initial events) k :=
  ((agreeing_run ctx hg events).agreed k hservice hlives).attends

/-- A daemon dies under the client and another is started. -/
def bereaved : List Event :=
  [.incident .restart, .fingerprintOpen true {found := some 0, hal := .succeeding}, .incident (.crash 0),
    .incident .restart, .incident (.obituary 0)]

/-- With the notice the client turns to the second daemon. -/
theorem session_agreed_bereaved :
    Attends
      ((system (.granting true)).run initial (bereaved ++ [.binderDied 0 {found := some 1, hal := .succeeding}])) 1 :=
  session_agreed (.granting true) rfl _ 1 (by decide +kernel) (by decide +kernel)

/-! ### Recovery -/

/-- The client is bound to a daemon that lives and attends to it. -/
def Recovered (w : World) : Prop := ∃ k, w.gService = some k ∧ w.lives k = true ∧ Attends w k

/-- The way of `getService` ends well exactly if it is heard to its end, and the HAL starts the device. -/
theorem recovered_connected (w : World) (h : ctx.granted = true → Agreeing w)
    (huntouched : ctx.granted = false → Untouched w) (i : Interleaving) (k : Nat) : Recovered (w.connected ctx i k) ↔
      w.Heard ctx i k ∧ i.hal.error (.init (some (w.daemon k).allocated)) = gfSuccess := by
  constructor
  · intro hrecovered
    obtain ⟨j, hj, hlives, hdevice, -⟩ := hrecovered
    by_cases hheard : w.Heard ctx i k
    · exact ⟨hheard, (World.gService_connected_heard ctx i k w hheard j hj).2⟩
    · obtain ⟨hservice, -, hdead⟩ := World.connected_unheard ctx i k w hheard
      rw [hservice] at hj
      cases hj
      have hg := hdead hlives
      obtain ⟨d, hd, -⟩ := hdevice
      rw [World.daemon, World.state_connected_refused ctx hg i k k w, huntouched hg k] at hd
      cases hd
  · intro hheard
    obtain ⟨hheard, hinit⟩ := hheard
    have hbound := (World.bound_iff ctx i k w).mpr fun _ => hinit
    obtain ⟨j, hj⟩ := Option.ne_none_iff_exists'.mp hbound
    obtain ⟨rfl, -⟩ := World.gService_connected_heard ctx i k w hheard j hj
    obtain ⟨-, -, -, hlives, -⟩ := World.connected_heard ctx i j w hheard
    exact ⟨j, hj, hlives, (((h hheard.1).connected ctx hheard.1 i j).agreed j hj hlives).attends⟩

/-- **When a death notice restores the service**: in every state that a client can reach, handling a notice
leaves it attended to exactly if the service manager has a daemon that lives through the handshake and
whose HAL starts the device. -/
theorem notice_recovers_iff (events : List Event) (hw : ((system ctx).run initial events).crashed = false) (j : Nat)
    (i : Interleaving) :
    Recovered ((system ctx).run initial (events ++ [.binderDied j i])) ↔
      ∃ k, i.found = some k ∧ ((system ctx).run initial events).Heard ctx i k ∧
        i.hal.error (.init (some (((system ctx).run initial events).daemon k).allocated)) = gfSuccess := by
  have hnext : (system ctx).run initial (events ++ [.binderDied j i]) =
      ((((system ctx).run initial events).noticed j).withService none).served ctx i := by
    rw [(system ctx).run_append]
    exact next_eq ctx _ hw (.binderDied j i)
  rw [hnext]
  cases hfound : i.found with
  | none =>
    rw [World.served_missing ctx i _ hfound]
    constructor
    · intro h
      obtain ⟨k, hk, -⟩ := h
      cases hk
    · intro h
      obtain ⟨k, hk, -⟩ := h
      cases hk
  | some k =>
    rw [World.served_found ctx i _ k rfl hfound]
    simp only [Option.some.injEq, exists_eq_left']
    apply recovered_connected
    · intro hg
      exact ((agreeing_run ctx hg events).congr rfl rfl rfl : Agreeing (World.noticed j _)).unbound
    · intro hg
      exact untouched_run ctx hg events

/-- The notice of the first daemon's death finds the second. -/
theorem notice_recovers_bereaved :
    Recovered ((system (.granting true)).run initial
      (bereaved ++ [.binderDied 0 {found := some 1, hal := .succeeding}])) :=
  (notice_recovers_iff (.granting true) bereaved (by decide +kernel) 0 {found := some 1, hal := .succeeding}).mpr
    ⟨1, rfl, ⟨rfl, by decide +kernel, List.not_mem_nil⟩, rfl⟩

end Client
end GoodixFingerprint
