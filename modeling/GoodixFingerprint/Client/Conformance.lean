import GoodixFingerprint.Client.Atomicity
import GoodixFingerprint.Client.Handshake
import GoodixFingerprint.Machine.Monitor

/-! Conversations: what an incarnation hears of the client.

`conversation` is the protocol that the client speaks, as a monitor of the methods that an
incarnation has run. A session is opened by the `init` with a callback never used before;
then comes `openHal`, and only if it succeeds the device operations, until `closeHal` or the
next session. Everything in a session is sent on behalf of its own callback. -/
namespace GoodixFingerprint
open Binder

inductive Phase where
  | outside
  /-- After `init` with the callback. -/
  | introduced (callback : Nat)
  /-- After the `openHal` that succeeded. -/
  | opened (callback : Nat)
  deriving DecidableEq

/-- The callbacks from `fresh` on have not been used. -/
structure Conversation where
  fresh : Nat := 0
  phase : Phase := .outside
  deriving DecidableEq

namespace Conversation

def step (s : Conversation) (e : Executed (Option Nat) Nat) : Option Conversation :=
  match e.request with
  | .init (some callback) =>
    if e.tag = some callback ∧ s.fresh ≤ callback then some ⟨callback + 1, .introduced callback⟩ else none
  | .openHal =>
    match s.phase with
    | .introduced callback =>
      if e.tag ≠ some callback then none
      else if e.request.code.kind.isZero e.result = true then some {s with phase := .opened callback}
      else some {s with phase := .outside}
    | _ => none
  | .closeHal =>
    match s.phase with
    | .opened callback => if e.tag = some callback then some {s with phase := .outside} else none
    | _ => none
  | r =>
    match s.phase with
    | .opened callback => if e.tag = some callback ∧ r.code ∈ Client.DeviceCall.codes then some s else none
    | _ => none

/-- An operation in an open session. -/
theorem step_operation (fresh callback : Nat) (e : Executed (Option Nat) Nat) (htag : e.tag = some callback)
    (hcode : e.request.code ∈ Client.DeviceCall.codes) :
    step ⟨fresh, .opened callback⟩ e = some ⟨fresh, .opened callback⟩ := by
  obtain ⟨tag, r, v⟩ := e
  obtain rfl : tag = some callback := htag
  cases r with
  | init | openHal | closeHal => simp [Request.code, Client.DeviceCall.codes] at hcode
  | _ => exact if_pos ⟨rfl, hcode⟩

theorem step_close (fresh callback : Nat) (e : Executed (Option Nat) Nat) (htag : e.tag = some callback)
    (hcode : e.request.code = .closeHal) : step ⟨fresh, .opened callback⟩ e = some ⟨fresh, .outside⟩ := by
  obtain ⟨tag, r, v⟩ := e
  obtain rfl : tag = some callback := htag
  cases r with
  | closeHal => exact if_pos rfl
  | _ => cases hcode

theorem step_init {s : Conversation} {callback : Nat} (h : s.fresh ≤ callback) :
    s.step (World.initEntry callback) = some ⟨callback + 1, .introduced callback⟩ := if_pos ⟨rfl, h⟩

theorem step_open (fresh callback : Nat) (ret : Int64) :
    step ⟨fresh, .introduced callback⟩ (World.openEntry callback ret) =
      some ⟨fresh, if ret = 0 then .opened callback else .outside⟩ := by
  by_cases hret : ret = 0
  · simp [step, World.openEntry, Request.code, Code.kind, Code.Kind.isZero, hret]
  · simp [step, World.openEntry, Request.code, Code.kind, Code.Kind.isZero, hret]

end Conversation

/-- The client's side of the interface, as a monitor. -/
def conversation : Monitor Conversation (Executed (Option Nat) Nat) := ⟨{}, Conversation.step⟩

namespace Client
variable (ctx : Context Nat)

/-- Every log is followed and uses old callbacks only, and a living service is in the session. -/
structure Conversing (w : World) : Prop where
  followed : ∀ k, ∃ s, conversation.follow (w.log k) = some s ∧ s.fresh ≤ w.callbacks
  open_session : ∀ k, w.gService = some k → w.lives k = true →
    ∃ callback fresh, w.session = some callback ∧ conversation.follow (w.log k) = some ⟨fresh, .opened callback⟩

/-- A state that differs only in what is no part of a conversation. -/
theorem Conversing.congr {w w' : World} (h : Conversing w) (hservice : w'.gService = w.gService)
    (hsession : w'.session = w.session) (hcallbacks : w'.callbacks = w.callbacks)
    (hdaemons : w'.daemons = w.daemons) : Conversing w' := by
  refine ⟨fun k => ?_, fun k hk hlives => ?_⟩
  · rw [World.log, hdaemons, hcallbacks]
    exact h.followed k
  · rw [World.log, hdaemons, hsession]
    rw [World.lives, hdaemons] at hlives
    exact h.open_session k (hservice ▸ hk) hlives

theorem Conversing.unbound {w : World} (h : Conversing w) : Conversing (w.withService none) :=
  ⟨h.followed, fun _ hk => (by cases hk)⟩

theorem Conversing.happen {w : World} (h : Conversing w) (x : Incident) : Conversing (w.happen x) := by
  refine ⟨fun k => ?_, fun k hk hlives => ?_⟩
  · rw [World.log_happen, World.client_happen]
    exact h.followed k
  · rw [World.client_happen] at hk ⊢
    rw [World.lives_happen, Bool.and_eq_true] at hlives
    rw [World.log_happen]
    exact h.open_session k hk hlives.1

/-- The handshake is the beginning of a session. -/
theorem Conversing.connected (hg : ctx.granted = true) {w : World} (h : Conversing w) (i : Interleaving) (k : Nat) :
    Conversing (w.connected ctx i k) := by
  have hsession : (w.connected ctx i k).session = some w.callbacks :=
    congrArg Client.session (World.client_connected ctx i k w)
  have hcallbacks : (w.connected ctx i k).callbacks = w.callbacks + 1 :=
    congrArg Client.callbacks (World.client_connected ctx i k w)
  have hother (j : Nat) (hjk : j ≠ k) :
      ∃ s, conversation.follow ((w.connected ctx i k).log j) = some s ∧ s.fresh ≤ (w.connected ctx i k).callbacks := by
    obtain ⟨s, hs, hfresh⟩ := h.followed j
    rw [(World.connected_other ctx i hjk w).1, hcallbacks]
    exact ⟨s, hs, Nat.le_succ_of_le hfresh⟩
  obtain ⟨s, hs, hfresh⟩ := h.followed k
  have hinit : conversation.follow (w.log k ++ [World.initEntry w.callbacks]) =
      some ⟨w.callbacks + 1, .introduced w.callbacks⟩ :=
    (conversation.follow_concat hs _).trans (Conversation.step_init hfresh)
  by_cases hheard : w.Heard ctx i k
  · obtain ⟨ret, -, hservice, -, hlog⟩ := World.connected_heard ctx i k w hheard
    have hopen : conversation.follow ((w.connected ctx i k).log k) =
        some ⟨w.callbacks + 1, if ret = 0 then .opened w.callbacks else .outside⟩ := by
      rw [hlog, ← List.singleton_append, ← List.append_assoc]
      exact (conversation.follow_concat hinit _).trans (Conversation.step_open _ _ ret)
    refine ⟨fun j => ?_, fun j hj _ => ?_⟩
    · by_cases hjk : j = k
      · subst hjk
        exact ⟨_, hopen, Nat.le_of_eq hcallbacks.symm⟩
      · exact hother j hjk
    · rw [hservice] at hj
      by_cases hret : ret = 0
      · rw [if_pos hret] at hj hopen
        cases hj
        exact ⟨w.callbacks, _, hsession, hopen⟩
      · rw [if_neg hret] at hj
        cases hj
  · obtain ⟨hservice, hlog, hlives⟩ := World.connected_unheard ctx i k w hheard
    refine ⟨fun j => ?_, fun j hj hlive => ?_⟩
    · by_cases hjk : j = k
      · subst hjk
        rcases hlog with hsame | hmore
        · rw [hsame, hcallbacks]
          exact ⟨s, hs, Nat.le_succ_of_le hfresh⟩
        · rw [hmore, hcallbacks]
          exact ⟨_, hinit, Nat.le_refl _⟩
      · exact hother j hjk
    · rw [hservice] at hj
      cases hj
      rw [hlives hlive] at hg
      cases hg

/-- One more entry in the log of a living service, made in the open session. -/
theorem Conversing.asked_cases {w : World} (h : Conversing w) (hal : Hal) (k : Nat) (r : Request Nat)
    (hk : w.gService = some k) :
    ((w.asked ctx hal k r).log k = w.log k ∧ ((w.asked ctx hal k r).lives k = true → w.lives k = true)) ∨
    ∃ e callback fresh, e.tag = some callback ∧ e.request.code = r.code ∧ w.session = some callback ∧
      conversation.follow (w.log k) = some ⟨fresh, .opened callback⟩ ∧ fresh ≤ w.callbacks ∧
      (w.asked ctx hal k r).log k = w.log k ++ [e] := by
  rcases World.asked_cases ctx hal k r w with ⟨hlog, hlives⟩ | ⟨hlives, -, e, htag, hcode, hlog⟩
  · exact .inl ⟨hlog, fun hlive => (hlives hlive).1⟩
  · obtain ⟨callback, fresh, hsession, hopen⟩ := h.open_session k hk hlives
    obtain ⟨s, hs, hfresh⟩ := h.followed k
    rw [hopen] at hs
    cases hs
    exact .inr ⟨e, callback, fresh, htag.trans hsession, hcode, hsession, hopen, hfresh, hlog⟩

theorem Conversing.asked {w : World} (h : Conversing w) (hal : Hal) (k : Nat) (r : Request Nat)
    (hk : w.gService = some k) (hr : r.code ∈ DeviceCall.codes) : Conversing (w.asked ctx hal k r) := by
  have hother (j : Nat) (hjk : j ≠ k) :
      ∃ s, conversation.follow ((w.asked ctx hal k r).log j) = some s ∧ s.fresh ≤ w.callbacks := by
    rw [World.log_asked_other ctx hal hjk]
    exact h.followed j
  rcases h.asked_cases ctx hal k r hk with
    ⟨hlog, hlives⟩ | ⟨e, callback, fresh, htag, hcode, hsession, hopen, hfresh, hlog⟩
  · refine ⟨fun j => ?_, fun j hj hlive => ?_⟩
    · by_cases hjk : j = k
      · subst hjk
        rw [hlog]
        exact h.followed j
      · exact hother j hjk
    · obtain rfl : k = j := Option.some.inj (hk.symm.trans hj)
      rw [hlog]
      exact h.open_session k hk (hlives hlive)
  · have hmore : conversation.follow ((w.asked ctx hal k r).log k) = some ⟨fresh, .opened callback⟩ := by
      rw [hlog]
      exact (conversation.follow_concat hopen e).trans (Conversation.step_operation fresh callback e htag (hcode ▸ hr))
    refine ⟨fun j => ?_, fun j hj _ => ?_⟩
    · by_cases hjk : j = k
      · subst hjk
        exact ⟨_, hmore, hfresh⟩
      · exact hother j hjk
    · obtain rfl : k = j := Option.some.inj (hk.symm.trans hj)
      exact ⟨callback, fresh, hsession, hmore⟩

theorem Conversing.closed {w : World} (h : Conversing w) (hal : Hal) (k : Nat) (hk : w.gService = some k) :
    Conversing ((w.asked ctx hal k .closeHal).withService none) := by
  refine ⟨fun j => ?_, fun j hj _ => by cases hj⟩
  show ∃ s, conversation.follow ((w.asked ctx hal k .closeHal).log j) = some s ∧ s.fresh ≤ w.callbacks
  by_cases hjk : j = k
  · subst hjk
    rcases h.asked_cases ctx hal j .closeHal hk with
      ⟨hlog, -⟩ | ⟨e, callback, fresh, htag, hcode, -, hopen, hfresh, hlog⟩
    · rw [hlog]
      exact h.followed j
    · rw [hlog]
      have hstep := Conversation.step_close fresh callback e htag hcode
      exact ⟨_, (conversation.follow_concat hopen e).trans hstep, hfresh⟩
  · rw [World.log_asked_other ctx hal hjk]
    exact h.followed j

theorem conversing_preserved (hg : ctx.granted = true) : Preserves ctx (fun _ _ => True) Conversing where
  happen _ x h := h.happen x
  faulted _ h := h.congr rfl rfl rfl rfl
  allocate _ h := h.congr rfl rfl rfl rfl
  withHeap _ _ _ h := h.congr rfl rfl rfl rfl
  noticed w k _ _ h := (h.congr rfl rfl rfl rfl : Conversing (w.noticed k)).unbound
  connected _ i k _ h := h.connected ctx hg i k
  asked _ hal k r hk hr h := h.asked ctx hal k r hk hr
  delivered _ _ _ h := h.congr rfl rfl rfl rfl
  closed _ hal k hk h := h.closed ctx hal k hk

theorem conversing_initial : Conversing initial :=
  ⟨fun _ => ⟨{}, rfl, Nat.le_refl _⟩, fun _ hk => (by cases hk)⟩

end Client

/-! ### Without the permission -/

namespace World
variable (ctx : Context Nat)

/-- A client without the permission is not heard. -/
theorem asked_refused (hg : ctx.granted = false) (hal : Hal) (k : Nat) (r : Request Nat) (hr : r.code.gated = true)
    (w : World) : (w.asked ctx hal k r).daemons = w.daemons := by
  simp [asked, Process.asked, admits_service, hr, hg]

theorem state_kept (k : Nat) (ret : Int64) (w : World) : ((w.kept ret).daemons k).state = (w.daemons k).state := by
  rw [kept]
  split <;> rfl

theorem state_connected_refused (hg : ctx.granted = false) (i : Interleaving) (j k : Nat) (w : World) :
    ((w.connected ctx i k).daemons j).state = (w.daemons j).state := by
  rw [connected, admitted, state_kept, asked_refused ctx hg i.hal k .openHal rfl, introduced, state_pass,
    asked_refused ctx hg i.hal k (.init _) rfl, state_greeting]

end World

namespace Client
variable (ctx : Context Nat)

/-- No incarnation has been reached. -/
def Untouched (w : World) : Prop := ∀ k, (w.daemons k).state = ({}, [])

theorem gated_operation {c : Code} (h : c ∈ DeviceCall.codes) : c.gated = true := by
  revert h
  cases c <;> decide

theorem untouched_preserved (hg : ctx.granted = false) : Preserves ctx (fun _ _ => True) Untouched where
  happen w x h k := (World.state_pass k w [x]).trans (h k)
  faulted _ h := h
  allocate _ h := h
  withHeap _ _ _ h := h
  noticed _ _ _ _ h := h
  connected w i k _ h j := (World.state_connected_refused ctx hg i j k w).trans (h j)
  asked w hal k r _ hr h j := by
    rw [World.asked_refused ctx hg hal k r (gated_operation hr)]
    exact h j
  delivered _ _ _ h := h
  closed w hal k _ h j := by
    show ((w.asked ctx hal k .closeHal).daemons j).state = _
    rw [World.asked_refused ctx hg hal k .closeHal rfl]
    exact h j

theorem untouched_run (hg : ctx.granted = false) (events : List Event) : Untouched ((system ctx).run initial events) :=
  (untouched_preserved ctx hg).run initial events (fun _ => rfl) fun _ _ => trivial

/-- **The client speaks the protocol**: whatever happens to it and to the daemon, what each
incarnation has run for it is a conversation. -/
theorem conversation_followed (events : List Event) (k : Nat) :
    conversation.Follows (((system ctx).run initial events).log k) := by
  cases hg : ctx.granted with
  | true =>
    have hconversing := (conversing_preserved ctx hg).run initial events conversing_initial fun _ _ => trivial
    obtain ⟨s, hs, -⟩ := hconversing.followed k
    exact ⟨s, hs⟩
  | false =>
    rw [World.log, untouched_run ctx hg events k]
    exact ⟨{}, rfl⟩

/-- A second `openHal` in a session is not followed. -/
example : conversation.Follows [World.initEntry 0, World.openEntry 0 0] ∧
    ¬ conversation.Follows [World.initEntry 0, World.openEntry 0 0, World.openEntry 0 0] := by decide

/-! ### One session, one incarnation -/

/-- What was run in one session was run by one incarnation. -/
def Separate (w : World) : Prop := ∀ j k, ∀ e ∈ w.log j, ∀ e' ∈ w.log k, e.tag = e'.tag → j = k

/-- Sessions are numbered and separate, and the present one is with the service. -/
structure Confined (w : World) : Prop where
  numbered : ∀ k, ∀ e ∈ w.log k, ∃ callback, e.tag = some callback ∧ callback < w.callbacks
  exclusive : Separate w
  current : ∀ k, w.gService = some k →
    (∃ callback, w.session = some callback ∧ callback < w.callbacks) ∧ ∀ j, ∀ e ∈ w.log j, e.tag = w.session → j = k

/-- The service, or an incarnation no session is with yet, may run more for the session. -/
theorem Confined.grow {w w' : World} (h : Confined w) (k : Nat) (hother : ∀ j, j ≠ k → w'.log j = w.log j)
    (hnew : ∀ e ∈ w'.log k, e ∈ w.log k ∨ e.tag = w'.session) (hcallbacks : w.callbacks ≤ w'.callbacks)
    (hservice : ∀ j, w'.gService = some j → j = k)
    (hsession : ∃ callback, w'.session = some callback ∧ callback < w'.callbacks)
    (howner : ∀ j, ∀ e ∈ w.log j, e.tag = w'.session → j = k) : Confined w' := by
  have hmem (j : Nat) (e : Executed (Option Nat) Nat) (he : e ∈ w'.log j) :
      e ∈ w.log j ∨ j = k ∧ e.tag = w'.session := by
    by_cases hjk : j = k
    · subst hjk
      exact (hnew e he).imp id fun htag => ⟨rfl, htag⟩
    · rw [hother j hjk] at he
      exact .inl he
  refine ⟨fun j e he => ?_, fun j l e he e' he' htag => ?_, fun j hj => ⟨hsession, fun l e he htag => ?_⟩⟩
  · rcases hmem j e he with he | ⟨-, htag⟩
    · obtain ⟨callback, htag, hlt⟩ := h.numbered j e he
      exact ⟨callback, htag, Nat.lt_of_lt_of_le hlt hcallbacks⟩
    · rw [htag]
      exact hsession
  · rcases hmem j e he with he | ⟨hj, hpresent⟩
    · rcases hmem l e' he' with he' | ⟨hl, hpresent⟩
      · exact h.exclusive j l e he e' he' htag
      · exact (howner j e he (htag.trans hpresent)).trans hl.symm
    · rcases hmem l e' he' with he' | ⟨hl, -⟩
      · exact hj.trans (howner l e' he' (htag.symm.trans hpresent)).symm
      · exact hj.trans hl.symm
  · rw [hservice j hj]
    rcases hmem l e he with he | ⟨rfl, -⟩
    · exact howner l e he htag
    · rfl

/-- What the way of `getService` adds is of the new session. -/
theorem log_connected_new (i : Interleaving) (k : Nat) (w : World) :
    ∀ e ∈ (w.connected ctx i k).log k, e ∈ w.log k ∨ e.tag = some w.callbacks := by
  intro e he
  by_cases hheard : w.Heard ctx i k
  · obtain ⟨ret, -, -, -, hlog⟩ := World.connected_heard ctx i k w hheard
    rw [hlog, List.mem_append] at he
    refine he.imp id fun he => ?_
    simp only [List.mem_cons, List.not_mem_nil, or_false] at he
    rcases he with rfl | rfl
    · rfl
    · rfl
  · obtain ⟨-, hlog, -⟩ := World.connected_unheard ctx i k w hheard
    rcases hlog with hsame | hmore
    · rw [hsame] at he
      exact .inl he
    · rw [hmore, List.mem_append] at he
      refine he.imp id fun he => ?_
      rw [List.mem_singleton.mp he]
      rfl

theorem Confined.connected {w : World} (h : Confined w) (i : Interleaving) (k : Nat) :
    Confined (w.connected ctx i k) := by
  have hclient := World.client_connected ctx i k w
  have hsession : (w.connected ctx i k).session = some w.callbacks := congrArg Client.session hclient
  have hcallbacks : (w.connected ctx i k).callbacks = w.callbacks + 1 := congrArg Client.callbacks hclient
  refine h.grow k (fun j hjk => (World.connected_other ctx i hjk w).1) ?_ (by omega) (fun j hj => ?_) ?_ ?_
  · rw [hsession]
    exact log_connected_new ctx i k w
  · rw [World.gService_connected] at hj
    split at hj
    · cases hj
    · exact (Option.some.inj hj).symm
  · rw [hsession, hcallbacks]
    exact ⟨w.callbacks, rfl, Nat.lt_succ_self _⟩
  · intro j e he htag
    obtain ⟨callback, hcallback, hlt⟩ := h.numbered j e he
    rw [hsession, hcallback] at htag
    cases htag
    exact absurd hlt (Nat.lt_irrefl _)

theorem Confined.asked {w : World} (h : Confined w) (hal : Hal) (k : Nat) (r : Request Nat) (hk : w.gService = some k) :
    Confined (w.asked ctx hal k r) := by
  obtain ⟨hsession, howner⟩ := h.current k hk
  refine h.grow k (fun j hjk => World.log_asked_other ctx hal hjk r w) (fun e he => ?_) (Nat.le_refl _)
    (fun j hj => Option.some.inj (hj.symm.trans hk)) hsession howner
  rcases World.asked_cases ctx hal k r w with ⟨hlog, -⟩ | ⟨-, -, new, htag, -, hlog⟩
  · rw [hlog] at he
    exact .inl he
  · rw [hlog, List.mem_append] at he
    refine he.imp id fun he => ?_
    rw [List.mem_singleton.mp he]
    exact htag

theorem Confined.unbound {w : World} (h : Confined w) : Confined (w.withService none) :=
  ⟨h.numbered, h.exclusive, fun _ hk => (by cases hk)⟩

theorem Confined.happen {w : World} (h : Confined w) (x : Incident) : Confined (w.happen x) := by
  have hlog (k : Nat) : (w.happen x).log k = w.log k := World.log_happen k w x
  have hclient := World.client_happen w x
  refine ⟨fun k e he => ?_, fun j k e he e' he' => ?_, fun k hk => ?_⟩
  · rw [hlog] at he
    rw [hclient]
    exact h.numbered k e he
  · rw [hlog] at he he'
    exact h.exclusive j k e he e' he'
  · rw [hclient] at hk
    simp only [hlog, hclient]
    exact h.current k hk

theorem confined_preserved : Preserves ctx (fun _ _ => True) Confined where
  happen _ x h := h.happen x
  faulted _ h := ⟨h.numbered, h.exclusive, h.current⟩
  allocate _ h := ⟨h.numbered, h.exclusive, h.current⟩
  withHeap _ _ _ h := ⟨h.numbered, h.exclusive, h.current⟩
  noticed w k _ _ h := (⟨h.numbered, h.exclusive, h.current⟩ : Confined (w.noticed k)).unbound
  connected _ i k _ h := h.connected ctx i k
  asked _ hal k r hk _ h := h.asked ctx hal k r hk
  delivered _ _ _ h := ⟨h.numbered, h.exclusive, h.current⟩
  closed _ hal k hk h := (h.asked ctx hal k .closeHal hk).unbound

/-- **No session is spread over incarnations**: two methods that were run on behalf of one callback were
run by one incarnation, so what a restarted daemon runs is of a session begun with it. -/
theorem sessions_separate (events : List Event) : Separate ((system ctx).run initial events) :=
  ((confined_preserved ctx).run initial events
    ⟨fun _ _ he => (by cases he), fun _ _ _ he => (by cases he), fun _ hk => (by cases hk)⟩
    fun _ _ => trivial).exclusive

end Client
end GoodixFingerprint
