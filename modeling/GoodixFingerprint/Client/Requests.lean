import GoodixFingerprint.Client.Calls
import GoodixFingerprint.Daemon.Steps

/-! What the client's requests do to an incarnation.

A request reaches a living incarnation of a client with the permission, and then is one
entry in its log; otherwise nothing is logged and the client reads zero. From there the
way of `getService`: `connected_heard` and `connected_unheard` are the two ways it can go. -/
namespace GoodixFingerprint
open Binder

/-- The client has the permission. -/
def Context.granted {β : Type} (ctx : Context β) : Bool :=
  BnGoodixFingerprintDaemon.checkPermission ctx halFingerprintPermission

namespace World

/-- The methods that an incarnation has run. -/
def log (k : Nat) (w : World) : List (Executed (Option Nat) Nat) := (w.daemons k).state.2

def lives (k : Nat) (w : World) : Bool := (w.daemons k).alive

/-! ### Incidents -/

theorem log_happen (k : Nat) (w : World) (x : Incident) : (w.happen x).log k = w.log k := by
  cases x with
  | crash j =>
    simp only [happen, log]
    by_cases hk : k = j
    · subst hk
      simp
    · simp [Function.update_of_ne hk]
  | restart => rfl
  | obituary j =>
    by_cases hj : (w.daemons j).alive = true
    · simp [happen, log, hj]
    · simp [happen, log, hj]

theorem lives_happen (k : Nat) (w : World) (x : Incident) :
    (w.happen x).lives k = (w.lives k && decide (x ≠ .crash k)) := by
  cases x with
  | crash j =>
    simp only [happen, lives]
    by_cases hk : k = j
    · subst hk
      simp
    · simp [Function.update_of_ne hk, Ne.symm hk]
  | restart => simp [happen, lives]
  | obituary j =>
    by_cases hj : (w.daemons j).alive = true
    · simp [happen, lives, hj]
    · simp [happen, lives, hj]

theorem log_pass (k : Nat) (w : World) (xs : List Incident) : (w.pass xs).log k = w.log k :=
  pass_induction (I := fun v => v.log k = w.log k) (fun v x h => (log_happen k v x).trans h) w xs rfl

theorem lives_pass (k : Nat) (w : World) (xs : List Incident) :
    (w.pass xs).lives k = (w.lives k && decide (.crash k ∉ xs)) := by
  induction xs generalizing w with
  | nil => simp [pass]
  | cons x rest ih =>
    rw [pass, List.foldl_cons, ← pass, ih, lives_happen]
    by_cases hx : x = .crash k
    · simp [hx]
    · simp [hx, Ne.symm hx]

/-- Incidents leave the client alone. -/
theorem client_happen (w : World) (x : Incident) : (w.happen x).toClient = w.toClient := by
  cases x with
  | crash | restart => rfl
  | obituary k =>
    by_cases hk : (w.daemons k).alive = true
    · simp [happen, hk]
    · simp [happen, hk]

theorem client_pass (w : World) (xs : List Incident) : (w.pass xs).toClient = w.toClient :=
  pass_induction (I := fun v => v.toClient = w.toClient) (fun v x h => (client_happen v x).trans h) w xs rfl

/-! ### Requests -/

section Requests
variable (ctx : Context Nat) (hal : Hal)

theorem admits_service (w : World) (c : Code) :
    Process.admits (w.service hal) ctx c = (!c.gated || ctx.granted) := by
  rw [Process.admits, Context.granted]
  rw [show (w.service hal).getInterfaceDescriptor = descriptor from rfl]
  simp

theorem log_asked_other {j k : Nat} (h : j ≠ k) (r : Request Nat) (w : World) :
    (w.asked ctx hal k r).log j = w.log j := by
  simp [asked, log, Function.update_of_ne h]

theorem lives_asked_other {j k : Nat} (h : j ≠ k) (r : Request Nat) (w : World) :
    (w.asked ctx hal k r).lives j = w.lives j := by
  simp [asked, lives, Function.update_of_ne h]

/-- The incarnation after a request: as it was, crashed, or with one more entry. -/
theorem asked_cases (k : Nat) (r : Request Nat) (w : World) :
    ((w.asked ctx hal k r).log k = w.log k ∧
      ((w.asked ctx hal k r).lives k = true → w.lives k = true ∧ r.code.gated = true ∧ ctx.granted = false)) ∨
    (w.lives k = true ∧ (w.asked ctx hal k r).lives k = true ∧
      ∃ e : Executed (Option Nat) Nat, e.tag = w.session ∧ e.request.code = r.code ∧
        (w.asked ctx hal k r).log k = w.log k ++ [e]) := by
  rw [asked, log, lives]
  simp only [Function.update_self, Process.asked, admits_service]
  by_cases hadmits : (!r.code.gated || ctx.granted) = true
  · rw [if_pos hadmits]
    rcases Process.invoke_traced (goodixFingerprintDaemonProxy hal) w.session (Process.received ctx r)
      (w.daemons k) with ⟨hdead, heq⟩ | ⟨-, -, heq⟩ | ⟨halive, v, s, -, heq⟩
    · refine .inl ?_
      rw [service, heq]
      exact ⟨rfl, fun h => by rw [hdead] at h; cases h⟩
    · refine .inl ?_
      rw [service, heq]
      exact ⟨rfl, fun h => by cases h⟩
    · refine .inr ?_
      rw [service, heq]
      exact ⟨halive, halive, ⟨_, _, v⟩, rfl, Process.received_code ctx r, rfl⟩
  · rw [if_neg hadmits]
    refine .inl ⟨rfl, fun h => ⟨h, ?_⟩⟩
    simpa using hadmits

theorem lives_of_asked (j k : Nat) (r : Request Nat) (w : World) (h : (w.asked ctx hal k r).lives j = true) :
    w.lives j = true := by
  by_cases hjk : j = k
  · subst hjk
    rcases asked_cases ctx hal j r w with ⟨-, hlives⟩ | ⟨hlives, -⟩
    · exact (hlives h).1
    · exact hlives
  · rwa [lives_asked_other ctx hal hjk] at h

/-- For a request that fits, the answer and the incarnation after it. -/
theorem asked_fits (k : Nat) (r : Request Nat) (hr : r.Fits) (w : World) :
    (w.answer ctx hal k r, (w.asked ctx hal k r).daemons k) =
      if !r.code.gated || ctx.granted then
        (((w.daemons k).invoke (w.service hal) r).1.getD r.code.kind.zero, ((w.daemons k).invoke (w.service hal) r).2)
      else (r.code.kind.zero, w.daemons k) := by
  rw [answer, asked]
  simp only [Function.update_self]
  rw [Process.answer_asked _ _ r hr, Process.remote, admits_service]

/-- From a client with the permission, a request that does not crash the daemon is the method's own run,
and one entry. -/
theorem asked_heard (hg : ctx.granted = true) (k : Nat) (r : Request Nat) (hr : r.Fits) (w : World)
    (hlives : w.lives k = true) {v : r.Result} {s : GoodixFingerprintDaemonProxy Nat}
    (hcall : (goodixFingerprintDaemonProxy hal).call r (w.daemons k).state.1 = .ok (v, s)) :
    w.answer ctx hal k r = v ∧ ((w.asked ctx hal k r).daemons k).state.1 = s ∧
      (w.asked ctx hal k r).lives k = true ∧ (w.asked ctx hal k r).log k = w.log k ++ [⟨w.session, r, v⟩] := by
  have hasked := asked_fits ctx hal k r hr w
  rw [hg, Bool.or_true, if_pos rfl] at hasked
  rcases Process.invoke_traced (goodixFingerprintDaemonProxy hal) w.session r (w.daemons k) with
    ⟨hdead, -⟩ | ⟨-, ⟨fault, hfault⟩, -⟩ | ⟨halive, v', s', hok, heq⟩
  · rw [lives, hdead] at hlives
    cases hlives
  · rw [hcall] at hfault
    cases hfault
  · rw [hcall] at hok
    cases hok
    rw [service, heq, Prod.mk.injEq] at hasked
    refine ⟨hasked.1, by rw [hasked.2], ?_, ?_⟩
    · rw [lives, hasked.2]
      exact halive
    · rw [log, hasked.2]
      rfl

/-- A request that reaches nobody reads zero. -/
theorem asked_unheard (k : Nat) (r : Request Nat) (hr : r.Fits) (w : World)
    (h : w.lives k = false ∨ (!r.code.gated || ctx.granted) = false) :
    w.answer ctx hal k r = r.code.kind.zero ∧ (w.asked ctx hal k r).log k = w.log k ∧
      (w.asked ctx hal k r).lives k = w.lives k := by
  have hasked := asked_fits ctx hal k r hr w
  have hsame : (w.answer ctx hal k r, (w.asked ctx hal k r).daemons k) = (r.code.kind.zero, w.daemons k) := by
    rw [hasked]
    by_cases hadmits : (!r.code.gated || ctx.granted) = true
    · have hdead : (w.daemons k).alive = false := h.resolve_right (by rw [hadmits]; simp)
      rw [if_pos hadmits, Process.invoke, hdead]
      rfl
    · rw [if_neg hadmits]
  rw [Prod.mk.injEq] at hsame
  refine ⟨hsame.1, ?_, ?_⟩
  · rw [log, log, hsame.2]
  · rw [lives, lives, hsame.2]

theorem asked_init (hg : ctx.granted = true) (k callback : Nat) (w : World) (hlives : w.lives k = true) :
    (w.asked ctx hal k (.init (some callback))).lives k = true ∧
      (w.asked ctx hal k (.init (some callback))).log k =
        w.log k ++ [⟨w.session, .init (some callback), ()⟩] := by
  obtain ⟨-, -, hlives', hlog⟩ := asked_heard ctx hal hg k (.init (some callback)) trivial w hlives
    (GoodixFingerprintDaemonProxy.call_init hal _ _)
  exact ⟨hlives', hlog⟩

theorem asked_openHal (hg : ctx.granted = true) (k : Nat) (w : World) (hlives : w.lives k = true) :
    ∃ ret : Int64, (ret = 0 ∨ ret = GoodixFingerprintDaemonProxy.einval) ∧
      w.openHalAnswer ctx hal k = ret ∧ (w.asked ctx hal k .openHal).lives k = true ∧
      (w.asked ctx hal k .openHal).log k = w.log k ++ [⟨w.session, .openHal, ret⟩] := by
  obtain ⟨hanswer, -, hlives', hlog⟩ := asked_heard ctx hal hg k .openHal trivial w hlives rfl
  refine ⟨_, ?_, hanswer, hlives', hlog⟩
  split
  · exact .inr rfl
  · exact .inl rfl

end Requests

/-! ### The way of `getService` -/

section Connect
variable (ctx : Context Nat) (i : Interleaving)

/-- The client has the permission, and the incarnation lives until `openHal`. -/
def Heard (k : Nat) (w : World) : Prop :=
  ctx.granted = true ∧ w.lives k = true ∧
    .crash k ∉ i.beforeLink ++ (i.beforeInit ++ i.beforeOpenHal)

theorem log_greeting (j k : Nat) (w : World) : ((w.linked i k).greeting i).log j = w.log j := by
  rw [greeting, log_pass]
  show ((w.withService (some k)).pass i.beforeLink).log j = _
  rw [log_pass]
  rfl

theorem lives_greeting (j k : Nat) (w : World) :
    ((w.linked i k).greeting i).lives j =
      (w.lives j && decide (.crash j ∉ i.beforeLink) && decide (.crash j ∉ i.beforeInit)) := by
  rw [greeting, lives_pass]
  show (((w.withService (some k)).pass i.beforeLink).lives j && _) = _
  rw [lives_pass]
  rfl

theorem Heard.lives_greeting {k : Nat} {w : World} (h : w.Heard ctx i k) :
    ((w.linked i k).greeting i).lives k = true := by
  obtain ⟨-, hlives, hcrash⟩ := h
  simp only [List.mem_append, not_or] at hcrash
  rw [World.lives_greeting, hlives]
  simp [hcrash.1, hcrash.2.1]

/-- An incarnation that hears the client has run its `init`, and lives when it is asked to open. -/
theorem Heard.lives_introduced {k : Nat} {w : World} (h : w.Heard ctx i k) (callback : Nat) :
    (((w.linked i k).greeting i).introduced ctx i k callback).lives k = true := by
  have hcrash := h.2.2
  simp only [List.mem_append, not_or] at hcrash
  rw [introduced, lives_pass, (asked_init ctx i.hal h.1 k callback _ h.lives_greeting).1]
  simp [hcrash.2.2]

/-- The client after the lookup and the callback. -/
theorem client_greeting (k : Nat) (w : World) :
    ((w.linked i k).greeting i).toClient = {w.toClient with
      gService := some k
      callbacks := w.callbacks + 1
      session := some w.callbacks
      mDevice := w.gDevice} := by
  rw [greeting, client_pass]
  have hlinked : (w.linked i k).toClient = {w.toClient with gService := some k} := by
    show ((w.withService (some k)).pass i.beforeLink).toClient = _
    rw [client_pass]
    rfl
  rw [withCallback, withDevice]
  rw [hlinked]

theorem client_introduced (k callback : Nat) (w : World) :
    (w.introduced ctx i k callback).toClient = w.toClient := by
  rw [introduced, client_pass]
  rfl

theorem log_kept (k : Nat) (ret : Int64) (w : World) : (w.kept ret).log k = w.log k := by
  rw [kept]
  split <;> rfl

theorem lives_kept (k : Nat) (ret : Int64) (w : World) : (w.kept ret).lives k = w.lives k := by
  rw [kept]
  split <;> rfl

theorem gService_kept (ret : Int64) (w : World) :
    (w.kept ret).gService = if ret.toInt32 ≠ 0 then none else w.gService := by
  unfold kept
  split <;> rfl

theorem callbacks_linked (k : Nat) (w : World) : (w.linked i k).callbacks = w.callbacks := by
  show ((w.withService (some k)).pass i.beforeLink).callbacks = _
  rw [client_pass]
  rfl

/-- What `connect` leaves of the client. -/
theorem client_connected (k : Nat) (w : World) :
    (w.connected ctx i k).toClient = {w.toClient with
      gService := (w.connected ctx i k).gService
      callbacks := w.callbacks + 1
      session := some w.callbacks
      mDevice := w.gDevice} := by
  have hbefore : ((((w.linked i k).greeting i).introduced ctx i k (w.linked i k).callbacks).asked
      ctx i.hal k .openHal).toClient = _ := (client_introduced ctx i k _ _).trans (client_greeting i k w)
  unfold connected admitted kept
  split
  · unfold withService
    rw [hbefore]
  · rw [hbefore]

theorem gService_connected (k : Nat) (w : World) :
    (w.connected ctx i k).gService =
      if ((((w.linked i k).greeting i).introduced ctx i k (w.linked i k).callbacks).openHalAnswer
        ctx i.hal k).toInt32 ≠ 0 then none else some k := by
  have hbefore : ((((w.linked i k).greeting i).introduced ctx i k (w.linked i k).callbacks).asked
      ctx i.hal k .openHal).toClient = _ := (client_introduced ctx i k _ _).trans (client_greeting i k w)
  rw [connected, admitted, gService_kept, congrArg Client.gService hbefore]

/-- The entry of the `init` with a callback, made in its session. -/
def initEntry (callback : Nat) : Executed (Option Nat) Nat := ⟨some callback, .init (some callback), ()⟩

def openEntry (callback : Nat) (ret : Int64) : Executed (Option Nat) Nat := ⟨some callback, .openHal, ret⟩

/-- With `init` and `openHal` both run, the client knows what `openHal` returned. -/
theorem connected_heard (k : Nat) (w : World) (h : w.Heard ctx i k) :
    ∃ ret, (ret = 0 ∨ ret = GoodixFingerprintDaemonProxy.einval) ∧
      (w.connected ctx i k).gService = (if ret = 0 then some k else none) ∧
      (w.connected ctx i k).lives k = true ∧
      (w.connected ctx i k).log k = w.log k ++ [initEntry w.callbacks, openEntry w.callbacks ret] := by
  have hsession : ((w.linked i k).greeting i).session = some w.callbacks :=
    congrArg Client.session (client_greeting i k w)
  have hlog := (asked_init ctx i.hal h.1 k (w.linked i k).callbacks _ h.lives_greeting).2
  obtain ⟨ret, hret, hanswer, hlives', hlog'⟩ := asked_openHal ctx i.hal h.1 k _ (h.lives_introduced ctx i _)
  refine ⟨ret, hret, ?_, ?_, ?_⟩
  · rw [gService_connected, hanswer]
    rcases hret with rfl | rfl
    · rfl
    · rfl
  · rw [connected, admitted, lives_kept]
    exact hlives'
  · rw [connected, admitted, log_kept, hlog', client_introduced, hsession, introduced, log_pass, hlog,
      log_greeting, hsession, callbacks_linked, List.append_assoc]
    rfl

/-- What is left of the `init`, where not both are run. -/
theorem introduced_unheard (k : Nat) (w : World) (h : ¬ w.Heard ctx i k) :
    let w' := ((w.linked i k).greeting i).introduced ctx i k (w.linked i k).callbacks
    (w'.log k = w.log k ∨ w'.log k = w.log k ++ [initEntry w.callbacks]) ∧
      (w'.lives k = true → ctx.granted = false) := by
  intro w'
  have hsession : ((w.linked i k).greeting i).session = some w.callbacks :=
    congrArg Client.session (client_greeting i k w)
  have hlog : w'.log k = (((w.linked i k).greeting i).asked ctx i.hal k
      (.init (some (w.linked i k).callbacks))).log k := log_pass k _ _
  have hlives : w'.lives k = ((((w.linked i k).greeting i).asked ctx i.hal k
      (.init (some (w.linked i k).callbacks))).lives k && decide (.crash k ∉ i.beforeOpenHal)) := lives_pass k _ _
  by_cases hheard : ctx.granted = true ∧ ((w.linked i k).greeting i).lives k = true
  · obtain ⟨hlives3, hlog3⟩ := asked_init ctx i.hal hheard.1 k (w.linked i k).callbacks _ hheard.2
    refine ⟨.inr ?_, fun hlive => absurd ?_ h⟩
    · rw [hlog, hlog3, log_greeting, hsession, callbacks_linked]
      rfl
    · rw [hlives, hlives3] at hlive
      have hlives2 := hheard.2
      rw [lives_greeting] at hlives2
      simp only [Bool.and_eq_true, decide_eq_true_eq, Bool.true_and] at hlives2 hlive
      refine ⟨hheard.1, hlives2.1.1, ?_⟩
      simp only [List.mem_append, not_or]
      exact ⟨hlives2.1.2, hlives2.2, hlive⟩
  · obtain ⟨-, hlog3, hlives3⟩ := asked_unheard ctx i.hal k (.init (some (w.linked i k).callbacks)) trivial
      ((w.linked i k).greeting i) (by
        cases hg : ctx.granted with
        | false => exact .inr rfl
        | true => exact .inl (by simpa [hg] using hheard))
    refine ⟨.inl (by rw [hlog, hlog3, log_greeting]), fun hlive => ?_⟩
    rw [hlives, hlives3, Bool.and_eq_true] at hlive
    cases hg : ctx.granted with
    | false => rfl
    | true => exact absurd ⟨hg, hlive.1⟩ hheard

/-- Otherwise the client takes what did not run for a success. -/
theorem connected_unheard (k : Nat) (w : World) (h : ¬ w.Heard ctx i k) :
    (w.connected ctx i k).gService = some k ∧
      ((w.connected ctx i k).log k = w.log k ∨ (w.connected ctx i k).log k = w.log k ++ [initEntry w.callbacks]) ∧
      ((w.connected ctx i k).lives k = true → ctx.granted = false) := by
  obtain ⟨hlog, hlives⟩ := introduced_unheard ctx i k w h
  obtain ⟨hanswer, hlog', hlives'⟩ := asked_unheard ctx i.hal k .openHal trivial
    (((w.linked i k).greeting i).introduced ctx i k (w.linked i k).callbacks) (by
      cases hg : ctx.granted with
      | false => exact .inr rfl
      | true => exact .inl (by simpa [hg] using hlives))
  refine ⟨?_, ?_, ?_⟩
  · rw [gService_connected, show openHalAnswer _ _ _ _ = 0 from hanswer]
    rfl
  · rw [connected, admitted, log_kept, hlog']
    exact hlog
  · rw [connected, admitted, lives_kept, hlives']
    exact hlives

/-- Other incarnations hear nothing of it. -/
theorem connected_other {j k : Nat} (hjk : j ≠ k) (w : World) :
    (w.connected ctx i k).log j = w.log j ∧ ((w.connected ctx i k).lives j = true → w.lives j = true) := by
  constructor
  · rw [connected, admitted, log_kept, log_asked_other ctx i.hal hjk, introduced, log_pass,
      log_asked_other ctx i.hal hjk, log_greeting]
  · rw [connected, admitted, lives_kept, lives_asked_other ctx i.hal hjk, introduced, lives_pass,
      lives_asked_other ctx i.hal hjk, lives_greeting]
    simp only [Bool.and_eq_true]
    exact fun h => h.1.1.1

end Connect
end World
end GoodixFingerprint
