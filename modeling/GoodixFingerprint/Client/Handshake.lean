import GoodixFingerprint.Client.Requests
import GoodixFingerprint.Client.System
import GoodixFingerprint.Machine.History

/-! The handshake before use.

`Handshake` says of an incarnation's log that it was last introduced to a callback, then
opened successfully, and not closed since. `Bound` carries it through the client's
steps: whenever the client has a service that lives, the handshake with it has been made
in the client's present session, so a device operation that is run finds it made. -/
namespace GoodixFingerprint
open Binder

/-- The methods an incarnation has run for the client. -/
abbrev Log := List (Executed (Option Nat) Nat)

/-- The last `init` is for the callback, the last `openHal` came after it and returned zero,
and there was no `closeHal` since. -/
def Handshake (callback : Nat) (log : Log) : Prop :=
  ∃ (a : Log) (first : Executed (Option Nat) Nat) (b : Log) (last : Executed (Option Nat) Nat) (c : Log),
    log = a ++ first :: b ++ last :: c ∧
    first.request = .init (some callback) ∧ last.request = .openHal ∧ last.Succeeded ∧
    (∀ e ∈ b, e.request.code ≠ .init) ∧ ∀ e ∈ c, e.request.code ∉ [.init, .openHal, .closeHal]

/-- A device operation comes behind the handshake of the session it is run in. -/
def Prepared (before : Log) (e : Executed (Option Nat) Nat) : Prop :=
  e.request.code ∈ Client.DeviceCall.codes → ∃ callback, e.tag = some callback ∧ Handshake callback before

theorem prepared_of_code (before : Log) (e : Executed (Option Nat) Nat)
    (h : e.request.code ∉ Client.DeviceCall.codes) : Prepared before e :=
  fun hcode => absurd hcode h

theorem prepared_init (before : Log) (callback : Nat) : Prepared before (World.initEntry callback) :=
  prepared_of_code before _ (show Code.init ∉ _ by decide)

theorem prepared_open (before : Log) (callback : Nat) (ret : Int64) :
    Prepared before (World.openEntry callback ret) :=
  prepared_of_code before _ (show Code.openHal ∉ _ by decide)

theorem handshake_opened (log : Log) (callback : Nat) :
    Handshake callback (log ++ [World.initEntry callback, World.openEntry callback 0]) :=
  ⟨log, World.initEntry callback, [], World.openEntry callback 0, [], by simp, rfl, rfl, rfl,
    fun _ h => (by cases h), fun _ h => (by cases h)⟩

theorem Handshake.concat {callback : Nat} {log : Log} (h : Handshake callback log)
    (e : Executed (Option Nat) Nat) (he : e.request.code ∉ [.init, .openHal, .closeHal]) :
    Handshake callback (log ++ [e]) := by
  obtain ⟨a, first, b, last, c, rfl, hfirst, hlast, hzero, hb, hc⟩ := h
  refine ⟨a, first, b, last, c ++ [e], by simp, hfirst, hlast, hzero, hb, fun x hx => ?_⟩
  rcases List.mem_append.mp hx with hx | hx
  · exact hc x hx
  · rw [List.mem_singleton.mp hx]
    exact he

theorem operation_code {c : Code} (h : c ∈ Client.DeviceCall.codes) : c ∉ [.init, .openHal, .closeHal] := by
  revert h
  cases c <;> decide

namespace Client
variable (ctx : Context Nat)

/-- Every log is prepared, and a living service has made the handshake of the session. -/
structure Bound (w : World) : Prop where
  prepared : ∀ k, History.Obeys Prepared (w.log k)
  handshake : ∀ k, w.gService = some k → w.lives k = true →
    ∃ callback, w.session = some callback ∧ Handshake callback (w.log k)

theorem Bound.happen {w : World} (h : Bound w) (x : Incident) : Bound (w.happen x) := by
  refine ⟨fun k => by rw [World.log_happen]; exact h.prepared k, fun k hk hlives => ?_⟩
  rw [World.client_happen] at hk ⊢
  rw [World.lives_happen, Bool.and_eq_true] at hlives
  rw [World.log_happen]
  exact h.handshake k hk hlives.1

theorem Bound.unbound {w : World} (h : Bound w) : Bound (w.withService none) :=
  ⟨h.prepared, fun _ hk => (by cases hk)⟩

/-- A state that differs only in what the handshake does not look at. -/
theorem Bound.congr {w w' : World} (h : Bound w) (hservice : w'.gService = w.gService)
    (hsession : w'.session = w.session) (hdaemons : w'.daemons = w.daemons) : Bound w' := by
  refine ⟨fun k => ?_, fun k hk hlives => ?_⟩
  · rw [World.log, hdaemons]
    exact h.prepared k
  · rw [World.log, hdaemons, hsession]
    rw [World.lives, hdaemons] at hlives
    exact h.handshake k (hservice ▸ hk) hlives

theorem Bound.connected (hg : ctx.granted = true) {w : World} (h : Bound w) (i : Interleaving) (k : Nat) :
    Bound (w.connected ctx i k) := by
  have hsession : (w.connected ctx i k).session = some w.callbacks :=
    congrArg Client.session (World.client_connected ctx i k w)
  have hother (j : Nat) (hjk : j ≠ k) : History.Obeys Prepared ((w.connected ctx i k).log j) := by
    rw [(World.connected_other ctx i hjk w).1]
    exact h.prepared j
  by_cases hheard : w.Heard ctx i k
  · obtain ⟨ret, -, hservice, -, hlog⟩ := World.connected_heard ctx i k w hheard
    refine ⟨fun j => ?_, fun j hj _ => ?_⟩
    · by_cases hjk : j = k
      · subst hjk
        rw [hlog, History.obeys_append]
        exact ⟨h.prepared j, prepared_init _ _, prepared_open _ _ _, trivial⟩
      · exact hother j hjk
    · rw [hservice] at hj
      by_cases hret : ret = 0
      · subst hret
        cases hj
        rw [hlog]
        exact ⟨w.callbacks, hsession, handshake_opened _ _⟩
      · rw [if_neg hret] at hj
        cases hj
  · obtain ⟨hservice, hlog, hlives⟩ := World.connected_unheard ctx i k w hheard
    refine ⟨fun j => ?_, fun j hj hlive => ?_⟩
    · by_cases hjk : j = k
      · subst hjk
        rcases hlog with hsame | hinit
        · rw [hsame]
          exact h.prepared j
        · rw [hinit, History.obeys_concat]
          exact ⟨h.prepared j, prepared_init _ _⟩
      · exact hother j hjk
    · rw [hservice] at hj
      cases hj
      rw [hlives hlive] at hg
      cases hg

/-- What is asked of a service leaves the rest alone. -/
theorem Bound.asked_other {w : World} (h : Bound w) (hal : Hal) (k : Nat) (r : Request Nat) {j : Nat} (hjk : j ≠ k) :
    History.Obeys Prepared ((w.asked ctx hal k r).log j) := by
  rw [World.log_asked_other ctx hal hjk]
  exact h.prepared j

/-- An operation of the service finds the handshake made. -/
theorem Bound.asked {w : World} (h : Bound w) (hal : Hal) (k : Nat) (r : Request Nat)
    (hk : w.gService = some k) (hr : r.code ∈ DeviceCall.codes) : Bound (w.asked ctx hal k r) := by
  rcases World.asked_cases ctx hal k r w with ⟨hlog, hlives⟩ | ⟨hlives, -, e, htag, hcode, hlog⟩
  · refine ⟨fun j => ?_, fun j hj hlive => ?_⟩
    · by_cases hjk : j = k
      · subst hjk
        rw [hlog]
        exact h.prepared j
      · exact h.asked_other ctx hal k r hjk
    · obtain rfl : k = j := Option.some.inj (hk.symm.trans hj)
      rw [hlog]
      exact h.handshake k hk (hlives hlive).1
  · obtain ⟨callback, hsession, hhandshake⟩ := h.handshake k hk hlives
    refine ⟨fun j => ?_, fun j hj hlive => ?_⟩
    · by_cases hjk : j = k
      · subst hjk
        rw [hlog, History.obeys_concat]
        exact ⟨h.prepared j, fun _ => ⟨callback, htag.trans hsession, hhandshake⟩⟩
      · exact h.asked_other ctx hal k r hjk
    · obtain rfl : k = j := Option.some.inj (hk.symm.trans hj)
      rw [hlog]
      exact ⟨callback, hsession, hhandshake.concat e (hcode ▸ operation_code hr)⟩

/-- After `closeHal` there is no service. -/
theorem Bound.closed {w : World} (h : Bound w) (hal : Hal) (k : Nat) :
    Bound ((w.asked ctx hal k .closeHal).withService none) := by
  refine ⟨fun j => ?_, fun j hj _ => by cases hj⟩
  show History.Obeys Prepared ((w.asked ctx hal k .closeHal).log j)
  by_cases hjk : j = k
  · subst hjk
    rcases World.asked_cases ctx hal j .closeHal w with ⟨hlog, -⟩ | ⟨-, -, e, -, hcode, hlog⟩
    · rw [hlog]
      exact h.prepared j
    · rw [hlog, History.obeys_concat]
      exact ⟨h.prepared j, prepared_of_code _ e (hcode ▸ (show Code.closeHal ∉ _ by decide))⟩
  · exact h.asked_other ctx hal k .closeHal hjk

theorem bound_initial : Bound initial :=
  ⟨fun _ => History.obeys_nil Prepared, fun _ hk => (by cases hk)⟩

theorem bound_preserved (hg : ctx.granted = true) : Preserves ctx (fun _ _ => True) Bound where
  happen _ x h := h.happen x
  faulted _ h := h.congr rfl rfl rfl
  allocate _ h := h.congr rfl rfl rfl
  withHeap _ _ _ h := h.congr rfl rfl rfl
  noticed w k _ _ h := (h.congr rfl rfl rfl : Bound (w.noticed k)).unbound
  connected _ i k _ h := Bound.connected ctx hg h i k
  asked _ hal k r hk hr h := h.asked ctx hal k r hk hr
  delivered _ _ _ h := h.congr rfl rfl rfl
  closed _ hal k _ h := h.closed ctx hal k

theorem prepared_run (hg : ctx.granted = true) (events : List Event) (k : Nat) :
    History.Obeys Prepared (((system ctx).run initial events).log k) :=
  ((bound_preserved ctx hg).run initial events bound_initial fun _ _ => trivial).prepared k

end Client
end GoodixFingerprint
