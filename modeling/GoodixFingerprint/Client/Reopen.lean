import GoodixFingerprint.Client.Handshake

/-! Reopening.

An incarnation's HAL is held open from a successful `openHal` to the next `closeHal`.
The client drops its service on every death notice, whoever died, and what it drops it
opens again; `Single` is what holds as long as no notice meets a living service. -/
namespace GoodixFingerprint
open Binder

/-- An `openHal` that returned zero. -/
def Executed.Opens (e : Executed (Option Nat) Nat) : Prop := e.request.code = .openHal ∧ e.Succeeded

/-- Opened, and not closed since. -/
def HeldOpen (log : Log) : Prop := History.Since Executed.Opens (fun e => e.request.code = .closeHal) log

/-- What is held open is not opened again. -/
def OpensOnce (before : Log) (e : Executed (Option Nat) Nat) : Prop := e.Opens → ¬ HeldOpen before

/-- Entries that are not of `openHal` leave it as open as it was, or close it. -/
theorem HeldOpen.of_concat {log : Log} {e : Executed (Option Nat) Nat} (h : HeldOpen (log ++ [e]))
    (he : ¬ e.Opens) : HeldOpen log ∧ e.request.code ≠ .closeHal :=
  ((History.since_concat log e).mp h).resolve_left he

/-- The handshake leaves the HAL open. -/
theorem Handshake.heldOpen {callback : Nat} {log : Log} (h : Handshake callback log) : HeldOpen log := by
  obtain ⟨a, first, b, last, c, rfl, -, hlast, hzero, -, hc⟩ := h
  refine ⟨a ++ first :: b, last, c, by simp, ⟨by rw [hlast]; rfl, hzero⟩, fun x hx heq => ?_⟩
  have hnot := hc x hx
  rw [heq] at hnot
  simp at hnot

theorem not_opens_of_code {e : Executed (Option Nat) Nat} (h : e.request.code ≠ .openHal) : ¬ e.Opens :=
  fun hopens => h hopens.1

theorem opens_openEntry (callback : Nat) (ret : Int64) : (World.openEntry callback ret).Opens ↔ ret = 0 := by
  show (Code.openHal = .openHal ∧ (ret == 0) = true) ↔ ret = 0
  simp

/-- An entry that does not open may follow anything. -/
theorem obeys_once_concat {log : Log} {e : Executed (Option Nat) Nat} (h : History.Obeys OpensOnce log)
    (he : ¬ e.Opens) : History.Obeys OpensOnce (log ++ [e]) :=
  (History.obeys_concat OpensOnce log e).mpr ⟨h, fun hopens => absurd hopens he⟩

theorem not_opens_initEntry (callback : Nat) : ¬ (World.initEntry callback).Opens :=
  not_opens_of_code (show Code.init ≠ .openHal by decide)

namespace Client
variable (ctx : Context Nat)

/-- Nothing is opened twice, and what a client with the permission holds open in a living
incarnation is what it is bound to. -/
structure Single (w : World) : Prop where
  once : ∀ k, History.Obeys OpensOnce (w.log k)
  held : ∀ k, w.lives k = true → HeldOpen (w.log k) → w.gService = some k
  refused : ctx.granted = false → ∀ k, ¬ HeldOpen (w.log k)

/-- A death notice does not meet a living service. -/
def Spares (w : World) : Event → Prop
  | .binderDied _ _ => ctx.granted = true → ∀ k ∈ w.gService, w.lives k = false
  | _ => True

instance (w : World) (e : Event) : Decidable (Spares ctx w e) :=
  match e with
  | .binderDied _ _ => inferInstanceAs (Decidable (ctx.granted = true → ∀ k ∈ w.gService, w.lives k = false))
  | .incident _ | .fingerprintOpen _ _ | .fingerprintClose _ _ | .setNotify _ _ | .operation _ _ | .message _ =>
    isTrue trivial

variable {ctx}

theorem Single.congr {w w' : World} (h : Single ctx w) (hservice : w'.gService = w.gService)
    (hdaemons : w'.daemons = w.daemons) : Single ctx w' := by
  refine ⟨fun k => ?_, fun k hlives hheld => ?_, fun hg k => ?_⟩
  · rw [World.log, hdaemons]
    exact h.once k
  · rw [World.lives, hdaemons] at hlives
    rw [World.log, hdaemons] at hheld
    rw [hservice]
    exact h.held k hlives hheld
  · rw [World.log, hdaemons]
    exact h.refused hg k

theorem Single.happen {w : World} (h : Single ctx w) (x : Incident) : Single ctx (w.happen x) := by
  refine ⟨fun k => ?_, fun k hlives hheld => ?_, fun hg k => ?_⟩
  · rw [World.log_happen]
    exact h.once k
  · rw [World.lives_happen, Bool.and_eq_true] at hlives
    rw [World.log_happen] at hheld
    rw [World.client_happen]
    exact h.held k hlives.1 hheld
  · rw [World.log_happen]
    exact h.refused hg k

/-- A client without a service holds nothing open that lives. -/
theorem Single.idle {w : World} (h : Single ctx w) (hunbound : w.gService = none) (j : Nat)
    (hlives : w.lives j = true) : ¬ HeldOpen (w.log j) := by
  intro hheld
  rw [h.held j hlives hheld] at hunbound
  cases hunbound

/-- `openHal` is run where nothing was held open, and what it opens is kept. -/
theorem Single.connected_heard {w : World} (h : Single ctx w) (i : Interleaving) (k : Nat)
    (hunbound : w.gService = none) (hheard : w.Heard ctx i k) : Single ctx (w.connected ctx i k) := by
  obtain ⟨ret, -, hservice, -, hlog⟩ := World.connected_heard ctx i k w hheard
  have hinit : ¬ HeldOpen (w.log k ++ [World.initEntry w.callbacks]) := fun hheld =>
    h.idle hunbound k hheard.2.1 (hheld.of_concat (not_opens_initEntry _)).1
  have hsplit : (w.connected ctx i k).log k =
      (w.log k ++ [World.initEntry w.callbacks]) ++ [World.openEntry w.callbacks ret] := by
    rw [hlog, List.append_assoc]
    rfl
  refine ⟨fun j => ?_, fun j hlives hheld => ?_, fun hg => ?_⟩
  · by_cases hjk : j = k
    · subst hjk
      rw [hsplit, History.obeys_concat]
      exact ⟨obeys_once_concat (h.once j) (not_opens_initEntry _), fun _ => hinit⟩
    · rw [(World.connected_other ctx i hjk w).1]
      exact h.once j
  · by_cases hjk : j = k
    · subst hjk
      rw [hsplit] at hheld
      rcases (History.since_concat _ _).mp hheld with hopens | ⟨hbefore, -⟩
      · rw [hservice, if_pos ((opens_openEntry _ _).mp hopens)]
      · exact absurd hbefore hinit
    · obtain ⟨hsame, halive⟩ := World.connected_other ctx i hjk w
      rw [hsame] at hheld
      exact absurd hheld (h.idle hunbound j (halive hlives))
  · rw [hheard.1] at hg
    cases hg

/-- Without an `openHal` nothing more is held open. -/
theorem Single.connected_unheard {w : World} (h : Single ctx w) (i : Interleaving) (k : Nat)
    (hunbound : w.gService = none) (hheard : ¬ w.Heard ctx i k) : Single ctx (w.connected ctx i k) := by
  obtain ⟨hservice, hlog, -⟩ := World.connected_unheard ctx i k w hheard
  have hlogs (j : Nat) : (w.connected ctx i k).log j = w.log j ∨
      (w.connected ctx i k).log j = w.log j ++ [World.initEntry w.callbacks] := by
    by_cases hjk : j = k
    · subst hjk
      exact hlog
    · exact .inl (World.connected_other ctx i hjk w).1
  have hheld (j : Nat) (hheld : HeldOpen ((w.connected ctx i k).log j)) : HeldOpen (w.log j) := by
    rcases hlogs j with hsame | hinit
    · rwa [hsame] at hheld
    · rw [hinit] at hheld
      exact (hheld.of_concat (not_opens_initEntry _)).1
  refine ⟨fun j => ?_, fun j hlives hopen => ?_, fun hg j hopen => h.refused hg j (hheld j hopen)⟩
  · rcases hlogs j with hsame | hinit
    · rw [hsame]
      exact h.once j
    · rw [hinit]
      exact obeys_once_concat (h.once j) (not_opens_initEntry _)
  · by_cases hjk : j = k
    · rw [hjk, hservice]
    · exact absurd (hheld j hopen) (h.idle hunbound j ((World.connected_other ctx i hjk w).2 hlives))

theorem Single.connected {w : World} (h : Single ctx w) (i : Interleaving) (k : Nat)
    (hunbound : w.gService = none) : Single ctx (w.connected ctx i k) := by
  by_cases hheard : w.Heard ctx i k
  · exact h.connected_heard i k hunbound hheard
  · exact h.connected_unheard i k hunbound hheard

/-- What the log of an incarnation is after a request that does not open it. -/
theorem Single.obeys_asked {w : World} (h : Single ctx w) (hal : Hal) (k : Nat) (r : Request Nat)
    (hr : r.code ≠ .openHal) (j : Nat) : History.Obeys OpensOnce ((w.asked ctx hal k r).log j) := by
  by_cases hjk : j = k
  · subst hjk
    rcases World.asked_cases ctx hal j r w with ⟨hlog, -⟩ | ⟨-, -, e, -, hcode, hlog⟩
    · rw [hlog]
      exact h.once j
    · rw [hlog]
      exact obeys_once_concat (h.once j) (not_opens_of_code (hcode ▸ hr))
  · rw [World.log_asked_other ctx hal hjk]
    exact h.once j

/-- What is held open after such a request was so before, in an incarnation that lived, and
unless the request was refused it was not `closeHal`. -/
theorem heldOpen_asked (hal : Hal) (k : Nat) (r : Request Nat) (hr : r.code ≠ .openHal) (w : World) (j : Nat)
    (hheld : HeldOpen ((w.asked ctx hal k r).log j)) :
    HeldOpen (w.log j) ∧ ((w.asked ctx hal k r).lives j = true →
      w.lives j = true ∧ (j = k → r.code = .closeHal → ctx.granted = false)) := by
  by_cases hjk : j = k
  · subst hjk
    rcases World.asked_cases ctx hal j r w with ⟨hlog, hlives⟩ | ⟨hlives, -, e, -, hcode, hlog⟩
    · rw [hlog] at hheld
      exact ⟨hheld, fun h => ⟨(hlives h).1, fun _ _ => (hlives h).2.2⟩⟩
    · rw [hlog] at hheld
      obtain ⟨hbefore, hopen⟩ := hheld.of_concat (not_opens_of_code (hcode ▸ hr))
      exact ⟨hbefore, fun _ => ⟨hlives, fun _ hclose => absurd (hcode.trans hclose) hopen⟩⟩
  · rw [World.log_asked_other ctx hal hjk] at hheld
    rw [World.lives_asked_other ctx hal hjk]
    exact ⟨hheld, fun h => ⟨h, fun heq => absurd heq hjk⟩⟩

theorem Single.asked {w : World} (h : Single ctx w) (hal : Hal) (k : Nat) (r : Request Nat)
    (hr : r.code ≠ .openHal) : Single ctx (w.asked ctx hal k r) := by
  refine ⟨h.obeys_asked hal k r hr, fun j hlives hheld => ?_, fun hg j hheld => ?_⟩
  · obtain ⟨hbefore, halive⟩ := heldOpen_asked hal k r hr w j hheld
    exact h.held j (halive hlives).1 hbefore
  · exact h.refused hg j (heldOpen_asked hal k r hr w j hheld).1

/-- `closeHal` has reached the service, or the service is dead, or nothing was ever open. -/
theorem Single.closed {w : World} (h : Single ctx w) (hal : Hal) (k : Nat) (hk : w.gService = some k) :
    Single ctx ((w.asked ctx hal k .closeHal).withService none) := by
  have hcode : (Request.closeHal : Request Nat).code ≠ .openHal := by decide
  have hasked := h.asked hal k .closeHal hcode
  refine ⟨hasked.once, fun j hlives hheld => ?_, hasked.refused⟩
  obtain ⟨hbefore, halive⟩ := heldOpen_asked hal k .closeHal hcode w j hheld
  obtain ⟨hlive, hrefused⟩ := halive hlives
  obtain rfl : k = j := Option.some.inj (hk.symm.trans (h.held j hlive hbefore))
  exact absurd hbefore (h.refused (hrefused rfl rfl) k)

/-- A notice that is spared finds nothing held open. -/
theorem Single.noticed {w : World} (h : Single ctx w) (k : Nat) (i : Interleaving)
    (hspares : Spares ctx w (.binderDied k i)) : Single ctx ((w.noticed k).withService none) := by
  refine ⟨h.once, fun j hlives hheld => ?_, h.refused⟩
  cases hg : ctx.granted with
  | false => exact absurd hheld (h.refused hg j)
  | true =>
    have hdead := hspares hg j (h.held j hlives hheld)
    rw [show w.lives j = true from hlives] at hdead
    cases hdead

theorem single_preserved : Preserves ctx (Spares ctx) (Single ctx) where
  happen _ x h := h.happen x
  faulted _ h := h.congr rfl rfl
  allocate _ h := h.congr rfl rfl
  withHeap _ _ _ h := h.congr rfl rfl
  noticed _ k i hspares h := h.noticed k i hspares
  connected _ i k hunbound h := h.connected i k hunbound
  asked _ hal k r _ hr h := h.asked hal k r fun heq => absurd (heq ▸ hr) (show Code.openHal ∉ _ by decide)
  delivered _ _ _ h := h.congr rfl rfl
  closed _ hal k hk h := h.closed hal k hk

theorem single_initial : Single ctx initial :=
  ⟨fun _ => History.obeys_nil OpensOnce, fun _ _ hheld => absurd hheld History.not_since_nil,
    fun _ _ => History.not_since_nil⟩

/-- **No HAL is opened twice**, as long as no death notice meets a service that lives. -/
theorem opened_once (events : List Event)
    (hspares : ∀ t ∈ (system ctx).steps initial events, Spares ctx t.1 t.2) (k : Nat) :
    History.Obeys OpensOnce (((system ctx).run initial events).log k) :=
  (single_preserved.run initial events single_initial hspares).once k

/-- The client is told of the death of the daemon it is bound to, and binds to the next. -/
theorem opened_once_restarted :
    let i (k : Nat) : Interleaving := { found := some k, hal := .succeeding }
    let events : List Event := [.incident .restart, .fingerprintOpen true (i 0), .incident (.crash 0),
      .incident (.obituary 0), .incident .restart, .binderDied 0 (i 1)]
    let w := (system (.granting true)).run initial events
    (w.log 1).map (fun e => e.request.code) = [.init, .openHal] ∧ History.Obeys OpensOnce (w.log 1) :=
  ⟨by decide +kernel, opened_once _ (by decide +kernel) 1⟩

/-- Opened, closed and opened again, the client has two links to the daemon's death; the
second of the two notices makes it open the next daemon twice. -/
theorem opened_twice_after_death :
    ∃ events : List Event, (system (.granting true)).Admits initial events ∧
      ¬ History.Obeys OpensOnce (((system (.granting true)).run initial events).log 1) := by
  let i (k : Nat) : Interleaving := { found := some k, hal := .succeeding }
  let events : List Event := [.incident .restart, .fingerprintOpen true (i 0), .fingerprintClose (some 0) (i 0),
    .fingerprintOpen true (i 0), .incident (.crash 0), .incident (.obituary 0), .incident .restart,
    .binderDied 0 (i 1), .binderDied 0 (i 1)]
  have hlog : (((system (.granting true)).run initial events).log 1).map
      (fun e => (e.request.code, e.request.code.kind.isZero e.result)) =
        [(.init, true), (.openHal, true), (.init, true), (.openHal, true)] := by decide +kernel
  refine ⟨events, by decide +kernel, fun hobeys => ?_⟩
  generalize ((system (.granting true)).run initial events).log 1 = log at hlog hobeys
  obtain ⟨a, _, rfl, -, hlog⟩ := List.map_eq_cons_iff.mp hlog
  obtain ⟨first, _, rfl, hfirst, hlog⟩ := List.map_eq_cons_iff.mp hlog
  obtain ⟨b, _, rfl, hb, hlog⟩ := List.map_eq_cons_iff.mp hlog
  obtain ⟨second, _, rfl, hsecond, hlog⟩ := List.map_eq_cons_iff.mp hlog
  simp only [Prod.mk.injEq] at hfirst hb hsecond
  refine hobeys [a, first, b] second _ rfl hsecond ⟨[a], first, [b], rfl, hfirst, fun x hx => ?_⟩
  rw [List.mem_singleton.mp hx]
  exact fun hclose => absurd (hb.1.symm.trans hclose) (by decide)

/-- A notice that breaks the condition opens a HAL twice, whenever the client is bound to the
same living incarnation after it. -/
theorem notice_reopens (hg : ctx.granted = true) (events : List Event) (j k : Nat) (i : Interleaving) :
    let w := (system ctx).run initial events
    let w' := next ctx w (.binderDied j i)
    w.crashed = false → w.gService = some k → w.lives k = true → w'.gService = some k → w'.lives k = true →
      ¬ History.Obeys OpensOnce (w'.log k) := by
  intro w w' hw hservice hlives hservice' hlives' hobeys
  have hbound : Bound w := (bound_preserved ctx hg).run initial events bound_initial fun _ _ => trivial
  obtain ⟨callback, -, hhandshake⟩ := hbound.handshake k hservice hlives
  have hw' : w' = ((w.noticed j).withService none).served ctx i := next_eq ctx w hw _
  rw [hw'] at hservice' hlives' hobeys
  cases hfound : i.found with
  | none =>
    rw [World.served_missing ctx i _ hfound] at hservice'
    cases hservice'
  | some found =>
    rw [World.served_found ctx i _ found rfl hfound] at hservice' hlives' hobeys
    by_cases hheard : ((w.noticed j).withService none).Heard ctx i found
    · obtain ⟨ret, -, hfinal, -, hlog⟩ := World.connected_heard ctx i found _ hheard
      rw [hservice'] at hfinal
      split at hfinal
      · next hret =>
        obtain rfl : k = found := Option.some.inj hfinal
        have hheld : HeldOpen (w.log k ++ [World.initEntry w.callbacks]) :=
          (History.since_concat _ _).mpr (.inr ⟨hhandshake.heldOpen, show Code.init ≠ .closeHal by decide⟩)
        refine hobeys (w.log k ++ [World.initEntry w.callbacks]) (World.openEntry w.callbacks ret) [] ?_
          ((opens_openEntry _ _).mpr hret) hheld
        rw [hlog, List.append_assoc]
        rfl
      · cases hfinal
    · obtain ⟨hfinal, -, hrefused⟩ := World.connected_unheard ctx i found _ hheard
      obtain rfl : found = k := Option.some.inj (hfinal.symm.trans hservice')
      rw [hrefused hlives'] at hg
      cases hg

end Client
end GoodixFingerprint
