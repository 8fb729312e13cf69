import GoodixFingerprint.Daemon.Session

/-! Callers without the permission, and the session of those who have it.

The daemon takes transactions from everybody, and the deaths of strangers' binders with
their notices. `Undisturbed` compares each prefix of such a run with the same prefix
less everything the strangers did. The stub lets them reach three methods only; what
disturbs is a null test callback, which crashes the daemon, and a notice that does not
find its binder in the test slot. -/
namespace GoodixFingerprint
open Binder

namespace Daemon
variable {β : Type} [DecidableEq β]
open BnGoodixFingerprintDaemon

inductive Arrival (β : Type) where
  | transaction (ctx : Context β) (hal : Hal) (code : UInt32) (data : Parcel β)
  /-- The death of a stranger's binder. -/
  | died (b : β)
  | notice (who : β) (hal : Hal)

/-- Not from a caller with the permission. -/
def Arrival.strange : Arrival β → Bool
  | .transaction ctx _ _ _ => !checkPermission ctx halFingerprintPermission
  | _ => true

def receive (p : Process (GoodixFingerprintDaemonProxy β)) :
    Arrival β → Process (GoodixFingerprintDaemonProxy β)
  | .transaction ctx hal code data => (p.transact (goodixFingerprintDaemonProxy hal) ctx code data).2
  | .died b => next p (.died b)
  | .notice who hal => next p (.notice who hal)

def arrivals : Machine (Process (GoodixFingerprintDaemonProxy β)) (Arrival β) where
  next := receive
  Enabled p
    | .notice who hal => Enabled p (.notice who hal)
    | _ => True

instance (p : Process (GoodixFingerprintDaemonProxy β)) (e : Arrival β) : Decidable (arrivals.Enabled p e) :=
  match e with
  | .transaction .. => isTrue trivial
  | .died _ => isTrue trivial
  | .notice who _ => inferInstanceAs (Decidable (0 < p.state.links.pending who))

/-- What a run shows: nothing if the process is dead, else the main callback, whether a
device is open, and the calls that started and ended devices. -/
def observed (p : Process (GoodixFingerprintDaemonProxy β)) : Option (Option β × Bool × List Effect) :=
  if p.alive then some (p.state.mCallback, p.state.mDevice.isSome, p.state.effects.filter Effect.isSession)
  else none

/-- Taking the strangers out of the run changes what it shows at no point. -/
def Undisturbed (p : Process (GoodixFingerprintDaemonProxy β)) (events : List (Arrival β)) : Prop :=
  ∀ seen, seen <+: events →
    observed (arrivals.run p seen) = observed (arrivals.run p (seen.filter fun e => !e.strange))

/-- A request for `testInit` without a binder. -/
def NullTestInit (code : UInt32) (data : Parcel β) : Prop :=
  Code.ofNumber code = some .testInit ∧ (data.checkInterface descriptor).1 = true ∧
    (data.checkInterface descriptor).2.readStrongBinder.1 = none

/-- A step with which no stranger disturbs the session. -/
def Harmless (p : Process (GoodixFingerprintDaemonProxy β)) : Arrival β → Prop
  | .transaction ctx _ code data => p.alive = true →
      checkPermission ctx halFingerprintPermission = false → ¬ NullTestInit code data
  | .died _ => True
  | .notice who _ => p.alive = true → p.state.mTestCallback = some who

/-! ### Step by step -/

/-- The two processes live or are dead alike, in the same session. -/
def Alike (p q : Process (GoodixFingerprintDaemonProxy β)) : Prop :=
  p.alive = q.alive ∧ p.state.session = q.state.session

omit [DecidableEq β] in
theorem Alike.observed {p q : Process (GoodixFingerprintDaemonProxy β)} (h : Alike p q) :
    observed p = observed q := by
  obtain ⟨halive, hsession⟩ := h
  simp only [GoodixFingerprintDaemonProxy.session, Session.mk.injEq] at hsession
  obtain ⟨hdevice, hcallback, -, hcalls⟩ := hsession
  unfold Daemon.observed
  rw [halive, hdevice, hcallback, hcalls]

/-- The same call does the same to both. -/
theorem Alike.next {p q : Process (GoodixFingerprintDaemonProxy β)} (h : Alike p q) (r : Request β)
    (hal : Hal) : Alike (next p (.call r hal)) (next q (.call r hal)) := by
  obtain ⟨halive, hsession⟩ := h
  cases hp : p.alive with
  | false =>
    rw [next_dead p hp, next_dead q (by rw [← halive, hp])]
    exact ⟨halive, hsession⟩
  | true =>
    have hq : q.alive = true := by rw [← halive, hp]
    cases hcall : (goodixFingerprintDaemonProxy hal).call r p.state with
    | ok out =>
      obtain ⟨v, s⟩ := out
      obtain ⟨w, t, hcall'⟩ := GoodixFingerprintDaemonProxy.call_returns hal r _ q.state _ v hcall
      have hs := GoodixFingerprintDaemonProxy.call_changes hal r _ _ v hcall
      have ht := GoodixFingerprintDaemonProxy.call_changes hal r _ _ w hcall'
      simp only [Daemon.next, Process.invoke, hp, hq, if_true, hcall, hcall']
      refine ⟨rfl, ?_⟩
      show s.session = t.session
      rw [GoodixFingerprintDaemonProxy.session_change hs, GoodixFingerprintDaemonProxy.session_change ht,
        hsession]
    | error fault =>
      cases hcall' : (goodixFingerprintDaemonProxy hal).call r q.state with
      | ok out =>
        obtain ⟨w, t⟩ := out
        obtain ⟨v, s, hcall⟩ := GoodixFingerprintDaemonProxy.call_returns hal r _ p.state _ w hcall'
        simp_all
      | error fault' =>
        simp only [Daemon.next, Process.invoke, hp, hq, if_true, hcall, hcall']
        exact ⟨rfl, hsession⟩

/-- A transaction is nothing to the process or one call. -/
theorem receive_transaction (p : Process (GoodixFingerprintDaemonProxy β)) (ctx : Context β) (hal : Hal)
    (code : UInt32) (data : Parcel β) :
    receive p (.transaction ctx hal code data) =
      match Code.ofNumber code with
      | some c =>
        if Admits (goodixFingerprintDaemonProxy hal) ctx data c then
          next p (.call (c.decode ctx (data.checkInterface descriptor).2).1 hal)
        else p
      | none => p := by
  show (p.transact (goodixFingerprintDaemonProxy hal) ctx code data).2 = _
  cases hc : Code.ofNumber code with
  | none => exact Process.transact_unknown _ ctx code data p hc
  | some c =>
    rw [Process.transact_known _ ctx code data p c hc]
    by_cases hA : Admits (goodixFingerprintDaemonProxy hal) ctx data c = true
    · simp only [if_pos hA, Process.invoked_snd]
      rfl
    · simp only [if_neg hA]

/-- A transaction that the proxy wrote is the call it was written for. -/
theorem receive_written (p : Process (GoodixFingerprintDaemonProxy β)) (ctx : Context β) (hal : Hal)
    (r : Request β) (hr : r.Fits)
    (hperm : r.code.gated = true → checkPermission ctx halFingerprintPermission = true) :
    receive p (.transaction ctx hal r.code.number r.parcel) = next p (.call r hal) := by
  have hadmits : Process.admits (goodixFingerprintDaemonProxy (β := β) hal) ctx r.code = true := by
    unfold Process.admits
    rw [show (goodixFingerprintDaemonProxy (β := β) hal).getInterfaceDescriptor = descriptor from rfl]
    cases hg : r.code.gated
    · simp
    · simp [hperm hg]
  show (p.transact (goodixFingerprintDaemonProxy hal) ctx r.code.number r.parcel).2 = _
  rw [Process.transact_parcel, if_pos hadmits, Process.received_fits ctx r hr, Process.invoked_snd]
  rfl

/-- A call that the stub lets a stranger make. -/
theorem strange_call (p : Process (GoodixFingerprintDaemonProxy β)) (r : Request β) (hal : Hal)
    (hr : r.code.gated = false) (hnull : p.alive = true → r ≠ .testInit none) :
    Alike (next p (.call r hal)) p := by
  cases hp : p.alive with
  | false =>
    rw [next_dead p hp]
    exact ⟨rfl, rfl⟩
  | true =>
    cases hcall : (goodixFingerprintDaemonProxy hal).call r p.state with
    | ok out =>
      obtain ⟨v, s⟩ := out
      have hs := GoodixFingerprintDaemonProxy.call_changes hal r _ _ v hcall
      simp only [next, Process.invoke, hp, if_true, hcall]
      refine ⟨hp.symm, ?_⟩
      show s.session = p.state.session
      rw [GoodixFingerprintDaemonProxy.session_change hs]
      cases r <;> first | rfl | cases hr
    | error fault =>
      rcases GoodixFingerprintDaemonProxy.call_faults hal r _ fault hcall with rfl | rfl | hcode
      · cases hr
      · exact absurd rfl (hnull hp)
      · rw [hcode] at hr
        cases hr

/-- A harmless step of a stranger leaves the session as it is. -/
theorem harmless_strange (p : Process (GoodixFingerprintDaemonProxy β)) (e : Arrival β)
    (hstrange : e.strange = true) (h : Harmless p e) : Alike (receive p e) p := by
  cases e with
  | died b => exact ⟨rfl, rfl⟩
  | notice who hal =>
    cases hp : p.alive with
    | false => simp [receive, next, hp, Alike]
    | true =>
      refine ⟨by simp [receive, next, hp], ?_⟩
      show (next p (.notice who hal)).state.session = _
      rw [next_notice p hp, session_notified_test hal who _ (h hp)]
  | transaction ctx hal code data =>
    have hperm : checkPermission ctx halFingerprintPermission = false := by
      simpa [Arrival.strange] using hstrange
    rw [receive_transaction]
    cases hc : Code.ofNumber code with
    | none => exact ⟨rfl, rfl⟩
    | some c =>
      by_cases hA : Admits (goodixFingerprintDaemonProxy hal) ctx data c = true
      · simp only [if_pos hA]
        simp only [Admits, hperm, Bool.or_false, Bool.and_eq_true, Bool.not_eq_true'] at hA
        refine strange_call p _ hal (by rw [Code.decode_code]; exact hA.2) fun hp hnull => ?_
        have hcode : c = .testInit := by
          rw [← Code.decode_code ctx (data.checkInterface descriptor).2 c, hnull]
          rfl
        subst hcode
        refine h hp hperm ⟨hc, hA.1, ?_⟩
        simpa [Code.decode] using hnull
      · simp only [if_neg hA]
        exact ⟨rfl, rfl⟩

/-- A null test callback crashes the daemon. -/
theorem receive_null (p : Process (GoodixFingerprintDaemonProxy β)) (ctx : Context β) (hal : Hal)
    (code : UInt32) (data : Parcel β) (hp : p.alive = true) (h : NullTestInit code data) :
    (receive p (.transaction ctx hal code data)).alive = false := by
  obtain ⟨hc, htoken, hnull⟩ := h
  have hA : Admits (goodixFingerprintDaemonProxy hal) ctx data .testInit = true := by
    simp only [Admits, Code.gated, Bool.not_false, Bool.true_or, Bool.and_true]
    exact htoken
  have hdecode : (Code.testInit.decode ctx (data.checkInterface descriptor).2).1 = .testInit none := by
    simp only [Code.decode, hnull]
  rw [receive_transaction, hc]
  simp only [if_pos hA]
  rw [hdecode, next_testInit_none p hp]

/-- Any other step is a stranger's, and shows. -/
theorem harmful_strange (p : Process (GoodixFingerprintDaemonProxy β)) (e : Arrival β)
    (h : ¬ Harmless p e) : e.strange = true ∧ observed (receive p e) ≠ observed p := by
  cases e with
  | died b => exact absurd trivial h
  | notice who hal =>
    simp only [Harmless, Classical.not_imp] at h
    obtain ⟨hp, htest⟩ := h
    refine ⟨rfl, fun hsame => ?_⟩
    have hp' : (receive p (.notice who hal)).alive = true := by simp [receive, next, hp]
    have hcalls : (receive p (.notice who hal)).state.session.calls = p.state.session.calls := by
      simp only [observed, hp, hp', if_true, Option.some.injEq, Prod.mk.injEq] at hsame
      exact hsame.2.2
    rw [show (receive p (.notice who hal)).state = _ from next_notice p hp who hal,
      session_notified_other hal who _ htest] at hcalls
    simp at hcalls
  | transaction ctx hal code data =>
    simp only [Harmless, Classical.not_imp, not_not] at h
    obtain ⟨hp, hperm, hnull⟩ := h
    refine ⟨by simp [Arrival.strange, hperm], ?_⟩
    simp [observed, hp, receive_null p ctx hal code data hp hnull]

/-- A privileged transaction does the same to both. -/
theorem Alike.receive {p q : Process (GoodixFingerprintDaemonProxy β)} (h : Alike p q) (e : Arrival β)
    (he : e.strange = false) : Alike (receive p e) (receive q e) := by
  cases e with
  | died | notice => cases he
  | transaction ctx hal code data =>
    rw [receive_transaction, receive_transaction]
    cases Code.ofNumber code with
    | none => exact h
    | some c =>
      by_cases hA : Admits (goodixFingerprintDaemonProxy hal) ctx data c = true
      · simp only [if_pos hA]
        exact h.next _ hal
      · simp only [if_neg hA]
        exact h

/-! ### Whole runs -/

/-- Along a run of `p`, and of `q` without the strangers. -/
theorem undisturbed_from (p q : Process (GoodixFingerprintDaemonProxy β)) (h : Alike p q)
    (events : List (Arrival β)) :
    (∀ seen, seen <+: events →
      observed (arrivals.run p seen) = observed (arrivals.run q (seen.filter fun e => !e.strange))) ↔
    ∀ t ∈ arrivals.steps p events, Harmless t.1 t.2 := by
  induction events generalizing p q with
  | nil =>
    refine ⟨fun _ t ht => (by cases ht), fun _ seen hseen => ?_⟩
    rw [List.prefix_nil.mp hseen]
    exact h.observed
  | cons e rest ih =>
    have hsteps : (∀ t ∈ arrivals.steps p (e :: rest), Harmless t.1 t.2) ↔
        Harmless p e ∧ ∀ t ∈ arrivals.steps (receive p e) rest, Harmless t.1 t.2 :=
      List.forall_mem_cons
    have hseen (P : List (Arrival β) → Prop) :
        (∀ seen, seen <+: e :: rest → P seen) ↔ P [] ∧ ∀ seen, seen <+: rest → P (e :: seen) := by
      simp only [List.prefix_cons_iff, or_imp, forall_and, forall_eq, forall_exists_index, and_imp]
      exact and_congr_right fun _ => ⟨fun h seen => h _ seen rfl, by rintro h _ seen rfl; exact h seen⟩
    rw [hsteps, hseen]
    have hnil : observed (arrivals.run p []) = observed (arrivals.run q ([].filter fun e => !e.strange)) :=
      h.observed
    by_cases he : e.strange = true
    · simp only [List.filter_cons, he, Bool.not_true, Bool.false_eq_true, if_false]
      by_cases hharm : Harmless p e
      · have hsame := harmless_strange p e he hharm
        have hih := ih (receive p e) q ⟨hsame.1.trans h.1, hsame.2.trans h.2⟩
        exact ⟨fun hobs => ⟨hharm, hih.mp hobs.2⟩, fun hall => ⟨hnil, hih.mpr hall.2⟩⟩
      · refine ⟨fun hobs => ?_, fun hall => absurd hall.1 hharm⟩
        have hfirst := hobs.2 [] List.nil_prefix
        exact absurd (hfirst.trans h.observed.symm) (harmful_strange p e hharm).2
    · have hfair : e.strange = false := by simpa using he
      have hharm : Harmless p e := by
        by_contra hharm
        exact he (harmful_strange p e hharm).1
      simp only [List.filter_cons, hfair, Bool.not_false, if_true]
      have hih := ih (receive p e) (receive q e) (h.receive e hfair)
      exact ⟨fun hobs => ⟨hharm, hih.mp hobs.2⟩, fun hall => ⟨hnil, hih.mpr hall.2⟩⟩

/-- **Strangers leave the session alone exactly in harmless runs**: no null test callback,
and every notice finds its binder in the test slot. -/
theorem undisturbed_iff (events : List (Arrival β)) :
    Undisturbed initial events ↔ ∀ t ∈ arrivals.steps initial events, Harmless t.1 t.2 :=
  undisturbed_from initial initial ⟨rfl, rfl⟩ events

/-- A request sent through the proxy, with the permission or without. -/
def sent (granted : Bool) (r : Request Nat) : Arrival Nat :=
  .transaction (.granting granted) .succeeding r.code.number r.parcel

/-- A stranger registers its binder twice for tests while a client has the device open, and dies. -/
def strangerTwice : List (Arrival Nat) :=
  [sent true (.init (some 0)), sent true .openHal, sent false (.testInit (some 1)),
    sent false (.testInit (some 1)), .died 1, .notice 1 .succeeding, .notice 1 .succeeding]

/-- What the daemon makes of it. -/
theorem stranger_twice_steps :
    arrivals.steps initial strangerTwice =
      (strangerTwice.zip (machine.steps initial testCallbackTwice)).map fun t => (t.2.1, t.1) := by
  have hsent (granted : Bool) (r : Request Nat) (hr : r.Fits) (hperm : r.code.gated = true → granted = true)
      (p : Process (GoodixFingerprintDaemonProxy Nat)) :
      arrivals.next p (sent granted r) = next p (.call r .succeeding) :=
    receive_written p _ _ r hr hperm
  simp only [strangerTwice, testCallbackTwice, Machine.steps,
    hsent true (.init (some 0)) trivial (fun _ => rfl), hsent true .openHal trivial (fun _ => rfl),
    hsent false (.testInit (some 1)) trivial (fun h => h), List.zip_cons_cons, List.map_cons,
    List.zip_nil_left, List.map_nil]
  rfl

/-- The second notice of the stranger's death closes the client's device. -/
theorem stranger_twice_disturbs :
    arrivals.Admits initial strangerTwice ∧ ¬ Undisturbed initial strangerTwice := by
  constructor
  · unfold Machine.Admits
    rw [stranger_twice_steps]
    decide
  · intro hsame
    have hharmless := (undisturbed_from initial initial ⟨rfl, rfl⟩ strangerTwice).mp hsame
    rw [stranger_twice_steps] at hharmless
    have hlast := hharmless (machine.run initial (testCallbackTwice.take 6), .notice 1 .succeeding)
      (List.mem_of_getElem? (i := 6) rfl)
    exact absurd (hlast (by decide)) (by decide)

end Daemon
end GoodixFingerprint
