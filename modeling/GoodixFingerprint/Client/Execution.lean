import GoodixFingerprint.Client.Conformance
import GoodixFingerprint.Machine.Trace

/-! What becomes of the operations that the framework asks for.

An operation may be lost, with the daemon that should have run it or for want of one. But
none is run twice, by the same incarnation or by another after a restart, none overtakes
another, and none is run that was not asked for: what the incarnations have run is one
sequence of operations, picked from those asked for, of which each has run its part. -/
namespace GoodixFingerprint
open Binder

/-- The device operations among the methods that were run. -/
def operations (log : Log) : List (Request Nat) :=
  (log.map fun e => e.request).filter fun r => r.code ∈ Client.DeviceCall.codes

theorem operations_append (log more : Log) : operations (log ++ more) = operations log ++ operations more := by
  rw [operations, List.map_append, List.filter_append]
  rfl

namespace World
variable (ctx : Context Nat)

/-- The log after a request: as it was, or with the request as it was received. -/
theorem log_asked (hal : Hal) (k : Nat) (r : Request Nat) (w : World) :
    (w.asked ctx hal k r).log k = w.log k ∨
      ∃ e : Executed (Option Nat) Nat, e.request = Process.received ctx r ∧
        (w.asked ctx hal k r).log k = w.log k ++ [e] := by
  rw [asked, log, log]
  simp only [Function.update_self, Process.asked, admits_service]
  by_cases hadmits : (!r.code.gated || ctx.granted) = true
  · rw [if_pos hadmits]
    rcases Process.invoke_traced (goodixFingerprintDaemonProxy hal) w.session (Process.received ctx r)
      (w.daemons k) with ⟨-, heq⟩ | ⟨-, -, heq⟩ | ⟨-, v, s, -, heq⟩
    · refine .inl ?_
      rw [service, heq]
    · refine .inl ?_
      rw [service, heq]
    · refine .inr ?_
      rw [service, heq]
      exact ⟨⟨_, _, v⟩, rfl, rfl⟩
  · rw [if_neg hadmits]
    exact .inl rfl

/-- The operations that an incarnation has run. -/
def ran (k : Nat) (w : World) : List (Request Nat) := operations (w.log k)

theorem ran_asked_other {j k : Nat} (h : j ≠ k) (hal : Hal) (r : Request Nat) (w : World) :
    (w.asked ctx hal k r).ran j = w.ran j := by
  rw [ran, log_asked_other ctx hal h]
  rfl

/-- What is no operation leaves no trace among them. -/
theorem ran_asked_quiet (hal : Hal) (j k : Nat) (r : Request Nat) (hr : r.code ∉ Client.DeviceCall.codes) (w : World) :
    (w.asked ctx hal k r).ran j = w.ran j := by
  by_cases hjk : j = k
  · subst hjk
    rcases log_asked ctx hal j r w with hsame | ⟨e, he, hlog⟩
    · rw [ran, hsame]
      rfl
    · have hcode : e.request.code ∉ Client.DeviceCall.codes := by
        rw [he, Process.received_code]
        exact hr
      rw [ran, hlog, operations_append]
      simp [operations, hcode, ran]
  · exact ran_asked_other ctx hjk hal r w

theorem ran_pass (k : Nat) (w : World) (xs : List Incident) : (w.pass xs).ran k = w.ran k :=
  congrArg operations (log_pass k w xs)

theorem ran_connected (i : Interleaving) (j k : Nat) (w : World) : (w.connected ctx i k).ran j = w.ran j := by
  have hkept : (w.connected ctx i k).ran j =
      ((((w.linked i k).greeting i).introduced ctx i k (w.linked i k).callbacks).asked ctx i.hal k .openHal).ran j :=
    congrArg operations (log_kept j _ _)
  rw [hkept, ran_asked_quiet ctx i.hal j k .openHal (by simp [Request.code, Client.DeviceCall.codes]), introduced,
    ran_pass, ran_asked_quiet ctx i.hal j k _ (by simp [Request.code, Client.DeviceCall.codes])]
  exact congrArg operations (log_greeting i j k w)

theorem ran_served (i : Interleaving) (j : Nat) (w : World) : (w.served ctx i).ran j = w.ran j := by
  unfold served
  split
  · exact ran_connected ctx i j _ w
  · rfl

theorem ran_closed (i : Interleaving) (dev j : Nat) (w : World) : (w.closed ctx i dev).ran j = w.ran j := by
  unfold closed
  split
  · exact ran_served ctx i j w
  · next k _ =>
    show (((w.served ctx i).pass i.beforeCall).asked ctx i.hal k .closeHal).ran j = _
    rw [ran_asked_quiet ctx i.hal j k .closeHal (by simp [Request.code, Client.DeviceCall.codes]), ran_pass]
    exact ran_served ctx i j w

end World

namespace Client
variable (ctx : Context Nat)

/-- The operation that the framework asks for in a step, as a daemon receives it. -/
def issued : Event → Option (Request Nat)
  | .operation call _ =>
    match call.request with
    | .ok r => some (Process.received ctx r)
    | .error _ => none
  | _ => none

/-- A step runs nothing, or the operation asked for in it, once. -/
theorem ran_operated (i : Interleaving) (r : Request Nat) (hr : r.code ∈ DeviceCall.codes) (w : World) :
    (∀ j, (w.operated ctx i r).ran j = w.ran j) ∨
      ∃ k, ∀ j, (w.operated ctx i r).ran j = w.ran j ++ if j = k then [Process.received ctx r] else [] := by
  unfold World.operated
  split
  · exact .inl fun j => World.ran_served ctx i j w
  · next k _ =>
    have hbefore (j : Nat) : ((w.served ctx i).pass i.beforeCall).ran j = w.ran j := by
      rw [World.ran_pass, World.ran_served]
    by_cases hwritable : r.Writable
    case neg =>
      rw [if_neg hwritable]
      exact .inl hbefore
    rw [if_pos hwritable]
    rcases World.log_asked ctx i.hal k r ((w.served ctx i).pass i.beforeCall) with hsame | ⟨e, he, hlog⟩
    · refine .inl fun j => ?_
      by_cases hjk : j = k
      · subst hjk
        rw [World.ran, hsame]
        exact hbefore j
      · rw [World.ran_asked_other ctx hjk]
        exact hbefore j
    · refine .inr ⟨k, fun j => ?_⟩
      by_cases hjk : j = k
      · subst hjk
        have hcode : (Process.received ctx r).code ∈ DeviceCall.codes := by
          rw [Process.received_code]
          exact hr
        rw [World.ran, hlog, operations_append, ← hbefore j, if_pos rfl]
        simp [operations, hcode, he, World.ran]
      · rw [World.ran_asked_other ctx hjk, if_neg hjk, List.append_nil]
        exact hbefore j

theorem ran_next (w : World) (e : Event) :
    (∀ j, (next ctx w e).ran j = w.ran j) ∨
      ∃ k r, issued ctx e = some r ∧ ∀ j, (next ctx w e).ran j = w.ran j ++ if j = k then [r] else [] := by
  cases hw : w.crashed with
  | true =>
    exact .inl (next_crashed ctx (I := fun v => ∀ j, v.ran j = w.ran j) hw (fun _ => rfl)
      (fun x j => World.ran_pass j w [x]) e)
  | false =>
    rw [next_eq ctx w hw]
    match e with
    | .incident x => exact .inl fun j => World.ran_pass j w [x]
    | .fingerprintOpen true i => exact .inl fun j => World.ran_served ctx i j w.allocate
    | .fingerprintOpen false _ => exact .inl fun _ => rfl
    | .fingerprintClose (some dev) i => exact .inl fun j => World.ran_closed ctx i dev j w
    | .fingerprintClose none _ => exact .inl fun _ => rfl
    | .setNotify dev notify => exact .inl fun _ => rfl
    | .binderDied k i => exact .inl fun j => World.ran_served ctx i j _
    | .message n =>
      exact .inl (World.handled_preserves (I := fun v => ∀ j, v.ran j = w.ran j) (fun _ => rfl) (fun _ => rfl)
        (fun _ _ _ => rfl) n)
    | .operation call i =>
      simp only [stepped, World.performed, issued]
      cases hrequest : call.request with
      | error fault => exact .inl fun _ => rfl
      | ok r =>
        rcases ran_operated ctx i r (call.request_code r hrequest) w with hsame | ⟨k, hmore⟩
        · exact .inl hsame
        · exact .inr ⟨k, _, rfl, hmore⟩

/-- The runs of operations are one sequence picked from those asked for, each incarnation having its part. -/
def Picked (asked : List (Request Nat)) (w : World) : Prop :=
  ∃ trace : List (Nat × Request Nat), (trace.map Prod.snd).Sublist asked ∧
    ∀ k, w.ran k = (trace.filter fun t => t.1 = k).map Prod.snd

/-- **Operations are run at most once and in order**: whatever the client and the daemons meet, what the
incarnations have run is picked from what the framework asked for, without repetition and in its order. -/
theorem operations_at_most_once (events : List Event) :
    Picked (events.filterMap (issued ctx)) ((system ctx).run initial events) := by
  have hrun := (system ctx).records_run (R := fun h w => Picked ((h.map Prod.snd).filterMap (issued ctx)) w)
    (fun h w e hpicked => ?_) [] initial events ⟨[], List.Sublist.slnil, fun _ => rfl⟩
  · have hevents : ((system ctx).steps initial events).map Prod.snd = events := (system ctx).steps_events initial events
    rw [List.nil_append, hevents] at hrun
    exact hrun
  · obtain ⟨trace, hsub, htrace⟩ := hpicked
    rw [List.map_append, List.filterMap_append]
    rcases ran_next ctx w e with hsame | ⟨k, r, hissued, hmore⟩
    · refine ⟨trace, hsub.trans (List.sublist_append_left _ _), fun j => ?_⟩
      rw [← htrace j]
      exact hsame j
    · refine ⟨trace ++ [(k, r)], ?_, fun j => ?_⟩
      · rw [List.map_append]
        refine hsub.append ?_
        simp [hissued]
      · rw [show (system ctx).next w e = next ctx w e from rfl, hmore j, htrace j, List.filter_append, List.map_append]
        by_cases hjk : j = k
        · simp [hjk]
        · simp [hjk, Ne.symm hjk]

end Client
end GoodixFingerprint
