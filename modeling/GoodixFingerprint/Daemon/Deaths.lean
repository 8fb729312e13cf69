import GoodixFingerprint.Daemon.Notices
import Mathlib.Data.List.Induction

/-! No death is missed.

A binder in a slot has at least as many links as slots that hold it, and once it is dead
at least as many notices on the way, since each step that takes a link or a notice away
also empties a slot. So a dead binder has left both slots when its last notice is
delivered; and a main callback does not leave its slot before the device is closed. -/
namespace GoodixFingerprint
open Binder

namespace Daemon
variable {β : Type} [DecidableEq β]

/-- Each slot that holds a binder has a link to it, or a notice of its death on the way. -/
def Watched (s : GoodixFingerprintDaemonProxy β) : Prop := ∀ b, holders s b ≤ s.links.owed b

/-- The binders registered are alive. -/
def RegistersLive (p : Process (GoodixFingerprintDaemonProxy β)) : Event β → Prop
  | .call (.init (some b)) _ | .call (.testInit (some b)) _ => p.state.links.sent b = false
  | _ => True

instance (p : Process (GoodixFingerprintDaemonProxy β)) (e : Event β) : Decidable (RegistersLive p e) :=
  match e with
  | .call (.init (some b)) _ | .call (.testInit (some b)) _ => instDecidableEqBool (p.state.links.sent b) false
  | .call (.init none) _ | .call (.testInit none) _ | .call (.enroll ..) _ | .call .preEnroll _
  | .call .postEnroll _ | .call .stopEnrollment _ | .call (.authenticate ..) _ | .call .stopAuthentication _
  | .call (.remove ..) _ | .call .getAuthenticatorId _ | .call (.setActiveGroup ..) _ | .call (.setSafeClass _) _
  | .call (.navigate _) _ | .call .stopNavigation _ | .call (.enableFingerprintModule _) _
  | .call .cameraCapture _ | .call .stopCameraCapture _ | .call (.enableFfFeature _) _ | .call (.testCmd ..) _
  | .call .screenOn _ | .call .screenOff _ | .call .startHbd _ | .call .openHal _ | .call .closeHal _
  | .died _ | .notice _ _ => isTrue trivial

/-- Giving `b` a slot links it once more, and takes at most the link of the binder it displaces. -/
theorem watched_relinked (links : DeathLinks β) (slot : Option β) (b : β) (others : β → Nat)
    (h : ∀ c, (if slot = some c then 1 else 0) + others c ≤ links.owed c) (hb : links.sent b = false) (c : β) :
    (if some b = some c then 1 else 0) + others c ≤ (GoodixFingerprintDaemonProxy.relinked slot b links).owed c := by
  have hc := h c
  unfold GoodixFingerprintDaemonProxy.relinked
  cases slot with
  | none =>
    rw [DeathLinks.owed_linkToDeath _ _ _ hb]
    simp only [Option.some.injEq, eq_comm (a := c)]
    omega
  | some old =>
    by_cases hold : b = old
    · subst hold
      simp only [if_true, DeathLinks.owed_linkToDeath _ _ _ hb]
      omega
    · have hunlinked := DeathLinks.owed_unlinkToDeath links old c
      simp only [if_neg hold, DeathLinks.owed_linkToDeath _ _ c ((links.sent_unlinkToDeath old b).trans hb)]
      simp only [Option.some.injEq, eq_comm (a := c)] at hc hunlinked ⊢
      omega

/-- A notice empties a slot of its binder, if one holds it. -/
theorem watched_notified (hal : Hal) (who : β) (s : GoodixFingerprintDaemonProxy β) (h : Watched s) :
    Watched (notified hal who s) := by
  intro b
  have hb := h b
  have hdelivered := s.links.owed_deliver who b
  rw [notified_links]
  by_cases htest : s.mTestCallback = some who
  · rw [notified_test hal who s htest]
    simp only [holders, htest, Option.some.injEq, eq_comm (a := b)] at hb hdelivered ⊢
    simp only [reduceCtorEq, if_false]
    omega
  · rw [notified_other hal who s htest]
    by_cases hbwho : b = who
    · subst hbwho
      by_cases hmain : s.mCallback = some b
      · simp [holders, hmain, htest]
      · simp [holders, hmain, htest]
    · by_cases hmain : s.mCallback = some who
      · simp only [holders, hmain, Option.some.injEq, Ne.symm hbwho, hbwho, if_false] at hb hdelivered ⊢
        simp only [if_true, reduceCtorEq, if_false]
        omega
      · simp only [holders, hmain, hbwho, if_false] at hb hdelivered ⊢
        omega

theorem watched_next (p : Process (GoodixFingerprintDaemonProxy β)) (e : Event β) (hlive : RegistersLive p e)
    (h : Watched p.state) : Watched (next p e).state := by
  cases e with
  | call r hal =>
    rcases next_call p r hal with hsame | ⟨-, hchange⟩
    · rw [hsame]
      exact h
    · revert hchange
      generalize (next p (.call r hal)).state = s'
      intro hchange
      cases hchange with
      | registered b => exact watched_relinked _ _ b _ h hlive
      | testRegistered b =>
        intro c
        have hswapped := watched_relinked p.state.links p.state.mTestCallback b
          (fun c => if p.state.mCallback = some c then 1 else 0)
          (fun c => by rw [Nat.add_comm]; exact h c) hlive c
        rw [Nat.add_comm] at hswapped
        exact hswapped
      | closed =>
        rw [GoodixFingerprintDaemonProxy.closed_eq]
        exact h
      | opened | forwarded | refused => exact h
  | died b => exact fun c => Nat.le_trans (h c) (p.state.links.owed_sendObituary b c)
  | notice who hal =>
    cases hp : p.alive with
    | false => simpa [next, hp] using h
    | true =>
      rw [next_notice p hp]
      exact watched_notified hal who p.state h

theorem watched_initial : Watched (initial (β := β)).state := fun _ => Nat.zero_le _

theorem watched_run (events : List (Event β))
    (hlive : ∀ t ∈ machine.steps initial events, RegistersLive t.1 t.2) :
    Watched (machine.run initial events).state :=
  machine.invariant_run (C := RegistersLive) watched_next initial events watched_initial hlive

/-- A spent binder is in neither slot. -/
theorem Watched.not_held {s : GoodixFingerprintDaemonProxy β} (h : Watched s) {b : β} (hspent : s.links.Spent b) :
    s.mCallback ≠ some b ∧ s.mTestCallback ≠ some b := by
  have hb := h b
  rw [hspent.owed, holders] at hb
  constructor
  · intro hmain
    rw [if_pos hmain] at hb
    omega
  · intro htest
    rw [if_pos htest] at hb
    omega

/-! ### The device of a dead main callback -/

/-- One of the events has closed the device: `closeHal` ran in it, on what `mDevice` held when it came. -/
def ClosedSince (p : Process (GoodixFingerprintDaemonProxy β)) (events : List (Event β)) : Prop :=
  ∃ sofar who hal later, events = sofar ++ .notice who hal :: later ∧
    (machine.run p sofar).state.effects ++
        GoodixFingerprintDaemonProxy.closing hal (machine.run p sofar).state.mDevice <+:
      (machine.run p events).state.effects

/-- A call of `init`. -/
def Event.IsInit : Event β → Prop
  | .call (.init _) _ => True
  | _ => False

theorem ClosedSince.concat {p : Process (GoodixFingerprintDaemonProxy β)} {events : List (Event β)}
    (h : ClosedSince p events) (e : Event β) : ClosedSince p (events ++ [e]) := by
  obtain ⟨sofar, who, hal, later, hevents, hclosed⟩ := h
  refine ⟨sofar, who, hal, later ++ [e], by rw [hevents, List.append_assoc]; rfl, ?_⟩
  rw [machine.run_append p events]
  exact hclosed.trans (effects_run _ [e])

/-- Still in its slot, or gone with the device closed. -/
def LeavesClosed (p : Process (GoodixFingerprintDaemonProxy β)) (b : β) (events : List (Event β)) : Prop :=
  (machine.run p events).state.mCallback = some b ∨
    (machine.run p events).state.mCallback = none ∧ ClosedSince p events

theorem leavesClosed_notice (p : Process (GoodixFingerprintDaemonProxy β)) (b : β) (events : List (Event β))
    (hp : (machine.run p events).alive = true) (who : β) (hal : Hal) (h : LeavesClosed p b events) :
    LeavesClosed p b (events ++ [.notice who hal]) := by
  have hnext : (machine.run p (events ++ [.notice who hal])).state = notified hal who (machine.run p events).state := by
    rw [machine.run_append]
    exact next_notice _ hp who hal
  unfold LeavesClosed
  by_cases htest : (machine.run p events).state.mTestCallback = some who
  · rw [hnext, notified_test hal who _ htest]
    exact h.imp_right fun hgone => ⟨hgone.1, hgone.2.concat _⟩
  · have heffects : (machine.run p (events ++ [.notice who hal])).state.effects = (machine.run p events).state.effects ++
        GoodixFingerprintDaemonProxy.closing hal (machine.run p events).state.mDevice := by
      rw [hnext, notified_other hal who _ htest]
    have hclosed : ClosedSince p (events ++ [.notice who hal]) :=
      ⟨events, who, hal, [], rfl, heffects ▸ List.prefix_rfl⟩
    rw [hnext, notified_other hal who _ htest]
    rcases h with hheld | hgone
    · by_cases hwho : b = who
      · exact .inr ⟨by simp [hheld, hwho], hclosed⟩
      · exact .inl (by simp [hheld, hwho])
    · exact .inr ⟨by simp [hgone.1], hclosed⟩

/-- Only `init` and a notice that closes the device touch the main slot. -/
theorem leavesClosed_concat (p : Process (GoodixFingerprintDaemonProxy β)) (b : β) (events : List (Event β))
    (e : Event β) (he : ¬ e.IsInit) (h : LeavesClosed p b events) : LeavesClosed p b (events ++ [e]) := by
  have hkept (hslot : (next (machine.run p events) e).state.mCallback = (machine.run p events).state.mCallback) :
      LeavesClosed p b (events ++ [e]) := by
    have hrun : (machine.run p (events ++ [e])).state.mCallback = (machine.run p events).state.mCallback := by
      rw [machine.run_append]
      exact hslot
    rw [LeavesClosed, hrun]
    exact h.imp_right fun hgone => ⟨hgone.1, hgone.2.concat e⟩
  cases e with
  | call r hal =>
    apply hkept
    rcases next_call (machine.run p events) r hal with hsame | ⟨-, hchange⟩
    · rw [hsame]
    · revert hchange
      generalize (next (machine.run p events) (.call r hal)).state = s'
      intro hchange
      cases hchange with
      | registered => exact absurd trivial he
      | closed => rw [GoodixFingerprintDaemonProxy.closed_eq]
      | testRegistered | opened | forwarded | refused => rfl
  | died c => exact hkept rfl
  | notice who hal =>
    cases hp : (machine.run p events).alive with
    | false => exact hkept (by simp [next, hp])
    | true => exact leavesClosed_notice p b events hp who hal h

theorem leavesClosed_run (p : Process (GoodixFingerprintDaemonProxy β)) (b : β) (events : List (Event β))
    (hinit : ∀ e ∈ events, ¬ e.IsInit) (hmain : p.state.mCallback = some b) : LeavesClosed p b events := by
  induction events using List.reverseRecOn with
  | nil => exact .inl hmain
  | append_singleton sofar e ih =>
    have hsofar := ih fun e' he' => hinit e' (List.mem_append_left _ he')
    exact leavesClosed_concat p b sofar e (hinit e (List.mem_append_right _ (List.mem_singleton_self e))) hsofar

/-- **No death is missed**: in every state a run of registrations of living binders reaches, a
living binder has a link for each slot that holds it, and a spent one is in neither slot; if it
died as the main callback and `init` was not called since, the device has been closed. -/
theorem deaths_not_missed (events : List (Event β))
    (hlive : ∀ t ∈ machine.steps initial events, RegistersLive t.1 t.2) (b : β) :
    let s := (machine.run initial events).state
    (s.links.sent b = false → holders s b ≤ s.links.links b) ∧
    (s.links.Spent b → s.mCallback ≠ some b ∧ s.mTestCallback ≠ some b) ∧
    ∀ before after, events = before ++ .died b :: after → (∀ e ∈ after, ¬ e.IsInit) →
      (machine.run initial before).state.mCallback = some b → s.links.Spent b →
        s.mCallback = none ∧ ClosedSince (machine.run initial before) (.died b :: after) := by
  have hwatched := watched_run events hlive
  refine ⟨fun hsent => ?_, hwatched.not_held, ?_⟩
  · have hb := hwatched b
    rwa [DeathLinks.owed, if_neg (by rw [hsent]; simp)] at hb
  · intro before after hevents hinit hmain hspent
    have hleaves := leavesClosed_run (machine.run initial before) b (.died b :: after)
      (List.forall_mem_cons.mpr ⟨fun h => h, hinit⟩) hmain
    rw [LeavesClosed, ← machine.run_append, ← hevents] at hleaves
    exact hleaves.resolve_left (hwatched.not_held hspent).1

/-- One binder in both slots, and dead: its second notice closes the device. -/
theorem deaths_not_missed_both_slots :
    (machine.run (initial (β := Nat)) [.call (.init (some 0)) .succeeding, .call (.testInit (some 0)) .succeeding,
      .call .openHal .succeeding, .died 0, .notice 0 .succeeding, .notice 0 .succeeding]).state.mCallback = none := by
  have hmissed := deaths_not_missed (β := Nat) [.call (.init (some 0)) .succeeding,
    .call (.testInit (some 0)) .succeeding, .call .openHal .succeeding, .died 0, .notice 0 .succeeding,
    .notice 0 .succeeding] (by decide) 0
  exact (hmissed.2.2 [.call (.init (some 0)) .succeeding, .call (.testInit (some 0)) .succeeding,
    .call .openHal .succeeding] [.notice 0 .succeeding, .notice 0 .succeeding] rfl
    (by simp [Event.IsInit]) (by decide) (by decide)).1

end Daemon
end GoodixFingerprint
