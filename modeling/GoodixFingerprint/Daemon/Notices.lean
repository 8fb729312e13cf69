import GoodixFingerprint.Daemon.Run

/-! Death notices and the two callback slots.

`binderDied` asks only whether the dead binder is the test callback; whatever else it
is, the device is closed. A notice that is not the main callback's is therefore
harmless exactly when it is the test callback's. Notices that are neither exist only
because links are added without asking whether the binder is linked already, or
because a slot is given away while the notice of its binder is on the way: `Tidy`
runs, which do neither, have none. -/
namespace GoodixFingerprint
open Binder

/-- A call of `gf_hal_exit`. -/
def Effect.isExit : Effect → Bool
  | called call _ => call.isExit
  | _ => false

namespace Daemon
variable {β : Type} [DecidableEq β]

/-- Between the two states the device and the main callback are kept and `gf_hal_exit` is not called. -/
def Spared (s s' : GoodixFingerprintDaemonProxy β) : Prop :=
  s'.mDevice = s.mDevice ∧ s'.mCallback = s.mCallback ∧
    s'.effects.filter Effect.isExit = s.effects.filter Effect.isExit

open GoodixFingerprintDaemonProxy in
/-- Closing always calls `gf_hal_exit`. -/
theorem exits_closing (hal : Hal) (dev : Option Device) :
    (closing hal dev).filter Effect.isExit = [.called (.exit dev) (hal.error (.exit dev))] := by
  cases dev <;> rfl

/-- A notice is harmless exactly when it is the test callback's. -/
theorem spared_iff (hal : Hal) (who : β) (s : GoodixFingerprintDaemonProxy β) :
    Spared s (notified hal who s) ↔ s.mTestCallback = some who := by
  constructor
  · intro h
    obtain ⟨-, -, hexits⟩ := h
    by_contra h
    rw [notified_other hal who s h, List.filter_append, exits_closing] at hexits
    simp at hexits
  · intro h
    rw [notified_test hal who s h]
    exact ⟨rfl, rfl, rfl⟩

/-! ### Tidy runs -/

/-- How many of the two slots hold a binder. -/
def holders (s : GoodixFingerprintDaemonProxy β) (b : β) : Nat :=
  (if s.mCallback = some b then 1 else 0) + if s.mTestCallback = some b then 1 else 0

/-- A slot takes `b` tidily if it holds another binder, with no notice of that one on the way. -/
def TidySlot (s : GoodixFingerprintDaemonProxy β) (slot : Option β) (b : β) : Prop :=
  ∀ old ∈ slot, old ≠ b ∧ s.links.pending old = 0

/-- No registration repeats the slot's binder or displaces a dead one before its notice. -/
def Tidy (p : Process (GoodixFingerprintDaemonProxy β)) : Event β → Prop
  | .call (.init (some b)) _ => TidySlot p.state p.state.mCallback b
  | .call (.testInit (some b)) _ => TidySlot p.state p.state.mTestCallback b
  | _ => True

instance (p : Process (GoodixFingerprintDaemonProxy β)) (e : Event β) : Decidable (Tidy p e) := by
  unfold Tidy TidySlot
  split <;> infer_instance

/-- Every link and every notice on the way belongs to a slot. -/
def Backed (s : GoodixFingerprintDaemonProxy β) : Prop := s.links.Backed (holders s)

/-- Giving `b` a slot of its own moves one holder. -/
theorem backed_relinked (links : DeathLinks β) (slot : Option β) (b : β) (others : β → Nat)
    (h : links.Backed fun c => (if slot = some c then 1 else 0) + others c)
    (htidy : ∀ old ∈ slot, old ≠ b ∧ links.pending old = 0) :
    (GoodixFingerprintDaemonProxy.relinked slot b links).Backed
      fun c => (if some b = some c then 1 else 0) + others c := by
  unfold GoodixFingerprintDaemonProxy.relinked
  cases slot with
  | none =>
    refine (DeathLinks.backed_linkToDeath h b).mono fun c => ?_
    by_cases hc : c = b
    · subst hc; simp [Nat.add_comm]
    · simp [Function.update_of_ne hc]
  | some old =>
    obtain ⟨hne, hpending⟩ := htidy old rfl
    simp only [if_neg (Ne.symm hne)]
    refine (DeathLinks.backed_linkToDeath (DeathLinks.backed_unlinkToDeath h old hpending) b).mono
      fun c => ?_
    by_cases hc : c = b
    · subst hc
      simp [Function.update_of_ne (Ne.symm hne), hne, Nat.add_comm]
    · rw [Function.update_of_ne hc]
      by_cases hold : c = old
      · subst hold; simp
      · simp [Function.update_of_ne hold, Ne.symm hold]

/-- In a backed state a pending notice is one of a slot's, and clears it. -/
theorem holders_notified (hal : Hal) (who : β) (s : GoodixFingerprintDaemonProxy β) (h : Backed s)
    (hpending : 0 < s.links.pending who) (c : β) :
    Function.update (holders s) who (holders s who - 1) c ≤ holders (notified hal who s) c := by
  have hheld := h.count_le who
  by_cases htest : s.mTestCallback = some who
  · rw [notified_test hal who s htest]
    by_cases hc : c = who
    · subst hc
      simp [holders, htest]
    · simp [holders, htest, Function.update_of_ne hc, Ne.symm hc]
  · have hmain : s.mCallback = some who := by
      by_contra hmain
      rw [holders, if_neg hmain, if_neg htest] at hheld
      omega
    rw [notified_other hal who s htest]
    by_cases hc : c = who
    · subst hc
      simp [holders, hmain, htest]
    · simp [holders, hmain, Function.update_of_ne hc, Ne.symm hc]

theorem backed_next (p : Process (GoodixFingerprintDaemonProxy β)) (e : Event β)
    (htidy : Tidy p e) (hen : Enabled p e) (h : Backed p.state) : Backed (next p e).state := by
  cases e with
  | call r hal =>
    rcases next_call p r hal with hsame | ⟨-, hchange⟩
    · rw [hsame]; exact h
    · revert hchange
      generalize (next p (.call r hal)).state = s'
      intro hchange
      cases hchange with
      | registered b => exact backed_relinked _ _ b _ h htidy
      | testRegistered b =>
        have hswap : p.state.links.Backed fun c =>
            (if p.state.mTestCallback = some c then 1 else 0) +
              if p.state.mCallback = some c then 1 else 0 :=
          h.mono fun c => Nat.le_of_eq (Nat.add_comm _ _)
        exact (backed_relinked _ _ b _ hswap htidy).mono fun c => Nat.le_of_eq (Nat.add_comm _ _)
      | closed => rw [GoodixFingerprintDaemonProxy.closed_eq]; exact h
      | opened | forwarded | refused => exact h
  | died b => exact DeathLinks.backed_sendObituary h b
  | notice who hal =>
    cases hp : p.alive with
    | false => simpa [next, hp] using h
    | true =>
      rw [next_notice p hp]
      unfold Backed
      rw [notified_links]
      exact (DeathLinks.backed_deliver h who hen).mono (holders_notified hal who p.state h hen)

theorem backed_initial : Backed (initial (β := β)).state :=
  ⟨fun _ _ => rfl, fun _ => Nat.zero_le _⟩

/-! ### Whole runs -/

/-- In a run from the start, every notice that is not for the main callback is harmless. -/
def NoticesSpare (events : List (Event β)) : Prop :=
  ∀ t ∈ machine.steps initial events, ∀ who hal, t.2 = .notice who hal → t.1.alive = true →
    t.1.state.mCallback ≠ some who → Spared t.1.state (next t.1 t.2).state

/-- Every notice that is delivered finds its binder in a slot. -/
def NoticesHeld (events : List (Event β)) : Prop :=
  ∀ t ∈ machine.steps initial events, ∀ who hal, t.2 = .notice who hal → t.1.alive = true →
    t.1.state.mCallback = some who ∨ t.1.state.mTestCallback = some who

/-- In a tidy run every notice is a slot's. -/
theorem notices_held (events : List (Event β)) (h : machine.Admits initial events)
    (htidy : ∀ t ∈ machine.steps initial events, Tidy t.1 t.2) : NoticesHeld events := by
  intro t ht who hal he hp
  have hbacked := machine.invariant_steps (C := fun p e => Tidy p e ∧ Enabled p e)
    (I := fun p => Backed p.state) (fun p e hC hI => backed_next p e hC.1 hC.2 hI) initial events
    backed_initial (fun u hu => ⟨htidy u hu, h u hu⟩) t ht
  have hpending : 0 < t.1.state.links.pending who := by
    have hen := h t ht
    rw [he] at hen
    exact hen
  have hcount := hbacked.count_le who
  unfold holders at hcount
  by_contra hnone
  rw [not_or] at hnone
  rw [if_neg hnone.1, if_neg hnone.2] at hcount
  omega

/-- **Notices are harmless exactly when they find their binder in a slot**, as they do in
every tidy run. -/
theorem notices_spare_iff (events : List (Event β)) (h : machine.Admits initial events) :
    (NoticesSpare events ↔ NoticesHeld events) ∧
    ((∀ t ∈ machine.steps initial events, Tidy t.1 t.2) → NoticesSpare events) := by
  have hiff : NoticesSpare events ↔ NoticesHeld events := by
    constructor
    · intro hspare t ht who hal he hp
      by_cases hmain : t.1.state.mCallback = some who
      · exact .inl hmain
      · have hspared := hspare t ht who hal he hp hmain
        rw [he, next_notice t.1 hp] at hspared
        exact .inr ((spared_iff hal who t.1.state).mp hspared)
    · intro hheld t ht who hal he hp hmain
      rw [he, next_notice t.1 hp, spared_iff]
      exact (hheld t ht who hal he hp).resolve_left hmain
  exact ⟨hiff, fun htidy => hiff.mpr (notices_held events h htidy)⟩

/-- Two clients, one in each slot, and both die. -/
theorem notices_spare_two_clients :
    NoticesSpare (β := Nat) [.call (.init (some 0)) .succeeding, .call (.testInit (some 1)) .succeeding,
      .call .openHal .succeeding, .died 1, .notice 1 .succeeding, .died 0, .notice 0 .succeeding] :=
  (notices_spare_iff _ (by decide)).2 (by decide)

/-- The second notice of a test callback closes the device under the client. -/
theorem test_callback_twice_closes :
    machine.Admits initial testCallbackTwice ∧ ¬ NoticesSpare testCallbackTwice := by
  refine ⟨by decide, fun hspare => ?_⟩
  have hlast := hspare (machine.run initial (testCallbackTwice.take 6), .notice 1 .succeeding)
    ((machine.mem_steps _ _ _).mpr ⟨testCallbackTwice.take 6, [], rfl, rfl⟩) 1 .succeeding rfl (by decide)
    (by decide)
  exact absurd hlast.1 (by decide)

end Daemon
end GoodixFingerprint
