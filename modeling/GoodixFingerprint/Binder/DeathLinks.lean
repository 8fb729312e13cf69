import Mathlib.Logic.Function.Basic
import Mathlib.Tactic.Common

/-! Death registrations.

One recipient's links to binders in other processes, and the notices it is still
owed. A link is added by every `linkToDeath` on a binder whose obituary has not been
sent, with no deduplication; an obituary turns the binder's links into as many
pending notices, after which linking and unlinking have no effect; each delivery
uses one notice up. -/
namespace Binder

structure DeathLinks (β : Type) where
  links : β → Nat := fun _ => 0
  /-- The binder's obituary has been sent. -/
  sent : β → Bool := fun _ => false
  pending : β → Nat := fun _ => 0

namespace DeathLinks
variable {β : Type} [DecidableEq β]

def linkToDeath (d : DeathLinks β) (b : β) : DeathLinks β :=
  if d.sent b then d else {d with links := Function.update d.links b (d.links b + 1)}

def unlinkToDeath (d : DeathLinks β) (b : β) : DeathLinks β :=
  if d.sent b then d else {d with links := Function.update d.links b (d.links b - 1)}

def sendObituary (d : DeathLinks β) (b : β) : DeathLinks β :=
  if d.sent b then d
  else
    { links := Function.update d.links b 0
      sent := Function.update d.sent b true
      pending := Function.update d.pending b (d.pending b + d.links b) }

def deliver (d : DeathLinks β) (b : β) : DeathLinks β :=
  {d with pending := Function.update d.pending b (d.pending b - 1)}

/-- A notice for `b` will still be delivered once `b` is dead. -/
def Due (d : DeathLinks β) (b : β) : Prop := if d.sent b then 0 < d.pending b else 0 < d.links b

/-- The obituary of `b` has been sent, and every notice of it delivered. -/
def Spent (d : DeathLinks β) (b : β) : Prop := d.sent b = true ∧ d.pending b = 0

instance (d : DeathLinks β) (b : β) : Decidable (d.Due b) :=
  inferInstanceAs (Decidable (if d.sent b then 0 < d.pending b else 0 < d.links b))

instance (d : DeathLinks β) (b : β) : Decidable (d.Spent b) :=
  inferInstanceAs (Decidable (d.sent b = true ∧ d.pending b = 0))

/-! ### What the recipient is owed -/

omit [DecidableEq β] in
theorem Spent.not_due {d : DeathLinks β} {b : β} (h : d.Spent b) : ¬ d.Due b := by
  rw [Due]
  rw [if_pos h.1, h.2]
  omega

/-- Linking comes too late exactly for a binder that is spent. -/
theorem linkToDeath_due_iff (d : DeathLinks β) (b : β) : (d.linkToDeath b).Due b ↔ ¬ d.Spent b := by
  rw [linkToDeath, Due, Spent]
  by_cases hs : d.sent b = true
  · simp [hs, Nat.pos_iff_ne_zero]
  · simp [hs]

theorem due_sendObituary (d : DeathLinks β) (b c : β) (h : d.Due b) : (d.sendObituary c).Due b := by
  unfold sendObituary Due at *
  by_cases hs : d.sent c = true
  · simpa [hs] using h
  · by_cases hb : b = c
    · subst hb
      simp only [hs, if_false, Bool.false_eq_true, Function.update_self, if_true] at h ⊢
      omega
    · simpa [hs, Function.update_of_ne hb] using h

theorem sent_linkToDeath (d : DeathLinks β) (b c : β) : (d.linkToDeath b).sent c = d.sent c := by
  rw [linkToDeath]
  split <;> rfl

theorem sent_sendObituary (d : DeathLinks β) (b c : β) :
    (d.sendObituary b).sent c = (d.sent c || decide (c = b)) := by
  rw [sendObituary]
  by_cases hs : d.sent b = true
  · by_cases hc : c = b
    · subst hc
      simp [hs]
    · simp [hs, hc]
  · by_cases hc : c = b
    · subst hc
      simp [hs]
    · simp [hs, hc]

theorem spent_linkToDeath (d : DeathLinks β) (b c : β) (h : d.Spent b) : (d.linkToDeath c).Spent b := by
  rw [linkToDeath]
  split
  · exact h
  · exact h

theorem spent_sendObituary (d : DeathLinks β) (b c : β) (h : d.Spent b) : (d.sendObituary c).Spent b := by
  rw [sendObituary]
  split
  · exact h
  · next hc =>
    have hne : b ≠ c := by
      rintro rfl
      exact hc h.1
    simpa [Spent, Function.update_of_ne hne] using h

/-! ### Links and notices against holders

`holders` says how many places of the recipient hold each binder. -/

/-- Nothing is linked after its obituary, and no binder has more links and pending notices
than places that hold it. -/
structure Backed (d : DeathLinks β) (holders : β → Nat) : Prop where
  links_sent : ∀ b, d.sent b = true → d.links b = 0
  count_le : ∀ b, d.links b + d.pending b ≤ holders b

omit [DecidableEq β] in
theorem Backed.mono {d : DeathLinks β} {holders more : β → Nat} (h : d.Backed holders)
    (hle : ∀ b, holders b ≤ more b) : d.Backed more :=
  ⟨h.links_sent, fun b => Nat.le_trans (h.count_le b) (hle b)⟩

theorem backed_linkToDeath {d : DeathLinks β} {holders : β → Nat} (h : d.Backed holders) (b : β) :
    (d.linkToDeath b).Backed (Function.update holders b (holders b + 1)) := by
  refine ⟨fun c hc => ?_, fun c => ?_⟩
  · rw [sent_linkToDeath] at hc
    have hlinks := h.links_sent c hc
    rw [linkToDeath]
    split
    · exact hlinks
    · next hb =>
      have hne : c ≠ b := by rintro rfl; exact hb hc
      simpa [Function.update_of_ne hne] using hlinks
  · have hcount := h.count_le c
    rw [linkToDeath]
    by_cases hcb : c = b
    · subst hcb
      split
      · rw [Function.update_self]; omega
      · simp only [Function.update_self]; omega
    · split
      · rwa [Function.update_of_ne hcb]
      · simpa [Function.update_of_ne hcb] using hcount

/-- A place is given up before any notice for its binder is on the way. -/
theorem backed_unlinkToDeath {d : DeathLinks β} {holders : β → Nat} (h : d.Backed holders) (b : β)
    (hpending : d.pending b = 0) :
    (d.unlinkToDeath b).Backed (Function.update holders b (holders b - 1)) := by
  refine ⟨fun c hc => ?_, fun c => ?_⟩
  · simp only [unlinkToDeath] at hc ⊢
    split at hc
    · next hb => rw [if_pos hb]; exact h.links_sent c hc
    · next hb =>
      have hne : c ≠ b := by rintro rfl; exact hb hc
      rw [if_neg hb]
      simpa [Function.update_of_ne hne] using h.links_sent c hc
  · have hcount := h.count_le c
    rw [unlinkToDeath]
    by_cases hcb : c = b
    · subst hcb
      split
      · next hb => have hlinks := h.links_sent c hb; rw [Function.update_self]; omega
      · simp only [Function.update_self]; omega
    · split
      · rwa [Function.update_of_ne hcb]
      · simpa [Function.update_of_ne hcb] using hcount

theorem backed_sendObituary {d : DeathLinks β} {holders : β → Nat} (h : d.Backed holders) (b : β) :
    (d.sendObituary b).Backed holders := by
  rw [sendObituary]
  split
  · exact h
  · refine ⟨fun c hc => ?_, fun c => ?_⟩
    · by_cases hcb : c = b
      · subst hcb; simp
      · simp only [Function.update_of_ne hcb] at hc ⊢
        exact h.links_sent c hc
    · have hcount := h.count_le c
      by_cases hcb : c = b
      · subst hcb
        simp only [Function.update_self]; omega
      · simpa [Function.update_of_ne hcb] using hcount

/-- A notice delivered gives up one place. -/
theorem backed_deliver {d : DeathLinks β} {holders : β → Nat} (h : d.Backed holders) (b : β)
    (hpending : 0 < d.pending b) :
    (d.deliver b).Backed (Function.update holders b (holders b - 1)) := by
  refine ⟨h.links_sent, fun c => ?_⟩
  have hcount := h.count_le c
  by_cases hcb : c = b
  · subst hcb
    simp only [deliver, Function.update_self]; omega
  · simpa [deliver, Function.update_of_ne hcb] using hcount

/-! ### What is owed to holders

The other bound: a holder of a binder relies on a notice of its death. -/

/-- The notices that a binder's death will bring, or still brings. -/
def owed (d : DeathLinks β) (b : β) : Nat := if d.sent b then d.pending b else d.links b

omit [DecidableEq β] in
theorem Spent.owed {d : DeathLinks β} {b : β} (h : d.Spent b) : d.owed b = 0 := by
  rw [DeathLinks.owed, if_pos h.1]
  exact h.2

theorem sent_unlinkToDeath (d : DeathLinks β) (b c : β) : (d.unlinkToDeath b).sent c = d.sent c := by
  rw [unlinkToDeath]
  split <;> rfl

theorem owed_linkToDeath (d : DeathLinks β) (b c : β) (hb : d.sent b = false) :
    (d.linkToDeath b).owed c = d.owed c + if c = b then 1 else 0 := by
  have hlinked : d.linkToDeath b = {d with links := Function.update d.links b (d.links b + 1)} := by
    rw [linkToDeath, if_neg (by rw [hb]; simp)]
  rw [hlinked, owed, owed]
  by_cases hc : c = b
  · subst hc
    simp [hb]
  · simp [hc]

theorem owed_unlinkToDeath (d : DeathLinks β) (b c : β) :
    d.owed c - (if c = b then 1 else 0) ≤ (d.unlinkToDeath b).owed c := by
  rw [owed, owed, sent_unlinkToDeath, unlinkToDeath]
  by_cases hb : d.sent b = true
  · rw [if_pos hb]
    omega
  · rw [if_neg hb]
    by_cases hc : c = b
    · subst hc
      simp [hb]
    · simp [hc]

/-- An obituary turns links into notices, and loses none. -/
theorem owed_sendObituary (d : DeathLinks β) (b c : β) : d.owed c ≤ (d.sendObituary b).owed c := by
  rw [sendObituary]
  by_cases hb : d.sent b = true
  · exact Nat.le_of_eq (by rw [if_pos hb])
  · rw [if_neg hb, owed, owed]
    by_cases hc : c = b
    · subst hc
      simp [hb]
    · simp [Function.update_of_ne hc]

theorem owed_deliver (d : DeathLinks β) (b c : β) :
    d.owed c - (if c = b then 1 else 0) ≤ (d.deliver b).owed c := by
  rw [owed, owed, deliver]
  by_cases hc : c = b
  · subst hc
    simp only [Function.update_self, if_true]
    split <;> omega
  · simp [hc]

end DeathLinks
end Binder
