import Mathlib.Data.List.Basic
import Mathlib.Tactic.Common

/-! Runs of a machine that takes events one at a time.

The machine is total: an event that cannot happen in a state is a step the state
does not enable, and `Admits` says that a run has none of those. What every step
preserves, under a condition on the steps, every run under the condition preserves. -/

structure Machine (σ ε : Type) where
  next : σ → ε → σ
  Enabled : σ → ε → Prop

namespace Machine
variable {σ ε : Type} (M : Machine σ ε)

def run (s : σ) : List ε → σ
  | [] => s
  | e :: rest => run (M.next s e) rest

/-- The steps of a run, each with the state it starts from. -/
def steps (s : σ) : List ε → List (σ × ε)
  | [] => []
  | e :: rest => (s, e) :: steps (M.next s e) rest

def Admits (s : σ) (events : List ε) : Prop := ∀ t ∈ M.steps s events, M.Enabled t.1 t.2

instance (s : σ) (events : List ε) [∀ s e, Decidable (M.Enabled s e)] : Decidable (M.Admits s events) :=
  inferInstanceAs (Decidable (∀ t ∈ M.steps s events, M.Enabled t.1 t.2))

theorem run_append (s : σ) (a b : List ε) : M.run s (a ++ b) = M.run (M.run s a) b := by
  induction a generalizing s with
  | nil => rfl
  | cons e rest ih => exact ih _

theorem steps_append (s : σ) (a b : List ε) :
    M.steps s (a ++ b) = M.steps s a ++ M.steps (M.run s a) b := by
  induction a generalizing s with
  | nil => rfl
  | cons e rest ih => simp only [List.cons_append, steps, run, ih]

/-- A step of a run is an event taken in the state that the events before it lead to. -/
theorem mem_steps (s : σ) (events : List ε) (t : σ × ε) :
    t ∈ M.steps s events ↔ ∃ a b, events = a ++ t.2 :: b ∧ t.1 = M.run s a := by
  constructor
  · intro h
    induction events generalizing s with
    | nil => cases h
    | cons e rest ih =>
      rcases List.mem_cons.mp h with rfl | h
      · exact ⟨[], rest, rfl, rfl⟩
      · obtain ⟨a, b, rfl, ht⟩ := ih _ h
        exact ⟨e :: a, b, rfl, ht⟩
  · intro h
    obtain ⟨a, b, rfl, ht⟩ := h
    rw [steps_append, ← ht]
    exact List.mem_append_right _ (List.mem_cons_self ..)

section Invariant
variable {C : σ → ε → Prop} {I : σ → Prop} (hstep : ∀ s e, C s e → I s → I (M.next s e))
include hstep

/-- A run of steps that keep the invariant keeps it. -/
theorem invariant_run (s : σ) (events : List ε) (hs : I s)
    (hC : ∀ t ∈ M.steps s events, C t.1 t.2) : I (M.run s events) := by
  induction events generalizing s with
  | nil => exact hs
  | cons e rest ih =>
    exact ih _ (hstep s e (hC _ (List.mem_cons_self ..)) hs)
      fun t ht => hC t (List.mem_cons_of_mem _ ht)

/-- The invariant holds where each step starts. -/
theorem invariant_steps (s : σ) (events : List ε) (hs : I s)
    (hC : ∀ t ∈ M.steps s events, C t.1 t.2) : ∀ t ∈ M.steps s events, I t.1 := by
  intro t ht
  obtain ⟨a, b, rfl, hrun⟩ := (M.mem_steps s events t).mp ht
  rw [hrun]
  apply M.invariant_run hstep s a hs
  intro u hu
  rw [M.steps_append] at hC
  exact hC u (List.mem_append_left _ hu)

end Invariant

/-- A safety property together with the exact condition for it: the property holds wherever a
run leads if and only if every step of the run meets the condition. -/
theorem always_iff {C : σ → ε → Prop} {I P : σ → Prop} (hstep : ∀ s e, C s e → I s → I (M.next s e))
    (hsafe : ∀ s, I s → P s) (hexact : ∀ s e, I s → P (M.next s e) → C s e) (s : σ) (events : List ε)
    (hs : I s) :
    (∀ a b, events = a ++ b → P (M.run s a)) ↔ ∀ t ∈ M.steps s events, C t.1 t.2 := by
  constructor
  · intro h
    induction events generalizing s with
    | nil =>
      intro t ht
      cases ht
    | cons e rest ih =>
      have hC : C s e := hexact s e hs (h [e] rest rfl)
      intro t ht
      rcases List.mem_cons.mp ht with rfl | ht
      · exact hC
      · exact ih _ (hstep s e hC hs) (fun a b hab => h (e :: a) b (by rw [hab]; rfl)) t ht
  · rintro h a b rfl
    apply hsafe
    apply M.invariant_run hstep s a hs
    intro t ht
    rw [M.steps_append] at h
    exact h t (List.mem_append_left _ ht)

theorem admits_nil (s : σ) : M.Admits s [] := fun _ ht => nomatch ht

theorem admits_cons (s : σ) (e : ε) (rest : List ε) :
    M.Admits s (e :: rest) ↔ M.Enabled s e ∧ M.Admits (M.next s e) rest :=
  List.forall_mem_cons

theorem admits_append (s : σ) (a b : List ε) :
    M.Admits s (a ++ b) ↔ M.Admits s a ∧ M.Admits (M.run s a) b := by
  unfold Admits
  rw [M.steps_append]
  exact List.forall_mem_append

/-- What a relation between a history and a state has to survive is one step. -/
theorem tracks_run {R : List ε → σ → Prop}
    (hstep : ∀ h s e, M.Enabled s e → R h s → R (h ++ [e]) (M.next s e)) (h : List ε) (s : σ) (events : List ε)
    (hs : R h s) (hadmits : M.Admits s events) : R (h ++ events) (M.run s events) := by
  induction events generalizing h s with
  | nil =>
    rw [List.append_nil]
    exact hs
  | cons e rest ih =>
    rw [M.admits_cons] at hadmits
    have htail := ih (h ++ [e]) (M.next s e) (hstep h s e hadmits.1 hs) hadmits.2
    rw [List.append_assoc] at htail
    exact htail

/-! ### Machines behind machines

`view` shows another machine's state, and each step amounts to some steps of that one. -/

section Refinement
variable {τ α : Type} (N : Machine τ α) (view : σ → τ) (actions : σ → ε → List α)

/-- The steps of the other machine that a run amounts to. -/
def trace (s : σ) (events : List ε) : List α := (M.steps s events).flatMap fun t => actions t.1 t.2

theorem run_trace (hnext : ∀ s e, view (M.next s e) = N.run (view s) (actions s e)) (s : σ) (events : List ε) :
    view (M.run s events) = N.run (view s) (M.trace actions s events) := by
  induction events generalizing s with
  | nil => rfl
  | cons e rest ih =>
    rw [trace, steps, List.flatMap_cons, N.run_append, ← hnext]
    exact ih _

theorem admits_trace (hnext : ∀ s e, view (M.next s e) = N.run (view s) (actions s e))
    (henabled : ∀ s e, M.Enabled s e → N.Admits (view s) (actions s e)) (s : σ) (events : List ε)
    (hadmits : M.Admits s events) : N.Admits (view s) (M.trace actions s events) := by
  induction events generalizing s with
  | nil => exact N.admits_nil _
  | cons e rest ih =>
    rw [M.admits_cons] at hadmits
    rw [trace, steps, List.flatMap_cons, N.admits_append, ← hnext]
    exact ⟨henabled s e hadmits.1, ih _ hadmits.2⟩

end Refinement

end Machine
