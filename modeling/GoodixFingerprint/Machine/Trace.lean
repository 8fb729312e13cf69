import GoodixFingerprint.Machine.Run
import GoodixFingerprint.Machine.History

/-! Runs and the records they leave.

What a machine puts out, what it remembers of a run and what another machine would make of
it are all relations between the steps taken and the state they lead to: `records_run` is
the induction, the rest are its uses. -/
namespace Machine
variable {σ ε : Type} (M : Machine σ ε)

/-- A relation between the steps so far and the state has to survive one step that meets the condition. -/
theorem records_when {C : σ → ε → Prop} {R : List (σ × ε) → σ → Prop}
    (hstep : ∀ h s e, C s e → R h s → R (h ++ [(s, e)]) (M.next s e)) (h : List (σ × ε)) (s : σ) (events : List ε)
    (hs : R h s) (hC : ∀ t ∈ M.steps s events, C t.1 t.2) : R (h ++ M.steps s events) (M.run s events) := by
  induction events generalizing h s with
  | nil =>
    rw [steps, List.append_nil]
    exact hs
  | cons e rest ih =>
    obtain ⟨he, hrest⟩ := List.forall_mem_cons.mp hC
    have htail := ih (h ++ [(s, e)]) (M.next s e) (hstep h s e he hs) hrest
    rw [List.append_assoc] at htail
    exact htail

theorem records_run {R : List (σ × ε) → σ → Prop} (hstep : ∀ h s e, R h s → R (h ++ [(s, e)]) (M.next s e))
    (h : List (σ × ε)) (s : σ) (events : List ε) (hs : R h s) : R (h ++ M.steps s events) (M.run s events) :=
  M.records_when (C := fun _ _ => True) (fun h s e _ => hstep h s e) h s events hs fun _ _ => trivial

theorem steps_events (s : σ) (events : List ε) : (M.steps s events).map Prod.snd = events := by
  induction events generalizing s with
  | nil => rfl
  | cons e rest ih => rw [steps, List.map_cons, ih]

/-- What every step adds to a record, a run adds in order. -/
theorem run_output {α : Type} {O : σ → List α} {E : σ → ε → List α}
    (hnext : ∀ s e, O (M.next s e) = O s ++ E s e) (s : σ) (events : List ε) :
    O (M.run s events) = O s ++ (M.steps s events).flatMap fun t => E t.1 t.2 := by
  apply M.records_run (R := fun h t => O t = O s ++ h.flatMap fun u => E u.1 u.2) _ [] s events
  · simp
  · intro h t e ht
    rw [hnext, ht, List.flatMap_append, List.flatMap_singleton, List.append_assoc]

/-- A latch that some steps set and others clear is set exactly since the last step that set it. -/
theorem latch_when {C : σ → ε → Prop} {X : σ → Prop} {S D : σ × ε → Prop}
    (hnext : ∀ s e, C s e → (X (M.next s e) ↔ S (s, e) ∨ X s ∧ ¬ D (s, e))) (s : σ) (events : List ε) (hs : ¬ X s)
    (hC : ∀ t ∈ M.steps s events, C t.1 t.2) : X (M.run s events) ↔ History.Since S D (M.steps s events) := by
  apply M.records_when (R := fun h t => X t ↔ History.Since S D h) _ [] s events _ hC
  · intro h t e he ht
    rw [hnext t e he, ht, History.since_concat]
  · exact ⟨fun h => absurd h hs, fun h => absurd h History.not_since_nil⟩

theorem latch_iff {X : σ → Prop} {S D : σ × ε → Prop}
    (hnext : ∀ s e, X (M.next s e) ↔ S (s, e) ∨ X s ∧ ¬ D (s, e)) (s : σ) (events : List ε) (hs : ¬ X s) :
    X (M.run s events) ↔ History.Since S D (M.steps s events) :=
  M.latch_when (C := fun _ _ => True) (fun s e _ => hnext s e) s events hs fun _ _ => trivial

/-- Runs of a machine that takes another's events, where each is at most one of its own. -/
theorem run_filterMap {α : Type} (N : Machine σ α) (action : ε → Option α)
    (hnext : ∀ s e, M.next s e = (action e).elim s (N.next s)) (s : σ) (events : List ε) :
    M.run s events = N.run s (events.filterMap action) := by
  induction events generalizing s with
  | nil => rfl
  | cons e rest ih =>
    rw [run, ih, hnext, List.filterMap_cons]
    cases action e with
    | none => rfl
    | some a => rfl

end Machine
