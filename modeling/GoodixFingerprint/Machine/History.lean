import Mathlib.Data.List.Basic
import Mathlib.Tactic.Common

/-! Histories that obey a law.

A law says which entry may follow which entries; a history obeys it if every entry may
stand where it does. Histories grow at the end, so what matters of a longer one is
whether its new entries may follow the old ones. -/
namespace History
variable {α : Type} (law : List α → α → Prop)

/-- Every entry may stand where it does. -/
def Obeys (log : List α) : Prop := ∀ before e after, log = before ++ e :: after → law before e

/-- Every entry of the second list may stand where it does behind the first. -/
def Continues (before : List α) : List α → Prop
  | [] => True
  | e :: rest => law before e ∧ Continues (before ++ [e]) rest

theorem obeys_nil : Obeys law [] := by
  intro before e after h
  simp at h

/-- An entry of a longer list is its last one or one of those before. -/
theorem concat_split {log a b : List α} {e x : α} (h : log ++ [e] = a ++ x :: b) :
    (log = a ∧ e = x ∧ b = []) ∨ ∃ front, log = a ++ x :: front ∧ b = front ++ [e] := by
  rcases List.eq_nil_or_concat b with rfl | ⟨front, last, rfl⟩
  · obtain ⟨rfl, hx⟩ := List.append_inj' h rfl
    cases hx
    exact .inl ⟨rfl, rfl, rfl⟩
  · rw [List.concat_eq_append, ← List.cons_append, ← List.append_assoc] at h
    obtain ⟨rfl, hlast⟩ := List.append_inj' h rfl
    cases hlast
    exact .inr ⟨front, rfl, List.concat_eq_append⟩

theorem obeys_concat (log : List α) (e : α) : Obeys law (log ++ [e]) ↔ Obeys law log ∧ law log e := by
  constructor
  · intro h
    refine ⟨fun before x after hlog => h before x (after ++ [e]) ?_, h log e [] rfl⟩
    rw [hlog, List.append_assoc, List.cons_append]
  · intro h before x after hlog
    obtain ⟨h, he⟩ := h
    rcases concat_split hlog with ⟨rfl, rfl, -⟩ | ⟨front, hfront, -⟩
    · exact he
    · exact h before x front hfront

theorem obeys_append (a b : List α) : Obeys law (a ++ b) ↔ Obeys law a ∧ Continues law a b := by
  induction b generalizing a with
  | nil => simp [Continues]
  | cons e rest ih =>
    have hsplit : a ++ e :: rest = (a ++ [e]) ++ rest := by simp
    rw [hsplit, ih, obeys_concat, Continues, and_assoc]

/-- There was an entry of the one kind, and none of the other kind since. -/
def Since (p q : α → Prop) (log : List α) : Prop := ∃ a e b, log = a ++ e :: b ∧ p e ∧ ∀ x ∈ b, ¬ q x

variable {p q : α → Prop}

theorem not_since_nil : ¬ Since p q [] := by
  intro h
  obtain ⟨a, e, b, h, -⟩ := h
  simp at h

theorem since_concat (log : List α) (e : α) : Since p q (log ++ [e]) ↔ p e ∨ Since p q log ∧ ¬ q e := by
  constructor
  · intro h
    obtain ⟨a, x, b, hlog, hx, hb⟩ := h
    rcases concat_split hlog with ⟨-, rfl, -⟩ | ⟨front, hfront, rfl⟩
    · exact .inl hx
    · simp only [List.mem_append, List.mem_singleton] at hb
      exact .inr ⟨⟨a, x, front, hfront, hx, fun y hy => hb y (.inl hy)⟩, hb e (.inr rfl)⟩
  · intro h
    rcases h with he | ⟨⟨a, x, b, rfl, hx, hb⟩, he⟩
    · exact ⟨log, e, [], rfl, he, fun _ h => (by cases h)⟩
    · refine ⟨a, x, b ++ [e], by simp, hx, fun y hy => ?_⟩
      rcases List.mem_append.mp hy with hy | hy
      · exact hb y hy
      · rw [List.mem_singleton.mp hy]
        exact he

end History
