import Mathlib.Data.List.Induction
import GoodixFingerprint.Machine.History

/-! Ledgers of resources.

A ledger records which resource is acquired, used and released. It is lawful if a resource
is acquired once, and used and released only while it is held: then what is outstanding is
what the entries say, each resource once. -/
namespace Ledger
variable {α : Type}

inductive Entry (α : Type) where
  | acquire (a : α)
  | use (a : α)
  | release (a : α)
  deriving DecidableEq

/-- Acquired, and not released since. -/
def Held (log : List (Entry α)) (a : α) : Prop := History.Since (fun e => e = .acquire a) (fun e => e = .release a) log

/-- What an entry needs of those before it. -/
def Lawful (before : List (Entry α)) : Entry α → Prop
  | .acquire a => .acquire a ∉ before
  | .use a | .release a => Held before a

theorem held_concat (log : List (Entry α)) (e : Entry α) (a : α) :
    Held (log ++ [e]) a ↔ e = .acquire a ∨ Held log a ∧ e ≠ .release a :=
  History.since_concat log e

theorem held_acquired {log : List (Entry α)} {a : α} (h : Held log a) : .acquire a ∈ log := by
  obtain ⟨front, e, back, rfl, rfl, -⟩ := h
  exact List.mem_append_right _ (List.mem_cons_self ..)

variable [DecidableEq α]

/-- What is held after an entry, the newest first. -/
def account (held : List α) : Entry α → List α
  | .acquire a => a :: held
  | .use _ => held
  | .release a => held.erase a

def outstanding (log : List (Entry α)) : List α := log.foldl account []

theorem outstanding_append (log more : List (Entry α)) :
    outstanding (log ++ more) = more.foldl account (outstanding log) := List.foldl_append

theorem outstanding_concat (log : List (Entry α)) (e : Entry α) :
    outstanding (log ++ [e]) = account (outstanding log) e := outstanding_append log [e]

/-- What is outstanding is what is held, each once. -/
theorem outstanding_spec (log : List (Entry α)) (h : History.Obeys Lawful log) :
    (outstanding log).Nodup ∧ ∀ a, a ∈ outstanding log ↔ Held log a := by
  induction log using List.reverseRecOn with
  | nil => exact ⟨List.nodup_nil, fun a => ⟨fun ha => (by cases ha), fun ha => absurd ha History.not_since_nil⟩⟩
  | append_singleton log e ih =>
    obtain ⟨hlog, he⟩ := (History.obeys_concat Lawful log e).mp h
    obtain ⟨hnodup, hmem⟩ := ih hlog
    rw [outstanding_concat]
    cases e with
    | acquire b =>
      have hfresh : b ∉ outstanding log := fun hb => he (held_acquired ((hmem b).mp hb))
      refine ⟨List.nodup_cons.mpr ⟨hfresh, hnodup⟩, fun a => ?_⟩
      simp only [account, held_concat, List.mem_cons, hmem, Entry.acquire.injEq, ne_eq, reduceCtorEq,
        not_false_eq_true, and_true, eq_comm]
    | use b =>
      refine ⟨hnodup, fun a => ?_⟩
      simp only [account, held_concat, hmem, reduceCtorEq, false_or, ne_eq, not_false_eq_true, and_true]
    | release b =>
      refine ⟨hnodup.erase b, fun a => ?_⟩
      simp only [account, held_concat, hnodup.mem_erase_iff, hmem, reduceCtorEq, false_or, ne_eq,
        Entry.release.injEq, eq_comm, and_comm]

theorem mem_outstanding (log : List (Entry α)) (h : History.Obeys Lawful log) (a : α) :
    a ∈ outstanding log ↔ Held log a := (outstanding_spec log h).2 a

end Ledger
