import Mathlib.Data.List.Basic

/-! Monitors of logs.

A monitor reads a log entry by entry and gets stuck on the first that it does not allow. A
log is followed if there is none. -/

structure Monitor (σ α : Type) where
  initial : σ
  step : σ → α → Option σ

namespace Monitor
variable {σ α : Type} (M : Monitor σ α)

/-- Where the monitor is after a log, if it is not stuck. -/
def follow (log : List α) : Option σ := log.foldlM M.step M.initial

def Follows (log : List α) : Prop := ∃ s, M.follow log = some s

instance (log : List α) : Decidable (M.Follows log) :=
  decidable_of_iff ((M.follow log).isSome = true) Option.isSome_iff_exists

theorem follow_append (log more : List α) :
    M.follow (log ++ more) = (M.follow log).bind fun s => more.foldlM M.step s := List.foldlM_append

theorem follow_concat {log : List α} {s : σ} (h : M.follow log = some s) (e : α) :
    M.follow (log ++ [e]) = M.step s e := by
  rw [follow_append, h, Option.bind_some]
  simp

end Monitor
