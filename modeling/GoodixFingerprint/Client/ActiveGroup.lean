import GoodixFingerprint.Client.Operations

/-! The path of `set_active_group`, however long.

A path is its bytes before the `NUL`. The client keeps their number in 32 bits and copies so
many to a buffer of `PATH_MAX`, unchecked; the daemon refuses a length that is zero, or
`PATH_MAX` and more. So both go by the remainder of the length by 2^32, and agree on a path
only where that remainder is refused, or is the length itself. -/
namespace GoodixFingerprint
open Binder

namespace Client
variable (ctx : Context Nat) (i : Interleaving) (w : World) (k : Nat)

/-- Neither empty nor, with its terminator, too long for a buffer of `PATH_MAX` bytes. -/
def PathFits (storePath : List UInt8) : Prop := 0 < storePath.length ∧ storePath.length < pathMax

/-- The HAL is called with the group on the daemon's device, and what it returns is returned. -/
def SetsGroup (gid : UInt32) (ret : Int32) (w' : World) : Prop :=
  ret = i.hal.error (.setActiveGroup (w.daemons k).state.1.mDevice gid) ∧
    (w'.daemons k).state.1 = (w.daemons k).state.1.record
      (.called (.setActiveGroup (w.daemons k).state.1.mDevice gid) ret)

/-- Client and daemon stay within their buffers, and the group is set for a path that fits and no
other; for any other there is an error, and no daemon does anything. -/
def PathAgrees (gid : UInt32) (storePath : List UInt8) : Prop :=
  ∃ ret w', fingerprintSetActiveGroup ctx i gid storePath w = (.ok ret, w') ∧ w'.lives k = true ∧
    (SetsGroup i w k gid ret w' ↔ PathFits storePath) ∧
    (¬ PathFits storePath → ret ≠ 0 ∧ ∀ j, (w'.daemons j).state.1 = (w.daemons j).state.1)

variable {ctx i w k}

/-! ### By the length that is sent -/

/-- A length that the client's buffer does not hold. -/
theorem setActiveGroup_overflows (gid : UInt32) (storePath : List UInt8)
    (hlong : pathMax < storePath.length % 2 ^ 32) :
    fingerprintSetActiveGroup ctx i gid storePath w = (.error .overflow, w) := by
  have hcopy : memcpy pathMax (some storePath) (UInt32.ofNat storePath.length).toNat = .error .overflow := by
    rw [UInt32.toNat_ofNat', memcpy, if_neg (Nat.not_lt.mpr (Nat.mod_le ..)), if_pos hlong]
  rw [fingerprintSetActiveGroup]
  simp only [hcopy]
  rfl

/-- With a length that it does hold, the operation is the daemon's method on so much of the path. -/
theorem setActiveGroup_runs (hconnected : Connected ctx i w k) (gid : UInt32) (storePath : List UInt8) (n : Nat)
    (hn : storePath.length % 2 ^ 32 = n) (hfits : n ≤ pathMax) (v : Int32) (s : GoodixFingerprintDaemonProxy Nat)
    (hcall : (goodixFingerprintDaemonProxy i.hal).call
      (.setActiveGroup gid.toInt32 (some (storePath.take n)) (Int64.ofNat n)) (w.daemons k).state.1 = .ok (v, s)) :
    ∃ w', fingerprintSetActiveGroup ctx i gid storePath w = (.ok v, w') ∧ (w'.daemons k).state.1 = s ∧
      w'.lives k = true ∧ ∀ j, j ≠ k → (w'.daemons j).state = (w.daemons j).state := by
  have hlength : (storePath.take n).length = n := List.length_take_of_le (hn ▸ Nat.mod_le ..)
  have hmax : (storePath.take n).length ≤ int32Max := by
    rw [hlength]
    exact Nat.le_trans hfits (by decide)
  rw [fingerprintSetActiveGroup_eq gid storePath n hn hfits]
  exact operation_runs hconnected (.setActiveGroup gid.toInt32 (some (storePath.take n)) (Int64.ofNat n))
    ⟨storePath.take n, rfl, hmax, by rw [hlength]⟩ fingerprintError v s hcall

/-- A length that the daemon refuses, and the client's buffer holds. -/
theorem path_agrees_refused (hconnected : Connected ctx i w k) (gid : UInt32) (storePath : List UInt8)
    (hrefused : storePath.length % 2 ^ 32 = 0 ∨ storePath.length % 2 ^ 32 = pathMax) :
    PathAgrees ctx i w k gid storePath := by
  have hfits : storePath.length % 2 ^ 32 ≤ pathMax := by omega
  have hint := toInt_length hfits
  have hcall := GoodixFingerprintDaemonProxy.setActiveGroup_refused i.hal (w.daemons k).state.1 gid.toInt32
    (some (storePath.take (storePath.length % 2 ^ 32))) (Int64.ofNat (storePath.length % 2 ^ 32)) (by omega)
  obtain ⟨w', hrun, hstate, hlives, hothers⟩ := setActiveGroup_runs hconnected gid storePath _ rfl hfits _ _ hcall
  have hnot : ¬ PathFits storePath := by
    intro h
    obtain ⟨hpos, hmax⟩ := h
    rw [pathMax] at hrefused hmax
    omega
  refine ⟨-1, w', hrun, hlives, ⟨fun h => ?_, fun h => absurd h hnot⟩, fun _ => ⟨by decide, fun j => ?_⟩⟩
  · have heffects := congrArg GoodixFingerprintDaemonProxy.effects (hstate.symm.trans h.2)
    simp [GoodixFingerprintDaemonProxy.record] at heffects
  · by_cases hj : j = k
    · rw [hj, hstate]
    · rw [hothers j hj]

/-- A length that the daemon takes for a path's that fits. -/
theorem path_agrees_passed (hconnected : Connected ctx i w k) (gid : UInt32) (storePath : List UInt8)
    (hpos : 0 < storePath.length % 2 ^ 32) (hfits : storePath.length % 2 ^ 32 < pathMax) :
    PathAgrees ctx i w k gid storePath ↔ PathFits storePath := by
  have hlength : (storePath.take (storePath.length % 2 ^ 32)).length = storePath.length % 2 ^ 32 :=
    List.length_take_of_le (Nat.mod_le ..)
  have hint := toInt_length (Nat.le_of_lt hfits)
  have hcall := GoodixFingerprintDaemonProxy.setActiveGroup_passed i.hal (w.daemons k).state.1 gid.toInt32
    (storePath.take (storePath.length % 2 ^ 32)) (Int64.ofNat (storePath.length % 2 ^ 32)) (by omega) (by omega)
    (by rw [hlength, hint])
  obtain ⟨w', hrun, hstate, hlives, -⟩ :=
    setActiveGroup_runs hconnected gid storePath _ rfl (Nat.le_of_lt hfits) _ _ hcall
  rw [UInt32.toUInt32_toInt32] at hrun hstate
  constructor
  · intro h
    obtain ⟨ret, w'', hrun', -, hsets, -⟩ := h
    rw [hrun] at hrun'
    cases hrun'
    exact hsets.mp ⟨rfl, hstate⟩
  · intro h
    exact ⟨_, w', hrun, hlives, ⟨fun _ => h, fun _ => ⟨rfl, hstate⟩⟩, fun hnot => absurd h hnot⟩

theorem not_path_agrees_overflow (gid : UInt32) (storePath : List UInt8)
    (hlong : pathMax < storePath.length % 2 ^ 32) : ¬ PathAgrees ctx i w k gid storePath := by
  intro h
  obtain ⟨ret, w', hrun, -⟩ := h
  rw [setActiveGroup_overflows gid storePath hlong] at hrun
  cases hrun

/-! ### By the length of the path -/

/-- **Both sides agree on a path exactly if it is no longer than the buffer**, or so long that the length
sent is that of a path which the daemon refuses. -/
theorem path_agrees_iff (hconnected : Connected ctx i w k) (gid : UInt32) (storePath : List UInt8) :
    PathAgrees ctx i w k gid storePath ↔ storePath.length ≤ pathMax ∨ storePath.length % 2 ^ 32 = 0 ∨
      storePath.length % 2 ^ 32 = pathMax := by
  have hmax : pathMax < 2 ^ 32 := by decide
  rcases Nat.lt_trichotomy (storePath.length % 2 ^ 32) pathMax with hshort | hfull | hlong
  · rcases Nat.eq_zero_or_pos (storePath.length % 2 ^ 32) with hzero | hpos
    · exact ⟨fun _ => .inr (.inl hzero), fun _ => path_agrees_refused hconnected gid storePath (.inl hzero)⟩
    · rw [path_agrees_passed hconnected gid storePath hpos hshort, PathFits]
      omega
  · exact ⟨fun _ => .inr (.inr hfull), fun _ => path_agrees_refused hconnected gid storePath (.inr hfull)⟩
  · refine ⟨fun h => absurd h (not_path_agrees_overflow gid storePath hlong), fun h => ?_⟩
    omega

/-- A path that fills the client's buffer to its last byte is refused by the daemon. -/
theorem full_path_agrees :
    PathAgrees (.granting true) {found := none, hal := .succeeding} boundClient 0 3 (List.replicate pathMax 47) :=
  (path_agrees_iff boundClient_connected 3 (List.replicate pathMax 47)).mpr
    (.inl (Nat.le_of_eq List.length_replicate))

/-- A path of one byte more is copied behind the end of the buffer. -/
theorem longer_path_overflows :
    Connected (.granting true) {found := none, hal := .succeeding} boundClient 0 ∧
    0 ∉ List.replicate (pathMax + 1) (47 : UInt8) ∧
    ¬ PathAgrees (.granting true) {found := none, hal := .succeeding} boundClient 0 3
      (List.replicate (pathMax + 1) 47) := by
  refine ⟨boundClient_connected, fun h => ?_, not_path_agrees_overflow 3 _ ?_⟩
  · exact absurd (List.eq_of_mem_replicate h) (by decide)
  · rw [List.length_replicate]
    decide

end Client
end GoodixFingerprint
