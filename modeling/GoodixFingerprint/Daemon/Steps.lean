import GoodixFingerprint.Daemon.Proxy

/-! What a method call can do to the daemon.

`call_changes` takes the methods apart once: a call registers a binder, opens or closes
the device, passes one call on to the HAL, or leaves the daemon as it was. -/
namespace GoodixFingerprint
open Binder

namespace GoodixFingerprintDaemonProxy
variable {β : Type}

/-- What closing does to a device: exit it, and if there is one free and clear it. -/
def closing (hal : Hal) (dev : Option Device) : List Effect :=
  .called (.exit dev) (hal.error (.exit dev)) ::
    match dev with
    | some d => [.free d, .overwrite (some d)]
    | none => []

/-- What opening does: overwrite `mDevice` by the new device, and initialise it. -/
def opening (hal : Hal) (s : GoodixFingerprintDaemonProxy β) : List Effect :=
  [.overwrite s.mDevice, .called (.init (some s.allocated)) (hal.error (.init (some s.allocated)))]

theorem closed_eq (hal : Hal) (s : GoodixFingerprintDaemonProxy β) :
    s.closed hal = {s with mDevice := none, effects := s.effects ++ closing hal s.mDevice} := by
  obtain ⟨mDevice, mCallback, mTestCallback, links, allocated, effects⟩ := s
  cases mDevice <;> simp [closed, closing, record, assign]

theorem opened_eq (hal : Hal) (s : GoodixFingerprintDaemonProxy β) :
    s.opened hal = {s with
      mDevice := some s.allocated
      allocated := s.allocated + 1
      effects := s.effects ++ opening hal s} := by
  simp [opened, opening, record, assign]

variable [DecidableEq β]

/-- The links once `b` is in a slot. -/
def relinked (slot : Option β) (b : β) (links : DeathLinks β) : DeathLinks β :=
  (match slot with
    | some old => if b = old then links else links.unlinkToDeath old
    | none => links).linkToDeath b

def registered (s : GoodixFingerprintDaemonProxy β) (b : β) : GoodixFingerprintDaemonProxy β :=
  {s with links := relinked s.mCallback b s.links, mCallback := some b}

def testRegistered (s : GoodixFingerprintDaemonProxy β) (b : β) : GoodixFingerprintDaemonProxy β :=
  {s with links := relinked s.mTestCallback b s.links, mTestCallback := some b}

theorem relink_some (slot : Option β) (b : β) (links : DeathLinks β) :
    relink slot (some b) links = .ok (relinked slot b links) := by
  unfold relink relinked
  cases slot with
  | none => rfl
  | some old =>
    by_cases h : b = old
    · simp [h]
    · simp [h]

theorem call_init (hal : Hal) (s : GoodixFingerprintDaemonProxy β) (b : β) :
    (goodixFingerprintDaemonProxy hal).call (.init (some b)) s = .ok ((), s.registered b) := by
  show init (some b) s = _
  rw [init, relink_some]
  rfl

theorem call_testInit (hal : Hal) (s : GoodixFingerprintDaemonProxy β) (b : β) :
    (goodixFingerprintDaemonProxy hal).call (.testInit (some b)) s = .ok ((), s.testRegistered b) := by
  show testInit (some b) s = _
  rw [testInit, relink_some]
  rfl

/-- Only a token of the right size is passed on. -/
theorem call_enroll (hal : Hal) (s : GoodixFingerprintDaemonProxy β) (token : Ptr) (tokenSize : Int64)
    (groupId timeout : Int32) :
    (goodixFingerprintDaemonProxy hal).call (.enroll token tokenSize groupId timeout) s =
      if tokenSize.toUInt64 ≠ UInt64.ofNat hwAuthTokenSize then .ok ((-1 : Int32), s)
      else forward hal (fun dev => .enroll dev token groupId.toUInt32 timeout.toUInt32) s := by
  show enroll hal token tokenSize groupId timeout s = _
  rw [enroll]
  split
  · rfl
  · rfl

/-- Only a path that fits is copied, and only then is the group passed on. -/
theorem call_setActiveGroup (hal : Hal) (s : GoodixFingerprintDaemonProxy β) (groupId : Int32) (path : Ptr)
    (pathLen : Int64) :
    (goodixFingerprintDaemonProxy hal).call (.setActiveGroup groupId path pathLen) s =
      if (pathMax : Int) ≤ pathLen.toInt ∨ pathLen.toInt ≤ 0 then .ok ((-1 : Int32), s)
      else memcpy pathMax path pathLen.toInt.toNat >>= fun _ =>
        forward hal (fun dev => .setActiveGroup dev groupId.toUInt32) s := by
  show setActiveGroup hal groupId path pathLen s = _
  rw [setActiveGroup]
  split
  · rfl
  · exact Memory.copied_store path (by omega) 0 _

theorem enroll_refused (hal : Hal) (s : GoodixFingerprintDaemonProxy β) (token : Ptr) (tokenSize : Int64)
    (groupId timeout : Int32) (hsize : tokenSize.toUInt64 ≠ UInt64.ofNat hwAuthTokenSize) :
    (goodixFingerprintDaemonProxy hal).call (.enroll token tokenSize groupId timeout) s = .ok ((-1 : Int32), s) :=
  (call_enroll ..).trans (if_pos hsize)

theorem enroll_passed (hal : Hal) (s : GoodixFingerprintDaemonProxy β) (token : Ptr) (tokenSize : Int64)
    (groupId timeout : Int32) (hsize : tokenSize.toUInt64 = UInt64.ofNat hwAuthTokenSize) :
    (goodixFingerprintDaemonProxy hal).call (.enroll token tokenSize groupId timeout) s =
      forward hal (fun dev => .enroll dev token groupId.toUInt32 timeout.toUInt32) s :=
  (call_enroll ..).trans (if_neg (not_not_intro hsize))

theorem setActiveGroup_refused (hal : Hal) (s : GoodixFingerprintDaemonProxy β) (groupId : Int32) (path : Ptr)
    (pathLen : Int64) (hlen : (pathMax : Int) ≤ pathLen.toInt ∨ pathLen.toInt ≤ 0) :
    (goodixFingerprintDaemonProxy hal).call (.setActiveGroup groupId path pathLen) s = .ok ((-1 : Int32), s) :=
  (call_setActiveGroup ..).trans (if_pos hlen)

theorem setActiveGroup_passed (hal : Hal) (s : GoodixFingerprintDaemonProxy β) (groupId : Int32) (path : List UInt8)
    (pathLen : Int64) (hpos : 0 < pathLen.toInt) (hmax : pathLen.toInt < pathMax)
    (hlength : pathLen.toInt ≤ path.length) :
    (goodixFingerprintDaemonProxy hal).call (.setActiveGroup groupId (some path) pathLen) s =
      forward hal (fun dev => .setActiveGroup dev groupId.toUInt32) s := by
  have hcopy : memcpy pathMax (some path) pathLen.toInt.toNat = .ok (path.take pathLen.toInt.toNat) :=
    memcpy_some_iff.mpr ⟨by omega, by omega, rfl⟩
  rw [call_setActiveGroup, if_neg (by omega), hcopy]
  rfl

end GoodixFingerprintDaemonProxy

/-- A call of the HAL that neither starts nor ends a device, and frees and assigns nothing. -/
def Effect.Forwarded : Effect → Prop
  | .called call _ => call.isInit = false ∧ call.isExit = false
  | .queried _ => True
  | _ => False

/-- How a call that returns changes the daemon. -/
inductive Change {β : Type} [DecidableEq β] (hal : Hal) (s : GoodixFingerprintDaemonProxy β) :
    Request β → GoodixFingerprintDaemonProxy β → Prop
  | registered (b : β) : Change hal s (.init (some b)) (s.registered b)
  | testRegistered (b : β) : Change hal s (.testInit (some b)) (s.testRegistered b)
  | opened : Change hal s .openHal (s.opened hal)
  | closed : Change hal s .closeHal (s.closed hal)
  | forwarded (r : Request β) (e : Effect) (hr : r.code ∉ [.init, .testInit, .openHal, .closeHal])
      (he : e.Forwarded) : Change hal s r (s.record e)
  | refused (r : Request β) (hr : r.code ∉ [.init, .testInit, .openHal, .closeHal]) : Change hal s r s

namespace GoodixFingerprintDaemonProxy
variable {β : Type} [DecidableEq β]

theorem call_changes (hal : Hal) (r : Request β) (s s' : GoodixFingerprintDaemonProxy β)
    (v : r.Result) (h : (goodixFingerprintDaemonProxy hal).call r s = .ok (v, s')) :
    Change hal s r s' := by
  cases r with
  | init callback =>
    cases callback with
    | none => cases h
    | some b =>
      rw [call_init] at h
      cases h
      exact .registered b
  | testInit callback =>
    cases callback with
    | none => cases h
    | some b =>
      rw [call_testInit] at h
      cases h
      exact .testRegistered b
  | openHal => cases h; exact .opened
  | closeHal => cases h; exact .closed
  | preEnroll | getAuthenticatorId => cases h; exact .forwarded _ _ (by simp [Request.code]) trivial
  | enroll token tokenSize groupId timeout =>
    rw [call_enroll] at h
    split at h
    · cases h; exact .refused _ (by simp [Request.code])
    · cases h; exact .forwarded _ _ (by simp [Request.code]) ⟨rfl, rfl⟩
  | setActiveGroup groupId path pathLen =>
    rw [call_setActiveGroup] at h
    split at h
    · cases h; exact .refused _ (by simp [Request.code])
    · obtain ⟨bytes, -, h⟩ := bind_ok_iff.mp h
      cases h; exact .forwarded _ _ (by simp [Request.code]) ⟨rfl, rfl⟩
  | _ => cases h; exact .forwarded _ _ (by simp [Request.code]) ⟨rfl, rfl⟩

/-- Whether a call returns does not depend on the state it is made in. -/
theorem call_returns (hal : Hal) (r : Request β) (s t s' : GoodixFingerprintDaemonProxy β) (v : r.Result)
    (h : (goodixFingerprintDaemonProxy hal).call r s = .ok (v, s')) :
    ∃ w t', (goodixFingerprintDaemonProxy hal).call r t = .ok (w, t') := by
  cases r with
  | init callback =>
    cases callback with
    | none => cases h
    | some b => exact ⟨(), _, call_init hal t b⟩
  | testInit callback =>
    cases callback with
    | none => cases h
    | some b => exact ⟨(), _, call_testInit hal t b⟩
  | enroll token tokenSize groupId timeout =>
    rw [call_enroll]
    split
    · exact ⟨_, _, rfl⟩
    · exact ⟨_, _, rfl⟩
  | setActiveGroup groupId path pathLen =>
    rw [call_setActiveGroup] at h ⊢
    split at h
    · next hbad => rw [if_pos hbad]; exact ⟨_, _, rfl⟩
    · next hgood =>
      rw [if_neg hgood]
      obtain ⟨bytes, hcopy, -⟩ := bind_ok_iff.mp h
      rw [hcopy]
      exact ⟨_, _, rfl⟩
  | _ => exact ⟨_, _, rfl⟩

/-- Only a null callback and a path that is not there crash the daemon. -/
theorem call_faults (hal : Hal) (r : Request β) (s : GoodixFingerprintDaemonProxy β) (fault : Fault)
    (h : (goodixFingerprintDaemonProxy hal).call r s = .error fault) :
    r = .init none ∨ r = .testInit none ∨ r.code = .setActiveGroup := by
  cases r with
  | init callback =>
    cases callback with
    | none => exact .inl rfl
    | some b =>
      rw [call_init] at h
      cases h
  | testInit callback =>
    cases callback with
    | none => exact .inr (.inl rfl)
    | some b =>
      rw [call_testInit] at h
      cases h
  | setActiveGroup groupId path pathLen => exact .inr (.inr rfl)
  | enroll token tokenSize groupId timeout =>
    rw [call_enroll] at h
    split at h <;> cases h
  | _ => cases h

end GoodixFingerprintDaemonProxy
end GoodixFingerprint
