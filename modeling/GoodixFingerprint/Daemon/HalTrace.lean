import GoodixFingerprint.Daemon.Wire

/-! What the HAL is called for.

`Request.asks` is the contract between the interface and the HAL: one function for each
request that is not refused. Over a run the HAL is called for just what was asked, in the
order of the transactions, each once; the only calls that nobody asks for are the exits that
death notices cause. -/
namespace GoodixFingerprint
open Binder

/-- The call of an effect. -/
def Effect.call : Effect → Option HalCall
  | called call _ | queried call => some call
  | _ => none

namespace Request
variable {β : Type}

/-- The path is of an admitted length, and there. -/
def PathHeld (path : Ptr) (pathLen : Int64) : Prop :=
  0 < pathLen.toInt ∧ pathLen.toInt < pathMax ∧ ∃ bytes ∈ path, pathLen.toInt ≤ bytes.length

instance (path : Ptr) (pathLen : Int64) : Decidable (PathHeld path pathLen) := by
  unfold PathHeld
  infer_instance

/-- What a request asks of the HAL, where the open device is `dev` and the next one `new`. -/
def asks (dev : Option Device) (new : Device) : Request β → Option HalCall
  | init _ | testInit _ => none
  | openHal => some (.init (some new))
  | closeHal => some (.exit dev)
  | preEnroll => some (.preEnroll dev)
  | enroll token tokenLength groupId timeout =>
    if tokenLength.toUInt64 = UInt64.ofNat hwAuthTokenSize then
      some (.enroll dev token groupId.toUInt32 timeout.toUInt32)
    else none
  | postEnroll => some (.postEnroll dev)
  | stopEnrollment | stopAuthentication | stopNavigation | stopCameraCapture => some (.cancel dev)
  | authenticate sessionId groupId => some (.authenticate dev sessionId groupId)
  | remove fingerId groupId => some (.remove dev groupId.toUInt32 fingerId.toUInt32)
  | getAuthenticatorId => some (.getAuthId dev)
  | setActiveGroup groupId path pathLen =>
    if PathHeld path pathLen then some (.setActiveGroup dev groupId.toUInt32) else none
  | setSafeClass safeClass => some (.setSafeClass dev safeClass)
  | navigate navMode => some (.navigate dev navMode)
  | enableFingerprintModule enableFlag => some (.enableFingerprintModule dev enableFlag)
  | cameraCapture => some (.cameraCapture dev)
  | enableFfFeature enableFlag => some (.enableFfFeature dev enableFlag)
  | testCmd cmdId param paramLen => some (.testCmd dev cmdId param paramLen)
  | screenOn => some .screenOn
  | screenOff => some .screenOff
  | startHbd => some (.startHbd dev)

end Request

namespace GoodixFingerprintDaemonProxy
variable {β : Type}

/-- The calls of the HAL so far. -/
def halCalls (s : GoodixFingerprintDaemonProxy β) : List HalCall := s.effects.filterMap Effect.call

theorem halCalls_record (s : GoodixFingerprintDaemonProxy β) (e : Effect) :
    (s.record e).halCalls = s.halCalls ++ e.call.toList := by
  rw [halCalls, record, List.filterMap_append]
  cases he : e.call with
  | none => simp [halCalls, he]
  | some call => simp [halCalls, he]

theorem halCalls_closed (hal : Hal) (s : GoodixFingerprintDaemonProxy β) :
    (s.closed hal).halCalls = s.halCalls ++ [.exit s.mDevice] := by
  rw [closed_eq, halCalls, List.filterMap_append]
  cases s.mDevice with
  | none => rfl
  | some d => rfl

variable [DecidableEq β]

/-- The path can be copied exactly if it is there. -/
theorem copy_iff (path : Ptr) (pathLen : Int64) (hpos : 0 < pathLen.toInt) (hmax : pathLen.toInt < pathMax) :
    (∃ bytes, memcpy pathMax path pathLen.toInt.toNat = .ok bytes) ↔ Request.PathHeld path pathLen := by
  unfold Request.PathHeld
  cases path with
  | none =>
    simp only [memcpy_none_iff, Option.mem_def, reduceCtorEq, false_and, exists_false, and_false, iff_false]
    omega
  | some bytes =>
    simp only [memcpy_some_iff, Option.mem_def, Option.some.injEq, exists_eq_left', exists_and_left, exists_eq,
      and_true]
    omega

/-- A call that returns has asked the HAL for what its request says. -/
theorem halCalls_call (hal : Hal) (r : Request β) (s s' : GoodixFingerprintDaemonProxy β) (v : r.Result)
    (h : (goodixFingerprintDaemonProxy hal).call r s = .ok (v, s')) :
    s'.halCalls = s.halCalls ++ (r.asks s.mDevice s.allocated).toList := by
  cases r with
  | init callback =>
    have hchange := call_changes hal _ s s' v h
    cases hchange with
    | registered => exact (List.append_nil _).symm
    | forwarded _ _ hr | refused _ hr => simp [Request.code] at hr
  | testInit callback =>
    have hchange := call_changes hal _ s s' v h
    cases hchange with
    | testRegistered => exact (List.append_nil _).symm
    | forwarded _ _ hr | refused _ hr => simp [Request.code] at hr
  | openHal =>
    cases h
    rw [opened_eq, halCalls, List.filterMap_append]
    rfl
  | closeHal =>
    cases h
    exact halCalls_closed hal s
  | enroll token tokenSize groupId timeout =>
    rw [call_enroll] at h
    rw [Request.asks]
    split at h
    · next hsize =>
      cases h
      rw [if_neg hsize]
      exact (List.append_nil _).symm
    · next hsize =>
      cases h
      rw [if_pos (not_not.mp hsize), halCalls_record]
      rfl
  | setActiveGroup groupId path pathLen =>
    rw [call_setActiveGroup] at h
    rw [Request.asks]
    split at h
    · next hlen =>
      cases h
      have hrefused : ¬ Request.PathHeld path pathLen := fun hheld => by
        have := hheld.1
        have := hheld.2.1
        omega
      rw [if_neg hrefused]
      exact (List.append_nil _).symm
    · next hlen =>
      obtain ⟨bytes, hcopy, h⟩ := bind_ok_iff.mp h
      cases h
      rw [if_pos ((copy_iff path pathLen (by omega) (by omega)).mp ⟨bytes, hcopy⟩), halCalls_record]
      rfl
  | _ =>
    cases h
    rw [halCalls_record]
    rfl

/-- A call that crashes asks for nothing. -/
theorem asks_crashed (hal : Hal) (r : Request β) (s : GoodixFingerprintDaemonProxy β) (fault : Fault)
    (h : (goodixFingerprintDaemonProxy hal).call r s = .error fault) (dev : Option Device) (new : Device) :
    r.asks dev new = none := by
  rcases call_faults hal r s fault h with rfl | rfl | hcode
  · rfl
  · rfl
  · cases r with
    | setActiveGroup groupId path pathLen =>
      rw [call_setActiveGroup] at h
      rw [Request.asks, if_neg]
      split at h
      · cases h
      · next hlen =>
        intro hheld
        obtain ⟨bytes, hcopy⟩ := (copy_iff path pathLen (by omega) (by omega)).mpr hheld
        rw [hcopy] at h
        cases h
    | _ => cases hcode

end GoodixFingerprintDaemonProxy

namespace Daemon
variable {β : Type} [DecidableEq β]
open BnGoodixFingerprintDaemon GoodixFingerprintDaemonProxy

/-- What an event asks of the HAL. -/
def demanded (p : Process (GoodixFingerprintDaemonProxy β)) : Event β → Option HalCall
  | .call r _ => if p.alive then r.asks p.state.mDevice p.state.allocated else none
  | .died _ => none
  | .notice who _ =>
    if p.alive = true ∧ p.state.mTestCallback ≠ some who then some (.exit p.state.mDevice) else none

theorem halCalls_next (p : Process (GoodixFingerprintDaemonProxy β)) (e : Event β) :
    (next p e).state.halCalls = p.state.halCalls ++ (demanded p e).toList := by
  cases e with
  | died b => exact (List.append_nil _).symm
  | notice who hal =>
    rw [demanded]
    cases hp : p.alive with
    | false => simp [next, hp]
    | true =>
      rw [next_notice p hp]
      by_cases htest : p.state.mTestCallback = some who
      · rw [notified_test hal who _ htest, if_neg (by simp [htest])]
        exact (List.append_nil _).symm
      · have hclosed := halCalls_closed hal p.state
        rw [closed_eq] at hclosed
        simp only [true_and, if_pos htest]
        rw [notified_other hal who _ htest]
        exact hclosed
  | call r hal =>
    rw [demanded]
    cases hp : p.alive with
    | false =>
      rw [next_dead p hp]
      exact (List.append_nil _).symm
    | true =>
      simp only [next, Process.invoke, hp, if_true]
      cases hcall : (goodixFingerprintDaemonProxy hal).call r p.state with
      | error fault =>
        rw [asks_crashed hal r p.state fault hcall]
        exact (List.append_nil _).symm
      | ok out => exact halCalls_call hal r p.state out.2 out.1 hcall

/-- What an arrival asks of the HAL. -/
def Arrival.demanded (p : Process (GoodixFingerprintDaemonProxy β)) (e : Arrival β) : Option HalCall :=
  e.event.bind (Daemon.demanded p)

theorem halCalls_receive (p : Process (GoodixFingerprintDaemonProxy β)) (e : Arrival β) :
    (receive p e).state.halCalls = p.state.halCalls ++ (e.demanded p).toList := by
  rw [receive_event, Arrival.demanded]
  cases e.event with
  | none => exact (List.append_nil _).symm
  | some a => exact halCalls_next p a

theorem halCalls_run (events : List (Arrival β)) :
    (arrivals.run (initial (β := β)) events).state.halCalls =
      (arrivals.steps initial events).flatMap fun t => (t.2.demanded t.1).toList :=
  arrivals.run_output (O := fun p => p.state.halCalls) halCalls_receive initial events

/-- **The HAL is called for what was asked**, for all of it, in order, and for nothing else. -/
theorem hal_called_as_asked (events : List (Arrival β)) :
    (arrivals.run (initial (β := β)) events).state.halCalls =
      (arrivals.steps initial events).filterMap fun t => t.2.demanded t.1 := by
  rw [halCalls_run, List.filterMap_eq_flatMap_toList]

/-- The functions that the test commands stand for, which are served without the permission. -/
def HalCall.forTests : HalCall → Bool
  | .testCmd .. | .startHbd _ => true
  | _ => false

/-- The call was asked for: by a transaction with the token, from a caller with the permission
unless it is for tests, or by a death that the daemon was told of. -/
def Asked (call : HalCall) (t : Process (GoodixFingerprintDaemonProxy β) × Arrival β) : Prop :=
  (∃ ctx hal code data, t.2 = .transaction ctx hal code data ∧ (data.checkInterface descriptor).1 = true ∧
    (HalCall.forTests call = false → checkPermission ctx halFingerprintPermission = true) ∧
    ∃ c, Code.ofNumber code = some c ∧
      (c.decode ctx (data.checkInterface descriptor).2).1.asks t.1.state.mDevice t.1.state.allocated = some call) ∨
  ∃ who hal, t.2 = .notice who hal ∧ t.1.state.mTestCallback ≠ some who ∧ call = .exit t.1.state.mDevice

omit [DecidableEq β] in
/-- Only the test commands ask for the functions for tests, and they for no other. -/
theorem gated_asks (r : Request β) (dev : Option Device) (new : Device) (call : HalCall)
    (h : r.asks dev new = some call) (htests : HalCall.forTests call = false) : r.code.gated = true := by
  cases r with
  | testInit => cases h
  | testCmd | startHbd =>
    cases h
    cases htests
  | _ => rfl

theorem asked_demanded (p : Process (GoodixFingerprintDaemonProxy β)) (e : Arrival β) (call : HalCall)
    (h : e.demanded p = some call) : p.alive = true ∧ Asked call (p, e) := by
  obtain ⟨a, ha, hdemanded⟩ := Option.bind_eq_some_iff.mp h
  cases e with
  | died b =>
    cases ha
    cases hdemanded
  | notice who hal =>
    cases ha
    obtain ⟨⟨hp, htest⟩, hcall⟩ := Option.ite_none_right_eq_some.mp hdemanded
    exact ⟨hp, .inr ⟨who, hal, rfl, htest, (Option.some.inj hcall).symm⟩⟩
  | transaction ctx hal code data =>
    obtain ⟨r, hr, rfl⟩ := Option.map_eq_some_iff.mp ha
    obtain ⟨hp, hasks⟩ := Option.ite_none_right_eq_some.mp hdemanded
    obtain ⟨hcode, htoken, hperm, hdecode⟩ := (requested_iff ctx code data r).mp hr
    refine ⟨hp, .inl ⟨ctx, hal, code, data, rfl, htoken, fun htests => ?_, r.code, hcode, ?_⟩⟩
    · exact hperm (gated_asks r _ _ call hasks htests)
    · rw [hdecode]
      exact hasks

/-- **Every call of the HAL was asked for by someone who may**: behind each there is a transaction
that carried the token and decodes to it, from a permitted caller unless it is a test command's,
or the notice of a death. -/
theorem hal_calls_mediated (events : List (Arrival β)) :
    ∀ call ∈ (arrivals.run (initial (β := β)) events).state.halCalls,
      ∃ t ∈ arrivals.steps initial events, t.1.alive = true ∧ Asked call t := by
  intro call hcall
  rw [halCalls_run] at hcall
  obtain ⟨t, ht, hmem⟩ := List.mem_flatMap.mp hcall
  exact ⟨t, ht, asked_demanded t.1 t.2 call (Option.mem_toList.mp hmem)⟩

/-- A permitted caller opens the HAL. -/
def opening : List (Arrival Nat) :=
  [.transaction (.granting true) .succeeding (Request.openHal (β := Nat)).code.number Request.openHal.parcel]

theorem hal_calls_mediated_opening :
    ∃ t ∈ arrivals.steps initial opening, t.1.alive = true ∧ Asked (.init (some 0)) t :=
  hal_calls_mediated opening (.init (some 0)) (by decide +kernel)

end Daemon
end GoodixFingerprint
