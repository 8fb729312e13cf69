import GoodixFingerprint.Client.Requests

/-! What a zero tells the caller.

The proxy returns what it reads from the reply, and an empty reply reads as zero, so a
status of zero comes from a method that ran and succeeded or from one that did not run.
`zero_is_done` says which: it means success exactly where the request got through. -/
namespace GoodixFingerprint
open Binder

section Zero
variable {σ τ β : Type}

/-- If the proxy returns zero, the last thing the process ran is a request of this code,
and it returned zero. -/
def ZeroIsDone (impl : IGoodixFingerprintDaemon (StateT σ (Except Fault)) β) (ctx : Context β) (tag : τ)
    (r : Request β) (p : Process (σ × List (Executed τ β))) : Prop :=
  let out := (bpGoodixFingerprintDaemon (Process.transact (impl.traced tag) ctx)).call r p
  ∀ v, out.1 = .ok v → r.code.kind.isZero v = true →
    ∃ e : Executed τ β, out.2.state.2 = p.state.2 ++ [e] ∧ e.request.code = r.code ∧ e.Succeeded

/-- The process lives, lets the request in, and the method that it makes of the parcel returns. -/
def GetsThrough (impl : IGoodixFingerprintDaemon (StateT σ (Except Fault)) β) (ctx : Context β)
    (r : Request β) (p : Process (σ × List (Executed τ β))) : Prop :=
  p.alive = true ∧ Process.admits impl ctx r.code = true ∧
    ∃ v s, impl.call (Process.received ctx r) p.state.1 = .ok (v, s)

/-- A written value reads back as zero exactly if it is. -/
theorem isZero_read_write (k k' : Code.Kind) (h : k' = k) (v : k'.Result) :
    k.isZero (k.read (k'.write v ({} : Parcel β))) = k'.isZero v := by
  subst h
  rw [read_write]

/-- A request that is sent and does not get through is taken for a success. -/
theorem not_zeroIsDone {impl : IGoodixFingerprintDaemon (StateT σ (Except Fault)) β} {ctx : Context β}
    {tag : τ} {r : Request β} (hr : r.Writable) {p p' : Process (σ × List (Executed τ β))} {status : Int32}
    (h : Process.transact (impl.traced tag) ctx r.code.number r.parcel p = ((status, {}), p'))
    (hlog : p'.state.2 = p.state.2) : ¬ ZeroIsDone impl ctx tag r p := by
  intro hdone
  rw [ZeroIsDone] at hdone
  simp only [Process.bp_writable _ _ r hr, Process.answer, ← Process.transact_asked, h, Code.Kind.read_empty] at hdone
  obtain ⟨e, he, -⟩ := hdone _ rfl (Code.Kind.isZero_zero _)
  simp [hlog] at he

/-- Of a request that is sent. -/
theorem zeroIsDone_writable (impl : IGoodixFingerprintDaemon (StateT σ (Except Fault)) β) (ctx : Context β)
    (tag : τ) (r : Request β) (hr : r.Writable) (p : Process (σ × List (Executed τ β))) :
    ZeroIsDone impl ctx tag r p ↔ GetsThrough impl ctx r p := by
  have hadmits : Process.admits (impl.traced tag) ctx r.code = Process.admits impl ctx r.code := rfl
  have hsent := Process.transact_parcel (impl.traced tag) ctx r p
  rw [hadmits] at hsent
  by_cases ha : Process.admits impl ctx r.code = true
  · rw [if_pos ha, Process.invoked] at hsent
    rcases Process.invoke_traced impl tag (Process.received ctx r) p with
      ⟨hdead, heq⟩ | ⟨-, ⟨fault, hfault⟩, heq⟩ | ⟨halive, v, s, hok, heq⟩
    · rw [heq] at hsent
      refine ⟨fun hdone => absurd hdone (not_zeroIsDone hr hsent rfl), fun hthrough => ?_⟩
      rw [hthrough.1] at hdead
      cases hdead
    · rw [heq] at hsent
      refine ⟨fun hdone => absurd hdone (not_zeroIsDone hr hsent rfl), ?_⟩
      intro h
      obtain ⟨-, -, v, s, hok⟩ := h
      rw [hfault] at hok
      cases hok
    · rw [heq] at hsent
      refine ⟨fun _ => ⟨halive, ha, v, s, hok⟩, fun _ => ?_⟩
      unfold ZeroIsDone
      rw [Process.bp_writable _ _ r hr, Process.answer, ← Process.transact_asked, hsent]
      intro out value hvalue hzero
      obtain rfl := Except.ok.inj hvalue
      have hresult := isZero_read_write (β := β) r.code.kind _ (congrArg Code.kind (Process.received_code ctx r)) v
      exact ⟨⟨tag, _, v⟩, rfl, Process.received_code ctx r, hresult.symm.trans hzero⟩
  · rw [if_neg ha] at hsent
    exact ⟨fun hdone => absurd hdone (not_zeroIsDone hr hsent rfl), fun hthrough => absurd hthrough.2.1 ha⟩

/-- A caller that faults over its own buffer is told nothing. -/
theorem zeroIsDone_iff (impl : IGoodixFingerprintDaemon (StateT σ (Except Fault)) β) (ctx : Context β)
    (tag : τ) (r : Request β) (p : Process (σ × List (Executed τ β))) :
    ZeroIsDone impl ctx tag r p ↔ (r.Writable → GetsThrough impl ctx r p) := by
  by_cases hr : r.Writable
  · rw [zeroIsDone_writable impl ctx tag r hr p]
    exact ⟨fun h _ => h, fun h => h hr⟩
  · refine ⟨fun _ h => absurd h hr, fun _ => ?_⟩
    obtain ⟨fault, hfault⟩ := Process.bp_unwritable (impl.traced tag) ctx r hr p
    unfold ZeroIsDone
    rw [hfault]
    intro out v hv
    cases hv

end Zero

/-! ### The client's `openHal` -/

/-- If `getService` returns the service it has just found, that incarnation has run
`openHal` for it, and to success. -/
def ServiceIsOpen (ctx : Context Nat) (i : Interleaving) (w : World) : Prop :=
  ∀ service w', Client.getService ctx i w = (.ok (some service), w') →
    ∃ (more : List (Executed (Option Nat) Nat)) (e : Executed (Option Nat) Nat),
      w'.log service = w.log service ++ more ++ [e] ∧ e.request = .openHal ∧ e.Succeeded

theorem serviceIsOpen_iff (ctx : Context Nat) (i : Interleaving) (w : World) (k : Nat)
    (hunbound : w.gService = none) (hfound : i.found = some k) :
    ServiceIsOpen ctx i w ↔ w.Heard ctx i k := by
  rw [ServiceIsOpen]
  rw [Client.getService_eq, World.served_found ctx i w k hunbound hfound]
  constructor
  · intro hopen
    by_contra hheard
    obtain ⟨hservice, hlog, -⟩ := World.connected_unheard ctx i k w hheard
    obtain ⟨more, e, he, hrequest, -⟩ := hopen k _ (by rw [hservice])
    rcases hlog with hsame | hinit
    · simp [hsame] at he
    · rw [hinit, List.append_assoc, List.append_cancel_left_eq] at he
      have hlast : e = World.initEntry w.callbacks := by
        have hcons := congrArg List.getLast? he
        simpa using hcons.symm
      rw [hlast] at hrequest
      cases hrequest
  · intro hheard service w' hout
    obtain ⟨ret, -, hservice, -, hlog⟩ := World.connected_heard ctx i k w hheard
    obtain ⟨hreturned, rfl⟩ := Prod.mk.inj hout
    have hfound := Except.ok.inj hreturned
    rw [hservice] at hfound
    by_cases hret : ret = 0
    · subst hret
      cases hfound
      exact ⟨[World.initEntry w.callbacks], World.openEntry w.callbacks 0, by rw [hlog]; simp, rfl, rfl⟩
    · rw [if_neg hret] at hfound
      cases hfound

/-- **Zero means success exactly where a request that is sent gets through**: to a living process, with
the token and the permission, in a method that returns; and a service that `getService`
has just bound is open exactly if the incarnation lived to run `openHal`. -/
theorem zero_is_done {σ τ β : Type} (impl : IGoodixFingerprintDaemon (StateT σ (Except Fault)) β) (ctx : Context β)
    (tag : τ) (r : Request β) (p : Process (σ × List (Executed τ β))) (client : Context Nat) (i : Interleaving)
    (w : World) (k : Nat) (hunbound : w.gService = none) (hfound : i.found = some k) :
    (ZeroIsDone impl ctx tag r p ↔ (r.Writable → GetsThrough impl ctx r p)) ∧
      (ServiceIsOpen client i w ↔ w.Heard client i k) :=
  ⟨zeroIsDone_iff impl ctx tag r p, serviceIsOpen_iff client i w k hunbound hfound⟩

/-- A living daemon and a client with the permission. -/
theorem zero_is_done_alive :
    ZeroIsDone (τ := Unit) (goodixFingerprintDaemonProxy (β := Nat) .succeeding) (.granting true) () .closeHal
      { state := ({}, []) } ∧
    ServiceIsOpen (.granting true) { found := some 0, hal := .succeeding } { started := 1 } := by
  have hadmits : Process.admits (goodixFingerprintDaemonProxy (β := Nat) .succeeding) (.granting true) .closeHal =
      true := by
    show (descriptor == descriptor && _) = true
    rw [beq_self_eq_true]
    rfl
  have hdone := zero_is_done (τ := Unit) (goodixFingerprintDaemonProxy (β := Nat) .succeeding) (.granting true) ()
    .closeHal { state := ({}, []) } (.granting true) { found := some 0, hal := .succeeding } { started := 1 } 0 rfl rfl
  exact ⟨hdone.1.mpr fun _ => ⟨rfl, hadmits, _, _, rfl⟩, hdone.2.mpr ⟨rfl, rfl, by decide⟩⟩

/-- A dead daemon: `closeHal` reports a success, and `getService` a service. -/
theorem zero_is_not_done_dead :
    ¬ ZeroIsDone (τ := Unit) (goodixFingerprintDaemonProxy (β := Nat) .succeeding) (.granting true) () .closeHal
      { alive := false, state := ({}, []) } ∧
    ¬ ServiceIsOpen (.granting true) { found := some 0, hal := .succeeding }
      { started := 1, daemons := fun _ => { alive := false, state := ({}, []) } } := by
  refine ⟨fun hdone => ?_, fun hopen => ?_⟩
  · cases ((zeroIsDone_writable _ _ _ .closeHal trivial _).mp hdone).1
  · cases ((serviceIsOpen_iff _ _ _ 0 rfl rfl).mp hopen).2.1

end GoodixFingerprint
