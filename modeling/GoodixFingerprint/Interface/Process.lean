import GoodixFingerprint.Interface.RoundTrip

/-! A process behind the interface.

`Process.transact` is what a transaction on the process's binder does, wire and all: a
dead process answers nothing, a refused or crashed transaction leaves the reply empty.
`Process.remote` says the same without the wire, and `bp_transact` that for requests
that fit the two are equal: what reaches the caller is the method's own result when
the method ran, and zero when it did not. -/
namespace GoodixFingerprint
open Binder

/-- `DEAD_OBJECT`, `-EPIPE`. -/
def deadObject : Int32 := -32

structure Process (σ : Type) where
  alive : Bool := true
  state : σ

/-- A method that ran to its end, on whose behalf, and what it returned. -/
structure Executed (τ β : Type) where
  tag : τ
  request : Request β
  result : request.Result

/-- It returned zero. -/
def Executed.Succeeded {τ β : Type} (e : Executed τ β) : Prop := e.request.code.kind.isZero e.result = true

/-- The same implementation, keeping a log of the methods it has run. -/
def IGoodixFingerprintDaemon.traced {σ τ β : Type} (tag : τ)
    (impl : IGoodixFingerprintDaemon (StateT σ (Except Fault)) β) :
    IGoodixFingerprintDaemon (StateT (σ × List (Executed τ β)) (Except Fault)) β :=
  ofCall impl.getInterfaceDescriptor fun r p =>
    match impl.call r p.1 with
    | .ok (v, s) => .ok (v, (s, p.2 ++ [⟨tag, r, v⟩]))
    | .error fault => .error fault

namespace Process
variable {σ β : Type} (impl : IGoodixFingerprintDaemon (StateT σ (Except Fault)) β) (ctx : Context β)

/-- The reply parcel reaches the caller only with a status of `NO_ERROR`. -/
def transact : Transact (StateM (Process σ)) β := fun code data p =>
  if p.alive then
    match BnGoodixFingerprintDaemon.onTransact impl ctx code data p.state with
    | .ok (outcome, s) =>
      (if outcome.status = noError then (noError, outcome.reply) else (outcome.status, {}),
        {p with state := s})
    | .error _ => ((deadObject, {}), {p with alive := false})
  else ((deadObject, {}), p)

/-- One method run in the process: its result, or nothing if the process is or falls dead. -/
def invoke (r : Request β) (p : Process σ) : Option r.Result × Process σ :=
  if p.alive then
    match impl.call r p.state with
    | .ok (v, s) => (some v, {p with state := s})
    | .error _ => (none, {p with alive := false})
  else (none, p)

/-- The stub's two checks, for a parcel the proxy wrote. -/
def admits (c : Code) : Bool :=
  descriptor == impl.getInterfaceDescriptor &&
    (!c.gated || BnGoodixFingerprintDaemon.checkPermission ctx halFingerprintPermission)

/-- A request made from another process, without the wire. -/
def remote (r : Request β) : StateM (Process σ) r.Result := fun p =>
  if admits impl ctx r.code then ((p.invoke impl r).1.getD r.code.kind.zero, (p.invoke impl r).2)
  else (r.code.kind.zero, p)

/-! ### What a transaction does to the process -/

/-- Status and reply of a transaction that invoked a method. -/
def invoked (r : Request β) (p : Process σ) : (Int32 × Parcel β) × Process σ :=
  match p.invoke impl r with
  | (some v, p') => ((noError, r.code.kind.write v {}), p')
  | (none, p') => ((deadObject, {}), p')

theorem invoked_snd (r : Request β) (p : Process σ) :
    (p.invoked (β := β) impl r).2 = (p.invoke impl r).2 := by
  unfold invoked
  obtain ⟨_ | v, p'⟩ := p.invoke impl r <;> rfl

/-- A transaction of the interface: the decoded request's method, if it is let in. -/
theorem transact_known (code : UInt32) (data : Parcel β) (p : Process σ) (c : Code)
    (hc : Code.ofNumber code = some c) :
    transact impl ctx code data p =
      if BnGoodixFingerprintDaemon.Admits impl ctx data c then
        p.invoked impl (c.decode ctx (data.checkInterface impl.getInterfaceDescriptor).2).1
      else ((if p.alive then permissionDenied else deadObject, {}), p) := by
  obtain ⟨alive, s⟩ := p
  unfold transact invoked invoke
  rw [BnGoodixFingerprintDaemon.onTransact_eq impl ctx _ _ c hc, BnGoodixFingerprintDaemon.served]
  cases BnGoodixFingerprintDaemon.Admits impl ctx data c with
  | false =>
    cases alive <;> rfl
  | true =>
    cases alive
    · rfl
    · simp only [if_true, BnGoodixFingerprintDaemon.answer, bind, StateT.bind, Except.bind]
      generalize c.decode ctx (data.checkInterface impl.getInterfaceDescriptor).2 = decoded
      cases impl.call decoded.1 s <;> rfl

/-- A transaction of any other code leaves the process alone. -/
theorem transact_unknown (code : UInt32) (data : Parcel β) (p : Process σ)
    (hc : Code.ofNumber code = none) : (transact impl ctx code data p).2 = p := by
  obtain ⟨alive, s⟩ := p
  unfold transact BnGoodixFingerprintDaemon.onTransact
  rw [hc]
  cases alive <;> rfl

/-- Invoking a traced method: on a dead process, with a crash, or with one entry in the log. -/
theorem invoke_traced {τ : Type} (tag : τ) (r : Request β) (p : Process (σ × List (Executed τ β))) :
    (p.alive = false ∧ p.invoke (impl.traced tag) r = (none, p)) ∨
    (p.alive = true ∧ (∃ fault, impl.call r p.state.1 = .error fault) ∧
      p.invoke (impl.traced tag) r = (none, {p with alive := false})) ∨
    (p.alive = true ∧ ∃ v s, impl.call r p.state.1 = .ok (v, s) ∧
      p.invoke (impl.traced tag) r = (some v, {p with state := (s, p.state.2 ++ [⟨tag, r, v⟩])})) := by
  unfold invoke
  rw [IGoodixFingerprintDaemon.traced, IGoodixFingerprintDaemon.call_ofCall]
  cases p.alive with
  | false => exact .inl ⟨rfl, rfl⟩
  | true =>
    cases impl.call r p.state.1 with
    | error fault => exact .inr (.inl ⟨rfl, ⟨fault, rfl⟩, rfl⟩)
    | ok out => exact .inr (.inr ⟨rfl, out.1, out.2, rfl, rfl⟩)

/-! ### The wire adds nothing -/

/-- The request that the stub makes of what the proxy wrote. -/
def received (r : Request β) : Request β :=
  (r.code.decode ctx
    (Parcel.between (Parcel.interfaceToken descriptor) r.fields.flatten r.objects)).1

theorem received_code (r : Request β) : (received ctx r).code = r.code :=
  Code.decode_code ctx _ r.code

theorem received_fits (r : Request β) (hr : r.Fits) : received ctx r = r := by
  rw [received, decode_fields ctx r hr]

/-- A transaction on a written parcel. -/
theorem transact_parcel (r : Request β) (p : Process σ) :
    transact impl ctx r.code.number r.parcel p =
      if admits impl ctx r.code then p.invoked impl (received ctx r)
      else ((if p.alive then permissionDenied else deadObject, {}), p) := by
  rw [transact_known impl ctx _ _ p r.code (Code.ofNumber_number r.code),
    BnGoodixFingerprintDaemon.Admits, r.parcel_token]
  rfl

/-- The process after a request was sent to it. -/
def asked (r : Request β) (p : Process σ) : Process σ :=
  if admits impl ctx r.code then (p.invoke impl (received ctx r)).2 else p

/-- What the caller reads from the answer to a request that was sent. -/
def answer (r : Request β) (p : Process σ) : r.Result :=
  r.code.kind.read (transact impl ctx r.code.number r.parcel p).1.2

theorem transact_asked (r : Request β) (p : Process σ) :
    (transact impl ctx r.code.number r.parcel p).2 = p.asked impl ctx r := by
  rw [transact_parcel, asked]
  split
  · exact invoked_snd impl _ p
  · rfl

/-- What the proxy makes of the transaction. -/
theorem bp_writable (r : Request β) (hr : r.Writable) (p : Process σ) :
    (bpGoodixFingerprintDaemon (transact impl ctx)).call r p = (.ok (p.answer impl ctx r), p.asked impl ctx r) := by
  rw [bp_call_ok _ r _ _ (r.written_ok hr), ← transact_asked, answer]
  rfl

/-- A request that cannot be written is not sent. -/
theorem bp_unwritable (r : Request β) (hr : ¬ r.Writable) (p : Process σ) :
    ∃ fault, (bpGoodixFingerprintDaemon (transact impl ctx)).call r p = (.error fault, p) := by
  obtain ⟨fault, hfault⟩ := r.written_error hr
  refine ⟨fault, ?_⟩
  rw [bp_call_error _ r fault hfault]
  rfl

/-- Answer and process are those of the method itself, for requests that fit. -/
theorem answer_asked (r : Request β) (hr : r.Fits) (p : Process σ) :
    (p.answer impl ctx r, p.asked impl ctx r) = remote impl ctx r p := by
  rw [answer, transact_parcel, asked, received_fits ctx r hr, remote]
  cases admits impl ctx r.code with
  | false => simp [Code.Kind.read_empty]
  | true =>
    simp only [if_true, invoked]
    obtain ⟨out, p'⟩ := p.invoke impl r
    cases out with
    | none => simp [Code.Kind.read_empty]
    | some v => simp [read_write]

/-- **A call through proxy, wire and stub is the method itself**, for requests that fit. -/
theorem bp_transact (r : Request β) (hr : r.Fits) :
    (bpGoodixFingerprintDaemon (transact impl ctx)).call r = ExceptT.lift (remote impl ctx r) := by
  funext p
  rw [bp_writable impl ctx r hr.writable]
  show _ = (Except.ok (remote impl ctx r p).1, (remote impl ctx r p).2)
  rw [← answer_asked impl ctx r hr]

end Process
end GoodixFingerprint
