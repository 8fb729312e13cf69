import Mathlib.Data.List.Basic
import Mathlib.Tactic.Linarith

/-! Memory, little-endian words and padded buffers as byte lists.

A pointer is `NULL` or the bytes it spans, and a copy that leaves them is a fault.
A word is its bytes, least significant first; a buffer of `n` bytes occupies
`padSize n` of them, the rest zero. Nothing here knows what the bytes are for. -/
namespace Binder

/-- A pointer to memory that the reader may use: `NULL`, or the bytes it spans. -/
abbrev Ptr := Option (List UInt8)

namespace Ptr

/-- The pointer reaches `n` bytes at least. -/
def Covers (data : Ptr) (n : Nat) : Prop := n ≤ (data.getD []).length

instance (data : Ptr) (n : Nat) : Decidable (data.Covers n) := inferInstanceAs (Decidable (n ≤ _))

theorem covers_some (bytes : List UInt8) (n : Nat) : Covers (some bytes) n ↔ n ≤ bytes.length := Iff.rfl

theorem covers_none (n : Nat) : Covers none n ↔ n = 0 := Nat.le_zero

end Ptr

/-- What kills a process. -/
inductive Fault where
  | nullPointer | dangling | overread | overflow
  /-- A call through a null function pointer. -/
  | nullFunction
  deriving DecidableEq

/-- It comes from an access that leaves its memory. -/
def Fault.OfMemory : Fault → Prop
  | nullPointer | overread | overflow => True
  | dangling | nullFunction => False

/-- Two steps succeed if the first does and the second on what it brings. -/
theorem bind_ok_iff {α γ : Type} {x : Except Fault α} {f : α → Except Fault γ} {c : γ} :
    x >>= f = .ok c ↔ ∃ a, x = .ok a ∧ f a = .ok c := by
  cases x with
  | error fault => simp [bind, Except.bind]
  | ok a => simp [bind, Except.bind]

theorem bind_error_iff {α γ : Type} {x : Except Fault α} {f : α → Except Fault γ} {fault : Fault} :
    x >>= f = .error fault ↔ x = .error fault ∨ ∃ a, x = .ok a ∧ f a = .error fault := by
  cases x with
  | error fault => simp [bind, Except.bind]
  | ok a => simp [bind, Except.bind]

theorem map_ok_iff {α γ : Type} {x : Except Fault α} {f : α → γ} {c : γ} :
    x.map f = .ok c ↔ ∃ a, x = .ok a ∧ f a = c := by
  cases x with
  | error fault => simp [Except.map]
  | ok a => simp [Except.map]

section Lift
variable {m : Type → Type} [Monad m] [LawfulMonad m] {ε α γ : Type}

/-- What may fault, as the beginning of something that does more. -/
theorem lift_ok_bind (a : α) (f : α → ExceptT ε m γ) :
    (liftM (Except.ok a : Except ε α) : ExceptT ε m α) >>= f = f a :=
  pure_bind a f

theorem lift_error_bind (fault : ε) (f : α → ExceptT ε m γ) :
    (liftM (Except.error fault : Except ε α) : ExceptT ε m α) >>= f = throw fault := by
  apply ExceptT.ext
  rw [ExceptT.run_bind]
  exact pure_bind _ _

end Lift

/-- `memcpy` of `n` bytes into a buffer of the given capacity. -/
def memcpy (capacity : Nat) (src : Ptr) (n : Nat) : Except Fault (List UInt8) :=
  match src with
  | none => if n = 0 then .ok [] else .error .nullPointer
  | some bytes =>
    if bytes.length < n then .error .overread
    else if capacity < n then .error .overflow
    else .ok (bytes.take n)

/-- From `NULL` nothing at all can be copied, from anywhere else what is there and fits. -/
theorem memcpy_none_iff {capacity n : Nat} {bytes : List UInt8} :
    memcpy capacity none n = .ok bytes ↔ n = 0 ∧ bytes = [] := by
  rw [memcpy]
  split
  · next hzero => simp [hzero, eq_comm]
  · next hzero => simp [hzero]

theorem memcpy_some_iff {capacity n : Nat} {src bytes : List UInt8} :
    memcpy capacity (some src) n = .ok bytes ↔ n ≤ src.length ∧ n ≤ capacity ∧ bytes = src.take n := by
  rw [memcpy]
  split
  · next hshort => simp [Nat.not_le.mpr hshort]
  · next hlong =>
    split
    · next hfull => simp [Nat.not_le.mpr hfull]
    · next hroom => simp [Nat.not_lt.mp hlong, Nat.not_lt.mp hroom, eq_comm]

/-- A copy succeeds if the source covers it and the destination holds it. -/
theorem memcpy_ok_iff {capacity n : Nat} {src : Ptr} {bytes : List UInt8} :
    memcpy capacity src n = .ok bytes ↔ src.Covers n ∧ n ≤ capacity ∧ bytes = (src.getD []).take n := by
  cases src with
  | none =>
    rw [memcpy_none_iff, Ptr.covers_none]
    constructor
    · intro h
      obtain ⟨rfl, rfl⟩ := h
      exact ⟨rfl, Nat.zero_le _, rfl⟩
    · intro h
      obtain ⟨rfl, -, rfl⟩ := h
      exact ⟨rfl, rfl⟩
  | some src => exact memcpy_some_iff

theorem memcpy_whole {capacity : Nat} {bytes : List UInt8} (h : bytes.length ≤ capacity) :
    memcpy capacity (some bytes) bytes.length = .ok bytes :=
  memcpy_some_iff.mpr ⟨Nat.le_refl _, h, List.take_length.symm⟩

theorem memcpy_length {capacity n : Nat} {src : Ptr} {bytes : List UInt8} (h : memcpy capacity src n = .ok bytes) :
    bytes.length = n := by
  cases src with
  | none =>
    obtain ⟨rfl, rfl⟩ := memcpy_none_iff.mp h
    rfl
  | some src =>
    obtain ⟨hlong, -, rfl⟩ := memcpy_some_iff.mp h
    exact List.length_take_of_le hlong

theorem memcpy_error {capacity n : Nat} {src : Ptr} {fault : Fault} (h : memcpy capacity src n = .error fault) :
    fault.OfMemory := by
  unfold memcpy at h
  split at h
  · split at h
    · cases h
    · cases h
      trivial
  · split at h
    · cases h
      trivial
    · split at h
      · cases h
        trivial
      · cases h

/-- There is a zero to end the string, or no string. -/
def Ptr.Terminated (data : Ptr) : Prop := ∀ bytes ∈ data, 0 ∈ bytes

/-- `%s`: a string is read up to its zero, and `NULL` is printed as such. -/
def printString : Ptr → Except Fault Unit
  | none => .ok ()
  | some bytes => if 0 ∈ bytes then .ok () else .error .overread

theorem printString_ok {data : Ptr} (h : data.Terminated) : printString data = .ok () := by
  cases data with
  | none => rfl
  | some bytes => exact if_pos (h bytes rfl)

/-- A pointer to memory that may not have been written: `NULL`, or its cells. -/
abbrev Memory := Option (List (Option UInt8))

namespace Memory

def ofBytes (bytes : List UInt8) : Memory := some (bytes.map some)

def ofPtr (p : Ptr) : Memory := p.bind ofBytes

/-- The first `n` cells, read. -/
def fetch (m : Memory) (n : Nat) : Except Fault (List (Option UInt8)) :=
  match m with
  | none => .error .nullPointer
  | some cells => if cells.length < n then .error .overread else .ok (cells.take n)

/-- `memcpy` of `n` bytes to the front of a buffer just allocated. -/
def copied (capacity : Nat) (src : Ptr) (n : Nat) : Except Fault Memory :=
  (memcpy capacity src n).map fun bytes => some (bytes.map some ++ List.replicate (capacity - n) none)

/-- `m[index] = value`. -/
def store (m : Memory) (index : Nat) (value : UInt8) : Except Fault Memory :=
  match m with
  | none => .error .nullPointer
  | some cells => if cells.length ≤ index then .error .overflow else .ok (some (cells.set index (some value)))

theorem fetch_ok_iff {cells read : List (Option UInt8)} {n : Nat} :
    fetch (some cells) n = .ok read ↔ n ≤ cells.length ∧ read = cells.take n := by
  rw [fetch]
  split
  · next hshort => simp [Nat.not_le.mpr hshort]
  · next hlong => simp [Nat.not_lt.mp hlong, eq_comm]

theorem fetch_error {m : Memory} {n : Nat} {fault : Fault} (h : m.fetch n = .error fault) : fault.OfMemory := by
  unfold fetch at h
  split at h
  · cases h
    trivial
  · split at h
    · cases h
      trivial
    · cases h

theorem copied_error {capacity n : Nat} {src : Ptr} {fault : Fault} (h : copied capacity src n = .error fault) :
    fault.OfMemory := by
  rw [copied] at h
  cases hcopy : memcpy capacity src n with
  | error fault' =>
    rw [hcopy] at h
    cases h
    exact memcpy_error hcopy
  | ok bytes =>
    rw [hcopy] at h
    cases h

theorem ofPtr_some (bytes : List UInt8) : ofPtr (some bytes) = some (bytes.map some) := rfl

/-- A buffer after a copy: the bytes, and behind them what was allocated. -/
theorem copied_cells {capacity n : Nat} {src : Ptr} {m : Memory} (h : copied capacity src n = .ok m) :
    ∃ bytes : List UInt8, bytes.length ≤ n ∧ m = some (bytes.map some ++ List.replicate (capacity - n) none) := by
  obtain ⟨bytes, hcopy, rfl⟩ := map_ok_iff.mp h
  exact ⟨bytes, Nat.le_of_eq (memcpy_length hcopy), rfl⟩

/-- Behind a copy that does not fill the buffer there is room for one byte more. -/
theorem copied_store {capacity n : Nat} (src : Ptr) (hroom : n < capacity) (value : UInt8) {γ : Type}
    (after : Except Fault γ) :
    (do
      let m ← copied capacity src n
      let _ ← m.store n value
      after) = memcpy capacity src n >>= fun _ => after := by
  rw [copied]
  cases hcopy : memcpy capacity src n with
  | error fault => rfl
  | ok bytes =>
    have hlength := memcpy_length hcopy
    simp only [Except.map, bind, Except.bind, store]
    rw [if_neg (by rw [List.length_append, List.length_map, List.length_replicate]; omega)]

/-- What is read of a buffer was written, or some of it was not. -/
theorem fetch_cells {bytes : List UInt8} {free k : Nat} {cells : List (Option UInt8)}
    (h : fetch (some (bytes.map some ++ List.replicate free none)) k = .ok cells) :
    k ≤ bytes.length ∨ none ∈ cells := by
  by_cases hk : k ≤ bytes.length
  · exact .inl hk
  · rw [fetch] at h
    split at h
    · cases h
    · next hlong =>
      cases h
      rw [List.length_append, List.length_map, List.length_replicate] at hlong
      right
      rw [List.take_append, List.take_of_length_le (by rw [List.length_map]; omega), List.take_replicate,
        List.mem_append, List.mem_replicate]
      refine .inr ⟨?_, rfl⟩
      rw [List.length_map]
      omega

end Memory

/-! ### Words -/

/-- The low `n` bytes of a number, least significant first. -/
def leBytes : Nat → Nat → List UInt8
  | 0, _ => []
  | n + 1, v => UInt8.ofNat v :: leBytes n (v / 256)

/-- The number that little-endian bytes spell. -/
def leValue : List UInt8 → Nat
  | [] => 0
  | b :: rest => b.toNat + 256 * leValue rest

theorem leBytes_length (n v : Nat) : (leBytes n v).length = n := by
  induction n generalizing v with
  | zero => rfl
  | succ n ih => simp [leBytes, ih]

/-- Bytes read back as the number, reduced to the width they hold. -/
theorem leValue_leBytes (n v : Nat) : leValue (leBytes n v) = v % 256 ^ n := by
  induction n generalizing v with
  | zero => simp [leBytes, leValue, Nat.mod_one]
  | succ n ih =>
    have hbyte : (UInt8.ofNat v).toNat = v % 256 := by simp
    rw [leBytes, leValue, ih, hbyte, Nat.pow_succ, Nat.mul_comm (256 ^ n) 256, Nat.mod_mul]

/-! ### Padding -/

/-- `n` rounded up to a multiple of four. -/
def padSize (n : Nat) : Nat := (n + 3) / 4 * 4

theorem le_padSize (n : Nat) : n ≤ padSize n := by
  rw [padSize]
  omega

/-- What a buffer occupies: its bytes and the padding after them. -/
@[irreducible] def padded (bytes : List UInt8) : List UInt8 :=
  bytes ++ List.replicate (padSize bytes.length - bytes.length) 0

theorem padded_length (bytes : List UInt8) : (padded bytes).length = padSize bytes.length := by
  have := le_padSize bytes.length
  simp only [padded, List.length_append, List.length_replicate]
  omega

theorem take_padded (bytes : List UInt8) : (padded bytes).take bytes.length = bytes := by
  rw [padded, List.take_left]

/-! ### Sixteen-bit text -/

/-- Text as sixteen-bit units, the way `String16` holds it. -/
abbrev String16 := List UInt16

def String16.ofString (s : String) : String16 := s.toList.map fun c => UInt16.ofNat c.toNat

def encode16 : String16 → List UInt8
  | [] => []
  | u :: rest => leBytes 2 u.toNat ++ encode16 rest

def decode16 : List UInt8 → String16
  | a :: b :: rest => UInt16.ofNat (leValue [a, b]) :: decode16 rest
  | _ => []

theorem encode16_length (s : String16) : (encode16 s).length = 2 * s.length := by
  induction s with
  | nil => rfl
  | cons u rest ih =>
    simp only [encode16, List.length_append, leBytes_length, ih, List.length_cons]
    omega

theorem encode16_append (s t : String16) : encode16 (s ++ t) = encode16 s ++ encode16 t := by
  induction s with
  | nil => rfl
  | cons u rest ih => simp only [List.cons_append, encode16, ih, List.append_assoc]

theorem decode16_encode16 (s : String16) : decode16 (encode16 s) = s := by
  induction s with
  | nil => rfl
  | cons u rest ih =>
    have hu : leValue (leBytes 2 u.toNat) = u.toNat := by
      rw [leValue_leBytes]
      exact Nat.mod_eq_of_lt u.toNat_lt
    simp only [leBytes] at hu
    simp only [encode16, leBytes, List.cons_append, List.nil_append, decode16, ih, hu, UInt16.ofNat_toNat]

end Binder
