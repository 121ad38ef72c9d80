import UdpRouter.Lib.Bytes

/-!
# The machine of an XDP program

`Xdp α`: a computation over the frame between `data` and `data_end` and the BPF maps, which ends
in `Ok`, in `Err(())`, or (outer `none`) in an access outside the frame. What was written before
an `Err` stays written. A pointer is its offset from `data`; words are loaded and stored in the
byte order of the host.

The `run_*` lemmas execute one operation under its bounds, so that a program is executed by
rewriting with them and never by unfolding the monad.
-/

namespace Ebpf

open Bytes

/-! ## Maps -/

/-- `Array<u64>` with `max_entries` 1. -/
abbrev BpfArray := Vector (BitVec 64) 1

def BpfArray.get (m : BpfArray) (index : Nat) : Option (BitVec 64) := m[index]?

/-- `set`: fails past the last entry. -/
def BpfArray.set (m : BpfArray) (index : Nat) (value : BitVec 64) : Option BpfArray :=
  if h : index < 1 then some (Vector.set m index value h) else none

/-- The macro `read!`. -/
def read (m : BpfArray) (index : Nat) : BitVec 64 :=
  match m.get index with
  | some value => value
  | none => 0

/-- A freshly created map. -/
def BpfArray.zero : BpfArray := Vector.replicate 1 0

@[simp] theorem read_zero (i : Nat) : read .zero i = 0 := by
  unfold read BpfArray.get BpfArray.zero
  cases h : (Vector.replicate 1 (0 : BitVec 64))[i]? with
  | none => rfl
  | some v => simp only [Vector.getElem?_replicate] at h; split at h <;> simp_all

/-- The configuration maps and the per-CPU counters, one value for each CPU. -/
structure BpfMaps where
  localNetAndMask : BpfArray
  backendNetAndMask : BpfArray
  gatewayMacAddress : BpfArray
  totalPackets : List (BitVec 64)
  clientToServerPackets : List (BitVec 64)
  serverToClientPackets : List (BitVec 64)
  deriving DecidableEq

/-- The maps of a freshly loaded program on `cpus` CPUs. -/
def BpfMaps.fresh (cpus : Nat) : BpfMaps where
  localNetAndMask := .zero
  backendNetAndMask := .zero
  gatewayMacAddress := .zero
  totalPackets := List.replicate cpus 0
  clientToServerPackets := List.replicate cpus 0
  serverToClientPackets := List.replicate cpus 0

/-! ## Computations -/

/-- What the program runs on: the CPU, the frame and the maps. -/
structure XdpContext where
  cpu : Nat
  data : List Byte
  maps : BpfMaps
  deriving DecidableEq

def Xdp (α : Type) : Type := XdpContext → Option (Except Unit α × XdpContext)

namespace Xdp

def ok {α : Type} (a : α) : Xdp α := fun c => some (.ok a, c)

def andThen {α β : Type} (x : Xdp α) (f : α → Xdp β) : Xdp β := fun c =>
  match x c with
  | some (.ok a, c') => f a c'
  | some (.error e, c') => some (.error e, c')
  | none => none

instance : Monad Xdp where
  pure := ok
  bind := andThen

/-- `return Err(())`. -/
def err {α : Type} : Xdp α := fun c => some (.error (), c)

def getMaps : Xdp BpfMaps := fun c => some (.ok c.maps, c)

/-- The `n` bytes at a pointer. -/
def readBytes (p n : Nat) : Xdp (List Byte) := fun c =>
  if p + n ≤ c.data.length then some (.ok (bytesAt c.data p n), c) else none

def writeBytes (p : Nat) (bs : List Byte) : Xdp Unit := fun c =>
  if p + bs.length ≤ c.data.length then some (.ok (), { c with data := overwrite c.data p bs })
  else none

def readU16 (e : Endian) (p : Nat) : Xdp (BitVec 16) := do
  return load e 2 (← readBytes p 2)

def readU32 (e : Endian) (p : Nat) : Xdp (BitVec 32) := do
  return load e 4 (← readBytes p 4)

def writeU16 (e : Endian) (p : Nat) (w : BitVec 16) : Xdp Unit := writeBytes p (store e (n := 2) w)

def writeU32 (e : Endian) (p : Nat) (w : BitVec 32) : Xdp Unit := writeBytes p (store e (n := 4) w)

/-! ## Execution -/

section
variable {α β : Type} {c : XdpContext}

@[simp] theorem run_pure (a : α) : (pure a : Xdp α) c = some (.ok a, c) := rfl

@[simp] theorem run_pure_bind (a : α) (f : α → Xdp β) : (pure a >>= f) c = f a c := rfl

@[simp] theorem run_err_bind (f : α → Xdp β) : (err >>= f) c = some (.error (), c) := rfl

@[simp] theorem run_bind_assoc {γ : Type} (x : Xdp α) (f : α → Xdp β) (g : β → Xdp γ) :
    ((x >>= f) >>= g) c = (x >>= fun a => f a >>= g) c := by
  show andThen (andThen x f) g c = andThen x (fun a => andThen (f a) g) c
  unfold andThen
  rcases x c with _ | ⟨_ | _, _⟩ <;> rfl

@[simp] theorem run_getMaps_bind (f : BpfMaps → Xdp β) : (getMaps >>= f) c = f c.maps c := rfl

theorem run_readBytes {p n : Nat} (h : p + n ≤ c.data.length) (f : List Byte → Xdp β) :
    (readBytes p n >>= f) c = f (bytesAt c.data p n) c := by
  show andThen (readBytes p n) f c = _
  simp only [andThen, readBytes, if_pos h]

theorem run_writeBytes {p : Nat} {bs : List Byte} (h : p + bs.length ≤ c.data.length)
    (f : Unit → Xdp β) :
    (writeBytes p bs >>= f) c = f () { c with data := overwrite c.data p bs } := by
  show andThen (writeBytes p bs) f c = _
  simp only [andThen, writeBytes, if_pos h]

theorem run_readU16 {e : Endian} {p : Nat} (h : p + 2 ≤ c.data.length) (f : BitVec 16 → Xdp β) :
    (readU16 e p >>= f) c = f (load e 2 (bytesAt c.data p 2)) c := by
  rw [readU16, run_bind_assoc, run_readBytes h]
  rfl

theorem run_readU32 {e : Endian} {p : Nat} (h : p + 4 ≤ c.data.length) (f : BitVec 32 → Xdp β) :
    (readU32 e p >>= f) c = f (load e 4 (bytesAt c.data p 4)) c := by
  rw [readU32, run_bind_assoc, run_readBytes h]
  rfl

theorem run_writeU16 {e : Endian} {p : Nat} {w : BitVec 16} (h : p + 2 ≤ c.data.length)
    (f : Unit → Xdp β) :
    (writeU16 e p w >>= f) c = f () { c with data := overwrite c.data p (store e (n := 2) w) } :=
  run_writeBytes (by rw [length_store]; exact h) f

theorem run_writeU32 {e : Endian} {p : Nat} {w : BitVec 32} (h : p + 4 ≤ c.data.length)
    (f : Unit → Xdp β) :
    (writeU32 e p w >>= f) c = f () { c with data := overwrite c.data p (store e (n := 4) w) } :=
  run_writeBytes (by rw [length_store]; exact h) f

end

end Xdp

end Ebpf
