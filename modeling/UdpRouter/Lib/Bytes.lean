import Mathlib.Data.List.Induction
import Mathlib.Tactic.Ring

/-!
# Byte strings

Slices (`bytesAt`), in-place updates that never change the length (`overwrite`), the big-endian
numeral of a byte string (`beNat`, `natBytes`) and machine words loaded and stored in a host's
byte order (`Endian`). A load is the numeral of the bytes, reversed on a little-endian host, so
that conversions from and to network order cancel on either host (`fromBe_load`, `store_toBe`).
-/

namespace Bytes

abbrev Byte := BitVec 8

/-! ## Slices -/

/-- The `n` bytes at offset `o` (fewer when the string ends before). -/
def bytesAt (f : List Byte) (o n : Nat) : List Byte := (f.drop o).take n

theorem length_bytesAt {f : List Byte} {o n : Nat} (h : o + n ≤ f.length) :
    (bytesAt f o n).length = n := by
  simp only [bytesAt, List.length_take, List.length_drop]
  omega

theorem getElem?_bytesAt (f : List Byte) (o n i : Nat) :
    (bytesAt f o n)[i]? = if i < n then f[o + i]? else none := by
  simp [bytesAt, List.getElem?_take, List.getElem?_drop]

theorem bytesAt_add (f : List Byte) (o m n : Nat) :
    bytesAt f o (m + n) = bytesAt f o m ++ bytesAt f (o + m) n := by
  simp only [bytesAt, List.take_add, List.drop_drop]

/-- A slice of a slice. -/
theorem bytesAt_bytesAt (f : List Byte) {o m a n : Nat} (h : a + n ≤ m) :
    bytesAt (bytesAt f o m) a n = bytesAt f (o + a) n := by
  apply List.ext_getElem?
  intro i
  simp only [getElem?_bytesAt]
  by_cases hi : i < n
  · rw [if_pos hi, if_pos hi, if_pos (by omega), Nat.add_assoc]
  · rw [if_neg hi, if_neg hi]

theorem bytesAt_append_left {xs ys : List Byte} {o n : Nat} (h : o + n ≤ xs.length) :
    bytesAt (xs ++ ys) o n = bytesAt xs o n := by
  apply List.ext_getElem?
  intro i
  simp only [getElem?_bytesAt]
  by_cases hi : i < n
  · rw [if_pos hi, if_pos hi, List.getElem?_append_left (by omega)]
  · rw [if_neg hi, if_neg hi]

/-- The middle part of a string put together from three. -/
theorem bytesAt_append_mid {xs ys zs : List Byte} {o n : Nat} (ho : xs.length = o)
    (hn : ys.length = n) : bytesAt (xs ++ (ys ++ zs)) o n = ys := by
  rw [bytesAt, List.drop_left' ho, List.take_left' hn]

/-- A slice and what follows it. -/
theorem bytesAt_append_drop (f : List Byte) (o n : Nat) :
    bytesAt f o n ++ f.drop (o + n) = f.drop o := by
  rw [bytesAt, ← List.drop_drop, List.take_append_drop]

theorem bytesAt_eq_drop {f : List Byte} {o n : Nat} (h : f.length ≤ o + n) :
    bytesAt f o n = f.drop o := by
  rw [bytesAt, List.take_of_length_le (by rw [List.length_drop]; omega)]

theorem bytesAt_zero (f : List Byte) (n : Nat) : bytesAt f 0 n = f.take n := by simp [bytesAt]

/-! ## Updates in place -/

/-- `f` with the bytes from offset `o` on replaced by `bs`, as far as `f` reaches. -/
def overwrite : List Byte → Nat → List Byte → List Byte
  | [], _, _ => []
  | b :: f, o + 1, bs => b :: overwrite f o bs
  | b :: f, 0, [] => b :: f
  | _ :: f, 0, c :: bs => c :: overwrite f 0 bs

@[simp] theorem length_overwrite (f : List Byte) (o : Nat) (bs : List Byte) :
    (overwrite f o bs).length = f.length := by
  fun_induction overwrite f o bs with
  | case1 => rfl
  | case2 b f o bs ih => simp [ih]
  | case3 => rfl
  | case4 b f c bs ih => simp [ih]

theorem getElem?_overwrite (f : List Byte) (o : Nat) (bs : List Byte) (i : Nat) :
    (overwrite f o bs)[i]? =
      if o ≤ i ∧ i < o + bs.length ∧ i < f.length then bs[i - o]? else f[i]? := by
  fun_induction overwrite f o bs generalizing i with
  | case1 => simp
  | case2 b f o bs ih =>
    cases i with
    | zero => simp
    | succ i =>
      rw [List.getElem?_cons_succ, ih, List.getElem?_cons_succ, List.length_cons,
        show i + 1 - (o + 1) = i - o by omega]
      exact if_congr (by omega) rfl rfl
  | case3 => simp
  | case4 b f c bs ih =>
    cases i with
    | zero => simp
    | succ i =>
      rw [List.getElem?_cons_succ, ih, List.getElem?_cons_succ, List.length_cons,
        List.length_cons, show i + 1 - 0 = i - 0 + 1 by omega, List.getElem?_cons_succ]
      exact if_congr (by omega) rfl rfl

/-- A slice that the update misses. -/
theorem bytesAt_overwrite_disjoint (f : List Byte) {o a n : Nat} {bs : List Byte}
    (h : a + n ≤ o ∨ o + bs.length ≤ a) :
    bytesAt (overwrite f o bs) a n = bytesAt f a n := by
  apply List.ext_getElem?
  intro i
  simp only [getElem?_bytesAt, getElem?_overwrite]
  by_cases hi : i < n
  · rw [if_pos hi, if_pos hi, if_neg (by omega)]
  · rw [if_neg hi, if_neg hi]

/-- The updated slice. -/
theorem bytesAt_overwrite_same {f : List Byte} {o n : Nat} {bs : List Byte}
    (hn : bs.length = n) (h : o + n ≤ f.length) : bytesAt (overwrite f o bs) o n = bs := by
  apply List.ext_getElem?
  intro i
  simp only [getElem?_bytesAt, getElem?_overwrite]
  by_cases hi : i < n
  · rw [if_pos hi, if_pos (by omega), Nat.add_sub_cancel_left]
  · rw [if_neg hi, List.getElem?_eq_none (by omega)]

/-- Writing back what is there changes nothing. -/
theorem overwrite_bytesAt (f : List Byte) (o n : Nat) : overwrite f o (bytesAt f o n) = f := by
  apply List.ext_getElem?
  intro i
  rw [getElem?_overwrite]
  split
  · rename_i h
    have hlen : (bytesAt f o n).length ≤ n := by simp [bytesAt]
    rw [getElem?_bytesAt, if_pos (by omega), Nat.add_sub_cancel' h.1]
  · rfl

/-! ## Big-endian numerals -/

/-- The number a byte string denotes, most significant byte first. -/
def beNat (bs : List Byte) : Nat := bs.foldl (fun acc b => acc * 256 + b.toNat) 0

/-- The `n` low bytes of `x`, most significant first. -/
def natBytes : Nat → Nat → List Byte
  | 0, _ => []
  | n + 1, x => natBytes n (x / 256) ++ [BitVec.ofNat 8 x]

@[simp] theorem beNat_nil : beNat [] = 0 := rfl

@[simp] theorem beNat_concat (bs : List Byte) (b : Byte) :
    beNat (bs ++ [b]) = beNat bs * 256 + b.toNat := by simp [beNat]

@[simp] theorem length_natBytes (n x : Nat) : (natBytes n x).length = n := by
  induction n generalizing x with
  | zero => rfl
  | succ n ih => simp [natBytes, ih]

theorem beNat_lt (bs : List Byte) : beNat bs < 256 ^ bs.length := by
  induction bs using List.reverseRecOn with
  | nil => simp
  | append_singleton bs b ih =>
    have hb : b.toNat < 256 := b.isLt
    rw [beNat_concat, List.length_append, List.length_singleton, Nat.pow_succ]
    omega

theorem beNat_natBytes {n x : Nat} (h : x < 256 ^ n) : beNat (natBytes n x) = x := by
  induction n generalizing x with
  | zero => simpa [natBytes, eq_comm] using h
  | succ n ih =>
    rw [Nat.pow_succ] at h
    rw [natBytes, beNat_concat, ih (by omega), BitVec.toNat_ofNat]
    omega

theorem natBytes_beNat (bs : List Byte) : natBytes bs.length (beNat bs) = bs := by
  induction bs using List.reverseRecOn with
  | nil => rfl
  | append_singleton bs b ih =>
    have hb : b.toNat < 256 := b.isLt
    have hlow : BitVec.ofNat 8 (beNat bs * 256 + b.toNat) = b := by
      apply BitVec.eq_of_toNat_eq
      rw [BitVec.toNat_ofNat]
      omega
    rw [List.length_append, List.length_singleton, natBytes, beNat_concat, hlow,
      show (beNat bs * 256 + b.toNat) / 256 = beNat bs by omega, ih]

theorem beNat_inj {as bs : List Byte} (hl : as.length = bs.length) (h : beNat as = beNat bs) :
    as = bs := by
  rw [← natBytes_beNat as, ← natBytes_beNat bs, hl, h]

/-- Leading zeros do not count. -/
theorem beNat_zeros_append (n : Nat) (bs : List Byte) :
    beNat (List.replicate n 0 ++ bs) = beNat bs := by
  induction n with
  | zero => rfl
  | succ n ih =>
    rw [List.replicate_succ, List.cons_append, ← ih]
    simp [beNat]

/-- One byte shifted into a word. -/
theorem toNat_shift_or {w : Nat} {x : BitVec w} (b : Byte) (h : (x.toNat + 1) * 256 ≤ 2 ^ w) :
    ((x <<< 8) ||| b.setWidth w).toNat = x.toNat * 256 + b.toNat := by
  have hb : b.toNat < 2 ^ 8 := b.isLt
  rw [BitVec.toNat_or, BitVec.toNat_shiftLeft, BitVec.toNat_setWidth, Nat.shiftLeft_eq,
    Nat.mod_eq_of_lt (show x.toNat * 2 ^ 8 < 2 ^ w by omega),
    Nat.mod_eq_of_lt (show b.toNat < 2 ^ w by omega), ← Nat.shiftLeft_eq,
    ← Nat.shiftLeft_add_eq_or_of_lt hb, Nat.shiftLeft_eq]

/-- **Bytes shifted into a word** that has room for them are its numeral. -/
theorem foldl_shift_or {w : Nat} (bs : List Byte) (h : 8 * bs.length ≤ w) :
    bs.foldl (fun (x : BitVec w) b => (x <<< 8) ||| b.setWidth w) 0 =
      BitVec.ofNat w (beNat bs) := by
  induction bs using List.reverseRecOn with
  | nil => rfl
  | append_singleton bs b ih =>
    rw [List.length_append, List.length_singleton] at h
    have hb : b.toNat < 256 := b.isLt
    have hlt := beNat_lt bs
    have hpow : 256 ^ bs.length * 256 ≤ 2 ^ w := by
      rw [← Nat.pow_succ, show 256 = 2 ^ 8 from rfl, ← Nat.pow_mul]
      exact Nat.pow_le_pow_right (by decide) (by omega)
    have hroom : (beNat bs + 1) * 256 ≤ 2 ^ w := (Nat.mul_le_mul_right 256 hlt).trans hpow
    have hnat : (BitVec.ofNat w (beNat bs)).toNat = beNat bs := by
      rw [BitVec.toNat_ofNat, Nat.mod_eq_of_lt (by omega)]
    apply BitVec.eq_of_toNat_eq
    rw [List.foldl_append, List.foldl_cons, List.foldl_nil, ih (by omega),
      toNat_shift_or b (by rwa [hnat]), hnat, beNat_concat, BitVec.toNat_ofNat,
      Nat.mod_eq_of_lt (by omega)]

/-! ## Words in a host's byte order -/

/-- The byte order of a host. -/
inductive Endian
  | little
  | big
  deriving DecidableEq, Repr

/-- Memory order to most significant byte first, and back. -/
def Endian.arrange : Endian → List Byte → List Byte
  | .little, bs => bs.reverse
  | .big, bs => bs

@[simp] theorem Endian.length_arrange (e : Endian) (bs : List Byte) :
    (e.arrange bs).length = bs.length := by cases e <;> simp [arrange]

@[simp] theorem Endian.arrange_arrange (e : Endian) (bs : List Byte) :
    e.arrange (e.arrange bs) = bs := by cases e <;> simp [arrange]

/-- The `8 * n`-bit word whose bytes in memory are `bs`. -/
def load (e : Endian) (n : Nat) (bs : List Byte) : BitVec (8 * n) :=
  BitVec.ofNat _ (beNat (e.arrange bs))

/-- The bytes in memory of an `8 * n`-bit word. -/
def store (e : Endian) {n : Nat} (w : BitVec (8 * n)) : List Byte :=
  e.arrange (natBytes n w.toNat)

/-- The word of the same host whose bytes are those of `w` in the opposite order. -/
def swapBytes {n : Nat} (w : BitVec (8 * n)) : BitVec (8 * n) :=
  BitVec.ofNat _ (beNat (natBytes n w.toNat).reverse)

/-- The value of a word that was loaded from network order. -/
def fromBe (e : Endian) {n : Nat} (w : BitVec (8 * n)) : BitVec (8 * n) :=
  match e with
  | .little => swapBytes w
  | .big => w

/-- The word to store so that memory holds `w` in network order. -/
def toBe (e : Endian) {n : Nat} (w : BitVec (8 * n)) : BitVec (8 * n) := fromBe e w

/-- The bytes of a word, most significant first, whatever the host. -/
def toBeBytes {n : Nat} (w : BitVec (8 * n)) : List Byte := natBytes n w.toNat

/-- The word with these bytes, most significant first. -/
def fromBeBytes (n : Nat) (bs : List Byte) : BitVec (8 * n) := BitVec.ofNat _ (beNat bs)

theorem pow_256 (n : Nat) : 256 ^ n = 2 ^ (8 * n) := by
  rw [Nat.pow_mul]

section
variable {n : Nat} {bs : List Byte}

theorem toNat_fromBeBytes (h : bs.length = n) : (fromBeBytes n bs).toNat = beNat bs := by
  have hlt := beNat_lt bs
  rw [h, pow_256] at hlt
  rw [fromBeBytes, BitVec.toNat_ofNat, Nat.mod_eq_of_lt hlt]

theorem toNat_load (e : Endian) (h : bs.length = n) :
    (load e n bs).toNat = beNat (e.arrange bs) :=
  toNat_fromBeBytes (by simpa using h)

@[simp] theorem length_toBeBytes (w : BitVec (8 * n)) : (toBeBytes w).length = n :=
  length_natBytes _ _

@[simp] theorem length_store (e : Endian) (w : BitVec (8 * n)) : (store e w).length = n := by
  simp [store]

theorem toBeBytes_fromBeBytes (h : bs.length = n) : toBeBytes (fromBeBytes n bs) = bs := by
  rw [toBeBytes, toNat_fromBeBytes h, ← h, natBytes_beNat]

theorem fromBeBytes_toBeBytes (w : BitVec (8 * n)) : fromBeBytes n (toBeBytes w) = w := by
  have hlt : w.toNat < 256 ^ n := by rw [pow_256]; exact w.isLt
  apply BitVec.eq_of_toNat_eq
  rw [toNat_fromBeBytes (length_toBeBytes w), toBeBytes, beNat_natBytes hlt]

theorem beNat_toBeBytes (w : BitVec (8 * n)) : beNat (toBeBytes w) = w.toNat := by
  rw [← toNat_fromBeBytes (length_toBeBytes w), fromBeBytes_toBeBytes]

/-- Storing a loaded word restores the bytes. -/
theorem store_load (e : Endian) (h : bs.length = n) : store e (load e n bs) = bs := by
  rw [store, toNat_load e h, ← h, ← e.length_arrange bs, natBytes_beNat, e.arrange_arrange]

/-- `from_be` of a loaded word is the numeral of its bytes on either host. -/
theorem fromBe_load (e : Endian) (h : bs.length = n) :
    fromBe e (load e n bs) = fromBeBytes n bs := by
  cases e with
  | big => rfl
  | little =>
    have hr : natBytes n (beNat bs.reverse) = bs.reverse := by
      have := natBytes_beNat bs.reverse
      rwa [List.length_reverse, h] at this
    simp only [fromBe, swapBytes, toNat_load .little h, Endian.arrange, hr, List.reverse_reverse,
      fromBeBytes]

/-- Storing `to_be` of a word leaves its bytes in network order on either host. -/
theorem store_toBe (e : Endian) (w : BitVec (8 * n)) : store e (toBe e w) = toBeBytes w := by
  cases e with
  | big => rfl
  | little =>
    have hl : (natBytes n w.toNat).reverse.length = n := by simp
    have hs : toBeBytes (toBe .little w) = (natBytes n w.toNat).reverse :=
      toBeBytes_fromBeBytes hl
    exact (congrArg List.reverse hs).trans (List.reverse_reverse _)

/-- A word equals `to_be` of a constant when its bytes are the constant's in network order. -/
theorem load_eq_toBe_iff (e : Endian) (h : bs.length = n) {w : BitVec (8 * n)} :
    load e n bs = toBe e w ↔ beNat bs = w.toNat := by
  constructor
  · intro hw
    rw [← beNat_toBeBytes w, ← store_toBe e w, ← hw, store_load e h]
  · intro hw
    have hb : bs = toBeBytes w :=
      beNat_inj (by rw [h, length_toBeBytes]) (by rw [hw, beNat_toBeBytes])
    subst hb
    cases e with
    | little => rfl
    | big => exact fromBeBytes_toBeBytes w

end

end Bytes
