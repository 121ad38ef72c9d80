import UdpRouter.Lib.Bytes

/-!
# 16-bit one's-complement sums

The Internet checksum's arithmetic. `add` is addition with end-around carry, `sum` its fold over
the big-endian words of a byte string (`words`, zero-padded when odd), `checksum` the complement.
Everything rests on one fact: `sum` depends on the words only through their ordinary sum
(`sum_eq_norm`). A permutation of words therefore keeps it (`sum_perm`), and folding the carries of
an ordinary 32-bit accumulator twice computes it (`foldCarry_twice`).
-/

namespace OnesComplement

open Bytes

/-! ## The sum -/

/-- Addition with end-around carry. -/
def add (a b : Nat) : Nat := if a + b < 65536 then a + b else a + b - 65535

/-- The one's-complement sum of 16-bit words. -/
def sum (ws : List Nat) : Nat := ws.foldl add 0

/-- The checksum field of words summed without it. -/
def checksum (ws : List Nat) : Nat := 65535 - sum ws

/-- The representative in `0 .. 65535` of an ordinary sum: zero only for zero. -/
def norm (n : Nat) : Nat := if n = 0 then 0 else (n - 1) % 65535 + 1

theorem norm_lt (n : Nat) : norm n < 65536 := by
  unfold norm
  split <;> omega

theorem norm_of_lt {n : Nat} (h : n < 65536) : norm n = n := by
  unfold norm
  split <;> omega

theorem add_norm {n b : Nat} (hb : b < 65536) : add (norm n) b = norm (n + b) := by
  unfold add norm
  split_ifs <;> omega

theorem foldl_add_norm : ∀ {ws : List Nat} (n : Nat), (∀ w ∈ ws, w < 65536) →
    ws.foldl add (norm n) = norm (n + ws.sum)
  | [], _, _ => rfl
  | w :: ws, n, h => by
    rw [List.foldl_cons, add_norm (h w (.head _)), foldl_add_norm _ fun v hv => h v (.tail _ hv),
      List.sum_cons, Nat.add_assoc]

/-- **The one's-complement sum is a function of the ordinary sum.** -/
theorem sum_eq_norm {ws : List Nat} (h : ∀ w ∈ ws, w < 65536) : sum ws = norm ws.sum := by
  have := foldl_add_norm 0 h
  rwa [Nat.zero_add] at this

theorem sum_perm {ws vs : List Nat} (h : ∀ w ∈ ws, w < 65536) (hp : ws.Perm vs) :
    sum ws = sum vs := by
  rw [sum_eq_norm h, sum_eq_norm fun v hv => h v (hp.mem_iff.2 hv), hp.sum_nat]

/-- What a receiver checks. -/
theorem sum_eq_max_iff {ws : List Nat} (h : ∀ w ∈ ws, w < 65536) :
    sum ws = 65535 ↔ 0 < ws.sum ∧ ws.sum % 65535 = 0 := by
  rw [sum_eq_norm h]
  unfold norm
  constructor
  · intro hn
    split_ifs at hn
    omega
  · rintro ⟨hpos, hmod⟩
    split_ifs <;> omega

/-- The words verify with the checksum among them, wherever it stands. -/
theorem sum_checksum {ws vs : List Nat} (h : ∀ w ∈ ws ++ vs, w < 65536) :
    sum (ws ++ checksum (ws ++ vs) :: vs) = 65535 := by
  have hc : checksum (ws ++ vs) < 65536 := by unfold checksum; omega
  have hall : ∀ w ∈ ws ++ checksum (ws ++ vs) :: vs, w < 65536 := by
    intro w hw
    rcases List.mem_append.1 hw with hw | hw
    · exact h w (List.mem_append_left _ hw)
    · rcases List.mem_cons.1 hw with rfl | hw
      · exact hc
      · exact h w (List.mem_append_right _ hw)
  rw [sum_eq_norm hall, List.sum_append, List.sum_cons]
  unfold checksum
  rw [sum_eq_norm h, List.sum_append]
  unfold norm
  split_ifs <;> omega

/-! ## Folding the carries of a 32-bit accumulator -/

/-- One folding step: the low half plus the carries. -/
def foldCarry (n : Nat) : Nat := n % 65536 + n / 65536

theorem norm_foldCarry (n : Nat) : norm (foldCarry n) = norm n := by
  unfold norm foldCarry
  split_ifs <;> omega

/-- **Two folding steps** leave no carry of a 32-bit accumulator. -/
theorem foldCarry_twice {n : Nat} (h : n < 2 ^ 32) : foldCarry (foldCarry n) = norm n := by
  have hlt : foldCarry (foldCarry n) < 65536 := by
    unfold foldCarry
    omega
  rw [← norm_foldCarry n, ← norm_foldCarry (foldCarry n), norm_of_lt hlt]

/-! ## The words of a byte string -/

/-- The big-endian 16-bit words of a byte string, zero-padded when its length is odd. -/
def words : List Byte → List Nat
  | a :: b :: bs => beNat [a, b] :: words bs
  | [a] => [beNat [a, 0]]
  | [] => []

theorem words_lt (bs : List Byte) : ∀ w ∈ words bs, w < 65536 := by
  fun_induction words bs with
  | case1 a b bs ih => exact List.forall_mem_cons.2 ⟨by simpa using beNat_lt [a, b], ih⟩
  | case2 a => simpa using beNat_lt [a, 0]
  | case3 => simp

theorem words_append {xs : List Byte} (ys : List Byte) (h : xs.length % 2 = 0) :
    words (xs ++ ys) = words xs ++ words ys := by
  fun_induction words xs with
  | case1 a b xs ih =>
    simp only [List.length_cons] at h
    rw [List.cons_append, List.cons_append, words, ih (by omega), List.cons_append]
  | case2 a => simp at h
  | case3 => rfl

theorem words_pair {bs : List Byte} (h : bs.length = 2) : words bs = [beNat bs] := by
  match bs, h with
  | [_, _], _ => rfl

/-- The words by their offsets. -/
theorem words_eq_map {k : Nat} : ∀ {bs : List Byte}, bs.length = 2 * k →
    words bs = (List.range k).map fun i => beNat (bytesAt bs (2 * i) 2) := by
  induction k with
  | zero =>
    intro bs h
    obtain rfl : bs = [] := List.length_eq_zero_iff.1 (by simpa using h)
    rfl
  | succ k ih =>
    intro bs h
    match bs, h with
    | a :: b :: bs, h =>
      have hl : bs.length = 2 * k := by simp only [List.length_cons] at h; omega
      rw [words, ih hl, List.range_succ_eq_map, List.map_cons, List.map_map]
      rfl
    | [_], h => simp at h; omega
    | [], h => simp at h

/-- Two slices side by side. -/
theorem words_bytesAt_add (f : List Byte) {o m n : Nat} (h : o + m ≤ f.length)
    (hm : m % 2 = 0) :
    words (bytesAt f o (m + n)) = words (bytesAt f o m) ++ words (bytesAt f (o + m) n) := by
  rw [bytesAt_add, words_append _ (by rw [length_bytesAt h]; exact hm)]

end OnesComplement
