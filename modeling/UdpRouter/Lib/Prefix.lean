/-!
# Address blocks

A block of `w`-bit addresses is given by an address and the number `n` of its leading bits that
count (`SameBlock`). A masked comparison against the address decides membership when the address
has no bits below the block (`and_mask_eq_iff`), and only then.
-/

namespace Prefix

variable {w : Nat}

/-- The first `n` bits of `x` and `y` agree. -/
def SameBlock (n : Nat) (x y : BitVec w) : Prop := x >>> (w - n) = y >>> (w - n)

/-- No bit of `x` after the first `n` is set. -/
def NoHostBits (n : Nat) (x : BitVec w) : Prop := x <<< n = 0

instance (n : Nat) (x y : BitVec w) : Decidable (SameBlock n x y) :=
  inferInstanceAs (Decidable (_ = _))

instance (n : Nat) (x : BitVec w) : Decidable (NoHostBits n x) :=
  inferInstanceAs (Decidable (_ = _))

/-- The mask of the first `n` bits. -/
def mask (w n : Nat) : BitVec w := BitVec.allOnes w <<< (w - n)

theorem sameBlock_iff {n : Nat} {x y : BitVec w} :
    SameBlock n x y ↔ ∀ i, w - n ≤ i → i < w → x.getLsbD i = y.getLsbD i := by
  constructor
  · intro h i hi _
    have := congrArg (fun z : BitVec w => z.getLsbD (i - (w - n))) h
    simpa [BitVec.getLsbD_ushiftRight, Nat.add_sub_cancel' hi] using this
  · intro h
    refine BitVec.eq_of_getLsbD_eq fun i hi => ?_
    rw [BitVec.getLsbD_ushiftRight, BitVec.getLsbD_ushiftRight]
    by_cases hw : w - n + i < w
    · exact h _ (Nat.le_add_right _ _) hw
    · rw [BitVec.getLsbD_of_ge _ _ (by omega), BitVec.getLsbD_of_ge _ _ (by omega)]

theorem noHostBits_iff {n : Nat} (hn : n ≤ w) {x : BitVec w} :
    NoHostBits n x ↔ ∀ i, i < w - n → x.getLsbD i = false := by
  constructor
  · intro h i hi
    have := congrArg (fun z : BitVec w => z.getLsbD (i + n)) h
    simpa [BitVec.getLsbD_shiftLeft, show i + n < w by omega, show i < w by omega] using this
  · intro h
    refine BitVec.eq_of_getLsbD_eq fun i hi => ?_
    by_cases hin : i < n
    · simp [BitVec.getLsbD_shiftLeft, hin]
    · simp [BitVec.getLsbD_shiftLeft, h (i - n) (by omega)]

theorem getLsbD_and_mask {n i : Nat} (x : BitVec w) (hi : i < w) :
    (x &&& mask w n).getLsbD i = (x.getLsbD i && decide (w - n ≤ i)) := by
  rw [BitVec.getLsbD_and, mask, BitVec.getLsbD_shiftLeft, BitVec.getLsbD_allOnes]
  by_cases h : w - n ≤ i
  · simp [h, hi, show i - (w - n) < w by omega, Nat.not_lt.2 h]
  · simp [h, Nat.lt_of_not_le h]

/-- **The masked comparison.** -/
theorem and_mask_eq_iff {n : Nat} (hn : n ≤ w) (x y : BitVec w) :
    x &&& mask w n = y ↔ SameBlock n x y ∧ NoHostBits n y := by
  rw [sameBlock_iff, noHostBits_iff hn]
  constructor
  · rintro rfl
    refine ⟨fun i hi hw => ?_, fun i hi => ?_⟩
    · simp [getLsbD_and_mask x hw, hi]
    · simp [getLsbD_and_mask x (show i < w by omega), Nat.not_le.2 hi]
  · rintro ⟨hs, hz⟩
    refine BitVec.eq_of_getLsbD_eq fun i hi => ?_
    rw [getLsbD_and_mask x hi]
    by_cases h : w - n ≤ i
    · simp [h, hs i h hi]
    · simp [h, hz i (Nat.lt_of_not_le h)]

theorem sameBlock_zero (x y : BitVec w) : SameBlock 0 x y := by
  rw [sameBlock_iff]
  omega

theorem sameBlock_refl (n : Nat) (x : BitVec w) : SameBlock n x x := rfl

end Prefix
