import UdpRouter.Lib.Text
import Mathlib.Data.List.Induction

/-!
# What the parsers accept

The digit loop with its checked arithmetic reads exactly the numerals whose value fits
(`readDigits_eq_ok_iff`), so that `from_str_radix` accepts exactly a numeral below its type's
bound with an optional plus sign (`fromStrRadix_eq_ok_iff`). An octet of an address has exactly
one spelling, and so has an address (`parseIpv4Addr_eq_some_iff`).
-/

namespace Text

/-! ## Numerals -/

/-- The number that digits denote. -/
def value (radix : Nat) (cs : List Char) : Nat :=
  cs.foldl (fun acc c => acc * radix + (toDigit radix c).getD 0) 0

/-- One or more digits. -/
def Numeral (radix : Nat) (cs : List Char) : Prop :=
  cs ≠ [] ∧ ∀ c ∈ cs, (toDigit radix c).isSome = true

/-- The text after an optional plus sign. -/
def unsigned (src : List Char) : List Char := if src.head? = some '+' then src.tail else src

-- named, since a quantifier over characters can also be decided by trying all of them
instance (radix : Nat) (cs : List Char) : Decidable (Numeral radix cs) :=
  have : Decidable (∀ c ∈ cs, (toDigit radix c).isSome = true) := List.decidableBAll _ cs
  inferInstanceAs (Decidable (_ ∧ _))

section
variable {radix bound : Nat} {cs : List Char} {c : Char}

theorem value_concat :
    value radix (cs ++ [c]) = value radix cs * radix + (toDigit radix c).getD 0 := by
  simp [value]

theorem pushDigit_eq_ok_iff {acc n : Nat} : pushDigit radix bound acc c = .ok n ↔
    ∃ d, toDigit radix c = some d ∧ acc * radix + d = n ∧ n < bound := by
  rw [pushDigit]
  cases toDigit radix c with
  | none =>
    refine iff_of_false (fun h => ?_) fun h => ?_
    · cases h
    · obtain ⟨_, hd, -⟩ := h
      cases hd
  | some d =>
    simp only [Option.some.injEq, exists_eq_left']
    split_ifs with h
    · rw [Except.ok.injEq]
      exact ⟨fun he => ⟨he, he ▸ h⟩, And.left⟩
    · refine iff_of_false (fun he => ?_) fun hn => h (hn.1 ▸ hn.2)
      cases he

theorem readDigits_concat : readDigits radix bound (cs ++ [c]) =
    (readDigits radix bound cs).bind fun acc => pushDigit radix bound acc c := by
  rw [readDigits, List.foldlM_append]
  simp only [List.foldlM_cons, List.foldlM_nil, bind_pure]
  rfl

theorem bind_eq_ok_iff {ε α β : Type} {x : Except ε α} {f : α → Except ε β} {b : β} :
    x.bind f = .ok b ↔ ∃ a, x = .ok a ∧ f a = .ok b := by
  cases x with
  | error _ => simp [Except.bind]
  | ok a => simp [Except.bind]

/-- **The digit loop** reads the digits whose number is below the bound: a number that is too
large is too large from some digit on. -/
theorem readDigits_eq_ok_iff (hr : 0 < radix) (hb : 0 < bound) {n : Nat} :
    readDigits radix bound cs = .ok n ↔
      (∀ c ∈ cs, (toDigit radix c).isSome = true) ∧ value radix cs = n ∧ n < bound := by
  induction cs using List.reverseRecOn generalizing n with
  | nil =>
    refine ⟨fun h => ?_, fun ⟨_, hv, _⟩ => congrArg Except.ok hv⟩
    obtain rfl := Except.ok.inj h
    exact ⟨by simp, rfl, hb⟩
  | append_singleton cs c ih =>
    rw [readDigits_concat, value_concat, List.forall_mem_append, List.forall_mem_singleton,
      bind_eq_ok_iff]
    simp only [ih, pushDigit_eq_ok_iff]
    refine ⟨fun h => ?_, fun h => ?_⟩
    · obtain ⟨m, ⟨hall, rfl, -⟩, d, hd, hn, hlt⟩ := h
      rw [hd]
      exact ⟨⟨hall, rfl⟩, hn, hlt⟩
    · obtain ⟨⟨hall, hc⟩, hn, hlt⟩ := h
      obtain ⟨d, hd⟩ := Option.isSome_iff_exists.1 hc
      rw [hd, Option.getD_some] at hn
      have hle : value radix cs ≤ value radix cs * radix := Nat.le_mul_of_pos_right _ hr
      exact ⟨_, ⟨hall, rfl, by omega⟩, d, hd, hn, hlt⟩

/-- A number that fits in a word. -/
theorem eq_toNat_iff {w n : Nat} {v : BitVec w} :
    n = v.toNat ↔ n < 2 ^ w ∧ v = BitVec.ofNat w n := by
  refine ⟨fun h => ?_, fun ⟨hlt, h⟩ => ?_⟩
  · rw [h, BitVec.ofNat_toNat, BitVec.setWidth_eq]
    exact ⟨v.isLt, rfl⟩
  · rw [h, BitVec.toNat_ofNat, Nat.mod_eq_of_lt hlt]

/-- Nothing, and a sign alone, are no numerals. -/
theorem not_numeral_of_sign (h : cs = [] ∨ cs = ['+'] ∨ cs = ['-']) :
    ¬ Numeral radix (unsigned cs) := by
  rcases h with rfl | rfl | rfl
  · exact fun hn => hn.1 rfl
  · exact fun hn => hn.1 rfl
  · intro hn
    simpa using hn.2 '-' List.mem_cons_self

/-- **`from_str_radix`.** -/
theorem fromStrRadix_eq_ok_iff (hr : 0 < radix) {w : Nat} {v : BitVec w} :
    fromStrRadix radix w cs = .ok v ↔
      Numeral radix (unsigned cs) ∧ value radix (unsigned cs) = v.toNat := by
  by_cases hsign : cs = [] ∨ cs = ['+'] ∨ cs = ['-']
  · refine iff_of_false (fun h => ?_) fun h => not_numeral_of_sign hsign h.1
    rcases hsign with rfl | rfl | rfl <;> cases h
  · obtain ⟨hnil, hlone⟩ := not_or.1 hsign
    have hne : unsigned cs ≠ [] := by
      intro he
      unfold unsigned at he
      split_ifs at he with hp
      · obtain ⟨ds, rfl⟩ := List.head?_eq_some_iff.1 hp
        exact hlone (.inl (congrArg ('+' :: ·) he))
      · exact hnil he
    have hdef : fromStrRadix radix w cs =
        (readDigits radix (2 ^ w) (unsigned cs)).bind fun n => .ok (BitVec.ofNat w n) := by
      rw [fromStrRadix, if_neg hnil, if_neg hlone]
      rfl
    simp only [hdef, bind_eq_ok_iff, readDigits_eq_ok_iff hr (Nat.two_pow_pos w), Numeral,
      eq_toNat_iff, Except.ok.injEq]
    refine ⟨fun h => ?_, fun h => ⟨_, ⟨h.1.2, rfl, h.2.1⟩, h.2.2.symm⟩⟩
    obtain ⟨n, ⟨hall, rfl, hlt⟩, rfl⟩ := h
    exact ⟨⟨hne, hall⟩, hlt, rfl⟩

end

section
variable {radix : Nat} {cs : List Char} {c : Char}

theorem mem_unsigned (h : c ∈ cs) (hc : c ≠ '+') : c ∈ unsigned cs := by
  unfold unsigned
  split
  · rename_i hp
    obtain ⟨ds, rfl⟩ := List.head?_eq_some_iff.1 hp
    exact (List.mem_cons.1 h).resolve_left hc
  · exact h

/-- No other character stands in what is accepted. -/
theorem not_mem_of_numeral (h : Numeral radix (unsigned cs)) (hd : toDigit radix c = none)
    (hc : c ≠ '+') : c ∉ cs := by
  intro hm
  have := h.2 c (mem_unsigned hm hc)
  rw [hd] at this
  cases this

/-- A numeral has no sign. -/
theorem unsigned_numeral (h : Numeral radix cs) : unsigned cs = cs := by
  refine if_neg fun hp => ?_
  obtain ⟨ds, rfl⟩ := List.head?_eq_some_iff.1 hp
  simpa using h.2 '+' List.mem_cons_self

end

/-! ## Octets and addresses -/

/-- A decimal digit is the digit of its value. -/
theorem digitChar_of_toDigit {c : Char} {d : Nat} (h : toDigit 10 c = some d) :
    d < 10 ∧ d.digitChar = c := by
  unfold toDigit at h
  simp only [Option.ite_none_right_eq_some, Option.some.injEq] at h
  obtain ⟨hlt, rfl⟩ := h
  refine ⟨hlt, ?_⟩
  split at hlt
  · rename_i hc
    have h0 : 48 ≤ c.toNat := hc.1
    rw [if_pos hc]
    rw [show '0'.toNat = 48 from rfl] at hlt ⊢
    apply Char.toNat_inj.1
    rw [Nat.toNat_digitChar_of_lt_ten hlt]
    omega
  · rename_i hc
    split at hlt
    · omega
    · split at hlt <;> omega

/-- Digits without a leading zero are those of their value. -/
theorem toDigits_value {cs : List Char} (h : Numeral 10 cs) (h0 : cs.head? ≠ some '0') :
    0 < value 10 cs ∧ Nat.toDigits 10 (value 10 cs) = cs := by
  obtain ⟨hne, hall⟩ := h
  induction cs using List.reverseRecOn with
  | nil => exact absurd rfl hne
  | append_singleton cs c ih =>
    rw [List.forall_mem_append, List.forall_mem_singleton] at hall
    obtain ⟨d, hd⟩ := Option.isSome_iff_exists.1 hall.2
    obtain ⟨hlt, hc⟩ := digitChar_of_toDigit hd
    rw [value_concat, hd, Option.getD_some]
    by_cases hnil : cs = []
    · subst hnil
      have hpos : d ≠ 0 := by
        rintro rfl
        exact h0 (by rw [← hc]; rfl)
      simp only [value, List.foldl_nil, Nat.zero_mul, Nat.zero_add, List.nil_append]
      rw [Nat.toDigits_of_lt_base hlt, hc]
      exact ⟨by omega, rfl⟩
    · have hhead : cs.head? ≠ some '0' := fun hz => h0 (by rw [List.head?_append, hz]; rfl)
      obtain ⟨hpos, hdig⟩ := ih hhead hnil hall.1
      refine ⟨by omega, ?_⟩
      rw [Nat.toDigits_of_base_le (by decide) (by omega),
        show (value 10 cs * 10 + d) / 10 = value 10 cs by omega,
        show (value 10 cs * 10 + d) % 10 = d by omega, hdig, hc]

/-- **One spelling of an octet.** -/
theorem parseOctet_eq_some_iff {cs : List Char} {a : BitVec 8} :
    parseOctet cs = some a ↔ cs = Nat.toDigits 10 a.toNat := by
  refine ⟨fun h => ?_, fun h => h ▸ parseOctet_toDigits a⟩
  · unfold parseOctet at h
    split_ifs at h with h1 h2
    obtain ⟨n, hn, rfl⟩ : ∃ n, readDigits 10 256 cs = .ok n ∧ BitVec.ofNat 8 n = a := by
      cases hd : readDigits 10 256 cs with
      | error _ => simp [hd, Except.toOption] at h
      | ok n => exact ⟨n, rfl, by simpa [hd, Except.toOption] using h⟩
    obtain ⟨hall, rfl, hlt⟩ := (readDigits_eq_ok_iff (by decide) (by decide)).1 hn
    rw [BitVec.toNat_ofNat, Nat.mod_eq_of_lt hlt]
    simp only [not_or] at h1
    by_cases h0 : cs.head? = some '0'
    · -- a lone zero
      obtain ⟨ds, rfl⟩ := List.head?_eq_some_iff.1 h0
      have hlen : ds = [] := by
        have : ¬ 1 < ('0' :: ds).length := fun hl => h2 ⟨h0, hl⟩
        exact List.length_eq_zero_iff.1 (by simpa using this)
      rw [hlen]
      rfl
    · exact (toDigits_value ⟨h1.1, hall⟩ h0).2.symm

/-- **One spelling of an address.** -/
theorem parseIpv4Addr_eq_some_iff {cs : List Char} {v : BitVec 32} :
    parseIpv4Addr cs = some v ↔ ∃ a b c d, cs = dottedQuad a b c d ∧ v = a ++ b ++ c ++ d := by
  refine ⟨fun h => ?_, fun h => ?_⟩
  · unfold parseIpv4Addr at h
    split at h
    · rename_i w x y z hsplit
      have hcs : List.intercalate ['.'] (cs.splitOn '.') = cs := List.intercalate_splitOn '.'
      rw [hsplit] at hcs
      simp only [List.intercalate_cons_cons, List.intercalate_singleton] at hcs
      simp only [bind, Option.bind_eq_some_iff, parseOctet_eq_some_iff, pure,
        Option.some.injEq] at h
      obtain ⟨a, rfl, b, rfl, c, rfl, d, rfl, rfl⟩ := h
      exact ⟨a, b, c, d, by rw [← hcs]; simp [dottedQuad], rfl⟩
    · cases h
  · obtain ⟨a, b, c, d, rfl, rfl⟩ := h
    exact parseIpv4Addr_dottedQuad a b c d

end Text
