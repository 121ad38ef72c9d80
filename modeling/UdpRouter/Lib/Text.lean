import Mathlib.Tactic.IntervalCases

/-!
# Parsers of the standard library

`from_str_radix` of an unsigned type, `FromStr` of `Ipv4Addr`, and what they make of the standard
notation (`fromStrRadix_toDigits`, `parseOctet_toDigits`).
-/

namespace Text

/-- `char::to_digit`. -/
def toDigit (radix : Nat) (c : Char) : Option Nat :=
  let d :=
    if '0' ≤ c ∧ c ≤ '9' then c.toNat - '0'.toNat
    else if 'a' ≤ c ∧ c ≤ 'z' then c.toNat - 'a'.toNat + 10
    else if 'A' ≤ c ∧ c ≤ 'Z' then c.toNat - 'A'.toNat + 10
    else radix
  if d < radix then some d else none

/-- What `from_str_radix` of an unsigned type refuses. -/
inductive IntErrorKind
  | empty
  | invalidDigit
  | posOverflow
  deriving DecidableEq

/-- The `Debug` text of the `ParseIntError` with this kind. -/
def IntErrorKind.text : IntErrorKind → String
  | .empty => "ParseIntError \x7b kind: Empty \x7d"
  | .invalidDigit => "ParseIntError \x7b kind: InvalidDigit \x7d"
  | .posOverflow => "ParseIntError \x7b kind: PosOverflow \x7d"

/-- One round of the digit loop, with its checked multiplication and addition; a character that is
no digit is found first. -/
def pushDigit (radix bound acc : Nat) (c : Char) : Except IntErrorKind Nat :=
  match toDigit radix c with
  | none => .error .invalidDigit
  | some d => if acc * radix + d < bound then .ok (acc * radix + d) else .error .posOverflow

def readDigits (radix bound : Nat) (digits : List Char) : Except IntErrorKind Nat :=
  digits.foldlM (pushDigit radix bound) 0

/-- `from_str_radix`: digits with an optional plus sign. -/
def fromStrRadix (radix w : Nat) (src : List Char) : Except IntErrorKind (BitVec w) := do
  if src = [] then .error .empty
  else if src = ['+'] ∨ src = ['-'] then .error .invalidDigit
  else
    let digits := if src.head? = some '+' then src.tail else src
    return BitVec.ofNat w (← readDigits radix (2 ^ w) digits)

/-- One number of an address: at most three digits, none leading. -/
def parseOctet (src : List Char) : Option (BitVec 8) := do
  if src = [] ∨ 3 < src.length then none
  else if src.head? = some '0' ∧ 1 < src.length then none
  else some (BitVec.ofNat 8 (← (readDigits 10 256 src).toOption))

/-- `parse::<Ipv4Addr>` and `to_bits`. -/
def parseIpv4Addr (src : List Char) : Option (BitVec 32) :=
  match src.splitOn '.' with
  | [a, b, c, d] => do
    return (← parseOctet a) ++ (← parseOctet b) ++ (← parseOctet c) ++ (← parseOctet d)
  | _ => none

/-! ## Standard notation -/

theorem toDigit_digitChar {radix d : Nat} (hr : radix ≤ 16) (hd : d < radix) :
    toDigit radix d.digitChar = some d := by
  have h16 : ∀ d < 16, ∀ c, c = d.digitChar → (if '0' ≤ c ∧ c ≤ '9' then c.toNat - '0'.toNat
      else if 'a' ≤ c ∧ c ≤ 'z' then c.toNat - 'a'.toNat + 10
      else if 'A' ≤ c ∧ c ≤ 'Z' then c.toNat - 'A'.toNat + 10 else radix) = d := by
    rintro d hd c rfl
    interval_cases d <;> rfl
  simp only [toDigit, h16 d (by omega) _ rfl, if_pos hd]

/-- The digits of a number read as the number. -/
theorem readDigits_toDigits {radix bound : Nat} (hr : 1 < radix) (hr' : radix ≤ 16) (n : Nat)
    (h : n < bound) : readDigits radix bound (Nat.toDigits radix n) = .ok n := by
  induction n using Nat.strongRecOn with
  | ind n ih =>
    rcases Nat.lt_or_ge n radix with hn | hn
    · rw [Nat.toDigits_of_lt_base hn, readDigits, List.foldlM_cons, pushDigit,
        toDigit_digitChar hr' hn]
      simp [h, bind, Except.bind, pure, Except.pure]
    · have hlt : n / radix < n := Nat.div_lt_self (by omega) hr
      have hdiv := ih _ hlt (by omega)
      have hmod := Nat.mod_lt n (show radix > 0 by omega)
      have hsum : n / radix * radix + n % radix = n := Nat.div_add_mod' n radix
      rw [readDigits] at hdiv ⊢
      rw [Nat.toDigits_of_base_le hr hn, List.foldlM_append, hdiv]
      simp [pushDigit, toDigit_digitChar hr' hmod, hsum, h, bind, Except.bind, pure, Except.pure]

/-- A sign is no digit. -/
@[simp] theorem toDigit_plus (radix : Nat) : toDigit radix '+' = none :=
  if_neg (Nat.lt_irrefl radix)

@[simp] theorem toDigit_minus (radix : Nat) : toDigit radix '-' = none :=
  if_neg (Nat.lt_irrefl radix)

theorem fromStrRadix_toDigits {radix w : Nat} (hr : 1 < radix) (hr' : radix ≤ 16) {n : Nat}
    (h : n < 2 ^ w) : fromStrRadix radix w (Nat.toDigits radix n) = .ok (BitVec.ofNat w n) := by
  have hd := readDigits_toDigits hr hr' n h
  have hsign : ∀ c cs, toDigit radix c = none → Nat.toDigits radix n ≠ c :: cs := by
    intro c cs hc hp
    rw [hp, readDigits, List.foldlM_cons, pushDigit, hc] at hd
    cases hd
  have hhead : (Nat.toDigits radix n).head? ≠ some '+' := by
    intro hp
    obtain ⟨cs, hcs⟩ := List.head?_eq_some_iff.1 hp
    exact hsign _ _ (toDigit_plus radix) hcs
  have hlone : ¬ (Nat.toDigits radix n = ['+'] ∨ Nat.toDigits radix n = ['-']) :=
    not_or.2 ⟨hsign _ _ (toDigit_plus radix), hsign _ _ (toDigit_minus radix)⟩
  rw [fromStrRadix, if_neg Nat.toDigits_ne_nil, if_neg hlone, if_neg hhead]
  simp only [hd]
  rfl

theorem parseOctet_toDigits (a : BitVec 8) : parseOctet (Nat.toDigits 10 a.toNat) = some a := by
  have h : ∀ n < 256, parseOctet (Nat.toDigits 10 n) = some (BitVec.ofNat 8 n) := by decide +kernel
  rw [h _ a.isLt, BitVec.ofNat_toNat, BitVec.setWidth_eq]

theorem not_mem_toDigits {c : Char} (hc : c.isDigit = false) (n : Nat) : c ∉ Nat.toDigits 10 n :=
  fun h => Bool.false_ne_true
    (hc.symm.trans (Nat.isDigit_of_mem_toDigits (by decide) (by decide) h))

/-- `a.b.c.d`. -/
def dottedQuad (a b c d : BitVec 8) : List Char :=
  Nat.toDigits 10 a.toNat ++ '.' :: (Nat.toDigits 10 b.toNat ++
    '.' :: (Nat.toDigits 10 c.toNat ++ '.' :: Nat.toDigits 10 d.toNat))

theorem parseIpv4Addr_dottedQuad (a b c d : BitVec 8) :
    parseIpv4Addr (dottedQuad a b c d) = some (a ++ b ++ c ++ d) := by
  have hdot := not_mem_toDigits (c := '.') rfl
  have hlast : (Nat.toDigits 10 d.toNat).splitOn '.' = [Nat.toDigits 10 d.toNat] :=
    List.splitOn_eq_singleton (hdot _)
  rw [parseIpv4Addr, dottedQuad, List.splitOn_append_cons_self_of_not_mem (hdot _),
    List.splitOn_append_cons_self_of_not_mem (hdot _),
    List.splitOn_append_cons_self_of_not_mem (hdot _), hlast]
  simp only [parseOctet_toDigits]
  rfl

theorem slash_not_mem_dottedQuad (a b c d : BitVec 8) : '/' ∉ dottedQuad a b c d := by
  have hslash := not_mem_toDigits (c := '/') rfl
  simp [dottedQuad, hslash]

end Text
