import Mathlib.Data.List.TakeWhile
import UdpRouter.Lib.Reader
import UdpRouter.Lib.TextFacts

/-!
# Socket addresses

`FromStr` of `SocketAddr`, by the readers of the standard library's parser. Its reader of an IPv4
address agrees with `parseIpv4Addr` (`whole_readIpv4Addr`); an address with a port appended reads as
the address and the port, whatever the address contains (`parseSocketAddr_port`).
-/

namespace Text

open Reader

def isDigit (radix : Nat) (c : Char) : Bool := (toDigit radix c).isSome

/-- `read_number`, for an unsigned type of width `w`. -/
def readNumber (radix w : Nat) (maxDigits : Option Nat) (allowZeroPrefix : Bool) :
    Reader Char (BitVec w) := do
  let digits ← span (isDigit radix)
  if digits = [] ∨ maxDigits.any (· < digits.length) then failure
  else if ¬ allowZeroPrefix ∧ digits.head? = some '0' ∧ 1 < digits.length then failure
  else return BitVec.ofNat w (← ofOption (readDigits radix (2 ^ w) digits).toOption)

/-- `read_separator`: the separator stands before every group but the first. -/
def readSeparator {α : Type} (sep : Char) (index : Nat) (inner : Reader Char α) :
    Reader Char α := do
  if 0 < index then given sep
  inner

def readIpv4Addr : Reader Char (BitVec 32) := do
  let octet (i : Nat) := readSeparator '.' i (readNumber 10 8 (some 3) false)
  return (← octet 0) ++ (← octet 1) ++ (← octet 2) ++ (← octet 3)

/-- `read_groups` from the `index`-th group on, for `left` more groups; the flag says that an IPv4
address was read, which takes the place of two. -/
def readGroups (index : Nat) : Nat → Reader Char (List (BitVec 16) × Bool)
  | 0 => return ([], false)
  | left + 1 =>
    (if left = 0 then failure
    else do
      let v4 ← readSeparator ':' index readIpv4Addr
      return ([v4.extractLsb' 16 16, v4.extractLsb' 0 16], true)) <|>
    (do
      let group ← readSeparator ':' index (readNumber 16 16 (some 4) true)
      let (groups, ipv4) ← readGroups (index + 1) left
      return (group :: groups, ipv4)) <|>
    return ([], false)

/-- The eight groups as one number. -/
def joinGroups (groups : List (BitVec 16)) : BitVec 128 :=
  groups.foldl (fun acc g => (acc <<< 16) ||| g.setWidth 128) 0

def readIpv6Addr : Reader Char (BitVec 128) := do
  let (head, headIpv4) ← readGroups 0 8
  if head.length = 8 then return joinGroups head
  -- IPv4 part is not allowed before `::`
  else if headIpv4 then failure
  else
    given ':'
    given ':'
    -- The `::` must contain at least one group of zeroes
    let limit := 8 - (head.length + 1)
    let (tail, _) ← readGroups 0 limit
    return joinGroups (head ++ List.replicate (8 - head.length - tail.length) 0 ++ tail)

def readPort : Reader Char (BitVec 16) := do
  given ':'
  readNumber 10 16 none true

def readScopeId : Reader Char (BitVec 32) := do
  given '%'
  readNumber 10 32 none true

inductive SocketAddr
  | v4 (ip : BitVec 32) (port : BitVec 16)
  | v6 (ip : BitVec 128) (port : BitVec 16) (scopeId : BitVec 32)
  deriving DecidableEq

def readSocketAddrV4 : Reader Char SocketAddr := do
  let ip ← readIpv4Addr
  let port ← readPort
  return .v4 ip port

def readSocketAddrV6 : Reader Char SocketAddr := do
  given '['
  let ip ← readIpv6Addr
  let scopeId ← readScopeId <|> pure 0
  given ']'
  let port ← readPort
  return .v6 ip port scopeId

def parseSocketAddr (src : List Char) : Option SocketAddr :=
  whole (readSocketAddrV4 <|> readSocketAddrV6) src

/-! ## Stops -/

section
variable {c : Char} {radix w : Nat} {maxDigits : Option Nat} {allowZeroPrefix : Bool}

theorem stopsAt_readNumber (h : isDigit radix c = false) :
    StopsAt c (readNumber radix w maxDigits allowZeroPrefix) := by
  refine (stopsAt_span h).bind fun digits => ?_
  split_ifs
  · exact stopsAt_failure
  · exact stopsAt_failure
  · exact (stopsAt_ofOption _).bind fun n => stopsAt_pure _

theorem stopsAt_readSeparator {α : Type} {sep : Char} {index : Nat} {inner : Reader Char α}
    (h : c ≠ sep) (hinner : StopsAt c inner) : StopsAt c (readSeparator sep index inner) := by
  unfold readSeparator
  split_ifs
  · exact (stopsAt_given h).bind fun _ => hinner
  · exact hinner

theorem stopsAt_readIpv4Addr (h : isDigit 10 c = false) (hdot : c ≠ '.') :
    StopsAt c readIpv4Addr := by
  have hoctet : ∀ i, StopsAt c (readSeparator '.' i (readNumber 10 8 (some 3) false)) :=
    fun i => stopsAt_readSeparator hdot (stopsAt_readNumber h)
  exact (hoctet 0).bind fun _ => (hoctet 1).bind fun _ => (hoctet 2).bind fun _ =>
    (hoctet 3).bind fun _ => stopsAt_pure _

theorem stopsAt_readGroups (h : isDigit 16 c = false) (h10 : isDigit 10 c = false)
    (hdot : c ≠ '.') (hcolon : c ≠ ':') (index left : Nat) :
    StopsAt c (readGroups index left) := by
  induction left generalizing index with
  | zero => exact stopsAt_pure _
  | succ left ih =>
    refine StopsAt.orElse ?_ (StopsAt.orElse ?_ (stopsAt_pure _))
    · split_ifs
      · exact stopsAt_failure
      · exact (stopsAt_readSeparator hcolon (stopsAt_readIpv4Addr h10 hdot)).bind
          fun _ => stopsAt_pure _
    · exact (stopsAt_readSeparator hcolon (stopsAt_readNumber h)).bind fun _ =>
        (ih _).bind fun _ => stopsAt_pure _

theorem stopsAt_readPort (h : isDigit 10 c = false) (hcolon : c ≠ ':') : StopsAt c readPort :=
  (stopsAt_given hcolon).bind fun _ => stopsAt_readNumber h

theorem stopsAt_readIpv6Addr (h : isDigit 16 c = false) (h10 : isDigit 10 c = false)
    (hdot : c ≠ '.') (hcolon : c ≠ ':') : StopsAt c readIpv6Addr := by
  have hgroups := stopsAt_readGroups h h10 hdot hcolon
  refine (hgroups 0 8).bind ?_
  rintro ⟨head, headIpv4⟩
  dsimp only
  split_ifs
  · exact stopsAt_pure _
  · exact stopsAt_failure
  · exact (stopsAt_given hcolon).bind fun _ => (stopsAt_given hcolon).bind fun _ =>
      (hgroups 0 _).bind fun _ => stopsAt_pure _

theorem stopsAt_readScopeId (h : isDigit 10 c = false) (hpercent : c ≠ '%') :
    StopsAt c readScopeId :=
  (stopsAt_given hpercent).bind fun _ => stopsAt_readNumber h

end

/-! ## Numbers and IPv4 addresses -/

section
variable {w : Nat} {s u : List Char}

theorem numeral_toDigits (n : Nat) :
    Numeral 10 (Nat.toDigits 10 n) ∧ value 10 (Nat.toDigits 10 n) = n := by
  have h : readDigits 10 (n + 1) (Nat.toDigits 10 n) = .ok n :=
    readDigits_toDigits (by decide) (by decide) n (Nat.lt_succ_self n)
  obtain ⟨hall, hv, -⟩ := (readDigits_eq_ok_iff (by decide) (Nat.succ_pos n)).1 h
  exact ⟨⟨Nat.toDigits_ne_nil, hall⟩, hv⟩

theorem span_toDigits (n : Nat) :
    span (isDigit 10) (Nat.toDigits 10 n) = some (Nat.toDigits 10 n, []) := by
  have h : ∀ c ∈ Nat.toDigits 10 n, isDigit 10 c = true := (numeral_toDigits n).1.2
  rw [span, List.takeWhile_eq_self_iff.2 h, List.dropWhile_eq_nil_iff.2 h]

/-- A number of any size, which must fit. -/
theorem readNumber_toDigits (n : Nat) :
    readNumber 10 w none true (Nat.toDigits 10 n) =
      if n < 2 ^ w then some (BitVec.ofNat w n, []) else none := by
  rw [readNumber, bind_apply, span_toDigits, Option.bind_some]
  have hne : Nat.toDigits 10 n ≠ [] := Nat.toDigits_ne_nil
  simp only [hne, Option.any_none, Bool.false_eq_true, or_self, if_false, not_true_eq_false,
    false_and]
  split_ifs with hn
  · rw [readDigits_toDigits (by decide) (by decide) n hn]
    rfl
  · cases hd : readDigits 10 (2 ^ w) (Nat.toDigits 10 n) with
    | error _ => rfl
    | ok m =>
      obtain ⟨-, hv, hlt⟩ := (readDigits_eq_ok_iff (by decide) (Nat.two_pow_pos w)).1 hd
      rw [(numeral_toDigits n).2] at hv
      omega

theorem readOctet_apply (s : List Char) : readNumber 10 8 (some 3) false s =
    (parseOctet (s.takeWhile (isDigit 10))).map fun a => (a, s.dropWhile (isDigit 10)) := by
  rw [readNumber, bind_apply, span, Option.bind_some, parseOctet]
  simp only [Option.any_some, decide_eq_true_eq, Bool.false_eq_true, not_false_eq_true, true_and]
  split_ifs
  · rfl
  · rfl
  · cases readDigits 10 256 (s.takeWhile (isDigit 10)) <;> rfl

theorem readOctet_eq_some {a : BitVec 8} (h : readNumber 10 8 (some 3) false s = some (a, u)) :
    s = Nat.toDigits 10 a.toNat ++ u := by
  rw [readOctet_apply, Option.map_eq_some_iff] at h
  obtain ⟨b, hb, he⟩ := h
  obtain ⟨rfl, rfl⟩ := Prod.mk.inj he
  rw [← parseOctet_eq_some_iff.1 hb, List.takeWhile_append_dropWhile]

theorem readOctet_toDigits (a : BitVec 8) :
    readNumber 10 8 (some 3) false (Nat.toDigits 10 a.toNat) = some (a, []) := by
  have h := span_toDigits a.toNat
  rw [span, Option.some.injEq, Prod.mk.injEq] at h
  rw [readOctet_apply, h.1, h.2, parseOctet_toDigits]
  rfl

/-- One octet. -/
def readOctet : Reader Char (BitVec 8) := readNumber 10 8 (some 3) false

theorem readIpv4Addr_eq : readIpv4Addr = (do
    let a ← readOctet
    given '.'
    let b ← readOctet
    given '.'
    let c ← readOctet
    given '.'
    let d ← readOctet
    return a ++ b ++ c ++ d) := by
  simp only [readIpv4Addr, readSeparator, readOctet, bind_assoc, Nat.lt_irrefl, if_false,
    Nat.zero_lt_succ, if_true]

theorem readOctet_dot (a : BitVec 8) (t : List Char) :
    readOctet (Nat.toDigits 10 a.toNat ++ '.' :: t) = some (a, '.' :: t) := by
  have h : StopsAt '.' readOctet := stopsAt_readNumber rfl
  rw [h.stops, readOctet, readOctet_toDigits]
  rfl

/-- **The reader of an IPv4 address** reads what `parseIpv4Addr` parses. -/
theorem whole_readIpv4Addr (s : List Char) : whole readIpv4Addr s = parseIpv4Addr s := by
  refine Option.ext fun v => ?_
  rw [whole_eq_some, parseIpv4Addr_eq_some_iff, readIpv4Addr_eq]
  refine ⟨fun h => ?_, fun h => ?_⟩
  · simp only [bind_eq_some] at h
    obtain ⟨a, u₁, ha, _, u₂, h₁, b, u₃, hb, _, u₄, h₂, c, u₅, hc, _, u₆, h₃, d, u₇, hd, hv⟩ := h
    obtain ⟨rfl, rfl⟩ := Prod.mk.inj (Option.some.inj hv)
    refine ⟨a, b, c, d, ?_, rfl⟩
    rw [readOctet_eq_some ha, given_eq_some h₁, readOctet_eq_some hb, given_eq_some h₂,
      readOctet_eq_some hc, given_eq_some h₃, readOctet_eq_some hd, List.append_nil]
    rfl
  · obtain ⟨a, b, c, d, rfl, rfl⟩ := h
    simp only [dottedQuad, bind_apply, readOctet_dot, Option.bind_some, given, if_true]
    rw [readOctet, readOctet_toDigits]
    rfl

end

/-! ## An address and a port -/

/-- What stands between the brackets. -/
def readScoped : Reader Char (BitVec 128 × BitVec 32) := do
  let ip ← readIpv6Addr
  let scopeId ← readScopeId <|> pure 0
  return (ip, scopeId)

/-- The texts of an address that lacks its port. -/
inductive IsHost : List Char → (BitVec 16 → SocketAddr) → Prop
  | v4 (a b c d : BitVec 8) : IsHost (dottedQuad a b c d) fun port => .v4 (a ++ b ++ c ++ d) port
  | v6 {inner : List Char} {ip : BitVec 128} {scopeId : BitVec 32} :
      whole readScoped inner = some (ip, scopeId) →
      IsHost ('[' :: (inner ++ [']'])) fun port => .v6 ip port scopeId

section
variable {host inner : List Char} {n : Nat}

theorem stopsAt_readScoped : StopsAt ']' readScoped :=
  (stopsAt_readIpv6Addr rfl rfl (by decide) (by decide)).bind fun _ =>
    ((stopsAt_readScopeId rfl (by decide)).orElse (stopsAt_pure _)).bind fun _ => stopsAt_pure _

/-- The number after the colon. -/
theorem whole_number (n : Nat) (f : BitVec 16 → SocketAddr) :
    whole (do return f (← readNumber 10 16 none true)) (Nat.toDigits 10 n) =
      if n < 65536 then some (f (BitVec.ofNat 16 n)) else none := by
  rw [whole, bind_apply, readNumber_toDigits, show 2 ^ 16 = 65536 from rfl]
  split_ifs <;> rfl

theorem stopsAt_number (f : BitVec 16 → SocketAddr) :
    StopsAt ':' (do return f (← readNumber 10 16 none true)) :=
  (stopsAt_readNumber rfl).bind fun _ => stopsAt_pure _

theorem readSocketAddrV4_eq : readSocketAddrV4 = (do
    let ip ← readIpv4Addr
    given ':'
    return .v4 ip (← readNumber 10 16 none true)) := by
  simp only [readSocketAddrV4, readPort, bind_assoc]

theorem readSocketAddrV6_eq : readSocketAddrV6 = (do
    given '['
    let x ← readScoped
    given ']'
    return .v6 x.1 (← readPort) x.2) := by
  simp only [readSocketAddrV6, readScoped, bind_assoc, pure_bind]

theorem whole_v4 (host : List Char) (n : Nat) :
    whole readSocketAddrV4 (host ++ ':' :: Nat.toDigits 10 n) =
      (parseIpv4Addr host).bind fun ip =>
        if n < 65536 then some (.v4 ip (BitVec.ofNat 16 n)) else none := by
  have hstop : StopsAt ':' readIpv4Addr := stopsAt_readIpv4Addr rfl (by decide)
  rw [readSocketAddrV4_eq, hstop.whole_stop fun ip => stopsAt_number _, whole_readIpv4Addr]
  simp only [whole_number]

/-- Nothing but the port follows the bracket. -/
theorem whole_port (v : List Char) (n : Nat) (f : BitVec 16 → SocketAddr) :
    whole (do return f (← readPort)) (v ++ ':' :: Nat.toDigits 10 n) =
      if v = [] ∧ n < 65536 then some (f (BitVec.ofNat 16 n)) else none := by
  have hstop : StopsAt ':' (pure () : Reader Char Unit) := stopsAt_pure ()
  have h := hstop.whole_stop (fun _ => stopsAt_number f) v (Nat.toDigits 10 n)
  simp only [pure_bind] at h
  rw [readPort, bind_assoc, h, whole_number]
  cases v with
  | nil =>
    have hnil : whole (pure () : Reader Char Unit) [] = some () := rfl
    simp [hnil]
  | cons c v => rfl

theorem whole_v6 (inner v : List Char) (n : Nat) :
    whole readSocketAddrV6 ('[' :: (inner ++ ']' :: v ++ ':' :: Nat.toDigits 10 n)) =
      (whole readScoped inner).bind fun x =>
        if v = [] ∧ n < 65536 then some (.v6 x.1 (BitVec.ofNat 16 n) x.2) else none := by
  have hstop : ∀ x : BitVec 128 × BitVec 32, StopsAt ']'
      (do return SocketAddr.v6 x.1 (← readPort) x.2) := fun x =>
    (stopsAt_readPort rfl (by decide)).bind fun _ => stopsAt_pure _
  have h := stopsAt_readScoped.whole_stop hstop inner (v ++ ':' :: Nat.toDigits 10 n)
  rw [whole, readSocketAddrV6_eq, given_bind_cons, ← whole, List.append_assoc, List.cons_append, h]
  simp only [whole_port]

/-- No address without its bracket. -/
theorem whole_unclosed (h : ']' ∉ inner) (n : Nat) :
    whole readSocketAddrV6 ('[' :: (inner ++ ':' :: Nat.toDigits 10 n)) = none := by
  rw [whole, readSocketAddrV6_eq, given_bind_cons, ← whole]
  refine stopsAt_readScoped.whole_not_mem fun hm => ?_
  rcases List.mem_append.1 hm with hm | hm
  · exact h hm
  · rcases List.mem_cons.1 hm with hm | hm
    · cases hm
    · exact not_mem_toDigits rfl n hm

/-- The bracket tells the two forms apart. -/
theorem parseSocketAddr_cons (c : Char) (s : List Char) : parseSocketAddr (c :: s) =
    if c = '[' then whole readSocketAddrV6 (c :: s) else whole readSocketAddrV4 (c :: s) := by
  rw [parseSocketAddr]
  split_ifs with hc
  · refine whole_congr ?_
    rw [orElse_apply, readSocketAddrV4, bind_apply, readIpv4Addr_eq, bind_apply, readOctet,
      readOctet_apply, hc]
    rfl
  · refine whole_congr ?_
    rw [orElse_apply, readSocketAddrV6_eq, given_bind_eq_none _ (by simpa using hc)]
    exact Option.or_none

theorem parseSocketAddr_v4 (h : host.head? ≠ some '[') (t : List Char) :
    parseSocketAddr (host ++ ':' :: t) = whole readSocketAddrV4 (host ++ ':' :: t) := by
  cases host with
  | nil => rw [List.nil_append, parseSocketAddr_cons, if_neg (by decide)]
  | cons c s => rw [List.cons_append, parseSocketAddr_cons, if_neg (by simpa using h)]

theorem dottedQuad_head (a b c d : BitVec 8) : (dottedQuad a b c d).head? ≠ some '[' := by
  intro h
  have hm : '[' ∈ dottedQuad a b c d := List.mem_of_head? h
  simp [dottedQuad, not_mem_toDigits (c := '[') rfl] at hm

/-- **A host with a port appended** reads as that host and that port. -/
theorem parseSocketAddr_port {addr : SocketAddr} :
    parseSocketAddr (host ++ ':' :: Nat.toDigits 10 n) = some addr ↔
      n < 65536 ∧ ∃ f, IsHost host f ∧ addr = f (BitVec.ofNat 16 n) := by
  refine ⟨fun h => ?_, ?_⟩
  · by_cases hhead : host.head? = some '['
    · obtain ⟨t, rfl⟩ := List.head?_eq_some_iff.1 hhead
      rw [List.cons_append, parseSocketAddr_cons, if_pos rfl] at h
      by_cases hm : ']' ∈ t
      · obtain ⟨inner, v, rfl⟩ := List.append_of_mem hm
        rw [whole_v6, Option.bind_eq_some_iff] at h
        obtain ⟨x, hx, h⟩ := h
        obtain ⟨⟨rfl, hn⟩, he⟩ := Option.ite_none_right_eq_some.1 h
        exact ⟨hn, _, .v6 hx, (Option.some.inj he).symm⟩
      · rw [whole_unclosed hm] at h
        cases h
    · rw [parseSocketAddr_v4 hhead, whole_v4, Option.bind_eq_some_iff] at h
      obtain ⟨ip, hip, h⟩ := h
      obtain ⟨hn, he⟩ := Option.ite_none_right_eq_some.1 h
      obtain ⟨a, b, c, d, rfl, rfl⟩ := parseIpv4Addr_eq_some_iff.1 hip
      exact ⟨hn, _, .v4 a b c d, (Option.some.inj he).symm⟩
  · rintro ⟨hn, f, hf, rfl⟩
    cases hf with
    | v4 a b c d =>
      rw [parseSocketAddr_v4 (dottedQuad_head a b c d), whole_v4, parseIpv4Addr_dottedQuad,
        Option.bind_some, if_pos hn]
    | v6 hr =>
      rw [List.cons_append, parseSocketAddr_cons, if_pos rfl, whole_v6, hr, Option.bind_some,
        if_pos ⟨rfl, hn⟩]

end

end Text
