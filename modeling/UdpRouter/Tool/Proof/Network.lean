import UdpRouter.Lib.TextFacts
import UdpRouter.Tool.Main

/-!
# What the tool takes for a network

`parse_ip_mask` splits at the slash, and its two parsers accept a dotted quad and any number of 32
bits, with a sign or without (`Readable`, `parseIpMask_ok_iff`). The number is not compared with 32;
the mask it gives is `maskOf`.
-/

namespace Tool

open Text

/-- The mask the release build computes. -/
def maskOf (n : Nat) : BitVec 32 := 0xffffffff#32 <<< ((32#32 - BitVec.ofNat 32 n).toNat % 32)

/-- A dotted quad, a slash and a number below 2^32 with an optional plus sign. -/
def Readable (s : String) : Prop :=
  ∃ a b c d len, s = String.ofList (dottedQuad a b c d ++ '/' :: len) ∧
    Numeral 10 (unsigned len) ∧ value 10 (unsigned len) < 2 ^ 32

theorem isEmpty_quad (a b c d : BitVec 8) (len : List Char) :
    (String.ofList (dottedQuad a b c d ++ '/' :: len)).isEmpty = false := by
  simp

theorem splitOn_quad (a b c d : BitVec 8) {len : List Char} (h : Numeral 10 (unsigned len)) :
    (String.ofList (dottedQuad a b c d ++ '/' :: len)).toList.splitOn '/' =
      [dottedQuad a b c d, len] := by
  rw [String.toList_ofList, List.splitOn_append_cons_self_of_not_mem
    (slash_not_mem_dottedQuad a b c d),
    List.splitOn_eq_singleton (not_mem_of_numeral h (by decide) (by decide))]

theorem parseIpMask_quad (a b c d : BitVec 8) {len : List Char}
    (h : Numeral 10 (unsigned len)) (hlt : value 10 (unsigned len) < 2 ^ 32) :
    parseIpMask (String.ofList (dottedQuad a b c d ++ '/' :: len)) =
      .ok (a ++ b ++ c ++ d, maskOf (value 10 (unsigned len))) := by
  have hlen : fromStrRadix 10 32 len = .ok (BitVec.ofNat 32 (value 10 (unsigned len))) := by
    rw [fromStrRadix_eq_ok_iff (by decide), BitVec.toNat_ofNat, Nat.mod_eq_of_lt hlt]
    exact ⟨h, rfl⟩
  rw [parseIpMask, isEmpty_quad, splitOn_quad a b c d h]
  simp only [parseAddr, parseIpv4Addr_dottedQuad, parseInt, hlen]
  rfl

/-- **What `parse_ip_mask` accepts.** -/
theorem parseIpMask_ok_iff {s : String} :
    (∃ r, parseIpMask s = .ok r) ↔ s.isEmpty = true ∨ Readable s := by
  refine ⟨fun ⟨r, h⟩ => ?_, fun h => ?_⟩
  · by_cases he : s.isEmpty = true
    · exact .inl he
    rw [parseIpMask, if_neg he] at h
    have hs : List.intercalate ['/'] (s.toList.splitOn '/') = s.toList :=
      List.intercalate_splitOn '/'
    split at h
    · rename_i ip len hsplit
      rw [hsplit, List.intercalate_cons_cons, List.intercalate_singleton] at hs
      cases hip : parseIpv4Addr ip with
      | none =>
        rw [parseAddr, hip] at h
        cases h
      | some net =>
        cases hlen : fromStrRadix 10 32 len with
        | error _ =>
          rw [parseAddr, hip, parseInt, hlen] at h
          cases h
        | ok n =>
          obtain ⟨a, b, c, d, rfl, -⟩ := parseIpv4Addr_eq_some_iff.1 hip
          obtain ⟨hn, hv⟩ := (fromStrRadix_eq_ok_iff (by decide)).1 hlen
          refine .inr ⟨a, b, c, d, len, ?_, hn, hv ▸ n.isLt⟩
          rw [← String.ofList_toList (s := s), ← hs]
          simp
    · cases h
  · rcases h with he | ⟨a, b, c, d, len, rfl, hn, hlt⟩
    · exact ⟨_, by rw [parseIpMask, if_pos he]⟩
    · exact ⟨_, parseIpMask_quad a b c d hn hlt⟩

end Tool
