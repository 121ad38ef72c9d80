import UdpRouter.Lib.TextFacts
import UdpRouter.Router.Proof.Updates
import UdpRouter.Tool.Main

/-!
# The gateway's address from text to wire

`parse_mac_address` shifts six groups into a word (`parseMacAddress_ok_iff`), the actor installs
the word and the XDP program takes six of its eight bytes (`wireAddress`): these are the groups
again, in their order (`wireAddress_of_parse`). `mac_round_trip` states it over the runs of the
router, for every spelling that is accepted.
-/

namespace Tool

open Bytes Ebpf Management Router Text Transition Wire

/-! ## Groups -/

def groups (s : String) : List (List Char) := s.toList.splitOn ':'

/-- The hexadecimal number of a group. -/
def groupValue (g : List Char) : Nat := value 16 (unsigned g)

/-- Hexadecimal digits, after an optional plus sign, of a number below 256. -/
def IsGroup (g : List Char) : Prop := Numeral 16 (unsigned g) ∧ groupValue g < 256

instance (g : List Char) : Decidable (IsGroup g) := inferInstanceAs (Decidable (_ ∧ _))

/-- The bytes that the groups stand for. -/
def macBytes (gs : List (List Char)) : List Byte := gs.map fun g => BitVec.ofNat 8 (groupValue g)

theorem fromStrRadix_group {g : List Char} {b : Byte} :
    fromStrRadix 16 8 g = .ok b ↔ IsGroup g ∧ b = BitVec.ofNat 8 (groupValue g) := by
  rw [fromStrRadix_eq_ok_iff (by decide), IsGroup, ← groupValue, eq_toNat_iff, and_assoc]
  rfl

/-- The loop over the groups. -/
theorem shiftGroups_ok_iff {gs : List (List Char)} {res mac : BitVec 64} :
    (gs.foldlM (fun (res : BitVec 64) part => do
      let byte ← unwrap (parseInt 16 8 part)
      return (res <<< 8) ||| byte.setWidth 64) res : Except String (BitVec 64)) = .ok mac ↔
    (∀ g ∈ gs, IsGroup g) ∧
      mac = (macBytes gs).foldl (fun (x : BitVec 64) b => (x <<< 8) ||| b.setWidth 64) res := by
  induction gs generalizing res with
  | nil =>
    refine ⟨fun h => ⟨by simp, ?_⟩, fun h => ?_⟩
    · exact (Except.ok.inj h).symm
    · exact congrArg Except.ok h.2.symm
  | cons g gs ih =>
    rw [List.foldlM_cons, List.forall_mem_cons, parseInt]
    cases hg : fromStrRadix 16 8 g with
    | error _ =>
      refine iff_of_false (fun h => ?_) fun h => ?_
      · cases h
      · rw [fromStrRadix_group.2 ⟨h.1.1, rfl⟩] at hg
        cases hg
    | ok b =>
      obtain ⟨h, rfl⟩ := fromStrRadix_group.1 hg
      exact ih.trans (and_congr_left fun _ => (and_iff_right h).symm)

/-- **What `parse_mac_address` accepts, and its result.** -/
theorem parseMacAddress_ok_iff {s : String} {mac : BitVec 64} :
    parseMacAddress s = .ok mac ↔ (groups s).length = 6 ∧ (∀ g ∈ groups s, IsGroup g) ∧
      mac = BitVec.ofNat 64 (beNat (macBytes (groups s))) := by
  rw [parseMacAddress, ← groups]
  by_cases hl : (groups s).length = 6
  · rw [if_neg (not_not.2 hl), shiftGroups_ok_iff, foldl_shift_or _ (by simp [macBytes, hl])]
    exact (and_iff_right hl).symm
  · rw [if_pos hl]
    refine iff_of_false (fun h => ?_) fun h => hl h.1
    cases h

/-! ## The wire -/

/-- The destination address of the frames that are sent under the map's value. -/
def wireAddress (mac : BitVec 64) : List Byte := bytesAt (toBeBytes (n := 8) mac) 2 6

/-- Six bytes shifted into a word stand at its low end. -/
theorem wireAddress_ofNat {bs : List Byte} (h : bs.length = 6) :
    (BitVec.ofNat 64 (beNat bs)).toNat < 2 ^ 48 ∧
      wireAddress (BitVec.ofNat 64 (beNat bs)) = bs := by
  have hlt := beNat_lt bs
  rw [h] at hlt
  have hnat : (BitVec.ofNat 64 (beNat bs)).toNat = beNat bs := by
    rw [BitVec.toNat_ofNat, Nat.mod_eq_of_lt (by omega)]
  have hbytes := natBytes_beNat (List.replicate 2 0 ++ bs)
  rw [beNat_zeros_append, List.length_append, List.length_replicate, h] at hbytes
  refine ⟨by rw [hnat]; omega, ?_⟩
  rw [wireAddress, toBeBytes, hnat, hbytes, bytesAt, List.drop_left' (List.length_replicate),
    List.take_of_length_le (by omega)]

theorem wireAddress_of_parse {s : String} {mac : BitVec 64} (h : parseMacAddress s = .ok mac) :
    mac.toNat < 2 ^ 48 ∧ wireAddress mac = macBytes (groups s) := by
  obtain ⟨hl, -, rfl⟩ := parseMacAddress_ok_iff.1 h
  exact wireAddress_ofNat (by rw [macBytes, List.length_map, hl])

/-! ## Two-digit forms -/

/-- The digit of a number below 16, in either letter case. -/
def IsHexDigit (d : Nat) (c : Char) : Prop := c = d.digitChar ∨ c = d.digitChar.toUpper

/-- The two digits of a byte. -/
def IsHexPair (b : Byte) (g : List Char) : Prop :=
  ∃ x y, IsHexDigit (b.toNat / 16) x ∧ IsHexDigit (b.toNat % 16) y ∧ g = [x, y]

/-- The text of an address: the two digits of each byte, with colons between. -/
def Spells (bs : List Byte) (s : String) : Prop :=
  ∃ gs, List.Forall₂ IsHexPair bs gs ∧ s = String.ofList ([':'].intercalate gs)

theorem IsHexDigit.toDigit {d : Nat} {c : Char} (hd : d < 16) (h : IsHexDigit d c) :
    toDigit 16 c = some d := by
  rcases h with rfl | rfl
  · exact toDigit_digitChar (by decide) hd
  · interval_cases d <;> rfl

theorem IsHexPair.group {b : Byte} {g : List Char} (h : IsHexPair b g) :
    ':' ∉ g ∧ IsGroup g ∧ groupValue g = b.toNat := by
  obtain ⟨x, y, hx, hy, rfl⟩ := h
  have hb : b.toNat < 256 := b.isLt
  have hx := hx.toDigit (by omega)
  have hy := hy.toDigit (Nat.mod_lt _ (by decide))
  have hu : unsigned [x, y] = [x, y] := by
    refine if_neg fun hp => ?_
    obtain rfl : x = '+' := Option.some.inj hp
    cases hx
  have hv : groupValue [x, y] = b.toNat := by
    rw [groupValue, hu]
    simp only [value, List.foldl_cons, List.foldl_nil, hx, hy, Option.getD_some]
    omega
  refine ⟨fun hm => ?_, ⟨⟨by rw [hu]; exact List.cons_ne_nil _ _, ?_⟩, hv ▸ hb⟩, hv⟩
  · rcases List.mem_cons.1 hm with rfl | hm
    · cases hx
    · obtain rfl := List.mem_singleton.1 hm
      cases hy
  · rw [hu]
    intro c hc
    rcases List.mem_cons.1 hc with rfl | hc
    · rw [hx]; rfl
    · rw [List.mem_singleton.1 hc, hy]; rfl

theorem spelled_groups {bs : List Byte} {gs : List (List Char)} (h : List.Forall₂ IsHexPair bs gs) :
    macBytes gs = bs ∧ ∀ g ∈ gs, ':' ∉ g ∧ IsGroup g := by
  induction h with
  | nil => exact ⟨rfl, nofun⟩
  | @cons b g bs gs hg _ ih =>
    obtain ⟨hc, hgroup, hv⟩ := hg.group
    obtain ⟨hbytes, hall⟩ := ih
    refine ⟨?_, List.forall_mem_cons.2 ⟨⟨hc, hgroup⟩, hall⟩⟩
    rw [macBytes, List.map_cons, ← macBytes, hbytes, hv, BitVec.ofNat_toNat, BitVec.setWidth_eq]

/-- **Every spelling is accepted.** -/
theorem Spells.parse {bs : List Byte} {s : String} (h6 : bs.length = 6) (h : Spells bs s) :
    parseMacAddress s = .ok (BitVec.ofNat 64 (beNat bs)) := by
  obtain ⟨gs, hf, rfl⟩ := h
  obtain ⟨hbytes, hall⟩ := spelled_groups hf
  have hl : gs.length = 6 := hf.length_eq.symm.trans h6
  have hne : gs ≠ [] := fun h => by simp [h] at hl
  have hg : groups (String.ofList ([':'].intercalate gs)) = gs := by
    rw [groups, String.toList_ofList]
    exact List.splitOn_intercalate ':' (fun g hm => (hall g hm).1) hne
  exact parseMacAddress_ok_iff.2 ⟨by rw [hg, hl], fun g hm => (hall g (hg ▸ hm)).2,
    by rw [hg, hbytes]⟩

/-! ## Round trip -/

theorem map_toNat_macBytes {gs : List (List Char)} (h : ∀ g ∈ gs, IsGroup g) :
    (macBytes gs).map BitVec.toNat = gs.map groupValue := by
  rw [macBytes, List.map_map]
  refine List.map_congr_left fun g hg => ?_
  exact (BitVec.toNat_ofNat _ _).trans (Nat.mod_eq_of_lt (h g hg).2)

/-- In a run of the router: the frames forwarded while the last handled message for the gateway
carries `mac` are addressed to `bs`. -/
def AddressedTo (evs : List Event) (mac : BitVec 64) (bs : List Byte) : Prop :=
  ∀ pre cpu maps f g post, evs = pre ++ .packet cpu maps f .tx g :: post →
    lastWritten .gatewayMac (handled pre) = some mac → bytesAt g 0 6 = bs

/-- **The gateway's address survives** text, message, map and frame. An accepted string has six
groups of a byte each, and they are the address on the wire; every six bytes, spelled in two-digit
groups of either case, are accepted and are the address on the wire; and strings with one address
on the wire have groups of equal values. -/
theorem mac_round_trip (e : Endian) (cap cpus : Nat) (evs : List Event) (s : State)
    (h : Run (Router.Step e cap) (.init cpus) evs s) :
    (∀ t mac, parseMacAddress t = .ok mac → (groups t).length = 6 ∧ mac.toNat < 2 ^ 48 ∧
      (∀ g ∈ groups t, IsGroup g) ∧ AddressedTo evs mac (macBytes (groups t))) ∧
    (∀ bs t, bs.length = 6 → Spells bs t →
      ∃ mac, parseMacAddress t = .ok mac ∧ AddressedTo evs mac bs) ∧
    (∀ t t' mac mac', parseMacAddress t = .ok mac → parseMacAddress t' = .ok mac' →
      wireAddress mac = wireAddress mac' →
      (groups t).map groupValue = (groups t').map groupValue) := by
  have hwire : ∀ mac, AddressedTo evs mac (wireAddress mac) := by
    intro mac pre cpu maps f g post he hl
    subst he
    exact dstMac_of_tx h hl
  refine ⟨fun t mac ht => ?_, fun bs t h6 hs => ?_, fun t t' mac mac' ht ht' hw => ?_⟩
  · obtain ⟨hl, hg, -⟩ := parseMacAddress_ok_iff.1 ht
    obtain ⟨hlt, hbytes⟩ := wireAddress_of_parse ht
    exact ⟨hl, hlt, hg, hbytes ▸ hwire mac⟩
  · have hb := hwire (BitVec.ofNat 64 (beNat bs))
    rw [(wireAddress_ofNat h6).2] at hb
    exact ⟨_, hs.parse h6, hb⟩
  · rw [(wireAddress_of_parse ht).2, (wireAddress_of_parse ht').2] at hw
    rw [← map_toNat_macBytes (parseMacAddress_ok_iff.1 ht).2.1,
      ← map_toNat_macBytes (parseMacAddress_ok_iff.1 ht').2.1, hw]

/-! ## A small run -/

def macSet : Request := .setGatewayMacAddress 0x020000000001

/-- The gateway is configured, then the local network. -/
def gatewayMaps : BpfMaps :=
  setEntry (setEntry (.fresh 1) 0x020000000001 .gatewayMac) 0x0a000200ffffff00 .localNet

def gatewayEvents : List Event :=
  [.attach, .start, .issue 0 macSet, .enqueue 0 (messageOf (0, macSet)).2,
    .handle 0 (messageOf (0, macSet)).2 none, .issue 1 localSet,
    .enqueue 1 (messageOf (1, localSet)).2, .handle 1 (messageOf (1, localSet)).2 none]

theorem gateway_run : ∃ s, Run (Router.Step .little channelCapacity) (.init 1)
    (gatewayEvents ++ [.packet 0 gatewayMaps clientFrame .tx (forwarded gatewayMaps clientFrame)])
    s := by
  have hv : verdict gatewayMaps clientFrame = .tx := verdict_probe _ (by decide)
  have hp : Router.Step .little channelCapacity
      ⟨.receiving, gatewayMaps, ⟨[], []⟩, [(1, localSet), (0, macSet)], [], 2⟩
      (.packet 0 gatewayMaps clientFrame .tx (forwarded gatewayMaps clientFrame)) _ :=
    .packet_tx (by decide) 0 hv
  exact ⟨_, .cons (.attach rfl) (.cons (.start rfl) ((deliver_run (by decide) rfl rfl rfl).trans
    ((deliver_run (by decide) rfl rfl rfl).trans (.single hp))))⟩

theorem mac_round_trip_example :
    bytesAt (forwarded gatewayMaps clientFrame) 0 6 = [2, 0, 0, 0, 0, 1] := by
  obtain ⟨s, hr⟩ := gateway_run
  have h := mac_round_trip .little channelCapacity 1 _ s hr
  obtain ⟨-, -, -, ha⟩ := h.1 "2:0:0:00:+0:001" 0x020000000001 (by decide +kernel)
  exact ha gatewayEvents 0 gatewayMaps clientFrame _ [] rfl rfl

end Tool
