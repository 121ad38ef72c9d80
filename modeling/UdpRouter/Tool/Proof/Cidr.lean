import UdpRouter.Lib.Prefix
import UdpRouter.Router.Proof.BpfActor
import UdpRouter.Tool.Proof.Network
import UdpRouter.Tool.Proof.Run

/-!
# What a configured network means

From the text `a.b.c.d/n` through the tool's request and the actor's packing to the filter in the
XDP program. The net is installed as it was given and compared with the masked source, so a block
is matched exactly when its address has no host bits; and a shift by 32 leaves the mask of `/0`
full. `cidr_iff` states both.
-/

namespace Tool

open Ebpf Management Prefix Router Text

/-- The text `a.b.c.d/n`. -/
def cidr (a b c d : BitVec 8) (n : Nat) : String :=
  String.ofList (dottedQuad a b c d ++ '/' :: Nat.toDigits 10 n)

theorem maskOf_eq : ∀ n ≤ 32, maskOf n = if n = 0 then BitVec.allOnes 32 else mask 32 n := by
  decide

theorem isEmpty_cidr (a b c d : BitVec 8) (n : Nat) : (cidr a b c d n).isEmpty = false :=
  isEmpty_quad a b c d _

theorem parseIpMask_cidr (a b c d : BitVec 8) {n : Nat} (hn : n ≤ 32) :
    parseIpMask (cidr a b c d n) = .ok (a ++ b ++ c ++ d, maskOf n) := by
  have hlen : fromStrRadix 10 32 (Nat.toDigits 10 n) = .ok (BitVec.ofNat 32 n) :=
    fromStrRadix_toDigits (by decide) (by decide) (by omega)
  obtain ⟨hnum, hv⟩ := (fromStrRadix_eq_ok_iff (by decide)).1 hlen
  rw [BitVec.toNat_ofNat, Nat.mod_eq_of_lt (by omega)] at hv
  rw [cidr, parseIpMask_quad a b c d hnum (by omega), hv]

/-! ## From the requests to the filters -/

/-- The maps after the actor has handled the requests. -/
def configure (maps : BpfMaps) (reqs : List Request) : Option BpfMaps :=
  handleAll maps (reqs.map (BpfActorHandle.message 0))

/-- The last written value of an entry after a run of the tool is that of its only request. -/
theorem filterMap_written_given (k : Kind) (s : String) (req : Request) :
    ((given s req).map (BpfActorHandle.message 0)).filterMap (BpfActorMessage.written k) =
      if s.isEmpty then [] else ((BpfActorHandle.message 0 req).written k).toList := by
  unfold given
  cases s.isEmpty with
  | true => rfl
  | false => cases h : (BpfActorHandle.message 0 req).written k <;> simp [h]

theorem configure_sent {opt : Opt} {reqs : List Request} (maps : BpfMaps)
    (hs : opt.stats = false) (hr : sent opt = some reqs) :
    ∃ maps' l b, configure maps reqs = some maps' ∧
      parseIpMask opt.setLocalNetAndMask = .ok l ∧ parseIpMask opt.setBackendNetAndMask = .ok b ∧
      (opt.setLocalNetAndMask.isEmpty = false →
        InForce maps' (.setLocalNetAndMask l.1 l.2)) ∧
      (opt.setBackendNetAndMask.isEmpty = false →
        InForce maps' (.setBackendNetAndMask b.1 b.2)) := by
  obtain ⟨l, b, mac, hl, hb, -, rfl⟩ := (sent_iff hs).1 hr
  refine ⟨_, l, b, handleAll_eq _ _, hl, hb, fun he => ?_, fun he => ?_⟩
  · refine inForce_of_entry 0 rfl ?_
    rw [entry_foldl_applied]
    simp only [List.map_append, List.filterMap_append, filterMap_written_given, he]
    simp [BpfActorMessage.written, BpfActorMessage.write, BpfActorHandle.message]
  · refine inForce_of_entry 0 rfl ?_
    rw [entry_foldl_applied]
    simp only [List.map_append, List.filterMap_append, filterMap_written_given, he]
    simp [BpfActorMessage.written, BpfActorMessage.write, BpfActorHandle.message]

/-! ## The block law -/

/-- `p` decides membership of `ip` in the block `q/n`. -/
def DecidesAt (p : BitVec 32 → Bool) (n : Nat) (q ip : BitVec 32) : Prop :=
  p ip = true ↔ SameBlock n ip q

/-- A comparison of the masked source with the net as given. -/
theorem decidesAt_iff {p : BitVec 32 → Bool} {n : Nat} (hn : n ≤ 32) {q : BitVec 32}
    (hp : ∀ ip, p ip = ((ip &&& maskOf n) == q)) (ip : BitVec 32) :
    DecidesAt p n q ip ↔ (n = 0 ∧ ip = q) ∨ (n ≠ 0 ∧ (NoHostBits n q ∨ ¬ SameBlock n ip q)) := by
  rw [DecidesAt, hp, beq_iff_eq, maskOf_eq n hn]
  by_cases h0 : n = 0
  · subst h0
    rw [if_pos rfl, BitVec.and_allOnes]
    simp [sameBlock_zero]
  · rw [if_neg h0, and_mask_eq_iff hn]
    by_cases hs : SameBlock n ip q <;> simp [h0, hs]

theorem decides_iff {p : BitVec 32 → Bool} {n : Nat} (hn : n ≤ 32) {q : BitVec 32}
    (hp : ∀ ip, p ip = ((ip &&& maskOf n) == q)) :
    (∀ ip, DecidesAt p n q ip) ↔ n ≠ 0 ∧ NoHostBits n q := by
  simp only [decidesAt_iff hn hp]
  constructor
  · intro h
    rcases h q with ⟨h0, -⟩ | ⟨h0, hh⟩
    · -- `/0` is no block of one address
      rcases h (q + 1#32) with ⟨-, hq⟩ | ⟨hn0, -⟩
      · exact absurd (BitVec.add_right_eq_self.1 hq) (by decide)
      · exact absurd h0 hn0
    · exact ⟨h0, hh.resolve_right (not_not.2 (sameBlock_refl n q))⟩
  · rintro ⟨h0, hh⟩ ip
    exact .inr ⟨h0, .inl hh⟩

/-- **What `a.b.c.d/n` means** once the actor has handled what the tool sent. For one source the
filter agrees with the block exactly when `n` is not 0 and the address has no host bits or the
source lies outside the block, or when `n` is 0 and the source is the address itself; for all
sources exactly when `n` is not 0 and the address has no host bits. -/
theorem cidr_iff (opt : Opt) (reqs : List Request) (maps : BpfMaps) (hs : opt.stats = false)
    (hr : sent opt = some reqs) :
    ∃ maps', configure maps reqs = some maps' ∧ ∀ a b c d n, n ≤ 32 →
      (opt.setLocalNetAndMask = cidr a b c d n →
        (∀ ip, DecidesAt (isFromLocalNetwork maps') n (a ++ b ++ c ++ d) ip ↔
          (n = 0 ∧ ip = a ++ b ++ c ++ d) ∨ (n ≠ 0 ∧ (NoHostBits n (a ++ b ++ c ++ d) ∨
            ¬ SameBlock n ip (a ++ b ++ c ++ d)))) ∧
        ((∀ ip, DecidesAt (isFromLocalNetwork maps') n (a ++ b ++ c ++ d) ip) ↔
          n ≠ 0 ∧ NoHostBits n (a ++ b ++ c ++ d))) ∧
      (opt.setBackendNetAndMask = cidr a b c d n →
        (∀ ip, DecidesAt (isFromBackendServer maps') n (a ++ b ++ c ++ d) ip ↔
          (n = 0 ∧ ip = a ++ b ++ c ++ d) ∨ (n ≠ 0 ∧ (NoHostBits n (a ++ b ++ c ++ d) ∨
            ¬ SameBlock n ip (a ++ b ++ c ++ d)))) ∧
        ((∀ ip, DecidesAt (isFromBackendServer maps') n (a ++ b ++ c ++ d) ip) ↔
          n ≠ 0 ∧ NoHostBits n (a ++ b ++ c ++ d))) := by
  obtain ⟨maps', l, k, hm, hl, hk, hfl, hfb⟩ := configure_sent maps hs hr
  refine ⟨maps', hm, fun a b c d n hn => ⟨fun ho => ?_, fun ho => ?_⟩⟩
  · rw [ho, parseIpMask_cidr a b c d hn] at hl
    cases hl
    have hf := hfl (ho ▸ isEmpty_cidr a b c d n)
    exact ⟨decidesAt_iff hn hf, decides_iff hn hf⟩
  · rw [ho, parseIpMask_cidr a b c d hn] at hk
    cases hk
    have hf := hfb (ho ▸ isEmpty_cidr a b c d n)
    exact ⟨decidesAt_iff hn hf, decides_iff hn hf⟩

/-- The router's own address with its prefix length. -/
def hostBitsOpt : Opt where
  setLocalNetAndMask := "10.0.2.5/24"
  setBackendNetAndMask := "10.0.3.0/24"
  setGatewayMacAddress := "02:00:00:00:00:01"

def hostBitsRequests : List Request :=
  [.setLocalNetAndMask 0x0a000205 0xffffff00, .setBackendNetAndMask 0x0a000300 0xffffff00,
    .setGatewayMacAddress 0x020000000001]

theorem sent_hostBitsOpt : sent hostBitsOpt = some hostBitsRequests := by
  decide +kernel

theorem cidr_iff_example : ∃ maps', configure (.fresh 1) hostBitsRequests = some maps' ∧
    ∀ ip, isFromBackendServer maps' ip = true ↔ SameBlock 24 ip (10#8 ++ 0#8 ++ 3#8 ++ 0#8) := by
  obtain ⟨maps', hm, h⟩ := cidr_iff hostBitsOpt hostBitsRequests (.fresh 1) rfl sent_hostBitsOpt
  exact ⟨maps', hm, ((h 10 0 3 0 24 (by decide)).2 (by decide +kernel)).2.2 (by decide)⟩

/-- Every address local. -/
def everywhereOpt : Opt where
  setLocalNetAndMask := "0.0.0.0/0"
  setGatewayMacAddress := "02:00:00:00:00:01"

def everywhereRequests : List Request :=
  [.setLocalNetAndMask 0 0xffffffff, .setGatewayMacAddress 0x020000000001]

/-- The host bits of 10.0.2.5/24 keep 10.0.2.7 out of the local network, and 0.0.0.0/0 keeps it out
too. -/
theorem cidr_counterexample :
    (sent hostBitsOpt = some hostBitsRequests ∧
      hostBitsOpt.setLocalNetAndMask = cidr 10 0 2 5 24 ∧
      ∃ maps', configure (.fresh 1) hostBitsRequests = some maps' ∧
        ¬ DecidesAt (isFromLocalNetwork maps') 24 (10#8 ++ 0#8 ++ 2#8 ++ 5#8)
          (10#8 ++ 0#8 ++ 2#8 ++ 7#8)) ∧
    (sent everywhereOpt = some everywhereRequests ∧
      everywhereOpt.setLocalNetAndMask = cidr 0 0 0 0 0 ∧
      ∃ maps', configure (.fresh 1) everywhereRequests = some maps' ∧
        ¬ DecidesAt (isFromLocalNetwork maps') 0 (0#8 ++ 0#8 ++ 0#8 ++ 0#8)
          (10#8 ++ 0#8 ++ 2#8 ++ 7#8)) := by
  refine ⟨⟨sent_hostBitsOpt, by decide +kernel, _, handleAll_eq _ _, ?_⟩,
    by decide +kernel, by decide +kernel, _, handleAll_eq _ _, ?_⟩ <;>
  · unfold DecidesAt
    decide +kernel

end Tool
