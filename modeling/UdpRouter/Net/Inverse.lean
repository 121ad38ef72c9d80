import UdpRouter.Net.Path

/-!
# Forwarding backwards

What a router can send (`Sendable`), and what arrived for it to be sent: the frame rotated back
(`unforwarded`), with any sender's MAC address and any header check field, which are all that
forwarding forgets (`sends_iff`).
-/

namespace Net

open Bytes Ebpf OnesComplement Wire

/-- What arrived from `mac`, with the check field `check`, when `g` is sent. -/
def unforwarded (mac check : List Byte) (g : Frame) : Frame :=
  overwrite (overwrite (overwrite (overwrite (overwrite (overwrite g 0 (bytesAt g 6 6)) 6 mac)
    24 check) 26 (bytesAt g 42 4)) 30 (bytesAt g 26 4)) 42 (bytesAt g 30 4)

/-- What a router can send: to its gateway, with a canonical check field, and with a payload word
that its source filter lets through. -/
structure Sendable (maps : BpfMaps) (g : Frame) : Prop where
  length : 46 ≤ g.length
  gateway : bytesAt g 0 6 = getGatewayMacAddress maps
  etherType : etherType g = 0x0800
  protocol : protocol g = 17
  check : u16At g 24 = headerChecksum g
  accepts : Accepts maps (addrAt g 42)

/-! ## Slices -/

/-- Frames are the same when their fields are. -/
theorem frame_ext {f g : Frame} (h0 : bytesAt f 0 6 = bytesAt g 0 6)
    (h6 : bytesAt f 6 6 = bytesAt g 6 6) (h12 : bytesAt f 12 12 = bytesAt g 12 12)
    (h24 : bytesAt f 24 2 = bytesAt g 24 2) (h26 : bytesAt f 26 4 = bytesAt g 26 4)
    (h30 : bytesAt f 30 4 = bytesAt g 30 4) (h34 : bytesAt f 34 8 = bytesAt g 34 8)
    (h42 : bytesAt f 42 4 = bytesAt g 42 4) (h46 : f.drop 46 = g.drop 46) : f = g := by
  have hfields : ∀ h : Frame, h = bytesAt h 0 6 ++ (bytesAt h 6 6 ++ (bytesAt h 12 12 ++
      (bytesAt h 24 2 ++ (bytesAt h 26 4 ++ (bytesAt h 30 4 ++ (bytesAt h 34 8 ++
        (bytesAt h 42 4 ++ h.drop 46))))))) := by
    intro h
    rw [bytesAt_append_drop h 42 4, bytesAt_append_drop h 34 8, bytesAt_append_drop h 30 4,
      bytesAt_append_drop h 26 4, bytesAt_append_drop h 24 2, bytesAt_append_drop h 12 12,
      bytesAt_append_drop h 6 6, bytesAt_append_drop h 0 6, List.drop_zero]
  rw [hfields f, hfields g, h0, h6, h12, h24, h26, h30, h34, h42, h46]

@[simp] theorem length_unforwarded (mac check : List Byte) (g : Frame) :
    (unforwarded mac check g).length = g.length := by simp [unforwarded]

section
variable {mac check : List Byte} {g : Frame}

theorem bytesAt_unforwarded_dstMac (h : 46 ≤ g.length) :
    bytesAt (unforwarded mac check g) 0 6 = bytesAt g 6 6 := by
  have h6 : (bytesAt g 6 6).length = 6 := length_bytesAt (by omega)
  unfold unforwarded
  rw [bytesAt_overwrite_disjoint _ (by omega), bytesAt_overwrite_disjoint _ (by omega),
    bytesAt_overwrite_disjoint _ (by omega), bytesAt_overwrite_disjoint _ (by omega),
    bytesAt_overwrite_disjoint _ (by omega), bytesAt_overwrite_same h6 (by omega)]

theorem bytesAt_unforwarded_srcMac (hm : mac.length = 6) (h : 46 ≤ g.length) :
    bytesAt (unforwarded mac check g) 6 6 = mac := by
  unfold unforwarded
  rw [bytesAt_overwrite_disjoint _ (by omega), bytesAt_overwrite_disjoint _ (by omega),
    bytesAt_overwrite_disjoint _ (by omega), bytesAt_overwrite_disjoint _ (by omega),
    bytesAt_overwrite_same hm (by simp; omega)]

theorem bytesAt_unforwarded_check (hc : check.length = 2) (h : 46 ≤ g.length) :
    bytesAt (unforwarded mac check g) 24 2 = check := by
  unfold unforwarded
  rw [bytesAt_overwrite_disjoint _ (by omega), bytesAt_overwrite_disjoint _ (by omega),
    bytesAt_overwrite_disjoint _ (by omega), bytesAt_overwrite_same hc (by simp; omega)]

theorem bytesAt_unforwarded_src (h : 46 ≤ g.length) :
    bytesAt (unforwarded mac check g) 26 4 = bytesAt g 42 4 := by
  have h42 : (bytesAt g 42 4).length = 4 := length_bytesAt (by omega)
  unfold unforwarded
  rw [bytesAt_overwrite_disjoint _ (by omega), bytesAt_overwrite_disjoint _ (by omega),
    bytesAt_overwrite_same h42 (by simp; omega)]

theorem bytesAt_unforwarded_dst (h : 46 ≤ g.length) :
    bytesAt (unforwarded mac check g) 30 4 = bytesAt g 26 4 := by
  have h26 : (bytesAt g 26 4).length = 4 := length_bytesAt (by omega)
  unfold unforwarded
  rw [bytesAt_overwrite_disjoint _ (by omega), bytesAt_overwrite_same h26 (by simp; omega)]

theorem bytesAt_unforwarded_payload (h : 46 ≤ g.length) :
    bytesAt (unforwarded mac check g) 42 4 = bytesAt g 30 4 := by
  have h30 : (bytesAt g 30 4).length = 4 := length_bytesAt (by omega)
  rw [unforwarded, bytesAt_overwrite_same h30 (by simp; omega)]

theorem bytesAt_unforwarded_rest (hm : mac.length = 6) (hc : check.length = 2)
    (h : 46 ≤ g.length) {a n : Nat} (ha : 12 ≤ a ∧ a + n ≤ 24 ∨ 34 ≤ a ∧ a + n ≤ 42 ∨ 46 ≤ a) :
    bytesAt (unforwarded mac check g) a n = bytesAt g a n := by
  have h6 : (bytesAt g 6 6).length = 6 := length_bytesAt (by omega)
  have h26 : (bytesAt g 26 4).length = 4 := length_bytesAt (by omega)
  have h30 : (bytesAt g 30 4).length = 4 := length_bytesAt (by omega)
  have h42 : (bytesAt g 42 4).length = 4 := length_bytesAt (by omega)
  unfold unforwarded
  rw [bytesAt_overwrite_disjoint _ (by omega), bytesAt_overwrite_disjoint _ (by omega),
    bytesAt_overwrite_disjoint _ (by omega), bytesAt_overwrite_disjoint _ (by omega),
    bytesAt_overwrite_disjoint _ (by omega), bytesAt_overwrite_disjoint _ (by omega)]

theorem drop_unforwarded (hm : mac.length = 6) (hc : check.length = 2) (h : 46 ≤ g.length) :
    (unforwarded mac check g).drop 46 = g.drop 46 := by
  rw [← bytesAt_eq_drop (f := unforwarded mac check g) (n := g.length) (by simp),
    ← bytesAt_eq_drop (f := g) (n := g.length) (by omega),
    bytesAt_unforwarded_rest hm hc h (.inr (.inr (Nat.le_refl _)))]

end

/-! ## There and back -/

section
variable {maps : BpfMaps} {mac check : List Byte} {f g : Frame}

/-- What a router sends. -/
theorem sendable_forwarded (h : verdict maps f = .tx) : Sendable maps (forwarded maps f) := by
  obtain ⟨h46, het, hp, ha⟩ := (verdict_eq_tx_iff maps f).1 h
  refine ⟨by simpa using h46, bytesAt_forwarded_dstMac maps h46, ?_, ?_, check_forwarded maps h46,
    ?_⟩
  · rwa [etherType, u16At_forwarded maps f (by omega)]
  · rwa [protocol_forwarded]
  · rwa [payload_forwarded maps h46]

/-- **Back.** -/
theorem unforwarded_forwarded (h : 46 ≤ f.length) :
    unforwarded (bytesAt f 6 6) (bytesAt f 24 2) (forwarded maps f) = f := by
  have hg : 46 ≤ (forwarded maps f).length := by simpa using h
  have hm : (bytesAt f 6 6).length = 6 := length_bytesAt (by omega)
  have hc : (bytesAt f 24 2).length = 2 := length_bytesAt (by omega)
  apply frame_ext
  · rw [bytesAt_unforwarded_dstMac hg, bytesAt_forwarded_srcMac maps h]
  · rw [bytesAt_unforwarded_srcMac hm hg]
  · rw [bytesAt_unforwarded_rest hm hc hg (by omega), bytesAt_forwarded_rest maps f (by omega)]
  · rw [bytesAt_unforwarded_check hc hg]
  · rw [bytesAt_unforwarded_src hg, bytesAt_forwarded_payload maps h]
  · rw [bytesAt_unforwarded_dst hg, bytesAt_forwarded_src maps h]
  · rw [bytesAt_unforwarded_rest hm hc hg (by omega), bytesAt_forwarded_rest maps f (by omega)]
  · rw [bytesAt_unforwarded_payload hg, bytesAt_forwarded_dst maps h]
  · rw [drop_unforwarded hm hc hg, drop_forwarded]

theorem verdict_unforwarded (h : Sendable maps g) (hm : mac.length = 6) (hc : check.length = 2) :
    verdict maps (unforwarded mac check g) = .tx := by
  refine (verdict_eq_tx_iff _ _).2 ⟨by simpa using h.length, ?_, ?_, ?_⟩
  · rw [etherType, u16At, bytesAt_unforwarded_rest hm hc h.length (by omega)]
    exact h.etherType
  · rw [protocol, byteAt, bytesAt_unforwarded_rest hm hc h.length (by omega)]
    exact h.protocol
  · rw [source, addrAt, bytesAt_unforwarded_src h.length]
    exact h.accepts

/-- **And there again**, whatever the sender and the check field. -/
theorem forwarded_unforwarded (h : Sendable maps g) (hm : mac.length = 6)
    (hc : check.length = 2) : forwarded maps (unforwarded mac check g) = g := by
  have hg := h.length
  have hu : 46 ≤ (unforwarded mac check g).length := by simpa using hg
  have e12 : bytesAt (forwarded maps (unforwarded mac check g)) 12 12 = bytesAt g 12 12 := by
    rw [bytesAt_forwarded_rest maps _ (by omega), bytesAt_unforwarded_rest hm hc hg (by omega)]
  have e14 : bytesAt (forwarded maps (unforwarded mac check g)) 14 10 = bytesAt g 14 10 := by
    rw [bytesAt_forwarded_rest maps _ (by omega), bytesAt_unforwarded_rest hm hc hg (by omega)]
  have e26 : bytesAt (forwarded maps (unforwarded mac check g)) 26 4 = bytesAt g 26 4 := by
    rw [bytesAt_forwarded_src maps hu, bytesAt_unforwarded_dst hg]
  have e30 : bytesAt (forwarded maps (unforwarded mac check g)) 30 4 = bytesAt g 30 4 := by
    rw [bytesAt_forwarded_dst maps hu, bytesAt_unforwarded_payload hg]
  refine frame_ext ?_ ?_ e12 ?_ e26 e30 ?_ ?_ ?_
  · rw [bytesAt_forwarded_dstMac maps hu, h.gateway]
  · rw [bytesAt_forwarded_srcMac maps hu, bytesAt_unforwarded_dstMac hg]
  · have hlen : (forwarded maps (unforwarded mac check g)).length = g.length := by simp
    refine beNat_inj ?_ ?_
    · rw [length_bytesAt (by omega), length_bytesAt (by omega)]
    · have hsum := headerChecksum_congr (by omega) (by omega) e14 e26 e30
      rw [← check_forwarded maps hu, ← h.check] at hsum
      exact hsum
  · rw [bytesAt_forwarded_rest maps _ (by omega), bytesAt_unforwarded_rest hm hc hg (by omega)]
  · rw [bytesAt_forwarded_payload maps hu, bytesAt_unforwarded_src hg]
  · rw [drop_forwarded, drop_unforwarded hm hc hg]

end

/-- **Forwarding inverted.** A router sends `g` for `f`, on any host, exactly when `g` is one of the
frames it can send and `f` is `g` rotated back, from any MAC address and with any check field. -/
theorem sends_iff (e : Endian) (cpu : Nat) (maps : BpfMaps) (f g : Frame) :
    (∃ c, udpRouter e ⟨cpu, f, maps⟩ = some (.tx, c) ∧ c.data = g) ↔
      Sendable maps g ∧ ∃ mac check : List Byte, mac.length = 6 ∧ check.length = 2 ∧
        f = unforwarded mac check g := by
  constructor
  · rintro ⟨c, hr, rfl⟩
    obtain ⟨hv, rfl⟩ := udpRouter_tx hr
    have h46 := length_of_tx hv
    refine ⟨sendable_forwarded hv, bytesAt f 6 6, bytesAt f 24 2, length_bytesAt (by omega),
      length_bytesAt (by omega), (unforwarded_forwarded h46).symm⟩
  · rintro ⟨hg, mac, check, hm, hc, rfl⟩
    exact ⟨_, udpRouter_of_tx e cpu (verdict_unforwarded hg hm hc), forwarded_unforwarded hg hm hc⟩

end Net
