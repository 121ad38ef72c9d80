import UdpRouter.Ebpf.Main
import UdpRouter.Net.Wire
import Mathlib.Data.BitVec

/-!
# What the program computes

`udpRouter_run`: on every frame the program ends without an access outside it, with the verdict
`verdict` and, on `XDP_TX`, the frame `forwarded`; any other verdict leaves the frame as it
arrived, and no verdict changes a map. The six checksum patches of a forwarded frame cancel
(`patchUdpChecksum_rotate`), so the UDP check field is written back unchanged.
-/

namespace Ebpf

open Bytes Wire Xdp

/-! ## The checksum patches -/

/-- The two halves of a four-byte field. -/
def upper (bs : List Byte) : BitVec 16 := fromBeBytes 2 (bytesAt bs 0 2)
def lower (bs : List Byte) : BitVec 16 := fromBeBytes 2 (bytesAt bs 2 2)

theorem patchUdpChecksum_load (e : Endian) (csum : BitVec 16) {old new : List Byte}
    (ho : old.length = 4) (hn : new.length = 4) :
    patchUdpChecksum e csum (load e 4 old) (load e 4 new) =
      ~~~(~~~csum - upper old + upper new - lower old + lower new) := by
  have hbo : toBeBytes (fromBe e (n := 4) (load e 4 old)) = old := by
    rw [fromBe_load e ho, toBeBytes_fromBeBytes ho]
  have hbn : toBeBytes (fromBe e (n := 4) (load e 4 new)) = new := by
    rw [fromBe_load e hn, toBeBytes_fromBeBytes hn]
  simp only [patchUdpChecksum, hbo, hbn, updateUdpChecksum, BitVec.not_not, upper, lower]

/-- **The patches cancel**: each field's old value is another field's new value. -/
theorem patchUdpChecksum_rotate (e : Endian) (csum : BitVec 16) {r s t : List Byte}
    (hr : r.length = 4) (hs : s.length = 4) (ht : t.length = 4) :
    patchUdpChecksum e (patchUdpChecksum e (patchUdpChecksum e csum (load e 4 r) (load e 4 t))
      (load e 4 s) (load e 4 r)) (load e 4 t) (load e 4 s) = csum := by
  rw [patchUdpChecksum_load e csum hr ht, patchUdpChecksum_load e _ hs hr,
    patchUdpChecksum_load e _ ht hs, BitVec.not_not, BitVec.not_not]
  have hz : ~~~csum - upper r + upper t - lower r + lower t - upper s + upper r - lower s +
      lower r - upper t + upper s - lower t + lower s = ~~~csum := by ring
  rw [hz, BitVec.not_not]

/-! ## The forwarded frame -/

/-- The header checksum as a number. -/
def ipChecksum (hdr : List Byte) : BitVec 16 := calculateIpChecksum .big hdr

theorem store_calculateIpChecksum (e : Endian) (hdr : List Byte) :
    store e (n := 2) (calculateIpChecksum e hdr) = toBeBytes (n := 2) (ipChecksum hdr) :=
  store_toBe e _

/-- The frame with its addresses and payload word rotated and its MAC addresses set. -/
def rotated (maps : BpfMaps) (f : Frame) : Frame :=
  overwrite (overwrite (overwrite (overwrite (overwrite f 30 (bytesAt f 42 4))
    26 (bytesAt f 30 4)) 42 (bytesAt f 26 4)) 6 (bytesAt f 0 6)) 0 (getGatewayMacAddress maps)

/-- What `XDP_TX` sends. -/
def forwarded (maps : BpfMaps) (f : Frame) : Frame :=
  overwrite (rotated maps f) 24 (toBeBytes (n := 2) (ipChecksum (bytesAt (rotated maps f) 14 20)))

@[simp] theorem length_getGatewayMacAddress (maps : BpfMaps) :
    (getGatewayMacAddress maps).length = 6 :=
  length_bytesAt (by rw [length_toBeBytes])

@[simp] theorem length_rotated (maps : BpfMaps) (f : Frame) :
    (rotated maps f).length = f.length := by
  simp [rotated]

@[simp] theorem length_forwarded (maps : BpfMaps) (f : Frame) :
    (forwarded maps f).length = f.length := by simp [forwarded]

theorem run_ptrAtMut {β : Type} {c : XdpContext} {len offset : Nat}
    (h : offset + len ≤ c.data.length) (k : Nat → Xdp β) :
    (ptrAtMut len offset >>= k) c = k offset c := by
  show andThen (ptrAtMut len offset) k c = _
  simp only [andThen, ptrAtMut, if_neg (Nat.not_lt.2 h)]

theorem run_ptrAtMut_err {β : Type} {c : XdpContext} {len offset : Nat}
    (h : c.data.length < offset + len) (k : Nat → Xdp β) :
    (ptrAtMut len offset >>= k) c = some (.error (), c) := by
  show andThen (ptrAtMut len offset) k c = _
  simp only [andThen, ptrAtMut, if_pos h]

theorem tryForwardPacket_short (e : Endian) {c : XdpContext} (h : 34 ≤ c.data.length)
    (hs : c.data.length < 46) : tryForwardPacket e c = some (.error (), c) := by
  unfold tryForwardPacket
  simp only [EthHdr.len, Ipv4Hdr.len, UdpHdr.len, Ipv4Hdr.dstAddr, Ipv4Hdr.srcAddr]
  rw [run_ptrAtMut (by omega), run_ptrAtMut (by omega)]
  by_cases hu : c.data.length < 42
  · rw [run_ptrAtMut_err (by omega)]
  · rw [run_ptrAtMut (by omega), run_readU32 (by omega), run_readU32 (by omega),
      run_ptrAtMut_err (by omega)]

/-- The forwarded frame still has the check field it arrived with. -/
theorem bytesAt_forwarded_udpCheck (maps : BpfMaps) (f : Frame) :
    bytesAt (forwarded maps f) 40 2 = bytesAt f 40 2 := by
  unfold forwarded rotated
  rw [bytesAt_overwrite_disjoint _ (by simp), bytesAt_overwrite_disjoint _ (by simp),
    bytesAt_overwrite_disjoint _ (by simp [bytesAt]; omega),
    bytesAt_overwrite_disjoint _ (by simp),
    bytesAt_overwrite_disjoint _ (by simp [bytesAt]; omega),
    bytesAt_overwrite_disjoint _ (by simp [bytesAt]; omega)]

theorem tryForwardPacket_tx (e : Endian) {cpu : Nat} {f : Frame} {maps : BpfMaps}
    (h : 46 ≤ f.length) :
    tryForwardPacket e ⟨cpu, f, maps⟩ = some (.ok .tx, ⟨cpu, forwarded maps f, maps⟩) := by
  have hr := length_bytesAt (f := f) (o := 30) (n := 4) (by omega)
  have hs := length_bytesAt (f := f) (o := 26) (n := 4) (by omega)
  have ht := length_bytesAt (f := f) (o := 42) (n := 4) (by omega)
  have hm := length_bytesAt (f := f) (o := 0) (n := 6) (by omega)
  have hu := length_bytesAt (f := f) (o := 40) (n := 2) (by omega)
  unfold tryForwardPacket
  simp only [EthHdr.len, Ipv4Hdr.len, UdpHdr.len, Ipv4Hdr.dstAddr, Ipv4Hdr.srcAddr,
    EthHdr.srcAddr, EthHdr.dstAddr, Ipv4Hdr.check, UdpHdr.check, Nat.reduceAdd]
  -- steps 1 and 2
  rw [run_ptrAtMut (by simp; omega), run_ptrAtMut (by simp; omega), run_ptrAtMut (by simp; omega),
    run_readU32 (by simp; omega), run_readU32 (by simp; omega), run_ptrAtMut (by simp; omega),
    run_readU32 (by simp; omega), run_readU16 (by simp; omega), run_readU32 (by simp; omega),
    run_writeU32 (by simp; omega), run_readU32 (by simp; omega),
    run_writeU32 (by simp; omega), run_writeU32 (by simp; omega)]
  simp only [store_load e hr, store_load e hs, store_load e ht,
    bytesAt_overwrite_disjoint f (o := 30) (a := 26) (n := 4) (.inl (by decide)),
    patchUdpChecksum_rotate e _ hr hs ht]
  -- steps 3 and 4
  rw [run_readBytes (by simp; omega), bytesAt_overwrite_disjoint _ (.inl (by decide)),
    bytesAt_overwrite_disjoint _ (.inl (by decide)),
    bytesAt_overwrite_disjoint _ (.inl (by decide)), run_writeBytes (by simp [hm]; omega),
    run_getMaps_bind, run_writeBytes (by simp; omega), run_readBytes (by simp; omega),
    run_writeU16 (by simp; omega), run_writeU16 (by simp; omega), run_pure]
  have hcheck : store e (n := 2) (toBe e (n := 2) (fromBe e (n := 2) (load e 2 (bytesAt f 40 2)))) =
      bytesAt (forwarded maps f) 40 2 := by
    rw [store_toBe, fromBe_load e hu, toBeBytes_fromBeBytes hu, bytesAt_forwarded_udpCheck]
  have hout := overwrite_bytesAt (forwarded maps f) 40 2
  rw [← hcheck] at hout
  simp only [store_calculateIpChecksum]
  exact congrArg (fun g => some (Except.ok XdpAction.tx, XdpContext.mk cpu g maps)) hout

/-! ## The verdict -/

/-- The verdict, by the order of the checks. -/
def verdict (maps : BpfMaps) (f : Frame) : XdpAction :=
  if f.length < 14 then .aborted
  else if etherType f ≠ 0x0800 then .pass
  else if f.length < 34 then .aborted
  else if protocol f ≠ 17 then .pass
  else if isLinkLocalIp (source f) || isFromLocalNetwork maps (source f) then .pass
  else if f.length < 46 then .aborted
  else .tx

/-- The frame after the program ran. -/
def output (maps : BpfMaps) (f : Frame) : Frame :=
  if verdict maps f = .tx then forwarded maps f else f

theorem etherType_iff (e : Endian) {f : Frame} (h : 14 ≤ f.length) :
    load e 2 (bytesAt f 12 2) = EtherType.ipv4 e ↔ etherType f = 0x0800 :=
  load_eq_toBe_iff e (length_bytesAt (by omega))

theorem proto_iff {f : Frame} (h : 34 ≤ f.length) :
    bytesAt f 23 1 = IpProto.udp ↔ protocol f = 17 :=
  ⟨fun hp => by rw [protocol, byteAt, hp]; rfl,
    fun hp => beNat_inj (length_bytesAt (by omega)) hp⟩

/-- **The program on a frame**: it never leaves the frame, its verdict is `verdict`, only `XDP_TX`
rewrites the frame, and no map changes. -/
theorem udpRouter_run (e : Endian) (cpu : Nat) (f : Frame) (maps : BpfMaps) :
    udpRouter e ⟨cpu, f, maps⟩ = some (verdict maps f, ⟨cpu, output maps f, maps⟩) := by
  unfold udpRouter output verdict tryUdpRouter
  simp only [EthHdr.len, Ipv4Hdr.len, Ipv4Hdr.srcAddr, Ipv4Hdr.proto, EthHdr.etherType]
  by_cases h14 : f.length < 14
  · rw [run_ptrAtMut_err (by simpa using h14)]
    simp [h14]
  rw [run_ptrAtMut (by simp; omega), run_readU16 (by simp; omega)]
  by_cases het : etherType f = 0x0800
  case neg =>
    have := (etherType_iff e (by omega)).not.2 het
    simp [h14, het, this]
  have hty := (etherType_iff e (by omega)).2 het
  by_cases h34 : f.length < 34
  · simp only [Nat.zero_add, hty, ne_eq, not_true_eq_false, ↓reduceIte]
    rw [run_ptrAtMut_err (by simp; omega)]
    simp [h14, het, h34]
  simp only [Nat.zero_add, hty, ne_eq, not_true_eq_false, ↓reduceIte]
  rw [run_ptrAtMut (by simp; omega), run_readBytes (by simp; omega)]
  by_cases hpr : protocol f = 17
  case neg =>
    have := (proto_iff (by omega)).not.2 hpr
    simp [h14, het, h34, hpr, this]
  have hud := (proto_iff (f := f) (by omega)).2 hpr
  simp only [Nat.reduceAdd, hud, not_true_eq_false, ↓reduceIte]
  rw [run_readU32 (by simp; omega), run_getMaps_bind,
    fromBe_load e (length_bytesAt (by simp; omega))]
  have hsource : fromBeBytes 4 (bytesAt f 26 4) = source f := rfl
  rw [hsource]
  by_cases hsrc : isLinkLocalIp (source f) || isFromLocalNetwork maps (source f)
  · simp [h14, het, h34, hpr, hsrc]
  simp only [hsrc, Bool.false_eq_true, ↓reduceIte]
  by_cases h46 : f.length < 46
  · rw [tryForwardPacket_short e (by simp; omega) (by simpa using h46)]
    simp [h14, het, h34, hpr, h46]
  · rw [tryForwardPacket_tx e (by omega)]
    simp [h14, het, h34, hpr, h46]

/-- The source filter lets frames from `a` through. -/
def Accepts (maps : BpfMaps) (a : Addr) : Prop :=
  isLinkLocalIp a = false ∧ isFromLocalNetwork maps a = false

instance (maps : BpfMaps) (a : Addr) : Decidable (Accepts maps a) :=
  inferInstanceAs (Decidable (_ ∧ _))

/-- **When a frame is forwarded.** -/
theorem verdict_eq_tx_iff (maps : BpfMaps) (f : Frame) : verdict maps f = .tx ↔
    46 ≤ f.length ∧ etherType f = 0x0800 ∧ protocol f = 17 ∧ Accepts maps (source f) := by
  refine ⟨fun h => ?_, fun h => ?_⟩
  · unfold verdict at h
    split_ifs at h with _ h2 _ h4 h5 h6
    exact ⟨by omega, not_not.1 h2, not_not.1 h4, by simpa [Accepts] using h5⟩
  · obtain ⟨hl, het, hp, hll, hloc⟩ := h
    rw [verdict, if_neg (by omega), if_neg (not_not.2 het), if_neg (by omega),
      if_neg (not_not.2 hp), if_neg (by simp [hll, hloc]), if_neg (by omega)]

theorem output_of_tx {maps : BpfMaps} {f : Frame} (h : verdict maps f = .tx) :
    output maps f = forwarded maps f := if_pos h

/-- A run that ends in `XDP_TX` sent the forwarded frame. -/
theorem udpRouter_tx {e : Endian} {cpu : Nat} {f : Frame} {maps : BpfMaps} {c : XdpContext}
    (h : udpRouter e ⟨cpu, f, maps⟩ = some (.tx, c)) :
    verdict maps f = .tx ∧ c = ⟨cpu, forwarded maps f, maps⟩ := by
  rw [udpRouter_run, Option.some.injEq, Prod.mk.injEq] at h
  obtain ⟨hv, rfl⟩ := h
  exact ⟨hv, by rw [output_of_tx hv]⟩

theorem length_of_tx {maps : BpfMaps} {f : Frame} (h : verdict maps f = .tx) : 46 ≤ f.length :=
  ((verdict_eq_tx_iff maps f).1 h).1

theorem udpRouter_of_tx (e : Endian) (cpu : Nat) {f : Frame} {maps : BpfMaps}
    (h : verdict maps f = .tx) :
    udpRouter e ⟨cpu, f, maps⟩ = some (.tx, ⟨cpu, forwarded maps f, maps⟩) := by
  rw [udpRouter_run, h, output_of_tx h]

/-- The maps as the README configures them, with 02:00:00:00:00:01 as the gateway: local network
10.0.2.0/24, backend network 10.0.3.0/24. -/
def readmeMaps : BpfMaps :=
  { BpfMaps.fresh 1 with
    localNetAndMask := Vector.replicate 1 0x0a000200ffffff00#64
    backendNetAndMask := Vector.replicate 1 0x0a000300ffffff00#64
    gatewayMacAddress := Vector.replicate 1 0x020000000001#64 }

/-- The request "hi!" from 10.0.1.10:40000 to the router 10.0.2.10:8888 for 10.0.3.10. -/
def exampleRequest : Frame :=
  [2, 0, 0, 0, 0, 1, 2, 0, 0, 0, 0, 2, 8, 0,
    69, 0, 0, 35, 0, 0, 64, 0, 64, 17, 35, 183, 10, 0, 1, 10, 10, 0, 2, 10,
    156, 64, 34, 184, 0, 15, 147, 80, 10, 0, 3, 10, 104, 105, 33]

end Ebpf
