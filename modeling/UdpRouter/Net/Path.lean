import UdpRouter.Ebpf.Proof.Rotation
import UdpRouter.Net.Hops
import Mathlib.Dynamics.PeriodicPts.Defs

/-!
# A frame along many routers

`Path f n g`: `n` routers, of any configuration and byte order, send the frame on one after the
other, and between them the network puts it under any Ethernet header. The packet that arrives is a
function of the one that left and of `n` modulo three (`path_rotates`).
-/

namespace Net

open Bytes Ebpf OnesComplement Wire

inductive Path (f : Frame) : Nat → Frame → Prop
  | start : Path f 0 f
  | hop {n cpu : Nat} {g g' : Frame} {e : Endian} {maps : BpfMaps} {c : XdpContext} :
      Path f n g → SamePacket g g' → udpRouter e ⟨cpu, g', maps⟩ = some (.tx, c) →
      Path f (n + 1) c.data

/-! ## The same packet -/

section
variable {f g : Frame}

theorem SamePacket.symm (h : SamePacket f g) : SamePacket g f := ⟨h.1.symm, h.2.symm⟩

theorem SamePacket.trans {h : Frame} (hfg : SamePacket f g) (hgh : SamePacket g h) :
    SamePacket f h := ⟨hfg.1.trans hgh.1, hfg.2.trans hgh.2⟩

theorem SamePacket.u16At (h : SamePacket f g) {o : Nat} (ho : 14 ≤ o) : u16At f o = u16At g o :=
  congrArg beNat (h.bytesAt ho)

theorem SamePacket.byteAt (h : SamePacket f g) {o : Nat} (ho : 14 ≤ o) : byteAt f o = byteAt g o :=
  congrArg beNat (h.bytesAt ho)

/-- Packets are the same when their fields are. -/
theorem samePacket_of_fields (hl : f.length = g.length) (h14 : bytesAt f 14 10 = bytesAt g 14 10)
    (h24 : bytesAt f 24 2 = bytesAt g 24 2) (h26 : bytesAt f 26 4 = bytesAt g 26 4)
    (h30 : bytesAt f 30 4 = bytesAt g 30 4) (h34 : bytesAt f 34 8 = bytesAt g 34 8)
    (h42 : bytesAt f 42 4 = bytesAt g 42 4) (h46 : f.drop 46 = g.drop 46) : SamePacket f g := by
  refine ⟨?_, hl⟩
  rw [drop_fields f, drop_fields g, h14, h24, h26, h30, h34, h42, h46]

theorem headerChecksum_congr (hf : 34 ≤ f.length) (hg : 34 ≤ g.length)
    (h14 : bytesAt f 14 10 = bytesAt g 14 10) (h26 : bytesAt f 26 4 = bytesAt g 26 4)
    (h30 : bytesAt f 30 4 = bytesAt g 30 4) : headerChecksum f = headerChecksum g := by
  have h8 : bytesAt f 26 8 = bytesAt g 26 8 := by
    rw [bytesAt_add f 26 4 4, bytesAt_add g 26 4 4, h26, h30]
  rw [headerChecksum_eq hf, headerChecksum_eq hg, checkedWords_bytesAt, checkedWords_bytesAt, h14,
    h8]

theorem drop_forwarded (m : BpfMaps) (f : Frame) : (forwarded m f).drop 46 = f.drop 46 := by
  rw [← bytesAt_eq_drop (f := forwarded m f) (n := f.length) (by simp),
    ← bytesAt_eq_drop (f := f) (n := f.length) (by omega),
    bytesAt_forwarded_rest m f (.inr (.inr (Nat.le_refl _)))]

/-- The packet of a forwarded frame, whoever forwards it and whatever its check field was. -/
theorem forwarded_congr (m m' : BpfMaps) (hf : 46 ≤ f.length) (hl : f.length = g.length)
    (h14 : bytesAt f 14 10 = bytesAt g 14 10) (h26 : bytesAt f 26 4 = bytesAt g 26 4)
    (h30 : bytesAt f 30 4 = bytesAt g 30 4) (h34 : bytesAt f 34 8 = bytesAt g 34 8)
    (h42 : bytesAt f 42 4 = bytesAt g 42 4) (h46 : f.drop 46 = g.drop 46) :
    SamePacket (forwarded m f) (forwarded m' g) := by
  have hg : 46 ≤ g.length := hl ▸ hf
  have e14 : bytesAt (forwarded m f) 14 10 = bytesAt (forwarded m' g) 14 10 := by
    rw [bytesAt_forwarded_rest m f (by omega), bytesAt_forwarded_rest m' g (by omega), h14]
  have e26 : bytesAt (forwarded m f) 26 4 = bytesAt (forwarded m' g) 26 4 := by
    rw [bytesAt_forwarded_src m hf, bytesAt_forwarded_src m' hg, h30]
  have e30 : bytesAt (forwarded m f) 30 4 = bytesAt (forwarded m' g) 30 4 := by
    rw [bytesAt_forwarded_dst m hf, bytesAt_forwarded_dst m' hg, h42]
  have e42 : bytesAt (forwarded m f) 42 4 = bytesAt (forwarded m' g) 42 4 := by
    rw [bytesAt_forwarded_payload m hf, bytesAt_forwarded_payload m' hg, h26]
  have hlen : (forwarded m f).length = (forwarded m' g).length := by simpa using hl
  refine samePacket_of_fields hlen e14 ?_ e26 e30 ?_ e42 ?_
  · have hsum := headerChecksum_congr (by simp; omega) (by simp; omega) e14 e26 e30
    rw [← check_forwarded m hf, ← check_forwarded m' hg] at hsum
    refine beNat_inj ?_ hsum
    rw [length_bytesAt (by simp; omega), length_bytesAt (by simp; omega)]
  · rw [bytesAt_forwarded_rest m f (by omega), bytesAt_forwarded_rest m' g (by omega), h34]
  · rw [drop_forwarded, drop_forwarded, h46]

theorem SamePacket.forwarded (h : SamePacket f g) (hf : 46 ≤ f.length) (m m' : BpfMaps) :
    SamePacket (forwarded m f) (forwarded m' g) := by
  have htail : f.drop 46 = g.drop 46 := by
    have := congrArg (List.drop 32) h.1
    simpa using this
  exact forwarded_congr m m' hf h.2 (h.bytesAt (by decide)) (h.bytesAt (by decide))
    (h.bytesAt (by decide)) (h.bytesAt (by decide)) (h.bytesAt (by decide)) htail

/-- A packet carries its datagram under any header that says IPv4. -/
theorem SamePacket.isDatagram (h : SamePacket f g) {d : Datagram} (hd : IsDatagram f d)
    (he : etherType g = 0x0800) : IsDatagram g d where
  etherType := he
  version := by rw [version, ← h.byteAt (by decide)]; exact hd.version
  ihl := by rw [ihl, ← h.byteAt (by decide)]; exact hd.ihl
  moreFragments := by rw [moreFragments, ← h.u16At (by decide)]; exact hd.moreFragments
  fragmentOffset := by rw [fragmentOffset, ← h.u16At (by decide)]; exact hd.fragmentOffset
  protocol := by rw [protocol, ← h.byteAt (by decide)]; exact hd.protocol
  fits := by rw [totalLength, ← h.u16At (by decide), ← h.2]; exact hd.fits
  totalLength := by rw [totalLength, ← h.u16At (by decide)]; exact hd.totalLength
  udpLength := by rw [← h.u16At (by decide)]; exact hd.udpLength
  src := by rw [source, addrAt, ← h.bytesAt (by decide)]; exact hd.src
  dst := by rw [destination, addrAt, ← h.bytesAt (by decide)]; exact hd.dst
  srcPort := by rw [portAt, ← h.bytesAt (by decide)]; exact hd.srcPort
  dstPort := by rw [portAt, ← h.bytesAt (by decide)]; exact hd.dstPort
  payload := by rw [← h.bytesAt (by decide)]; exact hd.payload

theorem SamePacket.checksumsValid (h : SamePacket f g) (hv : ChecksumsValid f) :
    ChecksumsValid g := by
  have hihl : ihl f = ihl g := by rw [ihl, h.byteAt (by decide), ihl]
  have hstart : udpStart f = udpStart g := by rw [udpStart, hihl, udpStart]
  have hge : 14 ≤ udpStart g := Nat.le_add_right _ _
  have hlen : udpLength f = udpLength g := by
    rw [udpLength, hstart, h.u16At (by omega), udpLength]
  refine ⟨?_, ?_⟩
  · have := hv.ip
    rwa [IpChecksumValid, ipWords, hihl, h.bytesAt (by decide)] at this
  · have := hv.udp
    rwa [UdpChecksumValid, udpCheck, udpWords, hlen, hstart, protocol, h.byteAt (by decide),
      h.u16At (by omega), h.bytesAt (by decide), h.bytesAt (by decide), h.bytesAt hge] at this

end

/-! ## Rotation again and again -/

theorem length_iterate_forwarded (m : BpfMaps) (f : Frame) (n : Nat) :
    ((forwarded m)^[n] f).length = f.length := by
  induction n with
  | zero => rfl
  | succ n ih => rw [Function.iterate_succ_apply', length_forwarded, ih]

/-- Once a frame has been forwarded, three more times make no difference to its packet. -/
theorem samePacket_iterate_add_three (m : BpfMaps) {f : Frame} (hf : 46 ≤ f.length) (n : Nat) :
    SamePacket ((forwarded m)^[n + 4] f) ((forwarded m)^[n + 1] f) := by
  have hlen : 46 ≤ ((forwarded m)^[n + 1] f).length := by rwa [length_iterate_forwarded]
  have hcheck : u16At ((forwarded m)^[n + 1] f) 24 = headerChecksum ((forwarded m)^[n + 1] f) := by
    rw [Function.iterate_succ_apply']
    exact check_forwarded m (by rwa [length_iterate_forwarded])
  rw [show n + 4 = n + 1 + 1 + 1 + 1 by rfl, Function.iterate_succ_apply' _ (n + 1 + 1 + 1),
    Function.iterate_succ_apply' _ (n + 1 + 1), Function.iterate_succ_apply' _ (n + 1)]
  exact ⟨drop_thrice m m m hlen hcheck, by simp⟩

theorem samePacket_iterate_mod (m : BpfMaps) {f : Frame} (hf : 46 ≤ f.length) (n : Nat) :
    SamePacket ((forwarded m)^[n + 1] f) ((forwarded m)^[n % 3 + 1] f) := by
  induction n using Nat.strongRecOn with
  | ind n ih =>
    by_cases hn : n < 3
    · rw [Nat.mod_eq_of_lt hn]
      exact ⟨rfl, rfl⟩
    · obtain ⟨k, rfl⟩ : ∃ k, n = k + 3 := ⟨n - 3, by omega⟩
      rw [Nat.add_mod_right]
      exact (samePacket_iterate_add_three m hf k).trans (ih k (by omega))

theorem rotate_rotate_rotate {d : Datagram} (h : 4 ≤ d.payload.length) :
    d.rotate.rotate.rotate = d := by
  obtain ⟨src, p, dst, q, payload⟩ := d
  have hp : payload = addrBytes (addrAt payload 0) ++ payload.drop 4 := by
    rw [← bytesAt_addrAt (by simpa using h), bytesAt_zero, List.take_append_drop]
  rw [hp, Datagram.rotate_mk, Datagram.rotate_mk, Datagram.rotate_mk]

theorem length_payload_rotate {d : Datagram} (h : 4 ≤ d.payload.length) :
    d.rotate.payload.length = d.payload.length := by
  simp only [Datagram.rotate, List.length_append, length_addrBytes, List.length_drop]
  omega

/-! ## Paths -/

section
variable {f g : Frame} {n : Nat}

/-- Only frames that reach the payload are sent on. -/
theorem Path.length (h : Path f n g) (hn : 0 < n) : 46 ≤ f.length ∧ g.length = f.length := by
  induction h with
  | start => omega
  | @hop n _ g g' _ _ _ hp hs hr ih =>
    obtain ⟨hv, rfl⟩ := udpRouter_tx hr
    have h46 := length_of_tx hv
    dsimp only
    rw [length_forwarded, ← hs.2]
    rw [← hs.2] at h46
    rcases Nat.eq_zero_or_pos n with hz | hz
    · cases hp with
      | start => exact ⟨h46, rfl⟩
      | hop _ _ _ => omega
    · exact ih hz

/-- The configurations on the path make no difference to the packet. -/
theorem Path.samePacket (h : Path f n g) (m : BpfMaps) : SamePacket g ((forwarded m)^[n] f) := by
  induction h with
  | start => exact ⟨rfl, rfl⟩
  | @hop n _ g g' _ maps _ hp hs hr ih =>
    obtain ⟨hv, rfl⟩ := udpRouter_tx hr
    rw [Function.iterate_succ_apply']
    exact (hs.symm.trans ih).forwarded (length_of_tx hv) maps m

/-- **One datagram along a path.** -/
theorem Path.isDatagram (h : Path f n g) {d : Datagram} (hd : IsDatagram f d)
    (h4 : 4 ≤ d.payload.length) : IsDatagram g (Datagram.rotate^[n] d) ∧
      4 ≤ (Datagram.rotate^[n] d).payload.length ∧ (ChecksumsValid f → ChecksumsValid g) := by
  induction h with
  | start => exact ⟨hd, h4, id⟩
  | @hop n _ g g' _ maps _ _ hs hr ih =>
    obtain ⟨ihd, ih4, ihv⟩ := ih
    obtain ⟨hv, rfl⟩ := udpRouter_tx hr
    have het := ((verdict_eq_tx_iff _ _).1 hv).2.1
    have hd' := hs.isDatagram ihd het
    rw [Function.iterate_succ_apply']
    refine ⟨isDatagram_forwarded maps hd' ih4, ?_, fun hvalid => ?_⟩
    · rwa [length_payload_rotate ih4]
    · exact checksumsValid_of_datagram maps hd' ih4 (hs.checksumsValid (ihv hvalid))

end

/-- **Along any path** of routers. The packet that arrives is that of one to three forwardings by
any router, the same for all paths whose lengths agree modulo three; a datagram of at least four
payload bytes arrives rotated that often, and with valid checksums if it left with them. -/
theorem path_rotates {f g : Frame} {n : Nat} (h : Path f n g) :
    (0 < n → ∀ m, SamePacket g ((forwarded m)^[(n - 1) % 3 + 1] f)) ∧
    (∀ d, IsDatagram f d → 4 ≤ d.payload.length →
      IsDatagram g (Datagram.rotate^[n % 3] d) ∧ (ChecksumsValid f → ChecksumsValid g)) := by
  refine ⟨fun hn m => ?_, fun d hd h4 => ?_⟩
  · obtain ⟨k, rfl⟩ : ∃ k, n = k + 1 := ⟨n - 1, by omega⟩
    exact (h.samePacket m).trans (samePacket_iterate_mod m (h.length hn).1 k)
  · obtain ⟨hg, -, hv⟩ := h.isDatagram hd h4
    have hperiod : Function.IsPeriodicPt Datagram.rotate 3 d := rotate_rotate_rotate h4
    rw [hperiod.iterate_mod_apply n]
    exact ⟨hg, hv⟩

/-- Four routers on 192.168.0.0/16 send the example request on. -/
theorem example_path : Path exampleRequest 4 ((forwarded foreignMaps)^[4] exampleRequest) := by
  have hhop : ∀ {n : Nat}, Path exampleRequest n ((forwarded foreignMaps)^[n] exampleRequest) →
      verdict foreignMaps ((forwarded foreignMaps)^[n] exampleRequest) = .tx →
      Path exampleRequest (n + 1) ((forwarded foreignMaps)^[n + 1] exampleRequest) := by
    intro n hp hv
    rw [Function.iterate_succ_apply']
    exact .hop hp ⟨rfl, rfl⟩ (udpRouter_of_tx .little 0 hv)
  exact hhop (hhop (hhop (hhop .start (by decide +kernel)) (by decide +kernel)) (by decide +kernel))
    (by decide +kernel)

theorem path_rotates_example :
    IsDatagram ((forwarded foreignMaps)^[4] exampleRequest)
      ⟨0x0a00020a, 40000, 0x0a00030a, 8888, [10, 0, 1, 10, 104, 105, 33]⟩ := by
  have hd : IsDatagram exampleRequest
      ⟨0x0a00010a, 40000, 0x0a00020a, 8888, [10, 0, 3, 10, 104, 105, 33]⟩ := by decide +kernel
  exact ((path_rotates example_path).2 _ hd (by decide)).1

end Net
