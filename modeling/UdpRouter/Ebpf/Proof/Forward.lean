import UdpRouter.Ebpf.Proof.Run

/-!
# The forwarded frame

Field by field what `XDP_TX` sends, from the frame as it arrived: the gateway's MAC address, the
rotated addresses and payload word, an untouched rest (`bytesAt_forwarded_rest`) and a header
checksum that is the RFC 1071 checksum of the header sent (`ipChecksum_toNat`). From these: a frame
that carries a datagram is forwarded to one that carries the rotated datagram
(`isDatagram_forwarded`), and valid checksums stay valid (`checksumsValid_forwarded`).
-/

namespace Ebpf

open Bytes Wire OnesComplement

/-! ## Slices -/

section
variable (maps : BpfMaps) {f : Frame}

theorem bytesAt_rotated_disjoint (f : Frame) {a n : Nat}
    (h : 12 ≤ a ∧ a + n ≤ 26 ∨ 34 ≤ a ∧ a + n ≤ 42 ∨ 46 ≤ a) :
    bytesAt (rotated maps f) a n = bytesAt f a n := by
  have hl : ∀ o k, (bytesAt f o k).length ≤ k := fun o k => by simp [bytesAt]
  have h1 := hl 42 4
  have h2 := hl 30 4
  have h3 := hl 26 4
  have h4 := hl 0 6
  unfold rotated
  rw [bytesAt_overwrite_disjoint _ (by simp; omega), bytesAt_overwrite_disjoint _ (by omega),
    bytesAt_overwrite_disjoint _ (by omega), bytesAt_overwrite_disjoint _ (by omega),
    bytesAt_overwrite_disjoint _ (by omega)]

/-- **What forwarding leaves alone.** -/
theorem bytesAt_forwarded_rest (f : Frame) {a n : Nat}
    (h : 12 ≤ a ∧ a + n ≤ 24 ∨ 34 ≤ a ∧ a + n ≤ 42 ∨ 46 ≤ a) :
    bytesAt (forwarded maps f) a n = bytesAt f a n := by
  rw [forwarded, bytesAt_overwrite_disjoint _ (by simp; omega),
    bytesAt_rotated_disjoint maps f (by omega)]

theorem byteAt_forwarded (f : Frame) {a : Nat}
    (h : 12 ≤ a ∧ a + 1 ≤ 24 ∨ 34 ≤ a ∧ a + 1 ≤ 42 ∨ 46 ≤ a) :
    byteAt (forwarded maps f) a = byteAt f a := congrArg beNat (bytesAt_forwarded_rest maps f h)

theorem u16At_forwarded (f : Frame) {a : Nat}
    (h : 12 ≤ a ∧ a + 2 ≤ 24 ∨ 34 ≤ a ∧ a + 2 ≤ 42 ∨ 46 ≤ a) :
    u16At (forwarded maps f) a = u16At f a := congrArg beNat (bytesAt_forwarded_rest maps f h)

theorem portAt_forwarded (f : Frame) {a : Nat}
    (h : 12 ≤ a ∧ a + 2 ≤ 24 ∨ 34 ≤ a ∧ a + 2 ≤ 42 ∨ 46 ≤ a) :
    portAt (forwarded maps f) a = portAt f a :=
  congrArg (fromBeBytes 2) (bytesAt_forwarded_rest maps f h)

theorem bytesAt_forwarded_eq_rotated (f : Frame) {a n : Nat} (h : a + n ≤ 24 ∨ 26 ≤ a) :
    bytesAt (forwarded maps f) a n = bytesAt (rotated maps f) a n := by
  rw [forwarded, bytesAt_overwrite_disjoint _ (by simpa using h)]

theorem bytesAt_rotated_src (h : 46 ≤ f.length) :
    bytesAt (rotated maps f) 26 4 = bytesAt f 30 4 := by
  have h3 : (bytesAt f 26 4).length = 4 := length_bytesAt (by omega)
  have h4 : (bytesAt f 0 6).length = 6 := length_bytesAt (by omega)
  unfold rotated
  rw [bytesAt_overwrite_disjoint _ (by simp), bytesAt_overwrite_disjoint _ (by omega),
    bytesAt_overwrite_disjoint _ (by omega),
    bytesAt_overwrite_same (length_bytesAt (by omega)) (by simp; omega)]

theorem bytesAt_rotated_dst (h : 46 ≤ f.length) :
    bytesAt (rotated maps f) 30 4 = bytesAt f 42 4 := by
  have h2 : (bytesAt f 30 4).length = 4 := length_bytesAt (by omega)
  have h3 : (bytesAt f 26 4).length = 4 := length_bytesAt (by omega)
  have h4 : (bytesAt f 0 6).length = 6 := length_bytesAt (by omega)
  unfold rotated
  rw [bytesAt_overwrite_disjoint _ (by simp), bytesAt_overwrite_disjoint _ (by omega),
    bytesAt_overwrite_disjoint _ (by omega), bytesAt_overwrite_disjoint _ (by omega),
    bytesAt_overwrite_same (length_bytesAt (by omega)) (by omega)]

theorem bytesAt_rotated_payload (h : 46 ≤ f.length) :
    bytesAt (rotated maps f) 42 4 = bytesAt f 26 4 := by
  have h4 : (bytesAt f 0 6).length = 6 := length_bytesAt (by omega)
  unfold rotated
  rw [bytesAt_overwrite_disjoint _ (by simp), bytesAt_overwrite_disjoint _ (by omega),
    bytesAt_overwrite_same (length_bytesAt (by omega)) (by simp; omega)]

theorem bytesAt_forwarded_src (h : 46 ≤ f.length) :
    bytesAt (forwarded maps f) 26 4 = bytesAt f 30 4 := by
  rw [bytesAt_forwarded_eq_rotated maps f (by omega), bytesAt_rotated_src maps h]

theorem bytesAt_forwarded_dst (h : 46 ≤ f.length) :
    bytesAt (forwarded maps f) 30 4 = bytesAt f 42 4 := by
  rw [bytesAt_forwarded_eq_rotated maps f (by omega), bytesAt_rotated_dst maps h]

theorem bytesAt_forwarded_payload (h : 46 ≤ f.length) :
    bytesAt (forwarded maps f) 42 4 = bytesAt f 26 4 := by
  rw [bytesAt_forwarded_eq_rotated maps f (by omega), bytesAt_rotated_payload maps h]

theorem bytesAt_forwarded_dstMac (h : 46 ≤ f.length) :
    bytesAt (forwarded maps f) 0 6 = getGatewayMacAddress maps := by
  rw [bytesAt_forwarded_eq_rotated maps f (by omega), rotated,
    bytesAt_overwrite_same (by simp) (by simp; omega)]

theorem bytesAt_forwarded_srcMac (h : 46 ≤ f.length) :
    bytesAt (forwarded maps f) 6 6 = bytesAt f 0 6 := by
  have h4 : (bytesAt f 0 6).length = 6 := length_bytesAt (by omega)
  rw [bytesAt_forwarded_eq_rotated maps f (by omega), rotated,
    bytesAt_overwrite_disjoint _ (by simp), bytesAt_overwrite_same h4 (by simp; omega)]

/-- The addresses of the forwarded frame. -/
theorem source_forwarded (h : 46 ≤ f.length) : source (forwarded maps f) = destination f := by
  rw [source, addrAt, bytesAt_forwarded_src maps h]
  rfl

theorem destination_forwarded (h : 46 ≤ f.length) :
    destination (forwarded maps f) = addrAt f 42 := by
  rw [destination, addrAt, bytesAt_forwarded_dst maps h]
  rfl

theorem payload_forwarded (h : 46 ≤ f.length) : addrAt (forwarded maps f) 42 = source f := by
  rw [addrAt, bytesAt_forwarded_payload maps h]
  rfl

end

/-! ## The header checksum -/

/-- The accumulator after `k` rounds of the loop. -/
def accumulated (hdr : List Byte) (k : Nat) : BitVec 32 :=
  (List.range k).foldl (fun checksum i => checksum + (headerWord hdr i).setWidth 32) 0

/-- The accumulator without the existing checksum. -/
def withoutCheck (hdr : List Byte) : BitVec 32 :=
  accumulated hdr 10 - (headerWord hdr 5).setWidth 32

/-- One line that clears the overflow bits. -/
def clearOverflow (x : BitVec 32) : BitVec 32 := (x &&& 0xffff#32) + (x >>> 16)

theorem calculateIpChecksum_eq (e : Endian) (hdr : List Byte) : calculateIpChecksum e hdr =
    toBe e (n := 2) (~~~((clearOverflow (clearOverflow (withoutCheck hdr))).setWidth 16)) := rfl

theorem toNat_word (w : BitVec 16) : (w.setWidth 32).toNat = w.toNat := by
  rw [BitVec.toNat_setWidth, Nat.mod_eq_of_lt (by have := w.isLt; omega)]

/-- **The accumulation does not overflow** in the ten rounds. -/
theorem toNat_accumulated (hdr : List Byte) {k : Nat} (hk : k ≤ 10) : (accumulated hdr k).toNat =
      ((List.range k).map fun i => (headerWord hdr i).toNat).sum ∧
    (accumulated hdr k).toNat ≤ k * 65535 := by
  induction k with
  | zero => exact ⟨rfl, Nat.le_refl _⟩
  | succ k ih =>
    obtain ⟨hsum, hle⟩ := ih (by omega)
    have hw := (headerWord hdr k).isLt
    have hstep : accumulated hdr (k + 1) =
        accumulated hdr k + (headerWord hdr k).setWidth 32 := by
      rw [accumulated, List.range_succ, List.foldl_append]
      rfl
    have hnat : (accumulated hdr (k + 1)).toNat =
        (accumulated hdr k).toNat + (headerWord hdr k).toNat := by
      rw [hstep, BitVec.toNat_add, toNat_word, Nat.mod_eq_of_lt (by omega)]
    refine ⟨?_, by omega⟩
    rw [hnat, hsum, List.range_succ, List.map_append, List.sum_append, List.map_singleton,
      List.sum_singleton]

theorem toNat_clearOverflow (x : BitVec 32) : (clearOverflow x).toNat = foldCarry x.toNat := by
  have hand : (x &&& 0xffff#32).toNat = x.toNat % 65536 := by
    rw [BitVec.toNat_and]
    exact Nat.and_two_pow_sub_one_eq_mod x.toNat 16
  have hshr : (x >>> 16).toNat = x.toNat / 65536 := by
    rw [BitVec.toNat_ushiftRight, Nat.shiftRight_eq_div_pow]
  have hlt := x.isLt
  rw [clearOverflow, BitVec.toNat_add, hand, hshr, foldCarry, Nat.mod_eq_of_lt (by omega)]

/-- The words of a header around its check field. -/
def checkedWords (hdr : List Byte) : List Nat :=
  words (bytesAt hdr 0 10) ++ words (bytesAt hdr 12 8)

theorem checkedWords_lt (hdr : List Byte) : ∀ v ∈ checkedWords hdr, v < 65536 := by
  intro v hv
  rcases List.mem_append.1 hv with hv | hv
  · exact words_lt _ v hv
  · exact words_lt _ v hv

section
variable {hdr : List Byte}

theorem map_headerWord (h : hdr.length = 20) :
    ((List.range 10).map fun i => (headerWord hdr i).toNat) = words hdr := by
  rw [words_eq_map (k := 10) (by omega)]
  refine List.map_congr_left fun i hi => ?_
  have := List.mem_range.1 hi
  exact toNat_fromBeBytes (length_bytesAt (by omega))

/-- The check field between the other nine words. -/
theorem words_header (h : hdr.length = 20) : words hdr =
    words (bytesAt hdr 0 10) ++ beNat (bytesAt hdr 10 2) :: words (bytesAt hdr 12 8) := by
  have h2 := words_pair (length_bytesAt (f := hdr) (o := 10) (n := 2) (by omega))
  rw [List.append_cons, ← h2, List.append_assoc, ← words_bytesAt_add hdr (by omega) (by decide),
    ← words_bytesAt_add hdr (by omega) (by decide), bytesAt_zero, List.take_of_length_le (by omega)]

theorem sum_words_header (h : hdr.length = 20) :
    (words hdr).sum = (headerWord hdr 5).toNat + (checkedWords hdr).sum := by
  have hcheck : (headerWord hdr 5).toNat = beNat (bytesAt hdr 10 2) :=
    toNat_fromBeBytes (length_bytesAt (by omega))
  rw [words_header h, hcheck, checkedWords]
  simp only [List.sum_append, List.sum_cons]
  omega

/-- A zero check field does not count. -/
theorem checksum_clear (h : hdr.length = 20) :
    checksum (words (overwrite hdr 10 [0, 0])) = checksum (checkedWords hdr) := by
  have hlen : (overwrite hdr 10 [0, 0]).length = 20 := by rwa [length_overwrite]
  have hw := words_header hlen
  rw [bytesAt_overwrite_disjoint hdr (o := 10) (a := 0) (n := 10) (.inl (by decide)),
    bytesAt_overwrite_same (n := 2) rfl (by omega),
    bytesAt_overwrite_disjoint hdr (o := 10) (a := 12) (n := 8) (.inr (by decide))] at hw
  rw [checksum, checksum, sum_eq_norm (words_lt _), sum_eq_norm (checkedWords_lt hdr), hw,
    checkedWords]
  simp [beNat]

theorem toNat_accumulated_words (h : hdr.length = 20) :
    (accumulated hdr 10).toNat = (words hdr).sum := by
  rw [(toNat_accumulated hdr (Nat.le_refl _)).1, map_headerWord h]

/-- **The subtraction does not underflow.** -/
theorem toNat_withoutCheck (h : hdr.length = 20) :
    (withoutCheck hdr).toNat = (checkedWords hdr).sum := by
  have hacc := toNat_accumulated_words h
  have hsum := sum_words_header h
  have hle : (headerWord hdr 5).setWidth 32 ≤ accumulated hdr 10 := by
    rw [BitVec.le_def, toNat_word]
    omega
  rw [withoutCheck, BitVec.toNat_sub_of_le hle, toNat_word]
  omega

/-- **Two foldings suffice.** -/
theorem toNat_folded (h : hdr.length = 20) :
    (clearOverflow (clearOverflow (withoutCheck hdr))).toNat = sum (checkedWords hdr) := by
  have hlt := (withoutCheck hdr).isLt
  rw [toNat_withoutCheck h] at hlt
  rw [toNat_clearOverflow, toNat_clearOverflow, toNat_withoutCheck h, foldCarry_twice hlt,
    sum_eq_norm (checkedWords_lt hdr)]

theorem sum_checkedWords_lt (hdr : List Byte) : sum (checkedWords hdr) < 65536 := by
  rw [sum_eq_norm (checkedWords_lt hdr)]
  exact norm_lt _

/-- **`calculate_ip_checksum` is the RFC 1071 checksum** of the header without its check field. -/
theorem ipChecksum_toNat (h : hdr.length = 20) :
    (ipChecksum hdr).toNat = checksum (checkedWords hdr) := by
  have hlt := sum_checkedWords_lt hdr
  rw [ipChecksum, calculateIpChecksum_eq]
  show (~~~(BitVec.setWidth 16 _)).toNat = _
  rw [BitVec.toNat_not, BitVec.toNat_setWidth, toNat_folded h, Nat.mod_eq_of_lt hlt]
  rfl

end

section
variable (maps : BpfMaps) {f : Frame}

theorem checkedWords_bytesAt (g : Frame) : checkedWords (bytesAt g 14 20) =
    words (bytesAt g 14 10) ++ words (bytesAt g 26 8) := by
  rw [checkedWords, bytesAt_bytesAt _ (by decide), bytesAt_bytesAt _ (by decide)]

theorem checkedWords_rotated (f : Frame) : checkedWords (bytesAt (rotated maps f) 14 20) =
    checkedWords (bytesAt (forwarded maps f) 14 20) := by
  rw [checkedWords_bytesAt, checkedWords_bytesAt, bytesAt_forwarded_eq_rotated maps f (by omega),
    bytesAt_forwarded_eq_rotated maps f (by omega)]

theorem headerChecksum_eq {g : Frame} (h : 34 ≤ g.length) :
    headerChecksum g = checksum (checkedWords (bytesAt g 14 20)) :=
  checksum_clear (length_bytesAt (by omega))

/-- **The check field that is sent** is the checksum of the header that is sent. -/
theorem check_forwarded (h : 46 ≤ f.length) :
    u16At (forwarded maps f) 24 = headerChecksum (forwarded maps f) := by
  have hsum := ipChecksum_toNat (length_bytesAt (f := rotated maps f) (o := 14) (n := 20)
    (by simp; omega))
  rw [headerChecksum_eq (by simp; omega), ← checkedWords_rotated, ← hsum, u16At, forwarded,
    bytesAt_overwrite_same (length_toBeBytes _) (by simp; omega), beNat_toBeBytes]

/-- **The header that is sent verifies**, whatever arrived. -/
theorem sum_header_forwarded (h : 46 ≤ f.length) :
    sum (words (bytesAt (forwarded maps f) 14 20)) = 65535 := by
  have hlen : (forwarded maps f).length = f.length := length_forwarded maps f
  have hck := check_forwarded maps h
  rw [u16At, headerChecksum_eq (by omega), checkedWords] at hck
  rw [words_header (length_bytesAt (by omega)), bytesAt_bytesAt (a := 10) _ (by decide), hck]
  exact sum_checksum (checkedWords_lt _)

theorem ihl_forwarded (f : Frame) : ihl (forwarded maps f) = ihl f := by
  rw [ihl, byteAt_forwarded maps f (by omega), ihl]

theorem protocol_forwarded (f : Frame) : protocol (forwarded maps f) = protocol f := by
  rw [protocol, byteAt_forwarded maps f (by omega), protocol]

theorem ipChecksumValid_forwarded (h : 46 ≤ f.length) (hi : ihl f = 5) :
    IpChecksumValid (forwarded maps f) := by
  rw [IpChecksumValid, ipWords, ihl_forwarded, hi]
  exact sum_header_forwarded maps h

/-! ## The UDP checksum -/

theorem udpLength_forwarded (hi : ihl f = 5) :
    udpLength (forwarded maps f) = udpLength f := by
  simp only [udpLength, udpStart, ihl_forwarded, hi]
  exact u16At_forwarded maps f (by omega)

theorem udpCheck_forwarded (hi : ihl f = 5) : udpCheck (forwarded maps f) = udpCheck f := by
  simp only [udpCheck, udpStart, ihl_forwarded, hi]
  exact u16At_forwarded maps f (by omega)

/-- The words under the UDP checksum, with the payload's first four bytes apart. -/
theorem udpWords_split {g : Frame} (hi : ihl g = 5) (hl : 12 ≤ udpLength g)
    (hf : 34 + udpLength g ≤ g.length) :
    udpWords g = words (bytesAt g 26 4) ++ words (bytesAt g 30 4) ++ [protocol g, udpLength g] ++
      (words (bytesAt g 34 8) ++ (words (bytesAt g 42 4) ++
        words (bytesAt g 46 (udpLength g - 12)))) := by
  rw [udpWords, udpStart, hi]
  generalize udpLength g = n at hl hf ⊢
  obtain ⟨k, rfl⟩ : ∃ k, n = 8 + (4 + k) := ⟨n - 12, by omega⟩
  rw [show 14 + 4 * 5 = 34 by rfl, words_bytesAt_add g (by omega) (by decide),
    words_bytesAt_add g (by omega) (by decide), show 8 + (4 + k) - 12 = k by omega]

/-- **Forwarding permutes the words under the UDP checksum.** -/
theorem udpWords_forwarded (hi : ihl f = 5) (hl : 12 ≤ udpLength f)
    (hf : 34 + udpLength f ≤ f.length) : (udpWords (forwarded maps f)).Perm (udpWords f) := by
  have hn := udpLength_forwarded maps hi
  have h46 : 46 ≤ f.length := by omega
  rw [udpWords_split (by rwa [ihl_forwarded]) (by rwa [hn]) (by rwa [hn, length_forwarded]),
    udpWords_split hi hl hf, hn, bytesAt_forwarded_src maps h46, bytesAt_forwarded_dst maps h46,
    bytesAt_forwarded_payload maps h46, bytesAt_forwarded_rest maps f (by omega),
    bytesAt_forwarded_rest maps f (.inr (.inr (Nat.le_refl _))), protocol_forwarded]
  refine List.perm_iff_count.2 fun w => ?_
  simp only [List.count_append]
  omega

theorem beNat_lt_of_le {bs : List Byte} {n : Nat} (h : bs.length ≤ n) : beNat bs < 256 ^ n :=
  Nat.lt_of_lt_of_le (beNat_lt bs) (Nat.pow_le_pow_right (by decide) h)

theorem udpWords_lt (g : Frame) : ∀ w ∈ udpWords g, w < 65536 := by
  have hp : protocol g < 65536 := beNat_lt_of_le (n := 2) (by simp [bytesAt])
  have hn : udpLength g < 65536 := beNat_lt_of_le (n := 2) (by simp [bytesAt])
  intro w hw
  simp only [udpWords, List.mem_append, List.mem_cons, List.not_mem_nil, or_false] at hw
  rcases hw with ((hw | hw) | rfl | rfl) | hw
  · exact words_lt _ w hw
  · exact words_lt _ w hw
  · exact hp
  · exact hn
  · exact words_lt _ w hw

theorem sum_udpWords_forwarded (hi : ihl f = 5) (hl : 12 ≤ udpLength f)
    (hf : 34 + udpLength f ≤ f.length) :
    sum (udpWords (forwarded maps f)) = sum (udpWords f) :=
  sum_perm (udpWords_lt _) (udpWords_forwarded maps hi hl hf)

/-- Valid checksums stay valid where the header has no options and the datagram fits. -/
theorem checksumsValid_forwarded (hi : ihl f = 5) (hl : 12 ≤ udpLength f)
    (hf : 34 + udpLength f ≤ f.length) (hv : UdpChecksumValid f) :
    ChecksumsValid (forwarded maps f) where
  ip := ipChecksumValid_forwarded maps (by omega) hi
  udp := by
    rw [UdpChecksumValid, udpCheck_forwarded maps hi, sum_udpWords_forwarded maps hi hl hf]
    exact hv

/-! ## Datagrams -/

/-- **Forwarding rotates the datagram.** -/
theorem isDatagram_forwarded {d : Datagram} (h : IsDatagram f d) (h4 : 4 ≤ d.payload.length) :
    IsDatagram (forwarded maps f) d.rotate := by
  have hlen := h.length
  have h46 : 46 ≤ f.length := by omega
  have hpay : d.rotate.payload.length = d.payload.length := by
    simp only [Datagram.rotate, List.length_append, length_addrBytes, List.length_drop]
    omega
  have hdst : addrAt f 42 = addrAt d.payload 0 := by
    rw [addrAt, h.head h4, addrAt, bytesAt_zero]
  have hsplit : bytesAt (forwarded maps f) 42 d.payload.length =
      addrBytes d.src ++ d.payload.drop 4 := by
    obtain ⟨k, hk⟩ : ∃ k, d.payload.length = 4 + k := ⟨d.payload.length - 4, by omega⟩
    have hp := h.payload
    rw [hk, bytesAt_add] at hp
    rw [hk, bytesAt_add, bytesAt_forwarded_payload maps h46, bytesAt_addrAt (by omega),
      bytesAt_forwarded_rest maps f (.inr (.inr (Nat.le_refl _))), ← h.src, ← hp,
      List.drop_left' (length_bytesAt (by omega))]
    rfl
  exact {
    etherType := (u16At_forwarded maps f (by omega)).trans h.etherType
    version := by rw [version, byteAt_forwarded maps f (by omega)]; exact h.version
    ihl := (ihl_forwarded maps f).trans h.ihl
    moreFragments := by
      rw [moreFragments, u16At_forwarded maps f (by omega)]; exact h.moreFragments
    fragmentOffset := by
      rw [fragmentOffset, u16At_forwarded maps f (by omega)]; exact h.fragmentOffset
    protocol := (protocol_forwarded maps f).trans h.protocol
    fits := by
      rw [totalLength, u16At_forwarded maps f (by omega), length_forwarded]; exact h.fits
    totalLength := by
      rw [totalLength, u16At_forwarded maps f (by omega), hpay]; exact h.totalLength
    udpLength := by rw [u16At_forwarded maps f (by omega), hpay]; exact h.udpLength
    src := (source_forwarded maps h46).trans h.dst
    dst := (destination_forwarded maps h46).trans hdst
    srcPort := (portAt_forwarded maps f (by omega)).trans h.srcPort
    dstPort := (portAt_forwarded maps f (by omega)).trans h.dstPort
    payload := by rw [hpay, hsplit]; rfl }

/-- A datagram from an accepted source is forwarded. -/
theorem verdict_of_datagram {d : Datagram} (h : IsDatagram f d) (h4 : 4 ≤ d.payload.length)
    (ha : Accepts maps d.src) : verdict maps f = .tx := by
  have hlen := h.length
  exact (verdict_eq_tx_iff maps f).2 ⟨by omega, h.etherType, h.protocol, h.src ▸ ha⟩

/-- Valid checksums of a datagram's frame stay valid. -/
theorem checksumsValid_of_datagram {d : Datagram} (h : IsDatagram f d) (h4 : 4 ≤ d.payload.length)
    (hv : ChecksumsValid f) : ChecksumsValid (forwarded maps f) := by
  have hul : udpLength f = 8 + d.payload.length := by
    rw [udpLength, udpStart, h.ihl]
    exact h.udpLength
  have hlen := h.length
  exact checksumsValid_forwarded maps h.ihl (by omega) (by omega) hv.udp

end

end Ebpf
