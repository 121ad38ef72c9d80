import UdpRouter.Ebpf.Proof.Forward

/-!
# The two checksums of a forwarded frame

The UDP check field: six patches that cancel, over words that forwarding permutes
(`udp_checksum`). The header check field: computed afresh over the rewritten header, in an
accumulator that neither overflows nor loses a carry (`header_checksum`).
-/

namespace Ebpf

open Bytes Wire OnesComplement

/-! ## The UDP checksum -/

section
variable {e : Endian} {cpu : Nat} {maps : BpfMaps} {f : Frame} {c : XdpContext}

/-- **The UDP checksum survives forwarding.** The patches leave the check field as it arrived; and
where the header has no options and the datagram fits the frame, the sum that a receiver checks is
the same as before, so that a valid checksum stays valid, an invalid one invalid and a zero field
zero. -/
theorem udp_checksum (h : udpRouter e ⟨cpu, f, maps⟩ = some (.tx, c)) :
    (∀ csum, patchUdpChecksum e (patchUdpChecksum e (patchUdpChecksum e csum
        (load e 4 (bytesAt f 30 4)) (load e 4 (bytesAt f 42 4)))
        (load e 4 (bytesAt f 26 4)) (load e 4 (bytesAt f 30 4)))
        (load e 4 (bytesAt f 42 4)) (load e 4 (bytesAt f 26 4)) = csum) ∧
    bytesAt c.data 40 2 = bytesAt f 40 2 ∧
    (ihl f = 5 → 12 ≤ udpLength f → 34 + udpLength f ≤ f.length →
      sum (udpWords c.data) = sum (udpWords f) ∧
      (UdpChecksumValid c.data ↔ UdpChecksumValid f) ∧ udpCheck c.data = udpCheck f) := by
  obtain ⟨hv, rfl⟩ := udpRouter_tx h
  have h46 := length_of_tx hv
  refine ⟨fun csum => ?_, bytesAt_forwarded_udpCheck maps f, fun hi hl hf => ?_⟩
  · exact patchUdpChecksum_rotate e csum (length_bytesAt (by omega)) (length_bytesAt (by omega))
      (length_bytesAt (by omega))
  · have hs := sum_udpWords_forwarded maps hi hl hf
    have hc := udpCheck_forwarded maps hi
    refine ⟨hs, ?_, hc⟩
    rw [UdpChecksumValid, UdpChecksumValid, hs, hc]

theorem udp_checksum_example :
    UdpChecksumValid (forwarded readmeMaps exampleRequest) := by
  have htx : verdict readmeMaps exampleRequest = .tx := by decide +kernel
  have h := udp_checksum (udpRouter_of_tx .little 0 htx)
  exact (h.2.2 (by decide +kernel) (by decide +kernel) (by decide +kernel)).2.1.2
    (by decide +kernel)

end

/-! ## The header checksum -/

/-- **The header checksum of a forwarded frame.** Whatever arrived, the ten words that are sent sum
to all ones, and the check field is the checksum of the header that is sent. The computation itself
is exact on any 20 bytes: no round of the accumulation overflows, the old check field is not larger
than the sum it is taken from, two foldings leave 16 bits, and what is stored is in network order
on either host. -/
theorem header_checksum (e : Endian) :
    (∀ cpu maps f c, udpRouter e ⟨cpu, f, maps⟩ = some (.tx, c) →
      sum (words (bytesAt c.data 14 20)) = 0xffff ∧ u16At c.data 24 = headerChecksum c.data) ∧
    (∀ hdr, hdr.length = 20 →
      (∀ k ≤ 10, (accumulated hdr k).toNat =
        ((List.range k).map fun i => (headerWord hdr i).toNat).sum) ∧
      (headerWord hdr 5).toNat ≤ (accumulated hdr 10).toNat ∧
      (clearOverflow (clearOverflow (withoutCheck hdr))).toNat < 65536 ∧
      calculateIpChecksum e hdr =
        toBe e (n := 2) (~~~((clearOverflow (clearOverflow (withoutCheck hdr))).setWidth 16)) ∧
      store e (n := 2) (calculateIpChecksum e hdr) =
        natBytes 2 (checksum (words (overwrite hdr 10 [0, 0])))) := by
  refine ⟨fun cpu maps f c h => ?_, fun hdr h => ⟨fun k hk => (toNat_accumulated hdr hk).1, ?_, ?_,
    calculateIpChecksum_eq e hdr, ?_⟩⟩
  · obtain ⟨hv, rfl⟩ := udpRouter_tx h
    have h46 := length_of_tx hv
    exact ⟨sum_header_forwarded maps h46, check_forwarded maps h46⟩
  · rw [toNat_accumulated_words h, sum_words_header h]
    exact Nat.le_add_right _ _
  · rw [toNat_folded h]
    exact sum_checkedWords_lt hdr
  · rw [store_calculateIpChecksum, toBeBytes, ipChecksum_toNat h, checksum_clear h]

end Ebpf
