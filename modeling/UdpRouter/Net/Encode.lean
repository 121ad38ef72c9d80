import UdpRouter.Ebpf.Proof.Forward

/-!
# Frames for datagrams

A host's network stack puts a datagram into a frame of its own: `encode` is one way to do it, with
both checksums valid (`encode_isDatagram`, `encode_checksumsValid`).
-/

namespace Net

open Bytes Ebpf OnesComplement Wire

/-- The frame with a zero check field; a zero UDP checksum is none. -/
def unchecked (d : Datagram) : Frame :=
  [0, 0, 0, 0, 0, 0, 0, 0, 0, 0, 0, 0, 8, 0, 69, 0] ++ natBytes 2 (28 + d.payload.length) ++
    [0, 0, 0, 0, 64, 17, 0, 0] ++ addrBytes d.src ++ addrBytes d.dst ++
    toBeBytes (n := 2) d.srcPort ++ toBeBytes (n := 2) d.dstPort ++
    natBytes 2 (8 + d.payload.length) ++ [0, 0] ++ d.payload

def encode (d : Datagram) : Frame :=
  overwrite (unchecked d) 24 (natBytes 2 (headerChecksum (unchecked d)))

section
variable {d : Datagram}

theorem length_unchecked (d : Datagram) : (unchecked d).length = 42 + d.payload.length := by
  simp only [unchecked, List.length_append, length_natBytes, length_addrBytes, length_toBeBytes,
    List.length_cons, List.length_nil]

@[simp] theorem length_encode (d : Datagram) : (encode d).length = 42 + d.payload.length :=
  (length_overwrite _ _ _).trans (length_unchecked d)

/-- Only the check field depends on the rest. -/
theorem bytesAt_encode (d : Datagram) {o n : Nat} (h : o + n ≤ 24 ∨ 26 ≤ o) :
    bytesAt (encode d) o n = bytesAt (unchecked d) o n :=
  bytesAt_overwrite_disjoint _ (by rwa [length_natBytes])

theorem u16At_encode (d : Datagram) {o : Nat} (h : o + 2 ≤ 24 ∨ 26 ≤ o) :
    u16At (encode d) o = u16At (unchecked d) o := congrArg beNat (bytesAt_encode d h)

theorem byteAt_encode (d : Datagram) {o : Nat} (h : o + 1 ≤ 24 ∨ 26 ≤ o) :
    byteAt (encode d) o = byteAt (unchecked d) o := congrArg beNat (bytesAt_encode d h)

/-- Version and header length. -/
theorem byteAt_encode_first (d : Datagram) : byteAt (encode d) 14 = 69 := by
  have h : bytesAt (unchecked d) 14 1 = [69] := rfl
  rw [byteAt_encode d (by decide), byteAt, h]
  rfl

/-- Flags and fragment offset. -/
theorem u16At_encode_fragment (d : Datagram) : u16At (encode d) 20 = 0 := by
  have h : bytesAt (unchecked d) 20 2 = [0, 0] := rfl
  rw [u16At_encode d (by decide), u16At, h]
  rfl

theorem ihl_encode (d : Datagram) : ihl (encode d) = 5 := by
  rw [ihl, byteAt_encode_first]

theorem u16At_length {d : Datagram} {o k : Nat} (ho : o + 2 ≤ 24 ∨ 26 ≤ o)
    (h : bytesAt (unchecked d) o 2 = natBytes 2 (k + d.payload.length))
    (hk : k + d.payload.length < 65536) : u16At (encode d) o = k + d.payload.length := by
  rw [u16At_encode d ho, u16At, h]
  exact beNat_natBytes hk

/-- **The frame carries the datagram.** -/
theorem encode_isDatagram (h : d.payload.length ≤ 1472) : IsDatagram (encode d) d := by
  have htotal : totalLength (encode d) = 28 + d.payload.length :=
    u16At_length (by decide) rfl (by omega)
  exact {
    etherType := by rw [etherType, u16At_encode d (by decide)]; rfl
    version := by rw [version, byteAt_encode_first]
    ihl := ihl_encode d
    moreFragments := by rw [moreFragments, u16At_encode_fragment]; decide
    fragmentOffset := by rw [fragmentOffset, u16At_encode_fragment]; decide
    protocol := by rw [protocol, byteAt_encode d (by decide)]; rfl
    fits := by rw [htotal, length_encode]; omega
    totalLength := htotal
    udpLength := u16At_length (by decide) rfl (by omega)
    src := addrAt_of_bytes (bytesAt_encode d (by decide))
    dst := addrAt_of_bytes (bytesAt_encode d (by decide))
    srcPort := by rw [portAt, bytesAt_encode d (by decide)]; exact fromBeBytes_toBeBytes _
    dstPort := by rw [portAt, bytesAt_encode d (by decide)]; exact fromBeBytes_toBeBytes _
    payload := by
      rw [bytesAt_encode d (.inr (by decide)), bytesAt_eq_drop (by rw [length_unchecked])]
      rfl }

theorem headerChecksum_lt (f : Frame) : headerChecksum f < 65536 := by
  unfold headerChecksum checksum
  omega

/-- **Its checksums verify.** -/
theorem encode_checksumsValid (d : Datagram) : ChecksumsValid (encode d) := by
  have hlen := length_encode d
  have hlen' := length_unchecked d
  have hcheck : beNat (bytesAt (encode d) 24 2) = headerChecksum (unchecked d) := by
    rw [encode, bytesAt_overwrite_same (length_natBytes _ _) (by omega)]
    exact beNat_natBytes (headerChecksum_lt _)
  have hwords : checkedWords (bytesAt (encode d) 14 20) =
      checkedWords (bytesAt (unchecked d) 14 20) := by
    rw [checkedWords_bytesAt, checkedWords_bytesAt, bytesAt_encode d (by decide),
      bytesAt_encode d (by decide)]
  refine ⟨?_, .inl ?_⟩
  · have hsum : sum (words (bytesAt (encode d) 14 20)) = 65535 := by
      rw [headerChecksum_eq (by omega), ← hwords, checkedWords] at hcheck
      rw [words_header (length_bytesAt (by omega)), bytesAt_bytesAt (a := 10) _ (by decide), hcheck]
      exact sum_checksum (checkedWords_lt _)
    rw [IpChecksumValid, ipWords, ihl_encode]
    exact hsum
  · rw [udpCheck, udpStart, ihl_encode, u16At_encode d (by decide)]
    rfl

end

end Net
