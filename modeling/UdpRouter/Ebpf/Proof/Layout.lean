import UdpRouter.Ebpf.Proof.Forward
import UdpRouter.Ebpf.Proof.Verdict

/-!
# Where the rewritten fields really are

The program takes the UDP header and the payload at fixed offsets and checks the frame's length
only. `layout_iff`: for which frames and for which configurations what is sent is rewritten in
place. Three kinds of frames pass the checks with other fields in the rewritten places, whatever
source is accepted: a header with options, a datagram shorter than the padded frame, a later
fragment.
-/

namespace Ebpf

open Bytes Wire OnesComplement

/-- One of the program's checks stops the frame. -/
def Stopped (maps : BpfMaps) (f : Frame) : Prop :=
  f.length < 46 ∨ etherType f ≠ 0x0800 ∨ protocol f ≠ 17 ∨
    isLinkLocalIp (source f) = true ∨ isFromLocalNetwork maps (source f) = true

/-- The checks are all that stops a frame. -/
theorem stopped_iff (maps : BpfMaps) (f : Frame) : Stopped maps f ↔ verdict maps f ≠ .tx := by
  have hb : ∀ b : Bool, b = true ↔ ¬ b = false := by decide
  rw [Ne, verdict_eq_tx_iff, Stopped, Accepts, hb, hb]
  constructor
  · rintro (h | h | h | h | h) ⟨hl, het, hp, hll, hloc⟩
    · omega
    · exact h het
    · exact h hp
    · exact h hll
    · exact h hloc
  · intro h
    by_contra hn
    simp only [not_or, Nat.not_lt, not_not] at hn
    exact h ⟨hn.1, hn.2.1, hn.2.2.1, hn.2.2.2.1, hn.2.2.2.2⟩

/-- With the layout the program assumes, valid checksums stay valid. -/
theorem checksumsValid_of_layoutOk {maps : BpfMaps} {f : Frame} (h : LayoutOk f)
    (hv : ChecksumsValid f) : ChecksumsValid (forwarded maps f) := by
  have h1 := h.fits
  have h2 := h.udpFits
  exact checksumsValid_forwarded maps h.ihl h.udpLength (by omega) hv.udp

/-- One frame. -/
theorem frame_layout_iff (e : Endian) (cpu : Nat) (maps : BpfMaps) (f : Frame) :
    (∀ c, udpRouter e ⟨cpu, f, maps⟩ = some (.tx, c) →
      LayoutOk f ∧ (ChecksumsValid f → ChecksumsValid c.data)) ↔
    Stopped maps f ∨ LayoutOk f := by
  constructor
  · intro h
    by_cases hs : Stopped maps f
    · exact .inl hs
    · have hv : verdict maps f = .tx := not_not.1 ((stopped_iff maps f).not.1 hs)
      exact .inr (h _ (udpRouter_of_tx e cpu hv)).1
  · rintro h c hc
    obtain ⟨hv, rfl⟩ := udpRouter_tx hc
    rcases h with hs | hl
    · exact absurd hv ((stopped_iff maps f).1 hs)
    · exact ⟨hl, checksumsValid_of_layoutOk hl⟩

/-! ## Frames that the layout does not fit -/

/-- A whole datagram behind a header with options. -/
structure HasOptions (f : Frame) : Prop where
  version : version f = 4
  ihl : 5 < ihl f
  fragmentOffset : fragmentOffset f = 0
  totalLength : Wire.totalLength f = 4 * Wire.ihl f + udpLength f
  fits : 14 + Wire.totalLength f ≤ f.length

/-- A whole datagram of less than four bytes, padded by Ethernet. -/
structure ShortPadded (f : Frame) : Prop where
  version : version f = 4
  ihl : ihl f = 5
  fragmentOffset : fragmentOffset f = 0
  totalLength : Wire.totalLength f = 20 + udpLength f
  udpLength : 8 ≤ udpLength f ∧ udpLength f < 12
  padded : 14 + Wire.totalLength f < f.length

/-- A fragment other than the first. -/
structure LaterFragment (f : Frame) : Prop where
  version : version f = 4
  ihl : ihl f = 5
  fragmentOffset : 0 < fragmentOffset f
  fits : 14 + totalLength f ≤ f.length

/-- **Options make the header sent verify only by chance**: the checksum covers them, the program's
does not. -/
theorem ipChecksumValid_forwarded_iff (maps : BpfMaps) {f : Frame} (h : 46 ≤ f.length)
    (h5 : 5 ≤ ihl f) (h7 : ihl f ≤ 7) : IpChecksumValid (forwarded maps f) ↔
      (words (bytesAt f 34 (4 * (ihl f - 5)))).sum % 65535 = 0 := by
  have hlen : (forwarded maps f).length = f.length := length_forwarded maps f
  have hfirst := (sum_eq_max_iff (words_lt _)).1 (sum_header_forwarded maps h)
  rw [IpChecksumValid, ipWords, ihl_forwarded]
  generalize ihl f = n at h5 h7 ⊢
  obtain ⟨k, rfl⟩ := Nat.exists_eq_add_of_le h5
  have hopt : bytesAt (forwarded maps f) (14 + 20) (4 * k) = bytesAt f 34 (4 * k) :=
    bytesAt_forwarded_rest maps f (by omega)
  have hsplit : words (bytesAt (forwarded maps f) 14 (20 + 4 * k)) =
      words (bytesAt (forwarded maps f) 14 20) ++ words (bytesAt f 34 (4 * k)) := by
    rw [words_bytesAt_add _ (by omega) (by decide), hopt]
  rw [show 4 * (5 + k) = 20 + 4 * k by omega, show 5 + k - 5 = k by omega,
    sum_eq_max_iff (words_lt _), hsplit, List.sum_append]
  omega

/-! ### One of each kind from any source

The destination is the complement of the source, so that their words sum to a constant. -/

section
variable (b₀ b₁ b₂ b₃ : Byte)

/-- Four bytes of options; the sender computed no UDP checksum. -/
def optionsProbe : Frame :=
  [0, 0, 0, 0, 0, 0, 0, 0, 0, 0, 0, 0, 8, 0,
    70, 0, 0, 36, 0, 0, 0, 0, 64, 17, 0x77, 0xc9, b₀, b₁, b₂, b₃,
    ~~~b₀, ~~~b₁, ~~~b₂, ~~~b₃, 1, 1, 1, 0, 0, 0, 0, 0, 0, 12, 0, 0, 0, 0, 0, 0]

/-- Two bytes of data; the padding differs from the end of the source in one bit. -/
def paddedProbe : Frame :=
  [0, 0, 0, 0, 0, 0, 0, 0, 0, 0, 0, 0, 8, 0,
    69, 0, 0, 30, 0, 0, 0, 0, 64, 17, 0x7a, 0xd0, b₀, b₁, b₂, b₃,
    ~~~b₀, ~~~b₁, ~~~b₂, ~~~b₃, 0, 0, 0, 0, 0, 10, 0xff, 0xda, 0, 0, b₂, b₃ ^^^ 1#8]

/-- The second eight bytes of a datagram, and four more. -/
def fragmentProbe : Frame :=
  [0, 0, 0, 0, 0, 0, 0, 0, 0, 0, 0, 0, 8, 0,
    69, 0, 0, 32, 0, 0, 0, 1, 64, 17, 0x7a, 0xcd, b₀, b₁, b₂, b₃,
    ~~~b₀, ~~~b₁, ~~~b₂, ~~~b₃, 0, 0, 0, 0, 0, 0, 0, 0, 0, 0, 0, 0]

theorem beNat_pair (a b : Byte) : beNat [a, b] = a.toNat * 256 + b.toNat := by simp [beNat]

theorem beNat_add_not : beNat [b₀, b₁] + beNat [~~~b₀, ~~~b₁] = 65535 := by
  have h0 := b₀.isLt
  have h1 := b₁.isLt
  rw [beNat_pair, beNat_pair, BitVec.toNat_not, BitVec.toNat_not]
  omega

theorem ihl_optionsProbe : ihl (optionsProbe b₀ b₁ b₂ b₃) = 6 := by
  rw [ihl, show byteAt (optionsProbe b₀ b₁ b₂ b₃) 14 = 70 from rfl]

theorem ihl_paddedProbe : ihl (paddedProbe b₀ b₁ b₂ b₃) = 5 := by
  rw [ihl, show byteAt (paddedProbe b₀ b₁ b₂ b₃) 14 = 69 from rfl]

theorem udpLength_optionsProbe : udpLength (optionsProbe b₀ b₁ b₂ b₃) = 12 := by
  rw [udpLength, udpStart, ihl_optionsProbe]
  rfl

theorem udpLength_paddedProbe : udpLength (paddedProbe b₀ b₁ b₂ b₃) = 10 := by
  rw [udpLength, udpStart, ihl_paddedProbe]
  rfl

theorem hasOptions_optionsProbe : HasOptions (optionsProbe b₀ b₁ b₂ b₃) where
  version := by rw [version, show byteAt (optionsProbe b₀ b₁ b₂ b₃) 14 = 70 from rfl]
  ihl := by rw [ihl_optionsProbe]; decide
  fragmentOffset := by
    rw [fragmentOffset, show u16At (optionsProbe b₀ b₁ b₂ b₃) 20 = 0 from rfl, Nat.zero_mod]
  totalLength := by rw [ihl_optionsProbe, udpLength_optionsProbe]; rfl
  fits := Nat.le_refl 50

theorem shortPadded_paddedProbe : ShortPadded (paddedProbe b₀ b₁ b₂ b₃) where
  version := by rw [version, show byteAt (paddedProbe b₀ b₁ b₂ b₃) 14 = 69 from rfl]
  ihl := ihl_paddedProbe b₀ b₁ b₂ b₃
  fragmentOffset := by
    rw [fragmentOffset, show u16At (paddedProbe b₀ b₁ b₂ b₃) 20 = 0 from rfl, Nat.zero_mod]
  totalLength := by rw [udpLength_paddedProbe]; rfl
  udpLength := by rw [udpLength_paddedProbe]; decide
  padded := show 14 + 30 < 46 by decide

theorem laterFragment_fragmentProbe : LaterFragment (fragmentProbe b₀ b₁ b₂ b₃) where
  version := by rw [version, show byteAt (fragmentProbe b₀ b₁ b₂ b₃) 14 = 69 from rfl]
  ihl := by rw [ihl, show byteAt (fragmentProbe b₀ b₁ b₂ b₃) 14 = 69 from rfl]
  fragmentOffset := by
    rw [fragmentOffset, show u16At (fragmentProbe b₀ b₁ b₂ b₃) 20 = 1 from rfl]
    decide
  fits := Nat.le_refl 46

theorem checksumsValid_optionsProbe : ChecksumsValid (optionsProbe b₀ b₁ b₂ b₃) := by
  have hw : words (bytesAt (optionsProbe b₀ b₁ b₂ b₃) 14 24) = [0x4600, 36, 0, 0, 0x4011, 0x77c9,
      beNat [b₀, b₁], beNat [b₂, b₃], beNat [~~~b₀, ~~~b₁], beNat [~~~b₂, ~~~b₃],
      0x0101, 0x0100] := rfl
  have h01 := beNat_add_not b₀ b₁
  have h23 := beNat_add_not b₂ b₃
  refine ⟨?_, .inl ?_⟩
  · rw [IpChecksumValid, ipWords, ihl_optionsProbe, sum_eq_max_iff (words_lt _), hw]
    simp only [List.sum_cons, List.sum_nil]
    omega
  · rw [udpCheck, udpStart, ihl_optionsProbe]
    rfl

theorem checksumsValid_paddedProbe : ChecksumsValid (paddedProbe b₀ b₁ b₂ b₃) := by
  have hw : words (bytesAt (paddedProbe b₀ b₁ b₂ b₃) 14 20) = [0x4500, 30, 0, 0, 0x4011, 0x7ad0,
      beNat [b₀, b₁], beNat [b₂, b₃], beNat [~~~b₀, ~~~b₁], beNat [~~~b₂, ~~~b₃]] := rfl
  have hu : udpWords (paddedProbe b₀ b₁ b₂ b₃) = [beNat [b₀, b₁], beNat [b₂, b₃],
      beNat [~~~b₀, ~~~b₁], beNat [~~~b₂, ~~~b₃]] ++ [17, 10, 0, 0, 10, 0xffda, 0] := by
    rw [udpWords, udpStart, ihl_paddedProbe, udpLength_paddedProbe]
    rfl
  -- the constant words, apart from the address's
  have hc : [17, 10, 0, 0, 10, 0xffda, 0].sum = 65535 := by decide
  have h01 := beNat_add_not b₀ b₁
  have h23 := beNat_add_not b₂ b₃
  refine ⟨?_, .inr ?_⟩
  · rw [IpChecksumValid, ipWords, ihl_paddedProbe, sum_eq_max_iff (words_lt _), hw]
    simp only [List.sum_cons, List.sum_nil]
    omega
  · rw [sum_eq_max_iff (udpWords_lt _), hu, List.sum_append, hc]
    simp only [List.sum_cons, List.sum_nil]
    omega

/-- What is sent of the frame with options: the header without them verifies, they do not sum to
zero. -/
theorem not_ipChecksumValid_optionsProbe (maps : BpfMaps) :
    ¬ IpChecksumValid (forwarded maps (optionsProbe b₀ b₁ b₂ b₃)) := by
  have hi := ihl_optionsProbe b₀ b₁ b₂ b₃
  have h46 : 46 ≤ (optionsProbe b₀ b₁ b₂ b₃).length := show 46 ≤ 50 by decide
  rw [ipChecksumValid_forwarded_iff maps h46 (by omega) (by omega), hi]
  exact show ¬ (0x0101 + (0x0100 + 0)) % 65535 = 0 by decide

theorem toNat_xor_one : ∀ b : Byte,
    (b ^^^ 1#8).toNat = b.toNat + 1 ∨ (b ^^^ 1#8).toNat + 1 = b.toNat := by
  decide +kernel

/-- What is sent of the padded frame: the padding has come into the destination, the end of the
source has gone into the padding. -/
theorem not_udpChecksumValid_paddedProbe (maps : BpfMaps) :
    ¬ UdpChecksumValid (forwarded maps (paddedProbe b₀ b₁ b₂ b₃)) := by
  have hi := ihl_paddedProbe b₀ b₁ b₂ b₃
  have hn := udpLength_paddedProbe b₀ b₁ b₂ b₃
  have h46 : 46 ≤ (paddedProbe b₀ b₁ b₂ b₃).length := show 46 ≤ 46 by decide
  have hpay : bytesAt (forwarded maps (paddedProbe b₀ b₁ b₂ b₃)) 42 2 = [b₀, b₁] := by
    rw [← bytesAt_bytesAt (m := 4) (a := 0) _ (by decide), bytesAt_forwarded_payload maps h46]
    rfl
  have hdata : words (bytesAt (forwarded maps (paddedProbe b₀ b₁ b₂ b₃)) 34 (8 + 2)) =
      [0, 0, 10, 0xffda] ++ [beNat [b₀, b₁]] := by
    rw [words_bytesAt_add _ (by rw [length_forwarded]; omega) (by decide), hpay,
      bytesAt_forwarded_rest maps _ (by omega)]
    rfl
  have hu : udpWords (forwarded maps (paddedProbe b₀ b₁ b₂ b₃)) = [beNat [~~~b₀, ~~~b₁],
      beNat [~~~b₂, ~~~b₃], 0, beNat [b₂, b₃ ^^^ 1#8], 17, 10, 0, 0, 10, 0xffda,
      beNat [b₀, b₁]] := by
    rw [udpWords, udpStart, ihl_forwarded, hi, udpLength_forwarded maps hi, hn, protocol_forwarded,
      bytesAt_forwarded_src maps h46, bytesAt_forwarded_dst maps h46, hdata]
    rfl
  have h01 := beNat_add_not b₀ b₁
  have h23 := beNat_add_not b₂ b₃
  have hx := toNat_xor_one b₃
  have hp := beNat_pair b₂ b₃
  have hp' := beNat_pair b₂ (b₃ ^^^ 1#8)
  rintro (hz | hs)
  · rw [udpCheck_forwarded maps hi, udpCheck, udpStart, hi,
      show u16At (paddedProbe b₀ b₁ b₂ b₃) (14 + 4 * 5 + 6) = beNat [0xff, 0xda] from rfl] at hz
    exact absurd hz (by decide)
  · rw [sum_eq_max_iff (udpWords_lt _), hu] at hs
    simp only [List.sum_cons, List.sum_nil] at hs
    omega

end

theorem exists_addrBytes (a : Addr) : ∃ b₀ b₁ b₂ b₃, addrBytes a = [b₀, b₁, b₂, b₃] := by
  match addrBytes a, length_addrBytes a with
  | [b₀, b₁, b₂, b₃], _ => exact ⟨b₀, b₁, b₂, b₃, rfl⟩

/-- What the program looks at before it sends a frame. -/
theorem verdict_of_bytes {maps : BpfMaps} {f : Frame} {a : Addr} (hl : 46 ≤ f.length)
    (het : bytesAt f 12 2 = [8, 0]) (hp : bytesAt f 23 1 = [17])
    (hs : bytesAt f 26 4 = addrBytes a) (ha : Accepts maps a) : verdict maps f = .tx :=
  (verdict_eq_tx_iff maps f).2 ⟨hl, (etherType_eq_iff (by omega)).2 het,
    (proto_iff (by omega)).1 hp, by rwa [source, addrAt_of_bytes hs]⟩

/-! ## Configurations -/

/-- **What breaks on a frame from any accepted source holds only when nothing is sent.** -/
theorem forall_sent_iff (e : Endian) {maps : BpfMaps} (P : Frame → Frame → Prop)
    (hp : ∀ b₀ b₁ b₂ b₃ a, addrBytes a = [b₀, b₁, b₂, b₃] → Accepts maps a →
      ∃ f, verdict maps f = .tx ∧ ¬ P f (forwarded maps f)) :
    (∀ cpu f c, udpRouter e ⟨cpu, f, maps⟩ = some (.tx, c) → P f c.data) ↔
      read maps.localNetAndMask 0 = 0 := by
  rw [← rejects_all_iff]
  constructor
  · intro h a ha
    obtain ⟨b₀, b₁, b₂, b₃, hb⟩ := exists_addrBytes a
    obtain ⟨f, hv, hn⟩ := hp b₀ b₁ b₂ b₃ a hb ha
    exact hn (h 0 f _ (udpRouter_of_tx e 0 hv))
  · intro h cpu f c hc
    obtain ⟨hv, -⟩ := udpRouter_tx hc
    exact absurd ((verdict_eq_tx_iff maps f).1 hv).2.2.2 (h _)

/-- Frames with options, and with them all frames. -/
theorem options_iff (e : Endian) (maps : BpfMaps) (P : Frame → Frame → Prop)
    (hp : ∀ f g, P f g → HasOptions f → ChecksumsValid f → IpChecksumValid g) :
    (∀ cpu f c, udpRouter e ⟨cpu, f, maps⟩ = some (.tx, c) → P f c.data) ↔
      read maps.localNetAndMask 0 = 0 :=
  forall_sent_iff e P fun b₀ b₁ b₂ b₃ _ hb ha =>
    ⟨optionsProbe b₀ b₁ b₂ b₃,
      verdict_of_bytes (show 46 ≤ 50 by decide) rfl rfl hb.symm ha,
      fun h => not_ipChecksumValid_optionsProbe b₀ b₁ b₂ b₃ maps
        (hp _ _ h (hasOptions_optionsProbe b₀ b₁ b₂ b₃) (checksumsValid_optionsProbe b₀ b₁ b₂ b₃))⟩

/-- Short datagrams. -/
theorem padded_iff (e : Endian) (maps : BpfMaps) :
    (∀ cpu f c, udpRouter e ⟨cpu, f, maps⟩ = some (.tx, c) → ShortPadded f → ChecksumsValid f →
      ChecksumsValid c.data) ↔ read maps.localNetAndMask 0 = 0 :=
  forall_sent_iff e (fun f g => ShortPadded f → ChecksumsValid f → ChecksumsValid g)
    fun b₀ b₁ b₂ b₃ _ hb ha =>
    ⟨paddedProbe b₀ b₁ b₂ b₃,
      verdict_of_bytes (show 46 ≤ 46 by decide) rfl rfl hb.symm ha,
      fun h => not_udpChecksumValid_paddedProbe b₀ b₁ b₂ b₃ maps
        (h (shortPadded_paddedProbe b₀ b₁ b₂ b₃) (checksumsValid_paddedProbe b₀ b₁ b₂ b₃)).udp⟩

/-- Later fragments. -/
theorem fragment_iff (e : Endian) (maps : BpfMaps) :
    (∀ cpu f c, udpRouter e ⟨cpu, f, maps⟩ = some (.tx, c) → ¬ LaterFragment f) ↔
      read maps.localNetAndMask 0 = 0 :=
  forall_sent_iff e (fun f _ => ¬ LaterFragment f) fun b₀ b₁ b₂ b₃ _ hb ha =>
    ⟨fragmentProbe b₀ b₁ b₂ b₃,
      verdict_of_bytes (show 46 ≤ 46 by decide) rfl rfl hb.symm ha,
      fun h => h (laterFragment_fragmentProbe b₀ b₁ b₂ b₃)⟩

/-- **A sent frame is well laid out, and keeps its checksums valid**: for one frame, exactly when a
check of the program stops it or its own fields place the header and the payload at the fixed
offsets; for all frames of a configuration, exactly when its local network's entry is zero, so that
every source counts as local and nothing is sent. The same condition is needed for the checksums
alone, and for each kind of frame alone: options, a short datagram with padding, a later
fragment. -/
theorem layout_iff (e : Endian) (maps : BpfMaps) :
    (∀ cpu f, (∀ c, udpRouter e ⟨cpu, f, maps⟩ = some (.tx, c) →
        LayoutOk f ∧ (ChecksumsValid f → ChecksumsValid c.data)) ↔
      Stopped maps f ∨ LayoutOk f) ∧
    ((∀ cpu f c, udpRouter e ⟨cpu, f, maps⟩ = some (.tx, c) →
        LayoutOk f ∧ (ChecksumsValid f → ChecksumsValid c.data)) ↔
      read maps.localNetAndMask 0 = 0) ∧
    ((∀ cpu f c, udpRouter e ⟨cpu, f, maps⟩ = some (.tx, c) →
        ChecksumsValid f → ChecksumsValid c.data) ↔ read maps.localNetAndMask 0 = 0) ∧
    ((∀ cpu f c, udpRouter e ⟨cpu, f, maps⟩ = some (.tx, c) → HasOptions f →
        ChecksumsValid f → ChecksumsValid c.data) ↔ read maps.localNetAndMask 0 = 0) ∧
    ((∀ cpu f c, udpRouter e ⟨cpu, f, maps⟩ = some (.tx, c) → ShortPadded f →
        ChecksumsValid f → ChecksumsValid c.data) ↔ read maps.localNetAndMask 0 = 0) ∧
    ((∀ cpu f c, udpRouter e ⟨cpu, f, maps⟩ = some (.tx, c) → ¬ LaterFragment f) ↔
      read maps.localNetAndMask 0 = 0) :=
  ⟨fun cpu f => frame_layout_iff e cpu maps f,
    options_iff e maps (fun f g => LayoutOk f ∧ (ChecksumsValid f → ChecksumsValid g))
      fun _ _ h _ hv => (h.2 hv).ip,
    options_iff e maps (fun f g => ChecksumsValid f → ChecksumsValid g)
      fun _ _ h _ hv => (h hv).ip,
    options_iff e maps (fun f g => HasOptions f → ChecksumsValid f → ChecksumsValid g)
      fun _ _ h ho hv => (h ho hv).ip,
    padded_iff e maps, fragment_iff e maps⟩

/-- A request with four bytes of IP options. -/
def optionsFrame : Frame :=
  [2, 0, 0, 0, 0, 1, 2, 0, 0, 0, 0, 2, 8, 0,
    70, 0, 0, 36, 0, 0, 64, 0, 64, 17, 32, 181, 10, 0, 1, 10, 10, 0, 2, 10, 1, 1, 1, 0,
    156, 64, 34, 184, 0, 12, 28, 192, 10, 0, 3, 10]

/-- A datagram of two bytes, padded. -/
def paddedFrame : Frame :=
  [2, 0, 0, 0, 0, 1, 2, 0, 0, 0, 0, 2, 8, 0,
    69, 0, 0, 30, 0, 0, 64, 0, 64, 17, 35, 188, 10, 0, 1, 10, 10, 0, 2, 10,
    156, 64, 34, 184, 0, 10, 193, 100, 104, 105, 0, 0]

/-- A later fragment of a datagram. -/
def fragmentFrame : Frame :=
  [2, 0, 0, 0, 0, 1, 2, 0, 0, 0, 0, 2, 8, 0,
    69, 0, 0, 32, 0, 7, 0, 185, 64, 17, 98, 250, 10, 0, 1, 10, 10, 0, 2, 10,
    0, 0, 0, 0, 0, 0, 0, 0, 10, 0, 3, 10]

/-- Frames that are sent although their fields lie elsewhere, two of them with checksums that were
valid and are no longer. -/
theorem layout_counterexample :
    (∃ c, udpRouter .little ⟨0, optionsFrame, readmeMaps⟩ = some (.tx, c) ∧
      ¬ LayoutOk optionsFrame ∧ ChecksumsValid optionsFrame ∧ ¬ IpChecksumValid c.data ∧
      ¬ UdpChecksumValid c.data) ∧
    (∃ c, udpRouter .little ⟨0, paddedFrame, readmeMaps⟩ = some (.tx, c) ∧
      ¬ LayoutOk paddedFrame ∧ ChecksumsValid paddedFrame ∧ ¬ UdpChecksumValid c.data) ∧
    (∃ c, udpRouter .little ⟨0, fragmentFrame, readmeMaps⟩ = some (.tx, c) ∧
      ¬ LayoutOk fragmentFrame ∧ IpChecksumValid fragmentFrame) := by
  refine ⟨⟨_, udpRouter_of_tx .little 0 (by decide +kernel), ?_⟩,
    ⟨_, udpRouter_of_tx .little 0 (by decide +kernel), ?_⟩,
    ⟨_, udpRouter_of_tx .little 0 (by decide +kernel), ?_⟩⟩ <;> decide +kernel

end Ebpf
