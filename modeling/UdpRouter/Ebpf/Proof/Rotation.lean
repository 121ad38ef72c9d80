import UdpRouter.Ebpf.Proof.Forward

/-!
# Forwarding as a rotation

Every byte of a forwarded frame, from the frame as it arrived (`Rotated`, `rotated_forwarded`). The
source, the destination and the payload word move round one place, so that three forwardings bring
them back, and with them everything from the IPv4 header on (`forwarding_rotates`).
-/

namespace Ebpf

open Bytes Wire OnesComplement

/-- `g` is `f` on its way to the gateway, its three words moved round one place. Only the two
checksum fields are left open. -/
structure Rotated (maps : BpfMaps) (f g : Frame) : Prop where
  length : g.length = f.length
  dstMac : bytesAt g 0 6 = bytesAt (toBeBytes (n := 8) (read maps.gatewayMacAddress 0)) 2 6
  srcMac : bytesAt g 6 6 = bytesAt f 0 6
  source : bytesAt g 26 4 = bytesAt f 30 4
  destination : bytesAt g 30 4 = bytesAt f 42 4
  payload : bytesAt g 42 4 = bytesAt f 26 4
  rest : ∀ i, 12 ≤ i ∧ i < 24 ∨ 34 ≤ i ∧ i < 40 ∨ 46 ≤ i → g[i]? = f[i]?

/-- One byte as a slice. -/
theorem getElem?_eq_of_bytesAt {f g : Frame} {i : Nat} (h : bytesAt g i 1 = bytesAt f i 1) :
    g[i]? = f[i]? := by
  have := congrArg (fun bs => bs[0]?) h
  simpa [getElem?_bytesAt] using this

theorem rotated_forwarded (maps : BpfMaps) {f : Frame} (h : 46 ≤ f.length) :
    Rotated maps f (forwarded maps f) where
  length := length_forwarded maps f
  dstMac := bytesAt_forwarded_dstMac maps h
  srcMac := bytesAt_forwarded_srcMac maps h
  source := bytesAt_forwarded_src maps h
  destination := bytesAt_forwarded_dst maps h
  payload := bytesAt_forwarded_payload maps h
  rest i hi := getElem?_eq_of_bytesAt (bytesAt_forwarded_rest maps f (by omega))

/-! ## Three forwardings -/

section
variable (m₁ m₂ m₃ : BpfMaps) {f : Frame}

theorem bytesAt_thrice_rest (f : Frame) {a n : Nat}
    (h : 12 ≤ a ∧ a + n ≤ 24 ∨ 34 ≤ a ∧ a + n ≤ 42 ∨ 46 ≤ a) :
    bytesAt (forwarded m₃ (forwarded m₂ (forwarded m₁ f))) a n = bytesAt f a n := by
  rw [bytesAt_forwarded_rest m₃ _ h, bytesAt_forwarded_rest m₂ _ h, bytesAt_forwarded_rest m₁ _ h]

/-- The words come back. -/
theorem words_thrice (h : 46 ≤ f.length) :
    bytesAt (forwarded m₃ (forwarded m₂ (forwarded m₁ f))) 26 4 = bytesAt f 26 4 ∧
    bytesAt (forwarded m₃ (forwarded m₂ (forwarded m₁ f))) 30 4 = bytesAt f 30 4 ∧
    bytesAt (forwarded m₃ (forwarded m₂ (forwarded m₁ f))) 42 4 = bytesAt f 42 4 := by
  have h1 : 46 ≤ (forwarded m₁ f).length := by rwa [length_forwarded]
  have h2 : 46 ≤ (forwarded m₂ (forwarded m₁ f)).length := by rwa [length_forwarded]
  refine ⟨?_, ?_, ?_⟩
  · rw [bytesAt_forwarded_src m₃ h2, bytesAt_forwarded_dst m₂ h1, bytesAt_forwarded_payload m₁ h]
  · rw [bytesAt_forwarded_dst m₃ h2, bytesAt_forwarded_payload m₂ h1, bytesAt_forwarded_src m₁ h]
  · rw [bytesAt_forwarded_payload m₃ h2, bytesAt_forwarded_src m₂ h1, bytesAt_forwarded_dst m₁ h]

/-- The header comes back, up to its check field, and with it its checksum. -/
theorem headerChecksum_thrice (h : 46 ≤ f.length) :
    headerChecksum (forwarded m₃ (forwarded m₂ (forwarded m₁ f))) = headerChecksum f := by
  obtain ⟨hs, hd, -⟩ := words_thrice m₁ m₂ m₃ h
  have h8 : ∀ g : Frame, bytesAt g 26 8 = bytesAt g 26 4 ++ bytesAt g 30 4 :=
    fun g => bytesAt_add g 26 4 4
  rw [headerChecksum_eq (by simp; omega), headerChecksum_eq (by omega), checkedWords_bytesAt,
    checkedWords_bytesAt, bytesAt_thrice_rest m₁ m₂ m₃ f (by omega), h8, h8, hs, hd]

/-- The packet as its fields. -/
theorem drop_fields (f : Frame) : f.drop 14 = bytesAt f 14 10 ++ (bytesAt f 24 2 ++
    (bytesAt f 26 4 ++ (bytesAt f 30 4 ++ (bytesAt f 34 8 ++ (bytesAt f 42 4 ++ f.drop 46))))) := by
  rw [← bytesAt_append_drop f 14 10, ← bytesAt_append_drop f 24 2, ← bytesAt_append_drop f 26 4,
    ← bytesAt_append_drop f 30 4, ← bytesAt_append_drop f 34 8, ← bytesAt_append_drop f 42 4]

/-- **Three forwardings** restore a packet with a canonical check field. -/
theorem drop_thrice (h : 46 ≤ f.length) (hc : u16At f 24 = headerChecksum f) :
    (forwarded m₃ (forwarded m₂ (forwarded m₁ f))).drop 14 = f.drop 14 := by
  obtain ⟨hs, hd, hp⟩ := words_thrice m₁ m₂ m₃ h
  have hrest : ∀ {a n}, 12 ≤ a ∧ a + n ≤ 24 ∨ 34 ≤ a ∧ a + n ≤ 42 ∨ 46 ≤ a → _ :=
    bytesAt_thrice_rest m₁ m₂ m₃ f
  have hsum := headerChecksum_thrice m₁ m₂ m₃ h
  have hck : u16At (forwarded m₃ (forwarded m₂ (forwarded m₁ f))) 24 = headerChecksum f := by
    rw [check_forwarded m₃ (by simpa using h), hsum]
  have hlen : (forwarded m₃ (forwarded m₂ (forwarded m₁ f))).length = f.length := by simp
  generalize forwarded m₃ (forwarded m₂ (forwarded m₁ f)) = g at *
  have hcheck : bytesAt g 24 2 = bytesAt f 24 2 := by
    refine beNat_inj ?_ (hck.trans hc.symm)
    rw [length_bytesAt (by omega), length_bytesAt (by omega)]
  have htail : g.drop 46 = f.drop 46 := by
    rw [← bytesAt_eq_drop (f := g) (n := f.length) (by omega),
      ← bytesAt_eq_drop (f := f) (n := f.length) (by omega), hrest (.inr (.inr (Nat.le_refl _)))]
  rw [drop_fields g, drop_fields f, hcheck, hs, hd, hp, htail, hrest (by omega), hrest (by omega)]

end

/-- What a router sends. -/
theorem data_of_tx {e : Endian} {cpu : Nat} {maps : BpfMaps} {f : Frame} {c : XdpContext}
    (h : udpRouter e ⟨cpu, f, maps⟩ = some (.tx, c)) : c.data = forwarded maps f :=
  congrArg XdpContext.data (udpRouter_tx h).2

/-- **Forwarding as a whole.** What `XDP_TX` sends is the frame rotated, and three forwardings, by
any routers, bring back the three words, and the whole packet when its check field was canonical. -/
theorem forwarding_rotates {e : Endian} {cpu : Nat} {maps : BpfMaps} {f : Frame} {c : XdpContext}
    (h : udpRouter e ⟨cpu, f, maps⟩ = some (.tx, c)) :
    Rotated maps f c.data ∧
    ∀ e₂ e₃ cpu₂ cpu₃ maps₂ maps₃ c₂ c₃,
      udpRouter e₂ ⟨cpu₂, c.data, maps₂⟩ = some (.tx, c₂) →
      udpRouter e₃ ⟨cpu₃, c₂.data, maps₃⟩ = some (.tx, c₃) →
      bytesAt c₃.data 26 4 = bytesAt f 26 4 ∧ bytesAt c₃.data 30 4 = bytesAt f 30 4 ∧
      bytesAt c₃.data 42 4 = bytesAt f 42 4 ∧
      (u16At f 24 = headerChecksum f → c₃.data.drop 14 = f.drop 14) := by
  have h46 := length_of_tx (udpRouter_tx h).1
  rw [data_of_tx h]
  refine ⟨rotated_forwarded maps h46, fun e₂ e₃ cpu₂ cpu₃ maps₂ maps₃ c₂ c₃ h₂ h₃ => ?_⟩
  obtain ⟨hs, hd, hp⟩ := words_thrice maps maps₂ maps₃ h46
  rw [data_of_tx h₃, data_of_tx h₂]
  exact ⟨hs, hd, hp, drop_thrice maps maps₂ maps₃ h46⟩

/-- A router on 192.168.0.0/16, to which all of the example's addresses are foreign. -/
def foreignMaps : BpfMaps :=
  { BpfMaps.fresh 1 with localNetAndMask := Vector.replicate 1 0xc0a80000ffff0000#64 }

theorem forwarding_rotates_example :
    (forwarded foreignMaps (forwarded foreignMaps (forwarded foreignMaps exampleRequest))).drop 14 =
      exampleRequest.drop 14 := by
  have htx : verdict foreignMaps exampleRequest = .tx := by decide +kernel
  have h := forwarding_rotates (udpRouter_of_tx .little 0 htx)
  have htx₂ : verdict foreignMaps (forwarded foreignMaps exampleRequest) = .tx := by
    decide +kernel
  have htx₃ : verdict foreignMaps (forwarded foreignMaps (forwarded foreignMaps exampleRequest)) =
      .tx := by decide +kernel
  obtain ⟨-, -, -, hdrop⟩ := h.2 .big .little 0 0 foreignMaps foreignMaps _ _
    (udpRouter_of_tx .big 0 htx₂) (udpRouter_of_tx .little 0 htx₃)
  exact hdrop (by decide +kernel)

end Ebpf
