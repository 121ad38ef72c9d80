import UdpRouter.Ebpf.Proof.Run

/-!
# What the program looks at

Of a frame only the first 46 bytes, and of the maps only the local network and the gateway: whatever
follows is carried along, and the byte order, the CPU, the backend network and the counters make no
difference (`forwarding_local`).
-/

namespace Ebpf

open Bytes Wire

/-- What follows an update is carried along. -/
theorem overwrite_append {f : List Byte} (rest : List Byte) {o : Nat} {bs : List Byte}
    (h : o + bs.length ≤ f.length) : overwrite (f ++ rest) o bs = overwrite f o bs ++ rest := by
  apply List.ext_getElem?
  intro i
  have hlen : (overwrite f o bs).length = f.length := length_overwrite ..
  rw [getElem?_overwrite, List.length_append]
  by_cases hi : i < f.length
  · have hl : i < (overwrite f o bs).length := by omega
    rw [List.getElem?_append_left hi, List.getElem?_append_left hl, getElem?_overwrite]
    exact if_congr (by omega) rfl rfl
  · have hr : (overwrite f o bs).length ≤ i := by omega
    rw [List.getElem?_append_right (by omega), List.getElem?_append_right hr, hlen,
      if_neg (by omega)]

/-- The same local network and gateway. -/
structure SameConfig (maps maps' : BpfMaps) : Prop where
  localNet : maps.localNetAndMask = maps'.localNetAndMask
  gateway : maps.gatewayMacAddress = maps'.gatewayMacAddress

section
variable {maps maps' : BpfMaps} {f : Frame}

theorem rotated_append (h : SameConfig maps maps') (rest : List Byte) (hf : 46 ≤ f.length) :
    rotated maps' (f ++ rest) = rotated maps f ++ rest := by
  have h42 : (bytesAt f 42 4).length = 4 := length_bytesAt (by omega)
  have h30 : (bytesAt f 30 4).length = 4 := length_bytesAt (by omega)
  have h26 : (bytesAt f 26 4).length = 4 := length_bytesAt (by omega)
  have h0 : (bytesAt f 0 6).length = 6 := length_bytesAt (by omega)
  have hg : getGatewayMacAddress maps' = getGatewayMacAddress maps := by
    rw [getGatewayMacAddress, getGatewayMacAddress, h.gateway]
  unfold rotated
  rw [bytesAt_append_left (by omega), bytesAt_append_left (by omega),
    bytesAt_append_left (by omega), bytesAt_append_left (by omega), hg,
    overwrite_append rest (by omega), overwrite_append rest (by simp; omega),
    overwrite_append rest (by simp; omega), overwrite_append rest (by simp; omega),
    overwrite_append rest (by simp; omega)]

theorem forwarded_append (h : SameConfig maps maps') (rest : List Byte) (hf : 46 ≤ f.length) :
    forwarded maps' (f ++ rest) = forwarded maps f ++ rest := by
  unfold forwarded
  rw [rotated_append h rest hf, bytesAt_append_left (by simp; omega),
    overwrite_append rest (by simp; omega)]

theorem verdict_append (h : SameConfig maps maps') (rest : List Byte) (hf : 46 ≤ f.length) :
    verdict maps' (f ++ rest) = verdict maps f := by
  have hlen : 46 ≤ (f ++ rest).length := by
    rw [List.length_append]
    omega
  have het : etherType (f ++ rest) = etherType f :=
    congrArg beNat (bytesAt_append_left (by omega))
  have hp : protocol (f ++ rest) = protocol f := congrArg beNat (bytesAt_append_left (by omega))
  have hsrc : source (f ++ rest) = source f :=
    congrArg (fromBeBytes 4) (bytesAt_append_left (by omega))
  have hl : isFromLocalNetwork maps' = isFromLocalNetwork maps := by
    unfold isFromLocalNetwork
    rw [h.localNet]
  unfold verdict
  rw [het, hp, hsrc, hl, if_neg (by omega), if_neg (show ¬ f.length < 14 by omega),
    if_neg (show ¬ (f ++ rest).length < 34 by omega), if_neg (show ¬ f.length < 34 by omega),
    if_neg (show ¬ (f ++ rest).length < 46 by omega), if_neg (show ¬ f.length < 46 by omega)]

end

/-- **Only 46 bytes and two maps.** On a frame of at least 46 bytes, any bytes that follow pass
through untouched and change nothing, and neither does the host or another map. -/
theorem forwarding_local (e e' : Endian) (cpu cpu' : Nat) {maps maps' : BpfMaps} {f : Frame}
    (h : SameConfig maps maps') (hf : 46 ≤ f.length) (rest : List Byte) :
    ∃ v g, udpRouter e ⟨cpu, f, maps⟩ = some (v, ⟨cpu, g, maps⟩) ∧
      udpRouter e' ⟨cpu', f ++ rest, maps'⟩ = some (v, ⟨cpu', g ++ rest, maps'⟩) := by
  refine ⟨_, _, udpRouter_run e cpu f maps, ?_⟩
  rw [udpRouter_run, verdict_append h rest hf]
  have hout : output maps' (f ++ rest) = output maps f ++ rest := by
    unfold output
    rw [verdict_append h rest hf, forwarded_append h rest hf]
    split <;> rfl
  rw [hout]

/-- The example request with six bytes of padding, on a router without a backend network. -/
theorem forwarding_local_example : ∃ g,
    udpRouter .little ⟨0, exampleRequest, readmeMaps⟩ = some (.tx, ⟨0, g, readmeMaps⟩) ∧
      udpRouter .big ⟨1, exampleRequest ++ List.replicate 6 0,
        { readmeMaps with backendNetAndMask := Vector.replicate 1 0 }⟩ =
        some (.tx, ⟨1, g ++ List.replicate 6 0,
          { readmeMaps with backendNetAndMask := Vector.replicate 1 0 }⟩) := by
  have hv : verdict readmeMaps exampleRequest = .tx := by decide +kernel
  have hs : SameConfig readmeMaps { readmeMaps with backendNetAndMask := Vector.replicate 1 0 } :=
    ⟨rfl, rfl⟩
  have h46 : 46 ≤ exampleRequest.length := by decide
  obtain ⟨v, g, hg, hg'⟩ := forwarding_local .little .big 0 1 hs h46 (List.replicate 6 0)
  rw [udpRouter_of_tx .little 0 hv, Option.some.injEq, Prod.mk.injEq] at hg
  obtain ⟨rfl, hg⟩ := hg
  exact ⟨g, by rw [udpRouter_of_tx .little 0 hv, hg], hg'⟩

end Ebpf
