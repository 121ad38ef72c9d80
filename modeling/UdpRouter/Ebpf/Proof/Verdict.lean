import UdpRouter.Ebpf.Proof.Run
import UdpRouter.Lib.Prefix

/-!
# The verdict in terms of the bytes

`udpRouter_run` says that the program stays inside the frame and decides by `verdict`. Here
`verdict` is read off the frame's bytes, the link-local block and the two halves of the local
network's map, with what a rejected frame keeps (`verdict_exact`) and the entry with which every
frame is rejected (`rejects_all_iff`).
-/

namespace Ebpf

open Bytes Prefix Wire

/-- The upper half of the local network's map. -/
def localNet (maps : BpfMaps) : BitVec 32 := (read maps.localNetAndMask 0).extractLsb' 32 32

/-- The lower half. -/
def localMask (maps : BpfMaps) : BitVec 32 := (read maps.localNetAndMask 0).extractLsb' 0 32

theorem isLinkLocalIp_iff (ip : BitVec 32) :
    isLinkLocalIp ip = true ↔ SameBlock 16 ip (169#8 ++ 254#8 ++ 0#8 ++ 0#8) := by
  have hm := and_mask_eq_iff (n := 16) (by decide) ip (169#8 ++ 254#8 ++ 0#8 ++ 0#8)
  rw [show mask 32 16 = 0xffff0000#32 by decide] at hm
  rw [isLinkLocalIp, beq_iff_eq]
  exact hm.trans (and_iff_left (by decide))

theorem isFromLocalNetwork_iff (maps : BpfMaps) (ip : BitVec 32) :
    isFromLocalNetwork maps ip = true ↔ ip &&& localMask maps = localNet maps := by
  have hnet : (read maps.localNetAndMask 0 >>> 32).setWidth 32 = localNet maps := by
    refine BitVec.eq_of_getLsbD_eq fun i hi => ?_
    simp [localNet, hi]
  have hmask : (read maps.localNetAndMask 0 &&& 0xffffffff#64).setWidth 32 = localMask maps := by
    rw [BitVec.setWidth_and, show (0xffffffff#64).setWidth 32 = BitVec.allOnes 32 by decide,
      BitVec.and_allOnes]
    refine BitVec.eq_of_getLsbD_eq fun i hi => ?_
    simp [localMask, hi]
  rw [isFromLocalNetwork, hnet, hmask, beq_iff_eq]

/-- The two halves make up the entry. -/
theorem localNet_append_localMask (maps : BpfMaps) :
    (localNet maps ++ localMask maps : BitVec 64) = read maps.localNetAndMask 0 :=
  BitVec.extractLsb'_append_extractLsb'_eq_extractLsb' rfl |>.trans BitVec.extractLsb'_eq_self

/-- A filter that rejects every source takes all of them for local: it asks for no bit. -/
theorem rejects_all_iff (maps : BpfMaps) :
    (∀ a, ¬ Accepts maps a) ↔ read maps.localNetAndMask 0 = 0 := by
  constructor
  · intro h
    have hlocal : ∀ a, isLinkLocalIp a = false → a &&& localMask maps = localNet maps := by
      intro a ha
      by_contra hn
      exact h a ⟨ha, Bool.eq_false_iff.2 (mt (isFromLocalNetwork_iff maps a).1 hn)⟩
    have hnet : localNet maps = 0 := by
      rw [← hlocal 0#32 (by decide), BitVec.zero_and]
      rfl
    have hbits : ∀ i : Fin 32, isLinkLocalIp (1#32 <<< i.val) = false := by decide
    have hmask : localMask maps = 0 := by
      refine BitVec.eq_of_getLsbD_eq fun i hi => ?_
      have hbit := congrArg (·.getLsbD i) (hlocal (1#32 <<< i) (hbits ⟨i, hi⟩))
      simpa [hnet, hi] using hbit
    rw [← localNet_append_localMask, hnet, hmask]
    rfl
  · intro h a ha
    have hl := (isFromLocalNetwork_iff maps a).2 (by simp [localNet, localMask, h])
    exact Bool.false_ne_true (ha.2.symm.trans hl)

theorem etherType_eq_iff {f : Frame} (h : 14 ≤ f.length) :
    etherType f = 0x0800 ↔ bytesAt f 12 2 = [8, 0] :=
  ⟨fun he => beNat_inj (length_bytesAt (by omega)) he, fun hb => by rw [etherType, u16At, hb]; rfl⟩

/-- **The exact verdict.** On every frame the program makes no access outside the frame and ends
with this verdict; a frame that is not sent is left exactly as it arrived. -/
theorem verdict_exact (e : Endian) (cpu : Nat) (maps : BpfMaps) (f : Frame) :
    ∃ v g, udpRouter e ⟨cpu, f, maps⟩ = some (v, ⟨cpu, g, maps⟩) ∧
      v = (if f.length < 14 then .aborted
        else if bytesAt f 12 2 ≠ [8, 0] then .pass
        else if f.length < 34 then .aborted
        else if bytesAt f 23 1 ≠ [17] ∨ SameBlock 16 (source f) (169#8 ++ 254#8 ++ 0#8 ++ 0#8) ∨
          source f &&& localMask maps = localNet maps then .pass
        else if f.length < 46 then .aborted
        else .tx) ∧
      (v ≠ .tx → g = f) ∧ g.length = f.length := by
  refine ⟨_, _, udpRouter_run e cpu f maps, ?_, fun hv => if_neg hv, ?_⟩
  · unfold verdict
    refine if_ctx_congr Iff.rfl (fun _ => rfl) fun h14 => ?_
    refine if_ctx_congr (not_congr (etherType_eq_iff (by omega))) (fun _ => rfl) fun _ => ?_
    refine if_ctx_congr Iff.rfl (fun _ => rfl) fun h34 => ?_
    have hp : protocol f ≠ 17 ↔ bytesAt f 23 1 ≠ [17] := not_congr (proto_iff (by omega)).symm
    have hsrc : (isLinkLocalIp (source f) || isFromLocalNetwork maps (source f)) = true ↔
        SameBlock 16 (source f) (169#8 ++ 254#8 ++ 0#8 ++ 0#8) ∨
          source f &&& localMask maps = localNet maps := by
      rw [Bool.or_eq_true, isLinkLocalIp_iff, isFromLocalNetwork_iff]
    by_cases hu : protocol f = 17
    · rw [if_neg (not_not.2 hu)]
      exact if_congr (hsrc.trans (or_iff_right (hp.not.1 (not_not.2 hu))).symm) rfl rfl
    · rw [if_pos hu, if_pos (.inl (hp.1 hu))]
  · unfold output
    split
    · exact length_forwarded maps f
    · rfl

end Ebpf
