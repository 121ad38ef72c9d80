import UdpRouter.Ebpf.Proof.Layout

/-!
# Whom a frame can reach

The target of a forwarded frame is the word in its payload, and nothing consults the backend
network (`destination_forwarded`, `verdict_eq_tx_iff`). `backend_reach_iff`: the frames, the
configurations and the runs for which frames from outside the backend network only go into it.
`processAll` is a run of the program over frames as they arrive.
-/

namespace Ebpf

open Bytes Wire

/-! ## Runs over frames -/

/-- The frames that arrive, each with its verdict and what it became; the maps carry over. -/
def processAll (e : Endian) : BpfMaps → List (Nat × Frame) → List (Frame × XdpAction × Frame)
  | _, [] => []
  | maps, (cpu, f) :: fs =>
    match udpRouter e ⟨cpu, f, maps⟩ with
    | some (v, c) => (f, v, c.data) :: processAll e c.maps fs
    | none => []

/-- The program keeps no state from frame to frame. -/
theorem processAll_eq (e : Endian) (maps : BpfMaps) : ∀ fs : List (Nat × Frame),
    processAll e maps fs = fs.map fun x => (x.2, verdict maps x.2, output maps x.2)
  | [] => rfl
  | (cpu, f) :: fs => by
    rw [processAll, udpRouter_run, List.map_cons]
    exact congrArg _ (processAll_eq e maps fs)

/-! ## Frames for any pair of addresses -/

/-- A minimal frame with source `s` and payload word `t`. -/
def probe (s t : Addr) : Frame :=
  [0, 0, 0, 0, 0, 0, 0, 0, 0, 0, 0, 0, 8, 0, 69, 0, 0, 32, 0, 0, 0, 0, 64, 17, 0, 0] ++
    (addrBytes s ++ ([0, 0, 0, 0, 0, 0, 0, 0, 0, 12, 0, 0] ++ (addrBytes t ++ [])))

theorem source_probe (s t : Addr) : source (probe s t) = s :=
  addrAt_of_bytes (bytesAt_append_mid rfl (length_addrBytes s))

theorem target_probe (s t : Addr) : addrAt (probe s t) 42 = t := by
  apply addrAt_of_bytes
  unfold probe
  rw [← List.append_assoc, ← List.append_assoc]
  exact bytesAt_append_mid (by simp) (length_addrBytes t)

theorem verdict_probe {maps : BpfMaps} {s : Addr} (t : Addr) (h : Accepts maps s) :
    verdict maps (probe s t) = .tx :=
  verdict_of_bytes (show 46 ≤ (probe s t).length by simp [probe])
    (bytesAt_append_left (show 12 + 2 ≤ 26 by decide))
    (bytesAt_append_left (show 23 + 1 ≤ 26 by decide))
    (bytesAt_append_mid rfl (length_addrBytes s)) h

/-- From the client 10.0.1.10 for the server 10.0.3.10. -/
def clientFrame : Frame := probe 0x0a00010a 0x0a00030a

/-! ## The backend network -/

/-- Every source that passes the filter is in the backend network. -/
def BackendCovers (maps : BpfMaps) : Prop :=
  ∀ a, Accepts maps a → isFromBackendServer maps a = true

/-- Three neighbours of an address determine its masked value. -/
theorem xor_neighbours (a m : BitVec 32) :
    ((a ^^^ 1#32) &&& m) ^^^ ((a ^^^ 2#32) &&& m) ^^^ ((a ^^^ (1#32 ^^^ 2#32)) &&& m) =
      a &&& m := by
  ext i hi
  simp only [BitVec.getElem_and, BitVec.getElem_xor]
  generalize a[i] = x, (1#32)[i] = y, (2#32)[i] = z, m[i] = w
  revert x y z w
  decide

/-- A network that misses one address misses another. -/
theorem exists_other_outside {maps : BpfMaps} {a : Addr} (h : isFromBackendServer maps a = false) :
    ∃ b, b ≠ a ∧ isFromBackendServer maps b = false := by
  by_contra hn
  simp only [not_exists, not_and, Bool.not_eq_false] at hn
  have hx : ∀ d : Addr, d ≠ 0#32 → a ^^^ d ≠ a := fun d hd he => hd (by
    have := congrArg (a ^^^ ·) he
    simpa [← BitVec.xor_assoc] using this)
  have h1 := hn (a ^^^ 1#32) (hx _ (by decide))
  have h2 := hn (a ^^^ 2#32) (hx _ (by decide))
  have h3 := hn (a ^^^ (1#32 ^^^ 2#32)) (hx _ (by decide))
  simp only [isFromBackendServer, beq_iff_eq, beq_eq_false_iff_ne] at h h1 h2 h3
  have hm := xor_neighbours a
    ((read maps.backendNetAndMask 0 &&& 0xffffffff#64).setWidth 32)
  rw [h1, h2, h3, BitVec.xor_self, BitVec.zero_xor] at hm
  exact h hm.symm

theorem BackendCovers.source {maps : BpfMaps} (h : BackendCovers maps) {f : Frame}
    (hv : verdict maps f = .tx) : isFromBackendServer maps (source f) = true :=
  h _ ((verdict_eq_tx_iff maps f).1 hv).2.2.2

/-- One frame. -/
theorem frame_reach_iff (e : Endian) (maps : BpfMaps) (cpu : Nat) (f : Frame) :
    (∀ c, udpRouter e ⟨cpu, f, maps⟩ = some (.tx, c) →
      isFromBackendServer maps (source f) = false →
      destination c.data = addrAt f 42 ∧ isFromBackendServer maps (addrAt f 42) = true) ↔
    Stopped maps f ∨ isFromBackendServer maps (source f) = true ∨
      isFromBackendServer maps (addrAt f 42) = true := by
  constructor
  · intro h
    by_contra hn
    simp only [not_or, Bool.not_eq_true] at hn
    have hv := not_not.1 ((stopped_iff maps f).not.1 hn.1)
    have ht := (h _ (udpRouter_of_tx e cpu hv) hn.2.1).2
    exact Bool.false_ne_true (hn.2.2.symm.trans ht)
  · intro h c hc hs
    obtain ⟨hv, rfl⟩ := udpRouter_tx hc
    refine ⟨destination_forwarded maps (length_of_tx hv), ?_⟩
    rcases h with h | h | h
    · exact absurd hv ((stopped_iff maps f).1 h)
    · exact absurd (hs.symm.trans h) Bool.false_ne_true
    · exact h

/-- All frames: a source outside may name itself. -/
theorem frames_reach_iff (e : Endian) (maps : BpfMaps) :
    (∀ cpu f c, udpRouter e ⟨cpu, f, maps⟩ = some (.tx, c) →
      isFromBackendServer maps (source f) = false →
      isFromBackendServer maps (addrAt f 42) = true) ↔ BackendCovers maps := by
  constructor
  · intro h a ha
    by_contra hn
    have hb := Bool.eq_false_iff.2 hn
    have ht := h 0 (probe a a) _ (udpRouter_of_tx e 0 (verdict_probe a ha))
      (by rw [source_probe]; exact hb)
    rw [target_probe] at ht
    exact hn ht
  · intro h cpu f c hc hs
    obtain ⟨hv, -⟩ := udpRouter_tx hc
    exact absurd (hs.symm.trans (h.source hv)) Bool.false_ne_true

/-- All runs: a source outside may name another host outside. -/
theorem runs_reach_iff (e : Endian) (maps : BpfMaps) :
    (∀ fs f g, (f, .tx, g) ∈ processAll e maps fs → source f ≠ destination g →
      isFromBackendServer maps (source f) = false →
      isFromBackendServer maps (destination g) = true) ↔ BackendCovers maps := by
  constructor
  · intro h a ha
    by_contra hn
    have hb := Bool.eq_false_iff.2 hn
    obtain ⟨b, hba, hbout⟩ := exists_other_outside hb
    have hv := verdict_probe b ha
    have hd : destination (forwarded maps (probe a b)) = b := by
      rw [destination_forwarded maps (length_of_tx hv), target_probe]
    have ht := h [(0, probe a b)] (probe a b) (forwarded maps (probe a b))
      (by rw [processAll_eq]; simp [hv, output_of_tx hv])
      (by rw [source_probe, hd]; exact hba.symm) (by rw [source_probe]; exact hb)
    rw [hd] at ht
    exact absurd (hbout.symm.trans ht) Bool.false_ne_true
  · intro h fs f g hm _ hs
    rw [processAll_eq, List.mem_map] at hm
    obtain ⟨⟨cpu, f'⟩, -, hx⟩ := hm
    simp only [Prod.mk.injEq] at hx
    obtain ⟨rfl, hv, -⟩ := hx
    exact absurd (hs.symm.trans (h.source hv)) Bool.false_ne_true

/-- **Frames from outside the backend network go into it** for one frame exactly when a check stops
it, its source is inside or its payload word is; for all frames, and over all runs between
different hosts, exactly when no source outside the backend network passes the filter. -/
theorem backend_reach_iff (e : Endian) (maps : BpfMaps) :
    (∀ cpu f, (∀ c, udpRouter e ⟨cpu, f, maps⟩ = some (.tx, c) →
        isFromBackendServer maps (source f) = false →
        destination c.data = addrAt f 42 ∧ isFromBackendServer maps (addrAt f 42) = true) ↔
      Stopped maps f ∨ isFromBackendServer maps (source f) = true ∨
        isFromBackendServer maps (addrAt f 42) = true) ∧
    ((∀ cpu f c, udpRouter e ⟨cpu, f, maps⟩ = some (.tx, c) →
        isFromBackendServer maps (source f) = false →
        isFromBackendServer maps (addrAt f 42) = true) ↔ BackendCovers maps) ∧
    ((∀ fs f g, (f, .tx, g) ∈ processAll e maps fs → source f ≠ destination g →
        isFromBackendServer maps (source f) = false →
        isFromBackendServer maps (destination g) = true) ↔ BackendCovers maps) :=
  ⟨frame_reach_iff e maps, frames_reach_iff e maps, runs_reach_iff e maps⟩

/-- A request of the client 10.0.1.10 that names the client 10.0.1.99. -/
def misdirectedFrame : Frame :=
  [2, 0, 0, 0, 0, 1, 2, 0, 0, 0, 0, 2, 8, 0,
    69, 0, 0, 32, 0, 0, 64, 0, 64, 17, 35, 186, 10, 0, 1, 10, 10, 0, 2, 10,
    156, 64, 34, 184, 0, 12, 30, 103, 10, 0, 1, 99]

/-- In the README's configuration the router sends it there. -/
theorem backend_reach_counterexample :
    ∃ c, udpRouter .little ⟨0, misdirectedFrame, readmeMaps⟩ = some (.tx, c) ∧
      isFromBackendServer readmeMaps (source misdirectedFrame) = false ∧
      destination c.data = addrAt misdirectedFrame 42 ∧
      isFromBackendServer readmeMaps (addrAt misdirectedFrame 42) = false := by
  refine ⟨_, udpRouter_of_tx .little 0 (by decide +kernel), ?_⟩
  decide +kernel

end Ebpf
