import UdpRouter.Ebpf.Proof.Forward
import UdpRouter.Lib.Transition

/-!
# A frame among several routers

`Hop`: a router sends a frame on, and the network brings it, under any Ethernet header, to the
router that owns its destination, or out of the set. Sending rotates three words (`Words`), so the
fourth router judges the source that the first one judged. `hops_finite_iff`: a frame goes round
without end exactly when its words are owned by routers that each let the word before through
(`Cyclic`); any other frame is sent at most three times.
-/

namespace Net

open Bytes Wire Ebpf Transition

/-! ## Routers -/

/-- A configured router: its local network contains its own addresses. -/
structure Router where
  addrs : List Addr
  maps : BpfMaps
  nonempty : addrs ≠ []
  covers : ∀ a ∈ addrs, isFromLocalNetwork maps a = true

/-- Finitely many routers; no two share an address. -/
structure Routers where
  routers : List Router
  unique : ∀ r ∈ routers, ∀ r' ∈ routers, ∀ a ∈ r.addrs, a ∈ r'.addrs → r = r'

/-- Where the frame is. -/
inductive Place
  | router (r : Router) (f : Frame)
  | gone

/-- The same bytes from the IPv4 header on. -/
def SamePacket (f f' : Frame) : Prop := f.drop 14 = f'.drop 14 ∧ f.length = f'.length

section
variable (e : Endian) (N : Routers)

/-- One transmission of the frame `g`, and what becomes of it. -/
inductive Hop : Place → Frame → Place → Prop
  | deliver {r r' : Router} {f g f' : Frame} {cpu : Nat} {c : XdpContext} :
      udpRouter e ⟨cpu, f, r.maps⟩ = some (.tx, c) → g = c.data → r' ∈ N.routers →
      destination g ∈ r'.addrs → SamePacket g f' → Hop (.router r f) g (.router r' f')
  | leave {r : Router} {f g : Frame} {cpu : Nat} {c : XdpContext} :
      udpRouter e ⟨cpu, f, r.maps⟩ = some (.tx, c) → g = c.data →
      (∀ r' ∈ N.routers, destination g ∉ r'.addrs) → Hop (.router r f) g .gone

end

/-! ## The words of a frame -/

/-- Source, destination and target: the words that forwarding rotates. -/
structure Words where
  src : Addr
  dst : Addr
  target : Addr

def wordsOf (f : Frame) : Words := ⟨source f, destination f, addrAt f 42⟩

def Words.rotate (w : Words) : Words := ⟨w.dst, w.target, w.src⟩

theorem wordsOf_forwarded (maps : BpfMaps) {f : Frame} (h : 46 ≤ f.length) :
    wordsOf (forwarded maps f) = (wordsOf f).rotate := by
  rw [wordsOf, source_forwarded maps h, destination_forwarded maps h, payload_forwarded maps h]
  rfl

theorem SamePacket.bytesAt {f f' : Frame} (h : SamePacket f f') {o n : Nat} (ho : 14 ≤ o) :
    bytesAt f o n = bytesAt f' o n := by
  obtain ⟨k, rfl⟩ : ∃ k, o = 14 + k := ⟨o - 14, by omega⟩
  rw [Bytes.bytesAt, Bytes.bytesAt, ← List.drop_drop, ← List.drop_drop, h.1]

theorem SamePacket.wordsOf {f f' : Frame} (h : SamePacket f f') : wordsOf f = wordsOf f' := by
  simp only [Net.wordsOf, source, destination, addrAt, h.bytesAt (show 14 ≤ 26 by decide),
    h.bytesAt (show 14 ≤ 30 by decide), h.bytesAt (show 14 ≤ 42 by decide)]

/-- What the next router gets of a frame that was sent. -/
theorem Hop.inv {e : Endian} {N : Routers} {r : Router} {f g : Frame} {p : Place}
    (h : Hop e N (.router r f) g p) : verdict r.maps f = .tx ∧ g = forwarded r.maps f ∧
      ∀ r' f', p = .router r' f' → r' ∈ N.routers ∧ destination f' ∈ r'.addrs ∧
        wordsOf f' = (wordsOf f).rotate := by
  cases h with
  | @deliver _ r' _ _ f' _ _ hr hg hr' hd hs =>
    obtain ⟨hv, rfl⟩ := udpRouter_tx hr
    subst hg
    refine ⟨hv, rfl, fun r₁ f₁ he => ?_⟩
    cases he
    have hw : wordsOf f' = (wordsOf f).rotate := by
      rw [← hs.wordsOf, wordsOf_forwarded _ (length_of_tx hv)]
    have hdst : destination f' = destination (forwarded r.maps f) :=
      (congrArg Words.dst hs.wordsOf).symm
    exact ⟨hr', hdst ▸ hd, hw⟩
  | leave hr hg _ =>
    obtain ⟨hv, rfl⟩ := udpRouter_tx hr
    exact ⟨hv, hg, nofun⟩

/-! ## Going round -/

section
variable (N : Routers)

/-- A router that owns the destination lets the source through. -/
def Passes (w : Words) : Prop := ∃ r ∈ N.routers, w.dst ∈ r.addrs ∧ Accepts r.maps w.src

/-- The frame is sent, and the owner of each of its words lets the word before it through. -/
structure Cyclic (r : Router) (f : Frame) : Prop where
  sent : verdict r.maps f = .tx
  first : Passes N (wordsOf f)
  second : Passes N (wordsOf f).rotate
  third : Passes N (wordsOf f).rotate.rotate

/-- After `n` transmissions: every router after the first let the rotated words through. -/
structure Travelled (r : Router) (f : Frame) (n : Nat) (p : Place) : Prop where
  start : n = 0 → p = .router r f
  first : 0 < n → verdict r.maps f = .tx
  passed : ∀ k, 0 < k → k < n → Passes N (Words.rotate^[k] (wordsOf f))
  words : ∀ r' f', p = .router r' f' → wordsOf f' = Words.rotate^[n] (wordsOf f)
  owner : ∀ r' f', p = .router r' f' → 0 < n → r' ∈ N.routers ∧ destination f' ∈ r'.addrs

end

section
variable {e : Endian} {N : Routers} {r : Router} {f : Frame}

/-- **One hop.** -/
theorem Travelled.step {n : Nat} {p p' : Place} {g : Frame} (h : Travelled N r f n p)
    (hs : Hop e N p g p') : Travelled N r f (n + 1) p' := by
  cases p with
  | gone => cases hs
  | router r₁ f₁ =>
    obtain ⟨hv, -, hnext⟩ := hs.inv
    have hw := h.words _ _ rfl
    have hpass : 0 < n → Passes N (Words.rotate^[n] (wordsOf f)) := by
      intro hn
      obtain ⟨hr, hd⟩ := h.owner _ _ rfl hn
      rw [← hw]
      exact ⟨r₁, hr, hd, ((verdict_eq_tx_iff _ _).1 hv).2.2.2⟩
    refine ⟨by omega, fun _ => ?_, fun k hk hlt => ?_, fun r' f' hp => ?_, fun r' f' hp _ => ?_⟩
    · rcases Nat.eq_zero_or_pos n with hn | hn
      · cases h.start hn
        exact hv
      · exact h.first hn
    · rcases Nat.lt_or_eq_of_le (Nat.lt_succ_iff.1 hlt) with hlt | rfl
      · exact h.passed k hk hlt
      · exact hpass hk
    · rw [(hnext r' f' hp).2.2, hw, Function.iterate_succ_apply']
    · exact ⟨(hnext r' f' hp).1, (hnext r' f' hp).2.1⟩

/-- **A whole journey.** -/
theorem travelled {evs : List Frame} {p : Place} (h : Run (Hop e N) (.router r f) evs p) :
    Travelled N r f evs.length p := by
  refine h.invariant (I := fun evs p => Travelled N r f evs.length p) ?_
    fun evs t a u _ hI hst => ?_
  · refine ⟨fun _ => rfl, by simp, by simp, ?_, by simp⟩
    rintro _ _ ⟨⟩
    rfl
  · rw [List.length_append]
    exact hI.step hst

/-- A frame sent four times was judged by the owners of its three words. -/
theorem Travelled.cyclic {n : Nat} {p : Place} (h : Travelled N r f n p) (hn : 4 ≤ n) :
    Cyclic N r f :=
  ⟨h.first (by omega), h.passed 3 (by decide) (by omega), h.passed 1 (by decide) (by omega),
    h.passed 2 (by decide) (by omega)⟩

/-- A frame that starts at the owner of its destination needs three. -/
theorem Travelled.cyclic_of_owner {n : Nat} {p : Place} (h : Travelled N r f n p) (hn : 3 ≤ n)
    (hr : r ∈ N.routers) (hd : destination f ∈ r.addrs) : Cyclic N r f :=
  have hv := h.first (by omega)
  ⟨hv, ⟨r, hr, hd, ((verdict_eq_tx_iff _ _).1 hv).2.2.2⟩, h.passed 1 (by decide) (by omega),
    h.passed 2 (by decide) (by omega)⟩

/-- A cyclic frame is sent to a router where it is cyclic again. -/
theorem Cyclic.hop (e : Endian) (h : Cyclic N r f) :
    ∃ r', Hop e N (.router r f) (forwarded r.maps f) (.router r' (forwarded r.maps f)) ∧
      Cyclic N r' (forwarded r.maps f) := by
  obtain ⟨h46, het, hp, -⟩ := (verdict_eq_tx_iff _ _).1 h.sent
  have hw := wordsOf_forwarded r.maps h46
  obtain ⟨r', hr', hd, ha⟩ := h.second
  have hdst : destination (forwarded r.maps f) ∈ r'.addrs := by
    rwa [destination_forwarded r.maps h46]
  have hsrc : Accepts r'.maps (source (forwarded r.maps f)) := by
    rwa [source_forwarded r.maps h46]
  refine ⟨r', .deliver (udpRouter_of_tx e 0 h.sent) rfl hr' hdst ⟨rfl, rfl⟩, ?_, ?_, ?_, ?_⟩
  · refine (verdict_eq_tx_iff _ _).2 ⟨by simpa using h46, ?_, ?_, hsrc⟩
    · rw [etherType, u16At_forwarded r.maps f (by decide)]
      exact het
    · rw [protocol_forwarded, hp]
  · rw [hw]
    exact h.second
  · rw [hw]
    exact h.third
  · rw [hw]
    exact h.first

theorem Cyclic.forever (e : Endian) (h : Cyclic N r f) : Forever (Hop e N) (.router r f) := by
  refine Forever.of_preserved (P := fun p => ∃ r f, p = .router r f ∧ Cyclic N r f) ?_
    ⟨r, f, rfl, h⟩
  rintro _ ⟨r, f, rfl, h⟩
  obtain ⟨r', hhop, hc⟩ := h.hop e
  exact ⟨_, _, hhop, r', _, rfl, hc⟩

/-- No router lets its own addresses through. -/
theorem Router.not_accepts (r : Router) {a : Addr} (h : a ∈ r.addrs) : ¬ Accepts r.maps a :=
  fun ha => Bool.false_ne_true (ha.2.symm.trans (r.covers a h))

/-- The three words belong to three routers. -/
theorem Cyclic.three (h : Cyclic N r f) : ∃ x ∈ N.routers, ∃ y ∈ N.routers, ∃ z ∈ N.routers,
    destination f ∈ x.addrs ∧ addrAt f 42 ∈ y.addrs ∧ source f ∈ z.addrs ∧
      x ≠ y ∧ y ≠ z ∧ z ≠ x := by
  obtain ⟨x, hx, hxd, hxa⟩ := h.first
  obtain ⟨y, hy, hyd, hya⟩ := h.second
  obtain ⟨z, hz, hzd, hza⟩ := h.third
  refine ⟨x, hx, y, hy, z, hz, hxd, hyd, hzd, ?_, ?_, ?_⟩
  · rintro rfl
    exact x.not_accepts hxd hya
  · rintro rfl
    exact y.not_accepts hyd hza
  · rintro rfl
    exact z.not_accepts hzd hxa

/-- **When forwarding ends.** A frame goes round without end exactly when it is cyclic, and then
its words belong to three routers; any other is sent at most three times, and at most twice when
it starts at the owner of its destination. -/
theorem hops_finite_iff (e : Endian) (N : Routers) (r : Router) (f : Frame) :
    (Forever (Hop e N) (.router r f) ↔ Cyclic N r f) ∧
    (Cyclic N r f → ∃ x ∈ N.routers, ∃ y ∈ N.routers, ∃ z ∈ N.routers,
      destination f ∈ x.addrs ∧ addrAt f 42 ∈ y.addrs ∧ source f ∈ z.addrs ∧
        x ≠ y ∧ y ≠ z ∧ z ≠ x) ∧
    (¬ Cyclic N r f → ∀ evs p, Run (Hop e N) (.router r f) evs p →
      evs.length ≤ 3 ∧ (r ∈ N.routers → destination f ∈ r.addrs → evs.length ≤ 2)) := by
  refine ⟨⟨fun h => ?_, Cyclic.forever e⟩, Cyclic.three, fun hn evs p h => ⟨?_, fun hr hd => ?_⟩⟩
  · obtain ⟨evs, p, hr, hl⟩ := h.run 4
    exact (travelled hr).cyclic (by omega)
  · by_contra hlt
    exact hn ((travelled h).cyclic (by omega))
  · by_contra hlt
    exact hn ((travelled h).cyclic_of_owner (by omega) hr hd)

/-- The router 10.0.`n`.1 with the local network 10.0.`n`.0/24. -/
def subnetRouter (n : BitVec 8) : Router where
  addrs := [10#8 ++ 0#8 ++ n ++ 1#8]
  maps :=
    { BpfMaps.fresh 1 with
      localNetAndMask := Vector.replicate 1 (10#8 ++ 0#8 ++ n ++ 0#8 ++ 0xffffff00#32) }
  nonempty := by simp
  covers := by
    rw [List.forall_mem_singleton]
    revert n
    decide +kernel

def subnetRouters : Routers where
  routers := [1, 2, 3].map subnetRouter
  unique := by
    intro r hr r' hr' a ha ha'
    obtain ⟨n, -, rfl⟩ := List.mem_map.1 hr
    obtain ⟨m, -, rfl⟩ := List.mem_map.1 hr'
    have h := (List.mem_singleton.1 ha).symm.trans (List.mem_singleton.1 ha')
    rw [BitVec.append_left_inj, BitVec.append_right_inj] at h
    rw [h]

/-- From 10.0.3.1 to 10.0.1.1 for 10.0.2.1. -/
def circlingFrame : Frame :=
  [2, 0, 0, 0, 0, 1, 2, 0, 0, 0, 0, 2, 8, 0,
    69, 0, 0, 32, 0, 0, 64, 0, 64, 17, 34, 204, 10, 0, 3, 1, 10, 0, 1, 1,
    156, 64, 34, 184, 0, 12, 28, 219, 10, 0, 2, 1]

/-- Three routers on disjoint local networks send it round without end. -/
theorem hops_counterexample :
    Forever (Hop .little subnetRouters) (.router (subnetRouter 1) circlingFrame) := by
  refine Cyclic.forever .little ⟨by decide +kernel, ?_, ?_, ?_⟩
  · exact ⟨subnetRouter 1, by simp [subnetRouters], by decide +kernel, by decide +kernel⟩
  · exact ⟨subnetRouter 2, by simp [subnetRouters], by decide +kernel, by decide +kernel⟩
  · exact ⟨subnetRouter 3, by simp [subnetRouters], by decide +kernel, by decide +kernel⟩

end

end Net
