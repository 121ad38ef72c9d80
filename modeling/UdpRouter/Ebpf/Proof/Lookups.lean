import UdpRouter.Ebpf.Lookups
import UdpRouter.Ebpf.Proof.Run

/-!
# The program between its lookups

`Follows`: a computation that looks up the maps one after the other does, when they stay as they
are, what the computation on the maps as a whole does, and it makes no other lookups than those
listed. So the program looks up the local network, if anything, and then the gateway, if anything;
once it has ended, its result is that of `udpRouter` on any maps that hold what was read
(`result_of_after`), and until then it can go on (`after_cases`).
-/

namespace Ebpf.Lookups

open Bytes Program Wire
open Ebpf.Xdp (getMaps readBytes writeBytes readU16 readU32 writeU16 writeU32)

def answer (maps : BpfMaps) (c : Lookup) (u : Unit) : BitVec 64 × Unit := (value maps c, u)

/-- Any entry is that of some maps. -/
theorem exists_value (c : Lookup) (v : BitVec 64) : ∃ maps, value maps c = v := by
  cases c with
  | localNetAndMask => exact ⟨{ BpfMaps.fresh 0 with localNetAndMask := .replicate 1 v }, rfl⟩
  | gatewayMacAddress => exact ⟨{ BpfMaps.fresh 0 with gatewayMacAddress := .replicate 1 v }, rfl⟩

/-! ## Operations on the frame -/

/-- The operation does not ask for the CPU or the maps. -/
def FrameOnly {α : Type} (y : Xdp α) : Prop := ∀ cpu f maps,
  y ⟨cpu, f, maps⟩ = (y ⟨0, f, .fresh 0⟩).map fun r => (r.1, ⟨cpu, r.2.data, maps⟩)

section
variable {α β : Type}

theorem frameOnly_pure (a : α) : FrameOnly (pure a : Xdp α) := fun _ _ _ => rfl

theorem frameOnly_bind {y : Xdp α} {k : α → Xdp β} (h : FrameOnly y) (hk : ∀ a, FrameOnly (k a)) :
    FrameOnly (y >>= k) := by
  intro cpu f maps
  show Xdp.andThen y k _ = (Xdp.andThen y k _).map _
  rw [Xdp.andThen, Xdp.andThen, h cpu f maps]
  rcases hy : y ⟨0, f, .fresh 0⟩ with _ | ⟨r, c⟩
  · rfl
  · have hc := h 0 f (.fresh 0)
    rw [hy, Option.map_some, Option.some.injEq, Prod.mk.injEq] at hc
    cases r with
    | error u => rfl
    | ok a =>
      simp only [Option.map_some]
      rw [hk a cpu c.data maps, hc.2]

theorem frameOnly_ptrAtMut (len offset : Nat) : FrameOnly (ptrAtMut len offset) := by
  intro cpu f maps
  simp only [ptrAtMut]
  split_ifs <;> rfl

theorem frameOnly_readBytes (p n : Nat) : FrameOnly (readBytes p n) := by
  intro cpu f maps
  simp only [readBytes]
  split_ifs <;> rfl

theorem frameOnly_writeBytes (p : Nat) (bs : List Byte) : FrameOnly (writeBytes p bs) := by
  intro cpu f maps
  simp only [writeBytes]
  split_ifs <;> rfl

theorem frameOnly_readU16 (e : Endian) (p : Nat) : FrameOnly (readU16 e p) :=
  frameOnly_bind (frameOnly_readBytes p 2) fun _ => frameOnly_pure _

theorem frameOnly_readU32 (e : Endian) (p : Nat) : FrameOnly (readU32 e p) :=
  frameOnly_bind (frameOnly_readBytes p 4) fun _ => frameOnly_pure _

theorem frameOnly_writeU16 (e : Endian) (p : Nat) (w : BitVec 16) : FrameOnly (writeU16 e p w) :=
  frameOnly_writeBytes _ _

theorem frameOnly_writeU32 (e : Endian) (p : Nat) (w : BitVec 32) : FrameOnly (writeU32 e p w) :=
  frameOnly_writeBytes _ _

end

/-! ## Following -/

section
variable {α β : Type} {maps : BpfMaps} {cs : List Lookup}

/-- With the maps `maps` at every lookup `x` does what `y` does on them, and with any maps its
lookups are those of `cs`. -/
structure Follows (maps : BpfMaps) (cs : List Lookup) (x : Task α) (y : Xdp α) : Prop where
  along : ∀ f, Along cs (x f)
  agrees : ∀ cpu f, ∃ o, exec (answer maps) (x f) () = (.ok o, ()) ∧
    y ⟨cpu, f, maps⟩ = o.map fun r => (r.1, ⟨cpu, r.2, maps⟩)

theorem follows_pure (a : α) : Follows maps cs (pure a) (pure a) where
  along _ := along_done _
  agrees _ f := ⟨some (.ok a, f), rfl, rfl⟩

/-- An operation on the frame. -/
theorem follows_frame {y : Xdp α} {k : α → Task β} {k' : α → Xdp β} (hy : FrameOnly y)
    (hk : ∀ a, Follows maps cs (k a) (k' a)) :
    Follows maps cs (Task.onFrame y >>= k) (y >>= k') where
  along f := by
    show Along cs (Task.andThen (Task.onFrame y) k f)
    rw [Task.andThen, Task.onFrame]
    rcases y ⟨0, f, .fresh 0⟩ with _ | ⟨_ | a, c⟩
    · exact along_done _
    · exact along_done _
    · exact (hk a).along c.data
  agrees cpu f := by
    show ∃ o, exec _ (Task.andThen (Task.onFrame y) k f) () = _ ∧ Xdp.andThen y k' _ = _
    rw [Task.andThen, Task.onFrame, Xdp.andThen, hy cpu f maps]
    rcases y ⟨0, f, .fresh 0⟩ with _ | ⟨_ | a, c⟩
    · exact ⟨none, rfl, rfl⟩
    · exact ⟨some (.error _, c.data), rfl, rfl⟩
    · exact (hk a).agrees cpu c.data

/-- A lookup. -/
theorem follows_lookup {c : Lookup} {k : BitVec 64 → Task β} {k' : BpfMaps → Xdp β}
    (hk : ∀ maps, Follows maps cs (k (value maps c)) (k' maps)) :
    Follows maps (c :: cs) (lookup c >>= k) (getMaps >>= k') where
  along f := by
    refine along_ask fun r => ?_
    obtain ⟨maps', rfl⟩ := exists_value c r
    exact (hk maps').along f
  agrees cpu f := (hk maps).agrees cpu f

end

/-- The maps as a whole, where they are not looked up. -/
theorem follows_getMaps {α : Type} {maps : BpfMaps} {cs : List Lookup} {x : Task α}
    {k' : BpfMaps → Xdp α} (hx : ∀ maps, Follows maps cs x (k' maps)) :
    Follows maps cs x (getMaps >>= k') where
  along := (hx maps).along
  agrees := (hx maps).agrees

/-- A source filter that stops at the first condition. -/
theorem follows_filter {α : Type} {maps : BpfMaps} {cs : List Lookup} {b : Bool}
    {ip : BitVec 32} {k : Bool → Task α} {q : Bool → Xdp α}
    (hk : ∀ b maps, Follows maps cs (k b) (q b))
    (hpass : ∀ cs maps, Follows maps cs (k true) (q true)) :
    Follows maps (.localNetAndMask :: cs) ((pure b <||> isFromLocalNetwork ip) >>= k)
      (getMaps >>= fun maps => q (b || Ebpf.isFromLocalNetwork maps ip)) := by
  cases b with
  | true => exact follows_getMaps fun maps => hpass _ maps
  | false =>
    have h : Follows maps (.localNetAndMask :: cs)
        (lookup .localNetAndMask >>= fun v => k ((ip &&& (v &&& 0xffffffff#64).setWidth 32) ==
          (v >>> 32).setWidth 32))
        (getMaps >>= fun maps => q (false || Ebpf.isFromLocalNetwork maps ip)) :=
      follows_lookup fun maps => hk _ maps
    exact h

/-! ## The program -/

section
variable {e : Endian} {maps : BpfMaps}

theorem follows_tryForwardPacket (e : Endian) (maps : BpfMaps) :
    Follows maps [.gatewayMacAddress] (tryForwardPacket e) (Ebpf.tryForwardPacket e) := by
  refine follows_frame (frameOnly_ptrAtMut _ _) fun ethhdr => ?_
  refine follows_frame (frameOnly_ptrAtMut _ _) fun ipv4hdr => ?_
  refine follows_frame (frameOnly_ptrAtMut _ _) fun udphdr => ?_
  refine follows_frame (frameOnly_readU32 _ _) fun routerIpBe => ?_
  refine follows_frame (frameOnly_readU32 _ _) fun sourceIpBe => ?_
  refine follows_frame (frameOnly_ptrAtMut _ _) fun payload => ?_
  refine follows_frame (frameOnly_readU32 _ _) fun targetIpBe => ?_
  refine follows_frame (frameOnly_readU16 _ _) fun udpCsum => ?_
  refine follows_frame (frameOnly_readU32 _ _) fun old => ?_
  refine follows_frame (frameOnly_writeU32 _ _ _) fun _ => ?_
  refine follows_frame (frameOnly_readU32 _ _) fun old' => ?_
  refine follows_frame (frameOnly_writeU32 _ _ _) fun _ => ?_
  refine follows_frame (frameOnly_writeU32 _ _ _) fun _ => ?_
  refine follows_frame (frameOnly_readBytes _ _) fun mac => ?_
  refine follows_frame (frameOnly_writeBytes _ _) fun _ => ?_
  refine follows_lookup fun maps => ?_
  refine follows_frame (frameOnly_writeBytes _ _) fun _ => ?_
  refine follows_frame (frameOnly_readBytes _ _) fun hdr => ?_
  refine follows_frame (frameOnly_writeU16 _ _ _) fun _ => ?_
  exact follows_frame (frameOnly_writeU16 _ _ _) fun _ => follows_pure _

theorem follows_tryUdpRouter (e : Endian) (maps : BpfMaps) :
    Follows maps [.localNetAndMask, .gatewayMacAddress] (tryUdpRouter e) (Ebpf.tryUdpRouter e) := by
  refine follows_frame (frameOnly_ptrAtMut _ _) fun ethhdr => ?_
  refine follows_frame (frameOnly_readU16 _ _) fun etherType => ?_
  by_cases het : etherType ≠ EtherType.ipv4 e
  · rw [if_pos het, if_pos het]
    exact follows_pure _
  rw [if_neg het, if_neg het]
  refine follows_frame (frameOnly_ptrAtMut _ _) fun ipv4hdr => ?_
  refine follows_frame (frameOnly_readBytes _ _) fun proto => ?_
  by_cases hp : proto ≠ IpProto.udp
  · rw [if_pos hp, if_pos hp]
    exact follows_pure _
  rw [if_neg hp, if_neg hp]
  refine follows_frame (frameOnly_readU32 _ _) fun sourceIp => ?_
  refine follows_filter (k := fun b => if b then pure .pass else tryForwardPacket e)
    (q := fun b => if b then pure .pass else Ebpf.tryForwardPacket e) (fun b maps => ?_)
    fun cs maps => follows_pure _
  cases b with
  | true => exact follows_pure _
  | false => exact follows_tryForwardPacket e maps

theorem along_udpRouter (e : Endian) (f : Frame) :
    Along [.localNetAndMask, .gatewayMacAddress] (udpRouter e f) := by
  refine ((follows_tryUdpRouter e (.fresh 0)).along f).bind fun o cs => ?_
  rcases o with _ | ⟨_ | ret, g⟩
  · exact along_done _
  · exact along_done _
  · exact along_done _

/-- **While the maps stay as they are** the program does what `udpRouter` does. -/
theorem exec_udpRouter (e : Endian) (maps : BpfMaps) (f : Frame) :
    exec (answer maps) (udpRouter e f) () =
      (.ok (some (verdict maps f, output maps f)), ()) := by
  obtain ⟨o, ho, hrun⟩ := (follows_tryUdpRouter e maps).agrees 0 f
  have hend := udpRouter_run e 0 f maps
  rw [Ebpf.udpRouter, hrun] at hend
  rw [udpRouter, exec_bind, ho]
  rcases o with _ | ⟨_ | ret, g⟩
  · cases hend
  · simp only [Option.map_some, Option.some.injEq, Prod.mk.injEq, XdpContext.mk.injEq] at hend
    rw [← hend.1, ← hend.2.2.1]
    rfl
  · simp only [Option.map_some, Option.some.injEq, Prod.mk.injEq, XdpContext.mk.injEq] at hend
    rw [← hend.1, ← hend.2.2.1]
    rfl

/-! ## After some lookups -/

abbrev Trace : Type := List ((_ : Lookup) × BitVec 64)

variable {f : Frame} {tr : Trace} {p : Reading (Option (XdpAction × Frame))}

/-- The maps hold what was read. -/
def Holds (maps : BpfMaps) (tr : Trace) : Prop := ∀ x ∈ tr, x.2 = value maps x.1

theorem exec_of_after (ha : After (udpRouter e f) tr p) (hm : Holds maps tr) :
    exec (answer maps) p () = (.ok (some (verdict maps f, output maps f)), ()) := by
  have h : exec (answer maps) (udpRouter e f) = exec (answer maps) p := ha.exec hm
  rw [← h]
  exact exec_udpRouter e maps f

/-- **The result**, on any maps that hold what was read. -/
theorem result_of_after {r : Option (XdpAction × Frame)} (ha : After (udpRouter e f) tr (.done r))
    (hm : Holds maps tr) : r = some (verdict maps f, output maps f) :=
  Except.ok.inj (congrArg Prod.fst (exec_of_after ha hm))

/-- **The lookups**: of the local network, and then of the gateway. -/
theorem lookups_of_after (ha : After (udpRouter e f) tr p) : tr = [] ∨
    (∃ v, tr = [⟨.localNetAndMask, v⟩]) ∨
      ∃ v w, tr = [⟨.localNetAndMask, v⟩, ⟨.gatewayMacAddress, w⟩] := by
  obtain ⟨rest, hcs, -⟩ := (along_udpRouter e f).after ha
  match tr, hcs with
  | [], _ => exact .inl rfl
  | [⟨c, v⟩], hcs =>
    simp only [List.map_cons, List.map_nil, List.cons_append, List.cons.injEq] at hcs
    obtain ⟨rfl, -⟩ := hcs
    exact .inr (.inl ⟨v, rfl⟩)
  | [⟨c, v⟩, ⟨c', w⟩], hcs =>
    simp only [List.map_cons, List.map_nil, List.cons_append, List.cons.injEq] at hcs
    obtain ⟨rfl, rfl, -⟩ := hcs
    exact .inr (.inr ⟨v, w, rfl⟩)
  | _ :: _ :: _ :: _, hcs => simp at hcs

/-- There are such maps. -/
theorem exists_holds (ha : After (udpRouter e f) tr p) : ∃ maps, Holds maps tr := by
  rcases lookups_of_after ha with rfl | ⟨v, rfl⟩ | ⟨v, w, rfl⟩
  · exact ⟨.fresh 0, nofun⟩
  · refine ⟨{ BpfMaps.fresh 0 with localNetAndMask := .replicate 1 v }, fun x hx => ?_⟩
    rw [List.mem_singleton.1 hx]
    rfl
  · refine ⟨{ BpfMaps.fresh 0 with
      localNetAndMask := .replicate 1 v, gatewayMacAddress := .replicate 1 w }, fun x hx => ?_⟩
    rcases List.mem_cons.1 hx with rfl | hx
    · rfl
    · rw [List.mem_singleton.1 hx]
      rfl

/-- **What is left** is a further lookup or a result; the program neither panics nor leaves the
frame. -/
theorem after_cases (ha : After (udpRouter e f) tr p) :
    (∃ c k, p = .call c k) ∨ ∃ v g, p = .done (some (v, g)) := by
  obtain ⟨maps, hm⟩ := exists_holds ha
  cases p with
  | call c k => exact .inl ⟨c, k, rfl⟩
  | done r => exact .inr ⟨_, _, congrArg _ (result_of_after ha hm)⟩
  | panic message =>
    have h := congrArg Prod.fst (exec_of_after ha hm)
    cases h

end

end Ebpf.Lookups
