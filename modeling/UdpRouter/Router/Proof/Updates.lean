import UdpRouter.Ebpf.Proof.Reach
import UdpRouter.Router.Proof.Invariant

/-!
# Configuration updates

Over every run: a packet finds whole values (`packet_whole`), calls in sequence take effect in
sequence (`not_handled_before`), and once a message has been handled its value or a later one is in
force (`packet_in_force`).
-/

namespace Router

open Bytes Ebpf Management Mailbox Transition Wire

/-! ## Values and requests -/

theorem kind_of_written {k : Kind} {call : Nat} {r : Request} {v : BitVec 64}
    (h : (BpfActorHandle.message call r).written k = some v) :
    (BpfActorHandle.message call r).write = some (k, v) := by
  unfold BpfActorMessage.written at h
  cases hw : (BpfActorHandle.message call r).write with
  | none =>
    rw [hw] at h
    cases h
  | some p =>
    rw [hw] at h
    simp only [Option.ite_none_right_eq_some, Option.some.injEq] at h
    rw [← h.1, ← h.2]

/-- A Set request's message writes the map of its kind. -/
theorem written_of_kind (call : Nat) {r : Request} {k : Kind} (h : kindOf r = some k) :
    ∃ v, (BpfActorHandle.message call r).written k = some v := by
  rw [← write_message call, Option.map_eq_some_iff] at h
  obtain ⟨⟨k', v⟩, hw, rfl⟩ := h
  exact ⟨v, by simp [BpfActorMessage.written, hw]⟩

/-- A written entry comes from one request. -/
theorem Invariant.request_of_written {cpus cap : Nat} {evs : List Event} {s : State}
    (h : Invariant cpus cap evs s) {k : Kind} {v : BitVec 64}
    (hv : lastWritten k (handled evs) = some v) :
    ∃ call r, .issue call r ∈ evs ∧ (BpfActorHandle.message call r).write = some (k, v) := by
  obtain ⟨x, hx, hw⟩ := exists_of_lastWritten hv
  obtain ⟨call, r, hi, rfl⟩ := h.issued_of_handled hx
  exact ⟨call, r, hi, kind_of_written hw⟩

/-- The value in force is that of one request, or the initial one. -/
theorem Invariant.in_force {cpus cap : Nat} {evs : List Event} {s : State}
    (h : Invariant cpus cap evs s) {k : Kind} (z : Request)
    (hz : (BpfActorHandle.message 0 z).write = some (k, 0)) :
    ∃ r, (r = z ∨ ∃ call, .issue call r ∈ evs) ∧ kindOf r = some k ∧
      InForce (configured cpus (handled evs)) r := by
  have he := entry_configured cpus (handled evs) k
  cases hv : lastWritten k (handled evs) with
  | none =>
    rw [hv] at he
    have hk := write_message 0 z
    rw [hz] at hk
    exact ⟨z, .inl rfl, hk.symm, inForce_of_entry 0 hz he⟩
  | some v =>
    rw [hv] at he
    obtain ⟨call, r, hi, hw⟩ := h.request_of_written hv
    have hk := write_message call r
    rw [hw] at hk
    exact ⟨r, .inr ⟨call, hi⟩, hk.symm, inForce_of_entry call hw he⟩

/-- A packet's local network is the initial pair or that of one request. -/
theorem Invariant.local_whole {cpus cap : Nat} {evs : List Event} {s : State}
    (h : Invariant cpus cap evs s) : ∃ net mask,
      (net = 0 ∧ mask = 0 ∨ ∃ call, .issue call (.setLocalNetAndMask net mask) ∈ evs) ∧
        InForce (configured cpus (handled evs)) (.setLocalNetAndMask net mask) := by
  obtain ⟨r, hr, hk, hf⟩ := h.in_force (k := .localNet) (.setLocalNetAndMask 0 0) rfl
  cases r with
  | setLocalNetAndMask net mask => exact ⟨net, mask, hr.imp_left Request.setLocalNetAndMask.inj, hf⟩
  | _ => cases hk

theorem Invariant.backend_whole {cpus cap : Nat} {evs : List Event} {s : State}
    (h : Invariant cpus cap evs s) : ∃ net mask,
      (net = 0 ∧ mask = 0 ∨ ∃ call, .issue call (.setBackendNetAndMask net mask) ∈ evs) ∧
        InForce (configured cpus (handled evs)) (.setBackendNetAndMask net mask) := by
  obtain ⟨r, hr, hk, hf⟩ := h.in_force (k := .backendNet) (.setBackendNetAndMask 0 0) rfl
  cases r with
  | setBackendNetAndMask net mask =>
    exact ⟨net, mask, hr.imp_left Request.setBackendNetAndMask.inj, hf⟩
  | _ => cases hk

/-- **A forwarded frame is addressed** with the last value handled. -/
theorem dstMac_of_tx {e : Endian} {cap cpus cpu : Nat} {pre post : List Event} {s : State}
    {maps : BpfMaps} {f g : Frame} {mac : BitVec 64}
    (h : Run (Step e cap) (.init cpus) (pre ++ .packet cpu maps f .tx g :: post) s)
    (hl : lastWritten .gatewayMac (handled pre) = some mac) :
    bytesAt g 0 6 = bytesAt (toBeBytes (n := 8) mac) 2 6 := by
  obtain ⟨rfl, hv, rfl⟩ := packet_of_run h
  have he := entry_configured cpus (handled pre) .gatewayMac
  rw [hl] at he
  have hin : InForce (configured cpus (handled pre)) (.setGatewayMacAddress mac) :=
    inForce_of_entry 0 rfl he
  rw [output_of_tx hv.symm, bytesAt_forwarded_dstMac _ (length_of_tx hv.symm)]
  exact hin

/-- Once a message for the gateway has been handled, the address in force is that of one. -/
theorem gateway_configured (cpus : Nat) {msgs : List (Nat × BpfActorMessage)}
    (h : ∃ call mac, (call, .setGatewayMacAddress mac) ∈ msgs) :
    ∃ call mac, (call, .setGatewayMacAddress mac) ∈ msgs ∧
      getGatewayMacAddress (configured cpus msgs) = bytesAt (toBeBytes (n := 8) mac) 2 6 := by
  obtain ⟨call₀, mac₀, hm₀⟩ := h
  obtain ⟨⟨call, msg⟩, v, hw, hl, ho⟩ := lastWritten_of_mem (k := .gatewayMac) hm₀ rfl
  have hm : (call, msg) ∈ msgs := by
    rcases ho with ho | ho
    · exact ho ▸ hm₀
    · exact ho.subset (by simp)
  have he := entry_configured cpus msgs .gatewayMac
  rw [hl] at he
  cases msg with
  | setGatewayMacAddress mac =>
    obtain rfl : mac = v := Option.some.inj hw
    have hin : InForce (configured cpus msgs) (.setGatewayMacAddress mac) :=
      inForce_of_entry 0 rfl he
    exact ⟨call, mac, hm, hin⟩
  | _ => cases hw

/-! ## Order -/

section
variable {e : Endian} {cap cpus : Nat} {s : State}

theorem enqueued_append (evs evs' : List Event) :
    enqueued (evs ++ evs') = enqueued evs ++ enqueued evs' := by
  simp only [enqueued, Mailbox.enqueued, ops, List.filterMap_append]

/-- A call issued after another one returned is handled after it. -/
theorem not_handled_before {p₁ p₂ p₃ : List Event} {i j : Nat} {ri rj : Request} {res : Response}
    (h : Run (Step e cap) (.init cpus)
      (p₁ ++ .ret i res :: (p₂ ++ .issue j rj :: p₃)) s) (hi : .issue i ri ∈ p₁) :
    ¬ [messageOf (j, rj), messageOf (i, ri)].Sublist
      (handled (p₁ ++ .ret i res :: (p₂ ++ .issue j rj :: p₃))) := by
  have hI := invariant h
  have hmi := enqueued_of_ret h hi
  intro hsub
  have hsub' := hsub.trans hI.history.taken_sublist
  have hmj : messageOf (j, rj) ∈ enqueued (p₁ ++ .ret i res :: (p₂ ++ .issue j rj :: p₃)) :=
    hsub'.subset List.mem_cons_self
  rw [enqueued_append] at hmj
  rcases List.mem_append.1 hmj with hm | hm
  · -- the later call's name is new
    obtain ⟨t, t', hr, hst, hrest⟩ := h.cut
    have hp := (invariant hr).history.posted_of_enqueued hm
    rw [(invariant hr).posted] at hp
    obtain ⟨⟨j', r'⟩, hj, he⟩ := List.mem_map.1 hp
    obtain rfl : j' = j := congrArg Prod.fst he
    have hn := hI.nodup_calls
    have hj2 : j' ∈ (issued (.ret i res :: (p₂ ++ .issue j' rj :: p₃))).map Prod.fst :=
      List.mem_map.2 ⟨(j', rj), mem_issued.2 (by simp), rfl⟩
    rw [show issued (p₁ ++ .ret i res :: (p₂ ++ .issue j' rj :: p₃)) = issued p₁ ++
      issued (.ret i res :: (p₂ ++ .issue j' rj :: p₃)) from List.filterMap_append, List.map_append,
      List.nodup_append] at hn
    exact hn.2.2 j' (List.mem_map.2 ⟨_, hj, rfl⟩) j' hj2 rfl
  · refine not_sublist_swap hI.nodup_enqueued ?_ hsub'
    rw [enqueued_append]
    exact (List.singleton_sublist.2 hmi).append (List.singleton_sublist.2 hm)

end

/-! ## A small run -/

def localSet : Request := .setLocalNetAndMask 0x0a000200 0xffffff00

/-- The call returned while its message waits for the actor. -/
def acknowledged : State := ⟨.attached, .fresh 1, ⟨[], [messageOf (0, localSet)]⟩, [], [], 1⟩

def acknowledgedEvents : List Event :=
  [.issue 0 localSet, .enqueue 0 (messageOf (0, localSet)).2, .ret 0 .empty, .attach]

theorem acknowledged_run :
    Run (Step .little channelCapacity) (.init 1) acknowledgedEvents acknowledged :=
  (call_run (by decide) rfl).trans
    (.cons (.ret (r := localSet) List.mem_cons_self nofun rfl) (.single (.attach rfl)))

/-- The local network is configured, the gateway is not. -/
def localMaps : BpfMaps := setEntry (.fresh 1) 0x0a000200ffffff00 .localNet

def handledState : State := ⟨.receiving, localMaps, ⟨[], []⟩, [], [], 1⟩

theorem handled_run : Run (Step .little channelCapacity) (.init 1)
    (acknowledgedEvents ++ [.start, .handle 0 (messageOf (0, localSet)).2 none,
      .packet 0 localMaps clientFrame .tx (forwarded localMaps clientFrame)])
    handledState := by
  have hv : verdict localMaps clientFrame = .tx := verdict_probe _ (by decide)
  exact acknowledged_run.trans (.cons (.start rfl) (.cons (.handle rfl (.take rfl) rfl)
    (.single (.packet_tx (s := handledState) (by decide) 0 hv))))

/-! ## One packet -/

section
variable {e : Endian} {cap cpus cpu : Nat} {pre post : List Event} {s : State} {maps : BpfMaps}
  {f g : Frame} {v : XdpAction}

/-- **Whole values**: for either network a packet finds the initial pair or that of one request. -/
theorem packet_whole
    (h : Run (Step e cap) (.init cpus) (pre ++ .packet cpu maps f v g :: post) s) :
    v = verdict maps f ∧
    (∃ net mask, (net = 0 ∧ mask = 0 ∨ ∃ call, .issue call (.setLocalNetAndMask net mask) ∈ pre) ∧
      InForce maps (.setLocalNetAndMask net mask)) ∧
    (∃ net mask,
      (net = 0 ∧ mask = 0 ∨ ∃ call, .issue call (.setBackendNetAndMask net mask) ∈ pre) ∧
      InForce maps (.setBackendNetAndMask net mask)) := by
  obtain ⟨rfl, hv, -⟩ := packet_of_run h
  obtain ⟨t, t', hr, -, -⟩ := h.cut
  exact ⟨hv, (invariant hr).local_whole, (invariant hr).backend_whole⟩

/-- **A handled update** is in force for a packet, or one of its kind enqueued after it. -/
theorem packet_in_force
    (h : Run (Step e cap) (.init cpus) (pre ++ .packet cpu maps f v g :: post) s) {call : Nat}
    {r : Request} {k : Kind} (hk : kindOf r = some k) (hm : messageOf (call, r) ∈ handled pre) :
    v = verdict maps f ∧ g = output maps f ∧
      ∃ call' r', .issue call' r' ∈ pre ∧ kindOf r' = some k ∧ InForce maps r' ∧
        (messageOf (call', r') = messageOf (call, r) ∨
          [messageOf (call, r), messageOf (call', r')].Sublist (enqueued pre)) := by
  obtain ⟨rfl, hv, hg⟩ := packet_of_run h
  obtain ⟨t, t', hr, -, -⟩ := h.cut
  have hI := invariant hr
  obtain ⟨v₀, hw₀⟩ := written_of_kind call hk
  obtain ⟨y, w, hy, hlast, ho⟩ := lastWritten_of_mem hm hw₀
  have hmem : y ∈ handled pre := by
    rcases ho with rfl | hsub
    · exact hm
    · exact hsub.subset (by simp)
  obtain ⟨call', r', hi', rfl⟩ := hI.issued_of_handled hmem
  have hw := kind_of_written hy
  have hentry := entry_configured cpus (handled pre) k
  rw [hlast] at hentry
  have hkind := write_message call' r'
  rw [hw] at hkind
  exact ⟨hv, hg, call', r', hi', hkind.symm, inForce_of_entry call' hw hentry,
    ho.imp_right fun hsub => hsub.trans hI.history.taken_sublist⟩

end

end Router
