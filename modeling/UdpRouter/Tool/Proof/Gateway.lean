import UdpRouter.Router.Proof.Updates
import UdpRouter.Tool.Proof.Session

/-!
# Forwarding and the gateway's address

With the unset local network every source is local, so nothing is forwarded before the tool's
first message is handled (`not_tx_of_unset`); from then until the gateway's message is handled,
which the tool sends last, a forwarded frame goes to the unset address. `gateway_iff` is the exact
condition, `gateway_counterexample` a run of the tool that breaks it.
-/

namespace Tool

open Bytes Ebpf Management Mailbox Router Transition Wire

/-! ## Unset maps -/

/-- The unset local network contains every source. -/
theorem not_tx_of_unset {maps : BpfMaps} (h : entry maps .localNet = 0) (f : Frame) :
    verdict maps f ≠ .tx := by
  intro hv
  exact (rejects_all_iff maps).2 h _ ((verdict_eq_tx_iff maps f).1 hv).2.2.2

section
variable {e : Endian} {cap cpus : Nat} {pre post : List Event} {s : State} {cpu : Nat}
  {maps : BpfMaps} {f g : Frame}

/-- A forwarded frame follows a message for the local network. -/
theorem local_handled_of_tx
    (h : Run (Router.Step e cap) (.init cpus) (pre ++ .packet cpu maps f .tx g :: post) s) :
    ∃ call net mask, (call, .setLocalNetAndMask net mask) ∈ handled pre := by
  obtain ⟨rfl, hv, -⟩ := packet_of_run h
  cases hl : lastWritten .localNet (handled pre) with
  | none =>
    have he := entry_configured cpus (handled pre) .localNet
    rw [hl] at he
    exact absurd hv.symm (not_tx_of_unset he f)
  | some v =>
    obtain ⟨⟨call, msg⟩, hx, hw⟩ := exists_of_lastWritten hl
    cases msg with
    | setLocalNetAndMask net mask => exact ⟨call, net, mask, hx⟩
    | _ => cases hw

/-- After a message for the gateway, forwarded frames carry the value of one. -/
theorem gateway_of_tx
    (h : Run (Router.Step e cap) (.init cpus) (pre ++ .packet cpu maps f .tx g :: post) s)
    (hg : ∃ call mac, (call, .setGatewayMacAddress mac) ∈ handled pre) :
    ∃ call mac, (call, .setGatewayMacAddress mac) ∈ handled pre ∧
      bytesAt g 0 6 = bytesAt (toBeBytes (n := 8) mac) 2 6 := by
  obtain ⟨rfl, hv, rfl⟩ := packet_of_run h
  obtain ⟨call, mac, hm, hmac⟩ := gateway_configured cpus hg
  refine ⟨call, mac, hm, ?_⟩
  rw [output_of_tx hv.symm, bytesAt_forwarded_dstMac _ (length_of_tx hv.symm)]
  exact hmac

end

/-! ## The tool's runs -/

/-- The first call of a tool that is given a local network. -/
theorem settle_main {opt : Opt} {l b : BitVec 32 × BitVec 32} {mac : BitVec 64}
    (hs : opt.stats = false) (hl : parseIpMask opt.setLocalNetAndMask = .ok l)
    (hb : parseIpMask opt.setBackendNetAndMask = .ok b)
    (hm : parseMacAddress opt.setGatewayMacAddress = .ok mac)
    (hne : opt.setLocalNetAndMask.isEmpty = false) :
    ∃ k, settle (main opt) = .call (.rpc (.setLocalNetAndMask l.1 l.2)) k := by
  rw [main, hl, hb, hm, hs]
  simp only [setOption, hne]
  exact ⟨_, rfl⟩

/-- **When the gateway is configured.** In a run of the tool, every forwarded frame carries the
address of a handled message exactly when every frame processed between the local network's message
and the gateway's is stopped by a check of the program. -/
theorem gateway_iff (e : Endian) (cap cpus : Nat) (opt : Opt) (evs : List Event) (c : Client)
    (s : State) (h : Run (SessionStep e cap) (Session.init opt cpus) evs (c, s)) :
    (∀ pre cpu maps f g post, evs = pre ++ .packet cpu maps f .tx g :: post →
      ∃ call mac, (call, .setGatewayMacAddress mac) ∈ handled pre ∧
        bytesAt g 0 6 = bytesAt (toBeBytes (n := 8) mac) 2 6) ↔
    (∀ pre cpu maps f v g post, evs = pre ++ .packet cpu maps f v g :: post →
      (∃ call net mask, (call, .setLocalNetAndMask net mask) ∈ handled pre) →
      (∀ call mac, (call, .setGatewayMacAddress mac) ∉ handled pre) → Stopped maps f) := by
  have hr := router_run h
  constructor
  · intro hp pre cpu maps f v g post he _ hg
    subst he
    rw [stopped_iff]
    intro hv
    obtain ⟨-, rfl, -⟩ := packet_of_run hr
    rw [hv] at hp
    obtain ⟨call, mac, hm, -⟩ := hp pre cpu maps f g post rfl
    exact hg call mac hm
  · intro hp pre cpu maps f g post he
    subst he
    refine gateway_of_tx hr ?_
    by_contra hn
    simp only [not_exists] at hn
    have hs := hp pre cpu maps f .tx g post rfl (local_handled_of_tx hr) hn
    exact (stopped_iff maps f).1 hs (packet_of_run hr).2.1.symm

/-- The README's configuration. -/
def readmeOpt : Opt where
  setLocalNetAndMask := "10.0.2.0/24"
  setBackendNetAndMask := "10.0.3.0/24"
  setGatewayMacAddress := "02:00:00:00:00:01"

def earlyEvents : List Event :=
  [.attach, .start, .issue 0 localSet, .enqueue 0 (messageOf (0, localSet)).2,
    .handle 0 (messageOf (0, localSet)).2 none]

theorem early_run : ∃ c s, Run (SessionStep .little channelCapacity) (Session.init readmeOpt 1)
    (earlyEvents ++ [.packet 0 localMaps clientFrame .tx (forwarded localMaps clientFrame)])
    (c, s) := by
  have hl : parseIpMask readmeOpt.setLocalNetAndMask = .ok (0x0a000200, 0xffffff00) := by
    decide +kernel
  have hb : parseIpMask readmeOpt.setBackendNetAndMask = .ok (0x0a000300, 0xffffff00) := by
    decide +kernel
  have hm : parseMacAddress readmeOpt.setGatewayMacAddress = .ok 0x020000000001 := by
    decide +kernel
  obtain ⟨k, hk⟩ := settle_main rfl hl hb hm (by decide +kernel)
  have hv : verdict localMaps clientFrame = .tx := verdict_probe _ (by decide)
  have hp : Router.Step .little channelCapacity
      ⟨.receiving, localMaps, ⟨[], []⟩, [(0, localSet)], [], 1⟩
      (.packet 0 localMaps clientFrame .tx (forwarded localMaps clientFrame)) _ :=
    .packet_tx (by decide) 0 hv
  rw [Session.init, hk]
  exact ⟨.awaiting 0 k, _, .cons (.other rfl (.attach rfl)) (.cons (.other rfl (.start rfl))
    (.cons (.issue (.issue .post)) (.cons (.other rfl (.enqueue (.enqueue (.refl _) (by decide))))
      (.cons (.other rfl (.handle rfl (.take rfl) rfl)) (.single (.other rfl hp))))))⟩

theorem gateway_iff_example : ¬ ∀ pre cpu maps f v g post,
    earlyEvents ++ [.packet 0 localMaps clientFrame .tx (forwarded localMaps clientFrame)] =
      pre ++ .packet cpu maps f v g :: post →
    (∃ call net mask, (call, .setLocalNetAndMask net mask) ∈ handled pre) →
    (∀ call mac, (call, .setGatewayMacAddress mac) ∉ handled pre) → Stopped maps f := by
  obtain ⟨c, s, hr⟩ := early_run
  rw [← gateway_iff .little channelCapacity 1 readmeOpt _ c s hr]
  intro h
  obtain ⟨call, mac, hm, -⟩ := h earlyEvents 0 _ _ _ [] rfl
  simp [handled, ops, earlyEvents, Event.op, taken, Op.taken, messageOf, localSet,
    BpfActorHandle.message] at hm

/-- A frame is sent to the unset address while the tool still configures. -/
theorem gateway_counterexample :
    (∃ c s, Run (SessionStep .little channelCapacity) (Session.init readmeOpt 1)
      (earlyEvents ++ [.packet 0 localMaps clientFrame .tx (forwarded localMaps clientFrame)])
      (c, s)) ∧
    (∀ call mac, (call, .setGatewayMacAddress mac) ∉ handled earlyEvents) ∧
    bytesAt (forwarded localMaps clientFrame) 0 6 = [0, 0, 0, 0, 0, 0] := by
  refine ⟨early_run, fun call mac hm => ?_, by decide +kernel⟩
  simp [handled, ops, earlyEvents, Event.op, taken, Op.taken, messageOf, localSet,
    BpfActorHandle.message] at hm

end Tool
