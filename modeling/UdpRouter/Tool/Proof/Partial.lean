import UdpRouter.Tool.Proof.Cidr
import UdpRouter.Tool.Proof.Mac
import UdpRouter.Tool.Proof.Session

/-!
# Some options given, others not

Each option is absent or well formed (`NetworkOption`, `GatewayOption`). An absent network is
parsed to a pair that is not sent, but an absent gateway is no address of six groups, and every
option is parsed before the first request: `partial_iff` says that the tool does what it should
exactly when the gateway is given.
-/

namespace Tool

open Bytes Ebpf Management Prefix Program Router Text Transition

/-! ## Options -/

/-- Absent, or a dotted quad, a slash and a decimal prefix length from 1 to 32; with the net and
the mask it stands for. -/
inductive NetworkOption : String → Option (BitVec 32 × BitVec 32) → Prop
  | absent : NetworkOption "" none
  | cidr (a b c d : BitVec 8) (len : List Char) :
      Numeral 10 len → 1 ≤ value 10 len → value 10 len ≤ 32 →
      NetworkOption (String.ofList (dottedQuad a b c d ++ '/' :: len))
        (some (a ++ b ++ c ++ d, mask 32 (value 10 len)))

/-- Absent, or six two-digit groups; with the number of the six bytes. -/
inductive GatewayOption : String → Option (BitVec 64) → Prop
  | absent : GatewayOption "" none
  | mac (bs : List Byte) (s : String) : bs.length = 6 → Spells bs s →
      GatewayOption s (some (BitVec.ofNat 64 (beNat bs)))

/-- The requests of the options that are given. -/
def optionRequests (l b : Option (BitVec 32 × BitVec 32)) (m : Option (BitVec 64)) : List Request :=
  (l.map fun x => .setLocalNetAndMask x.1 x.2).toList ++
    (b.map fun x => .setBackendNetAndMask x.1 x.2).toList ++ (m.map .setGatewayMacAddress).toList

/-- The value that an option gives its map. -/
def newValue (l b : Option (BitVec 32 × BitVec 32)) (m : Option (BitVec 64)) :
    Kind → Option (BitVec 64)
  | .localNet => l.map fun x => netAndMask x.1 x.2
  | .backendNet => b.map fun x => netAndMask x.1 x.2
  | .gatewayMac => m

/-! ## Parsing -/

theorem NetworkOption.parse {s : String} {o : Option (BitVec 32 × BitVec 32)}
    (h : NetworkOption s o) :
    ∃ r, parseIpMask s = .ok r ∧ s.isEmpty = o.isNone ∧ ∀ x, o = some x → x = r := by
  cases h with
  | absent => exact ⟨_, rfl, rfl, nofun⟩
  | cidr a b c d len hn h1 h32 =>
    have hu := unsigned_numeral hn
    have hp := parseIpMask_quad a b c d (by rwa [hu]) (by rw [hu]; omega)
    rw [hu, maskOf_eq _ h32, if_neg (by omega)] at hp
    exact ⟨_, hp, isEmpty_quad a b c d len, fun x hx => (Option.some.inj hx).symm⟩

theorem GatewayOption.parse {s : String} {o : Option (BitVec 64)} (h : GatewayOption s o)
    (hs : s ≠ "") : ∃ mac, parseMacAddress s = .ok mac ∧ o = some mac := by
  cases h with
  | absent => exact absurd rfl hs
  | mac bs s h6 hb => exact ⟨_, hb.parse h6, rfl⟩

/-- An absent gateway is not accepted. -/
theorem parseMacAddress_absent : parseMacAddress "" = .error "Invalid MAC address:  " := by
  decide

/-! ## The requests -/

theorem given_eq {α : Type} {s : String} {o : Option α} {r : α} (f : α → Request)
    (he : s.isEmpty = o.isNone) (hr : ∀ x, o = some x → x = r) :
    given s (f r) = (o.map f).toList := by
  rw [given, he]
  cases o with
  | none => rfl
  | some x => rw [hr x rfl]; rfl

theorem kindOf_optionRequests {l b : Option (BitVec 32 × BitVec 32)} {m : Option (BitVec 64)}
    {req : Request} (h : req ∈ optionRequests l b m) : kindOf req ≠ none := by
  simp only [optionRequests, List.mem_append, Option.mem_toList, Option.map_eq_some_iff] at h
  obtain (⟨x, -, rfl⟩ | ⟨x, -, rfl⟩) | ⟨x, -, rfl⟩ := h <;> nofun

/-- The written values of the requests' messages, which do not depend on the calls' names. -/
theorem filterMap_written (k : Kind) (l : List (Nat × Request)) :
    (l.map messageOf).filterMap (fun x => x.2.written k) =
      (l.map Prod.snd).filterMap fun req => (BpfActorHandle.message 0 req).written k := by
  rw [List.filterMap_map, List.filterMap_map]
  refine List.filterMap_congr fun x _ => ?_
  obtain ⟨call, req⟩ := x
  cases req <;> rfl

theorem filterMap_optionRequests (l b : Option (BitVec 32 × BitVec 32)) (m : Option (BitVec 64))
    (k : Kind) : ((optionRequests l b m).filterMap fun req =>
      (BpfActorHandle.message 0 req).written k) = (newValue l b m k).toList := by
  cases k <;> cases l <;> cases b <;> cases m <;> rfl

/-- The tool with these options, all of them accepted. -/
theorem sent_optionRequests {opt : Opt} {l b : Option (BitVec 32 × BitVec 32)}
    {m : Option (BitVec 64)} (hs : opt.stats = false) (hl : NetworkOption opt.setLocalNetAndMask l)
    (hb : NetworkOption opt.setBackendNetAndMask b) (hm : GatewayOption opt.setGatewayMacAddress m)
    (hne : opt.setGatewayMacAddress ≠ "") : sent opt = some (optionRequests l b m) := by
  obtain ⟨l', hpl, hle, hlr⟩ := hl.parse
  obtain ⟨b', hpb, hbe, hbr⟩ := hb.parse
  obtain ⟨mac, hpm, rfl⟩ := hm.parse hne
  refine (sent_iff hs).2 ⟨l', b', mac, hpl, hpb, hpm, ?_⟩
  have hme : opt.setGatewayMacAddress.isEmpty = (some mac).isNone := by simpa using hne
  rw [given_eq (fun x => .setLocalNetAndMask x.1 x.2) hle hlr,
    given_eq (fun x => .setBackendNetAndMask x.1 x.2) hbe hbr,
    given_eq .setGatewayMacAddress hme fun x hx => (Option.some.inj hx).symm]
  rfl

/-! ## Reconfiguration -/

/-- What the tool is for. It finishes with one request for each option that is given, alone and in a
session with the router process. In every session that starts and ends with an empty queue, these
requests are the tool's calls, and the maps of these options get their values while the others keep
theirs. -/
structure Reconfigures (opt : Opt) (l b : Option (BitVec 32 × BitVec 32))
    (m : Option (BitVec 64)) : Prop where
  sends : sent opt = some (optionRequests l b m)
  finishes : ∀ e cap t, 0 < cap → t.phase = .receiving → t.box = .empty →
    ∃ evs s, Run (SessionStep e cap) (.running (settle (main opt)), t) evs
      (.running (.done (.ok ())), s) ∧ s.box = .empty
  drained : ∀ e cap cpus evs₀ t evs r s, Run (Router.Step e cap) (.init cpus) evs₀ t →
    t.box = .empty →
    Run (SessionStep e cap) (.running (settle (main opt)), t) evs (.running (.done r), s) →
    s.box = .empty → requests evs = optionRequests l b m ∧
      ∀ k, entry s.maps k = (newValue l b m k).getD (entry t.maps k)

theorem exec_of_sent {opt : Opt} {reqs : List Request} (h : sent opt = some reqs) :
    exec record (main opt) [] = (.ok (.ok ()), reqs) := by
  unfold sent at h
  split at h
  · rename_i log he
    rw [he, Option.some.inj h]
  · cases h

/-- A drained session has written what the tool sends. -/
theorem reconfigures_of_sent {opt : Opt} {l b : Option (BitVec 32 × BitVec 32)}
    {m : Option (BitVec 64)} (h : sent opt = some (optionRequests l b m)) :
    Reconfigures opt l b m := by
  have hexec := exec_of_sent h
  have hset : ∀ req ∈ (exec record (main opt) []).2, kindOf req ≠ none := by
    rw [hexec]
    exact fun req => kindOf_optionRequests
  refine ⟨h, fun e cap t hcap hphase ht => session_finishes hcap hexec
    (fun req => kindOf_optionRequests) hphase ht, fun e cap cpus evs₀ t evs r s h₀ ht hrun hs => ?_⟩
  have hreqs : requests evs = optionRequests l b m := by
    have := issued_of_finished h₀ hset hrun
    rw [hexec] at this
    exact (Prod.mk.inj this).2.symm
  refine ⟨hreqs, fun k => ?_⟩
  have hr := router_run hrun
  obtain ⟨happ, hperm⟩ := handled_of_drained h₀ hr ht hs
  have hw := hperm.filterMap fun x => x.2.written k
  rw [filterMap_written, ← requests, hreqs, filterMap_optionRequests] at hw
  rw [(invariant h₀).maps, (invariant (h₀.trans hr)).maps, happ, entry_configured,
    entry_configured, lastWritten, lastWritten, List.filterMap_append]
  cases hv : newValue l b m k with
  | none =>
    rw [hv] at hw
    rw [hw.eq_nil, List.append_nil]
    rfl
  | some v =>
    rw [hv] at hw
    rw [List.perm_singleton.1 hw]
    simp

/-- **When a partial configuration succeeds**: exactly when the gateway's address is given. -/
theorem partial_iff (opt : Opt) (l b : Option (BitVec 32 × BitVec 32)) (m : Option (BitVec 64))
    (hs : opt.stats = false) (hl : NetworkOption opt.setLocalNetAndMask l)
    (hb : NetworkOption opt.setBackendNetAndMask b)
    (hm : GatewayOption opt.setGatewayMacAddress m) :
    Reconfigures opt l b m ↔ opt.setGatewayMacAddress ≠ "" := by
  refine ⟨fun h he => ?_, fun hne => reconfigures_of_sent (sent_optionRequests hs hl hb hm hne)⟩
  obtain ⟨_, _, mac, -, -, hp, -⟩ := (sent_iff hs).1 h.sends
  rw [he, parseMacAddress_absent] at hp
  cases hp

theorem localNet_option : NetworkOption "10.0.2.0/24" (some (0x0a000200, 0xffffff00)) :=
  .cidr 10 0 2 0 "24".toList (by decide) (by decide) (by decide)

theorem gateway_option : GatewayOption "02:00:00:00:00:01" (some 0x020000000001) := by
  have hz : IsHexPair 0 "00".toList := ⟨'0', '0', .inl rfl, .inl rfl, rfl⟩
  exact .mac [2, 0, 0, 0, 0, 1] _ rfl ⟨["02".toList, "00".toList, "00".toList, "00".toList,
    "00".toList, "01".toList], .cons ⟨'0', '2', .inl rfl, .inl rfl, rfl⟩ (.cons hz (.cons hz
      (.cons hz (.cons hz (.cons ⟨'0', '1', .inl rfl, .inl rfl, rfl⟩ .nil))))), rfl⟩

theorem partial_iff_example : Reconfigures
    { setLocalNetAndMask := "10.0.2.0/24", setGatewayMacAddress := "02:00:00:00:00:01" }
    (some (0x0a000200, 0xffffff00)) none (some 0x020000000001) :=
  (partial_iff { setLocalNetAndMask := "10.0.2.0/24", setGatewayMacAddress := "02:00:00:00:00:01" }
    _ _ _ rfl localNet_option .absent gateway_option).2 (by decide)

/-- Only the local network is to be changed. -/
def localOnlyOpt : Opt where
  setLocalNetAndMask := "10.0.2.0/24"
  setGatewayMacAddress := ""

/-- The tool aborts without a request. -/
theorem partial_counterexample :
    NetworkOption localOnlyOpt.setLocalNetAndMask (some (0x0a000200, 0xffffff00)) ∧
    NetworkOption localOnlyOpt.setBackendNetAndMask none ∧
    GatewayOption localOnlyOpt.setGatewayMacAddress none ∧
    exec record (main localOnlyOpt) [] = (.error "Invalid MAC address:  ", []) := by
  refine ⟨localNet_option, .absent, .absent, ?_⟩
  rw [exec_main rfl]
  rfl

end Tool
