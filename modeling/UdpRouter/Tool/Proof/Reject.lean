import UdpRouter.Tool.Proof.Cidr
import UdpRouter.Tool.Proof.Mac

/-!
# Malformed networks

The tool in any environment: what it calls and how it ends (`ready_or_stopped`, `main_stats`,
`main_sets`). Its parsers stop it before the first request, but they accept a sign and a prefix
length above 32: `reject_iff` says exactly when a malformed network is rejected.
-/

namespace Tool

open Bytes Ebpf Management Program Router Text

/-- A dotted quad, a slash and a decimal prefix length from 0 to 32. -/
def IsNetwork (s : String) : Prop :=
  ∃ a b c d len, s = String.ofList (dottedQuad a b c d ++ '/' :: len) ∧
    Numeral 10 len ∧ value 10 len ≤ 32

/-- Given, but no network. -/
def Malformed (s : String) : Prop := s ≠ "" ∧ ¬ IsNetwork s

/-- Six groups of a byte each. -/
def IsAddress (s : String) : Prop := (groups s).length = 6 ∧ ∀ g ∈ groups s, IsGroup g

/-- The requests among the calls. -/
def rpcs (cs : List Effect) : List Request :=
  cs.filterMap fun c => match c with
    | .rpc req => some req
    | _ => none

def url (opt : Opt) : String := "http://" ++ opt.host ++ ":" ++ toString opt.port.toNat

section
variable {σ : Type} (h : (c : Effect) → σ → Reply c × σ) (s : σ) (opt : Opt)

/-- The tool ends without success and without a Set request, and every map keeps its value. -/
structure Rejects : Prop where
  aborts : (exec h (main opt) s).1 ≠ .ok (.ok ())
  quiet : ∀ req ∈ rpcs (calls h (main opt) s), kindOf req = none
  unchanged : ∀ maps, configure maps (rpcs (calls h (main opt) s)) = some maps

/-- The tool cannot go on: it does not connect, it cannot read an option, or it is asked for the
statistics and does not get them. -/
inductive Stops : Prop
  | connect (err : String) : (h (.connect (url opt)) s).1 = .error err → Stops
  | localNet : opt.setLocalNetAndMask ≠ "" → ¬ Readable opt.setLocalNetAndMask → Stops
  | backendNet : opt.setBackendNetAndMask ≠ "" → ¬ Readable opt.setBackendNetAndMask → Stops
  | gateway : ¬ IsAddress opt.setGatewayMacAddress → Stops
  | stats (err : String) : opt.stats = true →
      (h (.rpc .getStats) (h (.connect (url opt)) s).2).1 = .error err → Stops

end

/-! ## Options -/

theorem parseIpMask_error_iff {s : String} :
    (∃ message, parseIpMask s = .error message) ↔ s ≠ "" ∧ ¬ Readable s := by
  rw [exists_error_iff, parseIpMask_ok_iff, String.isEmpty_iff, not_or]

theorem parseMacAddress_error_iff {s : String} :
    (∃ message, parseMacAddress s = .error message) ↔ ¬ IsAddress s := by
  rw [exists_error_iff]
  refine not_congr ⟨fun ⟨mac, h⟩ => ?_, fun h => ⟨_, parseMacAddress_ok_iff.2 ⟨h.1, h.2, rfl⟩⟩⟩
  obtain ⟨h6, hg, -⟩ := parseMacAddress_ok_iff.1 h
  exact ⟨h6, hg⟩

/-! ## The tool in an environment -/

section
variable {σ : Type} {h : (c : Effect) → σ → Reply c × σ} {s : σ} {opt : Opt}
  {l b : BitVec 32 × BitVec 32} {mac : BitVec 64}

/-- The tool is connected and has read its options. -/
structure Ready (h : (c : Effect) → σ → Reply c × σ) (s : σ) (opt : Opt)
    (l b : BitVec 32 × BitVec 32) (mac : BitVec 64) : Prop where
  connected : (h (.connect (url opt)) s).1 = .ok ()
  localNet : parseIpMask opt.setLocalNetAndMask = .ok l
  backendNet : parseIpMask opt.setBackendNetAndMask = .ok b
  gateway : parseMacAddress opt.setGatewayMacAddress = .ok mac

/-- **Ready or stopped.** A tool that does not get ready ends without a request. -/
theorem ready_or_stopped (h : (c : Effect) → σ → Reply c × σ) (s : σ) (opt : Opt) :
    (∃ l b mac, Ready h s opt l b mac) ∨
      Stops h s opt ∧ (exec h (main opt) s).1 ≠ .ok (.ok ()) ∧
        calls h (main opt) s = [.connect (url opt)] := by
  rw [main, ← url, exec_connect_bind, calls_connect_bind]
  cases hc : (h (.connect (url opt)) s).1 with
  | error err => exact .inr ⟨.connect err hc, fun he => (by cases he), rfl⟩
  | ok _ =>
    cases hl : parseIpMask opt.setLocalNetAndMask with
    | error message =>
      obtain ⟨hne, hr⟩ := parseIpMask_error_iff.1 ⟨message, hl⟩
      exact .inr ⟨.localNet hne hr, fun he => (by cases he), rfl⟩
    | ok l =>
      cases hb : parseIpMask opt.setBackendNetAndMask with
      | error message =>
        obtain ⟨hne, hr⟩ := parseIpMask_error_iff.1 ⟨message, hb⟩
        exact .inr ⟨.backendNet hne hr, fun he => (by cases he), rfl⟩
      | ok b =>
        cases hm : parseMacAddress opt.setGatewayMacAddress with
        | error message =>
          have hn := parseMacAddress_error_iff.1 ⟨message, hm⟩
          exact .inr ⟨.gateway hn, fun he => (by cases he), rfl⟩
        | ok mac => exact .inl ⟨l, b, mac, hc, hl, hb, hm⟩

/-- With `--stats` the tool asks for the statistics and sets nothing. -/
theorem main_stats {r : Except String Response} (hrdy : Ready h s opt l b mac)
    (hs : opt.stats = true) (hr : (h (.rpc .getStats) (h (.connect (url opt)) s).2).1 = r) :
    ((exec h (main opt) s).1 = .ok (.ok ()) ↔ ∃ res, r = .ok res) ∧
      rpcs (calls h (main opt) s) = [.getStats] := by
  rw [main, ← url, exec_connect_bind, calls_connect_bind, hrdy.connected, hrdy.localNet,
    hrdy.backendNet, hrdy.gateway]
  simp only [ofExcept_ok_bind, hs, if_true]
  rw [exec_rpc_bind, calls_rpc_bind, hr]
  cases r with
  | error err => exact ⟨iff_of_false (fun he => by cases he) (by simp), rfl⟩
  | ok res => exact ⟨⟨fun _ => ⟨res, rfl⟩, fun _ => rfl⟩, rfl⟩

theorem rpc_mem_setOption {α : Type} {o : String} (ho : o ≠ "") (req : Request)
    (f : Unit → Process α) : .rpc req ∈ calls h (setOption o req >>= f) s := by
  refine (prefix_calls_bind (setOption o req) f s).subset ?_
  have he : o.isEmpty = false := by simpa using ho
  rw [setOption, he]
  exact List.mem_cons_self

theorem setOption_empty {α : Type} {o : String} (ho : o = "") (req : Request)
    (f : Unit → Process α) : (setOption o req >>= f) = f () := by
  rw [ho]
  rfl

/-- Without `--stats` a network that is given is set. -/
theorem main_sets (hrdy : Ready h s opt l b mac) (hs : opt.stats = false)
    (hne : opt.setLocalNetAndMask ≠ "" ∨ opt.setBackendNetAndMask ≠ "") :
    ∃ req, .rpc req ∈ calls h (main opt) s ∧ kindOf req ≠ none := by
  rw [main, ← url, calls_connect_bind, hrdy.connected, hrdy.localNet, hrdy.backendNet,
    hrdy.gateway]
  simp only [ofExcept_ok_bind, hs, Bool.false_eq_true, if_false]
  by_cases hle : opt.setLocalNetAndMask = ""
  · rw [setOption_empty hle]
    exact ⟨_, List.mem_cons_of_mem _ (rpc_mem_setOption (hne.resolve_left (not_not.2 hle)) _ _),
      Option.some_ne_none _⟩
  · exact ⟨_, List.mem_cons_of_mem _ (rpc_mem_setOption hle _ _), Option.some_ne_none _⟩

theorem mem_rpcs {cs : List Effect} {req : Request} : req ∈ rpcs cs ↔ .rpc req ∈ cs := by
  refine List.mem_filterMap.trans ⟨fun ⟨c, hc, he⟩ => ?_, fun hc => ⟨_, hc, rfl⟩⟩
  cases c with
  | rpc req' => exact Option.some.inj he ▸ hc
  | _ => cases he

/-! ## Rejection -/

theorem rejects_of_rpcs {reqs : List Request} (ha : (exec h (main opt) s).1 ≠ .ok (.ok ()))
    (hr : rpcs (calls h (main opt) s) = reqs) (hq : reqs = [] ∨ reqs = [.getStats]) :
    Rejects h s opt := by
  have hquiet : ∀ req ∈ reqs, kindOf req = none := by
    intro req hreq
    rcases hq with rfl | rfl
    · cases hreq
    · rw [List.mem_singleton.1 hreq]
      rfl
  have hkeep : ∀ maps, configure maps reqs = some maps := by
    intro maps
    rcases hq with rfl | rfl <;> rfl
  exact ⟨ha, hr ▸ hquiet, hr ▸ hkeep⟩

theorem Stops.rejects (hs : Stops h s opt) : Rejects h s opt := by
  rcases ready_or_stopped h s opt with ⟨l, b, mac, hrdy⟩ | ⟨-, ha, hcalls⟩
  · cases hs with
    | connect err hc =>
      rw [hrdy.connected] at hc
      cases hc
    | localNet hne hr =>
      obtain ⟨message, he⟩ := parseIpMask_error_iff.2 ⟨hne, hr⟩
      rw [hrdy.localNet] at he
      cases he
    | backendNet hne hr =>
      obtain ⟨message, he⟩ := parseIpMask_error_iff.2 ⟨hne, hr⟩
      rw [hrdy.backendNet] at he
      cases he
    | gateway hn =>
      obtain ⟨message, he⟩ := parseMacAddress_error_iff.2 hn
      rw [hrdy.gateway] at he
      cases he
    | stats err hst hr =>
      obtain ⟨hiff, hreqs⟩ := main_stats hrdy hst hr
      exact rejects_of_rpcs (fun hok => nomatch hiff.1 hok) hreqs (.inr rfl)
  · exact rejects_of_rpcs ha (by rw [hcalls]; rfl) (.inl rfl)

/-- A network that is given and does not stop the tool gets through. -/
theorem Rejects.stops (hr : Rejects h s opt)
    (hne : opt.setLocalNetAndMask ≠ "" ∨ opt.setBackendNetAndMask ≠ "") : Stops h s opt := by
  rcases ready_or_stopped h s opt with ⟨l, b, mac, hrdy⟩ | ⟨hs, -⟩
  · cases hst : opt.stats with
    | true =>
      cases hres : (h (.rpc .getStats) (h (.connect (url opt)) s).2).1 with
      | error err => exact .stats err hst hres
      | ok res => exact absurd ((main_stats hrdy hst hres).1.2 ⟨res, rfl⟩) hr.aborts
    | false =>
      obtain ⟨req, hmem, hk⟩ := main_sets hrdy hst hne
      exact absurd (hr.quiet req (mem_rpcs.2 hmem)) hk
  · exact hs

/-- **When a malformed network is rejected**: when neither network is malformed, or the tool stops
anyway. -/
theorem reject_iff (h : (c : Effect) → σ → Reply c × σ) (s : σ) (opt : Opt) :
    (Malformed opt.setLocalNetAndMask ∨ Malformed opt.setBackendNetAndMask → Rejects h s opt) ↔
      (¬ Malformed opt.setLocalNetAndMask ∧ ¬ Malformed opt.setBackendNetAndMask) ∨
        Stops h s opt := by
  rw [← not_or]
  refine ⟨fun hrej => ?_, fun hcond hmal => (hcond.resolve_left (not_not.2 hmal)).rejects⟩
  by_cases hmal : Malformed opt.setLocalNetAndMask ∨ Malformed opt.setBackendNetAndMask
  · exact .inr ((hrej hmal).stops (hmal.imp And.left And.left))
  · exact .inl hmal

end

/-! ## Numbers that are no prefix length -/

theorem isNetwork_quad_iff (a b c d : BitVec 8) {len : List Char} (h : Numeral 10 (unsigned len)) :
    IsNetwork (String.ofList (dottedQuad a b c d ++ '/' :: len)) ↔
      Numeral 10 len ∧ value 10 len ≤ 32 := by
  refine ⟨fun ⟨a', b', c', d', len', he, hn, hv⟩ => ?_, fun hn => ⟨a, b, c, d, len, rfl, hn⟩⟩
  have hs := splitOn_quad a b c d h
  rw [he, splitOn_quad a' b' c' d' (by rwa [unsigned_numeral hn])] at hs
  obtain ⟨-, hs⟩ := List.cons.inj hs
  obtain ⟨rfl, -⟩ := List.cons.inj hs
  exact ⟨hn, hv⟩

/-- A prefix length of 33; the shift amount is 31. -/
def longPrefixOpt : Opt where
  setLocalNetAndMask := "10.0.2.0/33"
  setGatewayMacAddress := "02:00:00:00:00:01"

/-- The tool sets the mask of prefix length 1. -/
theorem reject_counterexample :
    Malformed longPrefixOpt.setLocalNetAndMask ∧ ¬ Rejects record [] longPrefixOpt ∧
    ∃ maps, configure (.fresh 1) (rpcs (calls record (main longPrefixOpt) [])) = some maps ∧
      entry maps .localNet = netAndMask 0x0a000200 0x80000000 := by
  refine ⟨⟨by decide, fun hn => ?_⟩, fun hr => ?_, _, rfl, rfl⟩
  · have hnum : Numeral 10 (unsigned "33".toList) := by decide
    have hlen := ((isNetwork_quad_iff 10 0 2 0 hnum).1 hn).2
    exact absurd hlen (by decide)
  · exact nomatch hr.quiet (.setLocalNetAndMask 0x0a000200 0x80000000) (by decide)

end Tool
