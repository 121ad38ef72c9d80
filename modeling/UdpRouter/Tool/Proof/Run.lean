import UdpRouter.Tool.Main

/-!
# Runs of the tool

`sent opt`: the requests of a run in which no call fails, when the tool finishes. Every option is
parsed before the first request, and each option that is given is sent once, in the order local
network, backend network, gateway (`sent_iff`).
-/

namespace Tool

open Management Program

/-- An environment in which every call succeeds; it records the requests. -/
def record : (c : Effect) → List Request → Reply c × List Request
  | .connect _, log => (.ok (), log)
  | .rpc req, log => (.ok .empty, log ++ [req])
  | .println _, log => ((), log)

def sent (opt : Opt) : Option (List Request) :=
  match exec record (main opt) [] with
  | (.ok (.ok ()), log) => some log
  | _ => none

/-- The request of an option, when it is given. -/
def given (s : String) (req : Request) : List Request := if s.isEmpty then [] else [req]

section
variable {α σ : Type} {h : (c : Effect) → σ → Reply c × σ} {s : σ}

theorem exec_connect_bind (url : String) (f : Except String Unit → Process α) :
    exec h (connect url >>= f) s = exec h (f (h (.connect url) s).1) (h (.connect url) s).2 := rfl

theorem calls_connect_bind (url : String) (f : Except String Unit → Process α) :
    calls h (connect url >>= f) s =
      .connect url :: calls h (f (h (.connect url) s).1) (h (.connect url) s).2 :=
  rfl

theorem exec_rpc_bind (req : Request) (f : Except String Response → Process α) :
    exec h (rpc req >>= f) s = exec h (f (h (.rpc req) s).1) (h (.rpc req) s).2 :=
  rfl

theorem calls_rpc_bind (req : Request) (f : Except String Response → Process α) :
    calls h (rpc req >>= f) s =
      .rpc req :: calls h (f (h (.rpc req) s).1) (h (.rpc req) s).2 :=
  rfl

end

@[simp] theorem exec_setOption (s : String) (req : Request) (log : List Request) :
    exec record (setOption s req) log = (.ok (), log ++ given s req) := by
  unfold setOption given
  cases s.isEmpty with
  | true => simp
  | false => rfl

/-- The tool after all options have been parsed. -/
theorem exec_main {opt : Opt} (hs : opt.stats = false) :
    exec record (main opt) [] =
      match parseIpMask opt.setLocalNetAndMask with
      | .error message => (.error message, [])
      | .ok l =>
        match parseIpMask opt.setBackendNetAndMask with
        | .error message => (.error message, [])
        | .ok b =>
          match parseMacAddress opt.setGatewayMacAddress with
          | .error message => (.error message, [])
          | .ok mac =>
            (.ok (.ok ()), given opt.setLocalNetAndMask (.setLocalNetAndMask l.1 l.2) ++
              given opt.setBackendNetAndMask (.setBackendNetAndMask b.1 b.2) ++
              given opt.setGatewayMacAddress (.setGatewayMacAddress mac)) := by
  rw [main, exec_connect_bind]
  simp only [record]
  cases parseIpMask opt.setLocalNetAndMask with
  | error message => rfl
  | ok l =>
    cases parseIpMask opt.setBackendNetAndMask with
    | error message => rfl
    | ok b =>
      cases parseMacAddress opt.setGatewayMacAddress with
      | error message => rfl
      | ok mac =>
        simp only [exec_ofExcept, hs, Bool.false_eq_true, if_false, exec_bind, exec_setOption,
          List.nil_append, exec_pure]

/-- **What the tool sends.** -/
theorem sent_iff {opt : Opt} (hs : opt.stats = false) {reqs : List Request} :
    sent opt = some reqs ↔ ∃ l b mac, parseIpMask opt.setLocalNetAndMask = .ok l ∧
      parseIpMask opt.setBackendNetAndMask = .ok b ∧
      parseMacAddress opt.setGatewayMacAddress = .ok mac ∧
      reqs = given opt.setLocalNetAndMask (.setLocalNetAndMask l.1 l.2) ++
        given opt.setBackendNetAndMask (.setBackendNetAndMask b.1 b.2) ++
        given opt.setGatewayMacAddress (.setGatewayMacAddress mac) := by
  rw [sent, exec_main hs]
  cases parseIpMask opt.setLocalNetAndMask with
  | error message => simp
  | ok l =>
    cases parseIpMask opt.setBackendNetAndMask with
    | error message => simp
    | ok b =>
      cases parseMacAddress opt.setGatewayMacAddress with
      | error message => simp
      | ok mac => simp [eq_comm]

end Tool
