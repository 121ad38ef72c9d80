import UdpRouter.Router.Process
import UdpRouter.Tool.Main

/-!
# The tool and the router process

The tool as the router's only client: it waits for each call before it goes on, while the actor
and the packets go on by themselves. Connecting and printing are the tool's own and take no event.
`SessionStep` is over the transition system of the router, `ProcessSessionStep` over the process in
detail.
-/

namespace Tool

open Bytes Management Router

/-- Where the tool is: about to call, finished or aborted, or waiting for a call. -/
inductive Client
  | running (p : Process (Except String Unit))
  | awaiting (call : Nat) (k : Except String Response → Process (Except String Unit))

/-- The tool up to its next call. -/
def settle {α : Type} : Process α → Process α
  | .call (.connect _) k => settle (k (Except.ok ()))
  | .call (.println _) k => settle (k ())
  | p => p

/-- Calls and returns are the client's. -/
def isCall : Event → Bool
  | .issue _ _ => true
  | .ret _ _ => true
  | _ => false

section
variable (e : Endian) (cap : Nat)

inductive SessionStep : Client × State → Event → Client × State → Prop
  | issue {req : Request} {k : Reply (.rpc req) → Process (Except String Unit)} {s s' : State}
      {call : Nat} : Router.Step e cap s (.issue call req) s' →
      SessionStep (.running (.call (.rpc req) k), s) (.issue call req) (.awaiting call k, s')
  | ret {call : Nat} {k : Except String Response → Process (Except String Unit)} {s s' : State}
      {res : Response} : Router.Step e cap s (.ret call res) s' →
      SessionStep (.awaiting call k, s) (.ret call res) (.running (settle (k (.ok res))), s')
  | other {c : Client} {a : Event} {s s' : State} : isCall a = false → Router.Step e cap s a s' →
      SessionStep (c, s) a (c, s')

end

section
variable (e : Endian) (cap : Nat)

end

/-- The tool starts while the router process does. -/
def Session.init (opt : Opt) (cpus : Nat) : Client × State :=
  (.running (settle (main opt)), .init cpus)

end Tool
