import UdpRouter.Lib.SocketAddr
import UdpRouter.Router.Process

/-!
# The whole process

`udp-router/src/main.rs` with `ManagementServer::start` of `server.rs`: `main` spawns the actor,
opens the listening socket and serves the calls that come in on it. It calls out to the kernel, to
the log and to the runtime; the process is this task and `Router.Process` side by side.
-/

namespace Router.Main

open Bytes Program Text

/-- The command line; `bpf_prog` is the only required option. -/
structure Opt extends Startup.Opt where
  bindAddress : String := "127.0.0.1"
  port : BitVec 32 := 8888

/-- `socket2::Domain`. -/
inductive Domain
  | ipv4
  | ipv6
  deriving DecidableEq

inductive Effect
  | setrlimit
  | debug (line : String)
  | spawn
  | socket (domain : Domain)
  | setReuseAddress
  | setReusePort
  | setNonblocking
  | bind (addr : SocketAddr)
  | listen (backlog : Nat)
  | fromStd
  | serve

/-- What comes back; an error is its text. -/
def Reply : Effect → Type
  | .setrlimit => Int
  | .debug _ => Unit
  | .spawn => Unit
  | .socket _ => Except String Unit
  | .setReuseAddress => Except String Unit
  | .setReusePort => Except String Unit
  | .setNonblocking => Except String Unit
  | .bind _ => Except String Unit
  | .listen _ => Except String Unit
  | .fromStd => Except String Unit
  | .serve => Except String Unit

abbrev Task (α : Type) : Type := Program Effect Reply α

def setrlimit : Task Int := ask Effect.setrlimit
def debug (line : String) : Task Unit := ask (Effect.debug line)
def spawn : Task Unit := ask Effect.spawn
def socket (domain : Domain) : Task (Except String Unit) := ask (Effect.socket domain)
def setReuseAddress : Task (Except String Unit) := ask Effect.setReuseAddress
def setReusePort : Task (Except String Unit) := ask Effect.setReusePort
def setNonblocking : Task (Except String Unit) := ask Effect.setNonblocking
def bind (addr : SocketAddr) : Task (Except String Unit) := ask (Effect.bind addr)
def listen (backlog : Nat) : Task (Except String Unit) := ask (Effect.listen backlog)
def fromStd : Task (Except String Unit) := ask Effect.fromStd
def serve : Task (Except String Unit) := ask Effect.serve

def unwrap {α : Type} : Except String α → Task α
  | .ok a => .done a
  | .error e => .panic ("called `Result::unwrap()` on an `Err` value: " ++ e)

/-- `parse::<SocketAddr>`. -/
def parse (s : String) : Except String SocketAddr :=
  match parseSocketAddr s.toList with
  | some addr => .ok addr
  | none => .error "AddrParseError(Socket)"

def domainOf : SocketAddr → Domain
  | .v4 _ _ => .ipv4
  | .v6 _ _ _ => .ipv6

/-- `ManagementServer::start`. -/
def start (opt : Opt) : Task Unit := do
  let addr ← unwrap (parse (opt.bindAddress ++ ":" ++ toString opt.port.toNat))
  unwrap (← socket (domainOf addr))
  unwrap (← setReuseAddress)
  unwrap (← setReusePort)
  unwrap (← setNonblocking)
  unwrap (← bind addr)
  unwrap (← listen 1024)
  unwrap (← fromStd)
  unwrap (← serve)

def main (opt : Opt) : Task Unit := do
  let ret ← setrlimit
  if ret ≠ 0 then
    debug ("Remove limit on locked memory failed, ret is: " ++ toString ret)
  spawn
  start opt

/-! ## Both tasks -/

structure State where
  task : Task Unit
  /-- The actor's task exists. -/
  spawned : Bool
  router : Process.State

def State.init (opt : Opt) (cpus : Nat) : State :=
  ⟨main opt, false, .init opt.toOpt cpus⟩

/-- `main` waits for a reply; its end or its panic ends the process. -/
def State.running (s : State) : Prop := ∃ c k, s.task = .call c k

/-- `serve_with_incoming` runs. -/
def State.serving (s : State) : Prop := ∃ k, s.task = .call .serve k

inductive Event
  | main (x : (c : Effect) × Reply c)
  | router (a : Process.Event)

def spawns : Effect → Bool
  | .spawn => true
  | _ => false

section
variable (e : Endian) (cap : Nat)

inductive Step : State → Event → State → Prop
  | main {s : State} {c : Effect} {k : Reply c → Task Unit} {r : Reply c} :
      s.router.alive → s.task = .call c k →
      Step s (.main ⟨c, r⟩) { s with task := k r, spawned := s.spawned || spawns c }
  /-- The actor, the handlers and the XDP program; a call comes in only while `main` serves. -/
  | router {s : State} {a : Process.Event} {router : Process.State} :
      s.running → s.spawned = true →
      (∀ call r, a = .router (.issue call r) → s.serving) →
      Process.Step e cap s.router a router → Step s (.router a) { s with router := router }

end

end Router.Main
