import UdpRouter.Lib.Program

/-!
# Starting the actor

`run_actor` of `udp-router/src/bpf_actor.rs` up to its loop: it loads the program, attaches it to
the interface and takes the maps. It calls out to the kernel, to the log and for each line it
prints.
-/

namespace Router.Startup

open Program

/-- The options of `udp-router` that `run_actor` reads. -/
structure Opt where
  iface : String := "eth0"
  bpfProg : String
  forceSkbMode : Bool := false
  forceHwMode : Bool := false
  forceDrvMode : Bool := false
  allowSkbMode : Bool := false

/-- `XdpFlags`. -/
inductive XdpMode
  | skb
  | hw
  | drv
  deriving DecidableEq

inductive Effect
  | println (line : String)
  | warn (line : String)
  | loadFile (path : String)
  | initLogger
  | programMut (name : String)
  | tryIntoXdp
  | load
  | attach (iface : String) (mode : XdpMode)
  | takeMap (name : String)
  | tryFromMap (name : String)

/-- What comes back; an error is its text. -/
def Reply : Effect → Type
  | .println _ => Unit
  | .warn _ => Unit
  | .programMut _ => Option Unit
  | .takeMap _ => Option Unit
  | .loadFile _ => Except String Unit
  | .initLogger => Except String Unit
  | .tryIntoXdp => Except String Unit
  | .load => Except String Unit
  | .attach _ _ => Except String Unit
  | .tryFromMap _ => Except String Unit

abbrev Process (α : Type) : Type := Program Effect Reply α

def println (line : String) : Process Unit := ask (Effect.println line)
def warn (line : String) : Process Unit := ask (Effect.warn line)
def loadFile (path : String) : Process (Except String Unit) := ask (Effect.loadFile path)
def initLogger : Process (Except String Unit) := ask Effect.initLogger
def programMut (name : String) : Process (Option Unit) := ask (Effect.programMut name)
def tryIntoXdp : Process (Except String Unit) := ask Effect.tryIntoXdp
def load : Process (Except String Unit) := ask Effect.load
def attach (iface : String) (mode : XdpMode) : Process (Except String Unit) :=
  ask (Effect.attach iface mode)
def takeMap (name : String) : Process (Option Unit) := ask (Effect.takeMap name)
def tryFromMap (name : String) : Process (Except String Unit) := ask (Effect.tryFromMap name)

/-! ## Panics -/

def unwrapOption : Option Unit → Process Unit
  | some _ => .done ()
  | none => .panic "called `Option::unwrap()` on a `None` value"

def unwrap : Except String Unit → Process Unit
  | .ok _ => .done ()
  | .error e => .panic ("called `Result::unwrap()` on an `Err` value: " ++ e)

def expect (message : String) : Except String Unit → Process Unit
  | .ok _ => .done ()
  | .error e => .panic (message ++ ": " ++ e)

/-! ## The parts of `run_actor` -/

def isOk : Except String Unit → Bool
  | .ok _ => true
  | .error _ => false

/-- A forced mode, or hardware, driver and, where it is allowed, SKB mode in this order. -/
def attachProgram (opt : Opt) : Process Unit := do
  if opt.forceSkbMode then
    expect "Failed to attach program in SKB mode" (← attach opt.iface .skb)
    println "Attached XDP program in SKB mode."
  else if opt.forceHwMode then
    expect "Failed to attach program in HW mode" (← attach opt.iface .hw)
    println "Attached XDP program in HW mode."
  else if opt.forceDrvMode then
    expect "Failed to attach program in DRV mode" (← attach opt.iface .drv)
    println "Attached XDP program in DRV mode."
  else
    let hw ← attach opt.iface .hw
    if isOk hw then
      println "Attached XDP program in HW mode."
    else
      let drv ← attach opt.iface .drv
      if isOk drv then
        println "Attached XDP program in driver mode."
      else
        -- `&&` makes the call only where the mode is allowed
        let skb ← if opt.allowSkbMode then attach opt.iface .skb else pure (.error "")
        if isOk skb then
          println "Attached XDP program in SKB mode."
        else
          .panic ("Failed to bind XDP program in HW or DRV mode. " ++
            "You might want to try --allow-skb-mode")

/-- `try_from(bpf.take_map(name).unwrap()).unwrap()`. -/
def openMap (name : String) : Process Unit := do
  unwrapOption (← takeMap name)
  unwrap (← tryFromMap name)

/-- `run_actor` before its loop. -/
def startup (opt : Opt) : Process Unit := do
  println ("Loading XDP program from file: " ++ opt.bpfProg)
  unwrap (← loadFile opt.bpfProg)
  match ← initLogger with
  | .ok _ => pure ()
  | .error e => warn ("Failed to initialize eBPF logger: " ++ e)
  unwrapOption (← programMut "udp_router")
  unwrap (← tryIntoXdp)
  expect "Failed to load XDP program" (← load)
  attachProgram opt
  openMap "TOTAL_PACKETS"
  openMap "CLIENT_TO_SERVER_PACKETS"
  openMap "SERVER_TO_CLIENT_PACKETS"
  openMap "LOCAL_NET_AND_MASK"
  openMap "BACKEND_NET_AND_MASK"
  openMap "GATEWAY_MAC_ADDRESS"

end Router.Startup
