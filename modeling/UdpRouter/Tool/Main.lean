import UdpRouter.Lib.Program
import UdpRouter.Lib.Text
import UdpRouter.Router.Management

/-!
# The configuration tool

`udp-router-tool/src/main.rs`, in the release build: subtraction wraps and shift amounts are taken
modulo 32. The tool calls out to connect, for each RPC and for each line it prints.
-/

namespace Tool

open Management Text Program

/-- The command line; `set_gateway_mac_address` is the only required option. -/
structure Opt where
  stats : Bool := false
  host : String := "127.0.0.1"
  port : BitVec 64 := 8888
  setLocalNetAndMask : String := ""
  setBackendNetAndMask : String := ""
  setGatewayMacAddress : String

inductive Effect
  | connect (url : String)
  | rpc (req : Request)
  | println (line : String)

/-- What comes back; an error is its text. -/
def Reply : Effect → Type
  | .connect _ => Except String Unit
  | .rpc _ => Except String Response
  | .println _ => Unit

abbrev Process (α : Type) : Type := Program Effect Reply α

def connect (url : String) : Process (Except String Unit) := ask (Effect.connect url)
def rpc (req : Request) : Process (Except String Response) := ask (Effect.rpc req)
def println (line : String) : Process Unit := ask (Effect.println line)

/-- `unwrap`, which panics with the error's text. -/
def unwrap {α : Type} (x : Except String α) : Except String α :=
  x.mapError ("called `Result::unwrap()` on an `Err` value: " ++ ·)

/-- `parse::<Ipv4Addr>` with its error. -/
def parseAddr (s : List Char) : Except String (BitVec 32) :=
  match parseIpv4Addr s with
  | some a => .ok a
  | none => .error "AddrParseError(Ipv4)"

/-- `from_str_radix` and `parse::<u32>` with their error. -/
def parseInt (radix w : Nat) (s : List Char) : Except String (BitVec w) :=
  (fromStrRadix radix w s).mapError IntErrorKind.text

def parseIpMask (s : String) : Except String (BitVec 32 × BitVec 32) :=
  if s.isEmpty then .ok (0, 0xffffffff)
  else
    match s.toList.splitOn '/' with
    | [ip, len] => do
      let net ← unwrap (parseAddr ip)
      let n ← unwrap (parseInt 10 32 len)
      let mask := 0xffffffff#32 <<< ((32#32 - n).toNat % 32)
      return (net, mask)
    | _ => .error ("Invalid IP/mask:  " ++ s)

def parseMacAddress (s : String) : Except String (BitVec 64) :=
  let parts := s.toList.splitOn ':'
  if parts.length ≠ 6 then .error ("Invalid MAC address:  " ++ s)
  else parts.foldlM (fun res part => do
    let byte ← unwrap (parseInt 16 8 part)
    return (res <<< 8) ||| byte.setWidth 64) 0

-- the first thing that is wrong is named
example : parseIpMask "10.0.2.0/2a" = .error ("called `Result::unwrap()` on an `Err` value: " ++
    "ParseIntError \x7b kind: InvalidDigit \x7d") := by decide +kernel

/-- `res.into_inner()` of GetStats; fields that are not in the message are zero. -/
def intoInner : Response → GetStatsResponse
  | .stats r => r
  | .empty => ⟨0, 0, 0⟩

/-- The call of one Set option, when it is given. -/
def setOption (s : String) (req : Request) : Process Unit := do
  if !s.isEmpty then
    match ← rpc req with
    | .ok _ => return ()
    | .error e => .panic ("Error contacting XDP hook: " ++ e)

def main (opt : Opt) : Process (Except String Unit) := do
  match ← connect ("http://" ++ opt.host ++ ":" ++ toString opt.port.toNat) with
  | .error e => return .error e
  | .ok () =>
    let (lnet, lmask) ← ofExcept (parseIpMask opt.setLocalNetAndMask)
    let (bnet, bmask) ← ofExcept (parseIpMask opt.setBackendNetAndMask)
    let mac ← ofExcept (parseMacAddress opt.setGatewayMacAddress)
    if opt.stats then
      match ← rpc .getStats with
      | .ok res =>
        let res := intoInner res
        println ("total_packets: " ++ toString res.totalPackets.toNat)
        println ("client_to_server_packets: " ++ toString res.clientToServerPackets.toNat)
        println ("server_to_client_packets: " ++ toString res.serverToClientPackets.toNat)
        return .ok ()
      | .error e => .panic ("Error contacting XDP hook: " ++ e)
    else
      setOption opt.setLocalNetAndMask (.setLocalNetAndMask lnet lmask)
      setOption opt.setBackendNetAndMask (.setBackendNetAndMask bnet bmask)
      setOption opt.setGatewayMacAddress (.setGatewayMacAddress mac)
      return .ok ()

end Tool
