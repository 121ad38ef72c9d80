import Mathlib.Data.Rat.Defs
import UdpRouter.Lib.Program
import UdpRouter.Lib.Text
import UdpRouter.Net.Wire

/-!
# The test client

`udp-router-client/src/main.rs`. The client calls out for its two sockets, for the clock and for
each line it prints; the histogram is a parameter.
-/

namespace Client

open Bytes Wire Text Program

structure Opt where
  proxy : String
  server : String

/-- `direct_socket` and `proxy_socket`. -/
inductive Socket
  | direct
  | proxy
  deriving DecidableEq

inductive Effect
  | bind (socket : Socket) (addr : String)
  | println (line : String)
  | now
  | sendTo (socket : Socket) (buf : List Byte) (target : String)
  | recvFrom (socket : Socket) (bufLen : Nat)

/-- What comes back; an error is its text, an `Instant` its nanoseconds. -/
def Reply : Effect → Type
  | .bind _ _ => Except String Unit
  | .println _ => Unit
  | .now => Nat
  | .sendTo _ _ _ => Except String Nat
  | .recvFrom _ _ => Except String (List Byte × Addr × Port)

abbrev Process (α : Type) : Type := Program Effect Reply α

def bind (socket : Socket) (addr : String) : Process (Except String Unit) :=
  ask (Effect.bind socket addr)
def println (line : String) : Process Unit := ask (Effect.println line)
def now : Process Nat := ask Effect.now
def sendTo (socket : Socket) (buf : List Byte) (target : String) : Process (Except String Nat) :=
  ask (Effect.sendTo socket buf target)
def recvFrom (socket : Socket) (bufLen : Nat) :
    Process (Except String (List Byte × Addr × Port)) :=
  ask (Effect.recvFrom socket bufLen)

/-- `Histogram<u64>` of the `hdrhistogram` crate; `record` leaves it as it is on an error. -/
structure Histogram where
  Hist : Type
  newWithBounds : Nat → Nat → Nat → Except String Hist
  record : Hist → BitVec 64 → Hist
  valueAtQuantile : Hist → ℚ → BitVec 64

def unwrap {α : Type} (x : Except String α) : Except String α :=
  x.mapError ("called `Result::unwrap()` on an `Err` value: " ++ ·)

/-- `Ipv4Addr::from_str(&opt.server)`. -/
def serverIp (opt : Opt) : Except String Addr :=
  match parseIpv4Addr opt.server.toList with
  | some a => .ok a
  | none => .error "AddrParseError(Ipv4)"

/-- `start.elapsed().as_micros() as u64`; `elapsed` is zero when the clock went back. -/
def elapsedMicros (start stop : Nat) : BitVec 64 := BitVec.ofNat 64 ((stop - start) / 1000)

/-- `for _ in 0..10000`. -/
def rounds : Nat := 10000

section
variable (H : Histogram)

/-- The loop, with `n` rounds to go. What is received is not looked at. -/
def pings (socket : Socket) (payload : List Byte) (target : String) :
    Nat → H.Hist → Process (Except String H.Hist)
  | 0, hist => return .ok hist
  | n + 1, hist => do
    let start ← now
    match ← sendTo socket payload target with
    | .error e => return .error e
    | .ok _ =>
      match ← recvFrom socket 1024 with
      | .error e => return .error e
      | .ok _ =>
        let stop ← now
        pings socket payload target n (H.record hist (elapsedMicros start stop))

/-- A line of the report. -/
def latencyLine (percentile name : String) (hist : H.Hist) (q : ℚ) : String :=
  percentile ++ " " ++ name ++ ": " ++ toString (H.valueAtQuantile hist q).toNat

/-- One half of `main`: a heading, the loop and three lines. -/
def measure (socket : Socket) (payload : List Byte) (host heading name : String) :
    Process (Except String Unit) := do
  println heading
  let hist ← ofExcept (unwrap (H.newWithBounds 1 (100 * 1000) 2))
  match ← pings H socket payload (host ++ ":8888") rounds hist with
  | .error e => return .error e
  | .ok hist =>
    println (latencyLine H "p50" name hist 0.50)
    println (latencyLine H "p99" name hist 0.99)
    println (latencyLine H "p99.9" name hist 0.999)
    return .ok ()

def main (opt : Opt) : Process (Except String Unit) := do
  match ← bind .direct "0.0.0.0:0" with
  | .error e => return .error e
  | .ok _ =>
    match ← bind .proxy "0.0.0.0:0" with
    | .error e => return .error e
    | .ok _ =>
      let server_ip ← ofExcept (unwrap (serverIp opt))
      let payload := addrBytes server_ip
      match ← measure H .direct payload opt.server "Measuring direct ping to server"
          "direct latency" with
      | .error e => return .error e
      | .ok _ =>
        measure H .proxy payload opt.proxy "Measuring ping through proxy" "latency through proxy"

end

end Client
