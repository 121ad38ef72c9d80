import UdpRouter.Lib.Program
import UdpRouter.Net.Wire

/-!
# The test server

`udp-router-server/src/main.rs`: one iteration of its loop on a datagram that reaches its host
(`echo`), and the calls it makes for its socket (`setup`, `round`).
-/

namespace Server

open Bytes Program Wire

/-- The socket is bound to port 8888 of every address. -/
def port : Port := 8888

/-- `[0u8; 1024]`: `recv_from` discards what does not fit. -/
def bufLen : Nat := 1024

/-- What `recv_from` and `send_to` make of a datagram: the bytes received go back to the address
and port they came from, from the socket's own. -/
def echo (d : Datagram) : Option Datagram :=
  if d.dstPort = port then
    let received := d.payload.take bufLen
    some ⟨d.dst, d.dstPort, d.src, d.srcPort, received⟩
  else none

/-! ## The calls -/

inductive Effect
  | bind (addr : String)
  | println (line : String)
  | recvFrom (bufLen : Nat)
  | sendTo (buf : List Byte) (addr : Addr × Port)

/-- What comes back; an error is its text. -/
def Reply : Effect → Type
  | .bind _ => Except String Unit
  | .println _ => Unit
  | .recvFrom _ => Except String (List Byte × Addr × Port)
  | .sendTo _ _ => Except String Nat

abbrev Process (α : Type) : Type := Program Effect Reply α

def bind (addr : String) : Process (Except String Unit) := ask (Effect.bind addr)
def println (line : String) : Process Unit := ask (Effect.println line)
def recvFrom (bufLen : Nat) : Process (Except String (List Byte × Addr × Port)) :=
  ask (Effect.recvFrom bufLen)
def sendTo (buf : List Byte) (addr : Addr × Port) : Process (Except String Nat) :=
  ask (Effect.sendTo buf addr)

/-- `main` before its loop. -/
def setup : Process (Except String Unit) := do
  match ← bind "0.0.0.0:8888" with
  | .error e => return .error e
  | .ok _ =>
    println "Server listening on 0.0.0.0:8888"
    return .ok ()

/-- The second half of an iteration. -/
def sendBack (received : List Byte) (addr : Addr × Port) : Process (Except String Unit) := do
  match ← sendTo received addr with
  | .error e => return .error e
  | .ok _ => return .ok ()

/-- An iteration of the loop, which goes on after `Ok`; an error ends `main`. -/
def round : Process (Except String Unit) := do
  match ← recvFrom bufLen with
  | .error e => return .error e
  | .ok (received, addr) => sendBack received addr

end Server
