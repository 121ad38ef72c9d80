import UdpRouter.Ebpf.Main
import UdpRouter.Lib.Program

/-!
# The XDP program lookup by lookup

The program of `Ebpf.Main` once more, with each `read!` a call of its own: the frame belongs to the
program that runs on it, but between two lookups the actor may set a map, and other CPUs may run the
program on other frames. An entry is read whole.
-/

namespace Ebpf.Lookups

open Bytes Program
open Ebpf.Xdp (readBytes writeBytes readU16 readU32 writeU16 writeU32)

/-- The maps that the program reads; it never asks for the backend network. -/
inductive Lookup
  | localNetAndMask
  | gatewayMacAddress
  deriving DecidableEq

/-- What a lookup reads. -/
def value (maps : BpfMaps) : Lookup → BitVec 64
  | .localNetAndMask => read maps.localNetAndMask 0
  | .gatewayMacAddress => read maps.gatewayMacAddress 0

abbrev Reading (α : Type) : Type := Program Lookup (fun _ => BitVec 64) α

/-- A computation over the frame, as `Xdp`, that looks up the maps. -/
def Task (α : Type) : Type := List Byte → Reading (Option (Except Unit α × List Byte))

namespace Task

def ok {α : Type} (a : α) : Task α := fun f => .done (some (.ok a, f))

def andThen {α β : Type} (x : Task α) (k : α → Task β) : Task β := fun f => do
  match ← x f with
  | some (.ok a, f') => k a f'
  | some (.error e, f') => return some (.error e, f')
  | none => return none

instance : Monad Task where
  pure := ok
  bind := andThen

/-- An operation on the frame alone; it asks neither for the CPU nor for the maps. -/
def onFrame {α : Type} (x : Xdp α) : Task α := fun f =>
  .done ((x ⟨0, f, .fresh 0⟩).map fun r => (r.1, r.2.data))

instance : MonadLift Xdp Task := ⟨onFrame⟩

end Task

/-- `read!(.., 0)`. -/
def lookup (c : Lookup) : Task (BitVec 64) := fun f => do return some (.ok (← ask c), f)

/-! ## The program -/

def isFromLocalNetwork (ip : BitVec 32) : Task Bool := do
  let localAndMask ← lookup .localNetAndMask
  let net := (localAndMask >>> 32).setWidth 32
  let localMask := (localAndMask &&& 0xffffffff#64).setWidth 32
  return (ip &&& localMask) == net

def getGatewayMacAddress : Task (List Byte) := do
  let mac ← lookup .gatewayMacAddress
  return bytesAt (toBeBytes (n := 8) mac) 2 6

def tryForwardPacket (e : Endian) : Task XdpAction := do
  let ethhdr ← ptrAtMut EthHdr.len 0
  let ipv4hdr ← ptrAtMut Ipv4Hdr.len EthHdr.len
  let udphdr ← ptrAtMut UdpHdr.len (EthHdr.len + Ipv4Hdr.len)
  -- Step 1: Parse IP addresses from packet + payload
  let routerIpBe ← readU32 e (ipv4hdr + Ipv4Hdr.dstAddr)
  let sourceIpBe ← readU32 e (ipv4hdr + Ipv4Hdr.srcAddr)
  let payload ← ptrAtMut 4 (EthHdr.len + Ipv4Hdr.len + UdpHdr.len)
  let targetIpBe ← readU32 e payload
  -- Step 2: Rewrite source and destination IP of forwarded packet
  let udpCsum := fromBe e (n := 2) (← readU16 e (udphdr + UdpHdr.check))
  let old ← readU32 e (ipv4hdr + Ipv4Hdr.dstAddr)
  writeU32 e (ipv4hdr + Ipv4Hdr.dstAddr) targetIpBe
  let udpCsum := patchUdpChecksum e udpCsum old targetIpBe
  let old ← readU32 e (ipv4hdr + Ipv4Hdr.srcAddr)
  writeU32 e (ipv4hdr + Ipv4Hdr.srcAddr) routerIpBe
  let udpCsum := patchUdpChecksum e udpCsum old routerIpBe
  writeU32 e payload sourceIpBe
  let udpCsum := patchUdpChecksum e udpCsum targetIpBe sourceIpBe
  -- Step 3: Rewrite source and destination MAC address of forwarded packet
  writeBytes (ethhdr + EthHdr.srcAddr) (← readBytes (ethhdr + EthHdr.dstAddr) 6)
  writeBytes (ethhdr + EthHdr.dstAddr) (← getGatewayMacAddress)
  -- Step 4: Fix checksums
  let hdr ← readBytes ipv4hdr 20
  writeU16 e (ipv4hdr + Ipv4Hdr.check) (calculateIpChecksum e hdr)
  writeU16 e (udphdr + UdpHdr.check) (toBe e (n := 2) udpCsum)
  return .tx

def tryUdpRouter (e : Endian) : Task XdpAction := do
  let ethhdr ← ptrAtMut EthHdr.len 0
  let etherType ← readU16 e (ethhdr + EthHdr.etherType)
  if etherType ≠ EtherType.ipv4 e then
    return .pass
  let ipv4hdr ← ptrAtMut Ipv4Hdr.len EthHdr.len
  -- We only care about UDP packets
  let proto ← readBytes (ipv4hdr + Ipv4Hdr.proto) 1
  if proto ≠ IpProto.udp then
    return .pass
  let sourceIp := fromBe e (n := 4) (← readU32 e (ipv4hdr + Ipv4Hdr.srcAddr))
  if ← pure (isLinkLocalIp sourceIp) <||> isFromLocalNetwork sourceIp then
    return .pass
  tryForwardPacket e

/-- The verdict and the frame it leaves. -/
def udpRouter (e : Endian) (f : List Byte) :
    Reading (Option (XdpAction × List Byte)) := do
  match ← tryUdpRouter e f with
  | some (.ok ret, g) => return some (ret, g)
  | some (.error _, g) => return some (.aborted, g)
  | none => return none

end Ebpf.Lookups
