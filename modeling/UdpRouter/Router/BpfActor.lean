import UdpRouter.Ebpf.Xdp

/-!
# The BPF actor

`udp-router/src/bpf_actor.rs`: the messages and what the actor does with one. A `respond_to`
channel is named by the call that waits on it. `none` is a panic.
-/

namespace Router

open Ebpf

/-- The capacity of the actor's channel. -/
def channelCapacity : Nat := 8

structure RouterStatistics where
  totalPackets : BitVec 64
  clientToServerPackets : BitVec 64
  serverToClientPackets : BitVec 64
  deriving DecidableEq

inductive BpfActorMessage
  | getStats (respondTo : Nat)
  | setLocalNetAndMask (net mask : BitVec 32)
  | setBackendNetAndMask (net mask : BitVec 32)
  | setGatewayMacAddress (mac : BitVec 64)
  deriving DecidableEq

/-- The macro `read_metric!`: the sum over all CPUs. -/
def readMetric (values : List (BitVec 64)) : BitVec 64 := values.foldl (fun tmp v => tmp + v) 0

/-- The macro `write_map!`. -/
def writeMap (m : BpfArray) (index : Nat) (value : BitVec 64) : Option BpfArray :=
  m.set index value

def getStats (maps : BpfMaps) : RouterStatistics where
  totalPackets := readMetric maps.totalPackets
  clientToServerPackets := readMetric maps.clientToServerPackets
  serverToClientPackets := readMetric maps.serverToClientPackets

def netAndMask (net mask : BitVec 32) : BitVec 64 := (net.setWidth 64 <<< 32) ||| mask.setWidth 64

def setLocalNetMask (maps : BpfMaps) (net mask : BitVec 32) : Option BpfMaps := do
  return { maps with localNetAndMask := ← writeMap maps.localNetAndMask 0 (netAndMask net mask) }

def setBackendNetMask (maps : BpfMaps) (net mask : BitVec 32) : Option BpfMaps := do
  return {
    maps with
    backendNetAndMask := ← writeMap maps.backendNetAndMask 0 (netAndMask net mask) }

def setGatewayMacAddress (maps : BpfMaps) (mac : BitVec 64) : Option BpfMaps := do
  return { maps with gatewayMacAddress := ← writeMap maps.gatewayMacAddress 0 mac }

/-- The maps after a message, and what is sent to whom. -/
def handleMessage (maps : BpfMaps) : BpfActorMessage →
    Option (BpfMaps × Option (Nat × RouterStatistics))
  | .getStats respondTo => some (maps, some (respondTo, getStats maps))
  | .setLocalNetAndMask net mask => do return (← setLocalNetMask maps net mask, none)
  | .setBackendNetAndMask net mask => do return (← setBackendNetMask maps net mask, none)
  | .setGatewayMacAddress mac => do return (← setGatewayMacAddress maps mac, none)

end Router
