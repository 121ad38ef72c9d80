import UdpRouter.Lib.Bytes

/-!
# The management protocol

`management.proto`: the requests of the `RouterService` and what they return.
-/

namespace Management

inductive Request
  | getStats
  | setLocalNetAndMask (net mask : BitVec 32)
  | setBackendNetAndMask (net mask : BitVec 32)
  | setGatewayMacAddress (mac : BitVec 64)
  deriving DecidableEq

structure GetStatsResponse where
  totalPackets : BitVec 64
  clientToServerPackets : BitVec 64
  serverToClientPackets : BitVec 64
  deriving DecidableEq

inductive Response
  | stats (r : GetStatsResponse)
  | empty
  deriving DecidableEq

end Management
