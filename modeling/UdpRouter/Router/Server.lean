import UdpRouter.Router.BpfActor
import UdpRouter.Router.Management

/-!
# The management server

`udp-router/src/server.rs` with the methods of `BpfActorHandle`: the message a request becomes,
and when and with what its call returns. A Set call returns as soon as its message is in the
channel; a GetStats call waits for the actor's answer.
-/

namespace Router

open Management

namespace BpfActorHandle

/-- The message sent for a request of the call `call`. -/
def message (call : Nat) : Request → BpfActorMessage
  | .getStats => .getStats call
  | .setLocalNetAndMask net mask => .setLocalNetAndMask net mask
  | .setBackendNetAndMask net mask => .setBackendNetAndMask net mask
  | .setGatewayMacAddress mac => .setGatewayMacAddress mac

end BpfActorHandle

namespace ManagementServer

def getStats (stats : RouterStatistics) : Response :=
  .stats ⟨stats.totalPackets, stats.clientToServerPackets, stats.serverToClientPackets⟩

/-- What a call whose message has been sent returns, given the answer that has arrived for it. -/
def response (answer : Option RouterStatistics) : Request → Option Response
  | .getStats => answer.map getStats
  | .setLocalNetAndMask _ _ => some .empty
  | .setBackendNetAndMask _ _ => some .empty
  | .setGatewayMacAddress _ => some .empty

end ManagementServer

end Router
