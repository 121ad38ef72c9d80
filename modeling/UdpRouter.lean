import UdpRouter.Ebpf.Proof.Checksum
import UdpRouter.Ebpf.Proof.Incremental
import UdpRouter.Ebpf.Proof.Locality
import UdpRouter.Router.Proof.Main
import UdpRouter.Router.Proof.Packets
import UdpRouter.Router.Proof.Progress
import UdpRouter.Router.Proof.Stats
import UdpRouter.Tool.Proof.Gateway
import UdpRouter.Tool.Proof.Reject
import UdpRouter.Tool.Proof.Sequence
import UdpRouter.Net.Delivery
import UdpRouter.Net.Echo
import UdpRouter.Net.Inverse
import UdpRouter.Net.Managed
