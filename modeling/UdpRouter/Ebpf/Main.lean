import UdpRouter.Ebpf.Xdp

/-!
# The XDP program

`udp-router-ebpf/src/main.rs`, statement by statement. Fields are read and written through the
header pointers at their wire offsets; `e` is the byte order of the host the program was compiled
for. `u32` and `u16` arithmetic wraps.
-/

namespace Ebpf

open Bytes

/-! ## Wire layout of `network_types` -/

namespace EthHdr

def len : Nat := 14
def dstAddr : Nat := 0
def srcAddr : Nat := 6
def etherType : Nat := 12

end EthHdr

namespace Ipv4Hdr

def len : Nat := 20
def proto : Nat := 9
def check : Nat := 10
def srcAddr : Nat := 12
def dstAddr : Nat := 16

end Ipv4Hdr

namespace UdpHdr

def len : Nat := 8
def check : Nat := 6

end UdpHdr

/-- `EtherType::Ipv4`: the discriminants are stored in network order. -/
def EtherType.ipv4 (e : Endian) : BitVec 16 := toBe e (n := 2) 0x0800

def IpProto.udp : List Byte := [17]

inductive XdpAction
  | aborted
  | pass
  | tx
  deriving DecidableEq, Repr

/-! ## Source filters -/

def isLinkLocalIp (ip : BitVec 32) : Bool :=
  let linkLocal := (169#32 <<< 24) + (254#32 <<< 16)
  let linkLocalMask := 0xffff0000#32
  (ip &&& linkLocalMask) == linkLocal

def isFromLocalNetwork (maps : BpfMaps) (ip : BitVec 32) : Bool :=
  let localAndMask := read maps.localNetAndMask 0
  let net := (localAndMask >>> 32).setWidth 32
  let localMask := (localAndMask &&& 0xffffffff#64).setWidth 32
  (ip &&& localMask) == net

def isFromBackendServer (maps : BpfMaps) (ip : BitVec 32) : Bool :=
  let netAndMask := read maps.backendNetAndMask 0
  let net := (netAndMask >>> 32).setWidth 32
  let mask := (netAndMask &&& 0xffffffff#64).setWidth 32
  (ip &&& mask) == net

/-! ## Checksums and the gateway address -/

/-- The last six bytes of the map's value, most significant first. -/
def getGatewayMacAddress (maps : BpfMaps) : List Byte :=
  bytesAt (toBeBytes (n := 8) (read maps.gatewayMacAddress 0)) 2 6

/-- The `i`-th 16-bit word of a header. -/
def headerWord (hdr : List Byte) (i : Nat) : BitVec 16 := fromBeBytes 2 (bytesAt hdr (2 * i) 2)

def calculateIpChecksum (e : Endian) (ipv4hdr : List Byte) : BitVec 16 :=
  let total : BitVec 32 :=
    (List.range 10).foldl (fun checksum i => checksum + (headerWord ipv4hdr i).setWidth 32) 0
  -- subtract existing checksum from header
  let checksum := total - (headerWord ipv4hdr 5).setWidth 32
  -- clear any overflow bits
  let checksum := (checksum &&& 0xffff#32) + (checksum >>> 16)
  let checksum := (checksum &&& 0xffff#32) + (checksum >>> 16)
  toBe e (n := 2) (~~~(checksum.setWidth 16))

def updateUdpChecksum (csum old new : BitVec 16) : BitVec 16 := ~~~((~~~csum - old) + new)

/-- The two patches for one rewritten address, both given as loaded from network order. -/
def patchUdpChecksum (e : Endian) (csum : BitVec 16) (oldBe newBe : BitVec 32) : BitVec 16 :=
  let old := toBeBytes (fromBe e (n := 4) oldBe)
  let oldUpper := fromBeBytes 2 (bytesAt old 0 2)
  let oldLower := fromBeBytes 2 (bytesAt old 2 2)
  let new := toBeBytes (fromBe e (n := 4) newBe)
  let newUpper := fromBeBytes 2 (bytesAt new 0 2)
  let newLower := fromBeBytes 2 (bytesAt new 2 2)
  updateUdpChecksum (updateUdpChecksum csum oldUpper newUpper) oldLower newLower

/-! ## The program -/

open Xdp

/-- A pointer to `len` bytes at `offset`, or `Err` when they are not all in the frame. -/
def ptrAtMut (len offset : Nat) : Xdp Nat := fun c =>
  if offset + len > c.data.length then some (.error (), c) else some (.ok offset, c)

def tryForwardPacket (e : Endian) : Xdp XdpAction := do
  let ethhdr ← ptrAtMut EthHdr.len 0
  let ipv4hdr ← ptrAtMut Ipv4Hdr.len EthHdr.len
  let udphdr ← ptrAtMut UdpHdr.len (EthHdr.len + Ipv4Hdr.len)
  -- Step 1: Parse IP addresses from packet + payload
  let routerIpBe ← readU32 e (ipv4hdr + Ipv4Hdr.dstAddr)
  let sourceIpBe ← readU32 e (ipv4hdr + Ipv4Hdr.srcAddr)
  let payload ← ptrAtMut 4 (EthHdr.len + Ipv4Hdr.len + UdpHdr.len)
  let targetIpBe ← readU32 e payload
  -- Step 2: Rewrite source and destination IP of forwarded packet
  let udpCsum := fromBe e (n := 2) (← readU16 e (udphdr + UdpHdr.check))
  let old ← readU32 e (ipv4hdr + Ipv4Hdr.dstAddr)
  writeU32 e (ipv4hdr + Ipv4Hdr.dstAddr) targetIpBe
  let udpCsum := patchUdpChecksum e udpCsum old targetIpBe
  let old ← readU32 e (ipv4hdr + Ipv4Hdr.srcAddr)
  writeU32 e (ipv4hdr + Ipv4Hdr.srcAddr) routerIpBe
  let udpCsum := patchUdpChecksum e udpCsum old routerIpBe
  writeU32 e payload sourceIpBe
  let udpCsum := patchUdpChecksum e udpCsum targetIpBe sourceIpBe
  -- Step 3: Rewrite source and destination MAC address of forwarded packet
  writeBytes (ethhdr + EthHdr.srcAddr) (← readBytes (ethhdr + EthHdr.dstAddr) 6)
  writeBytes (ethhdr + EthHdr.dstAddr) (getGatewayMacAddress (← getMaps))
  -- Step 4: Fix checksums
  let hdr ← readBytes ipv4hdr 20
  writeU16 e (ipv4hdr + Ipv4Hdr.check) (calculateIpChecksum e hdr)
  writeU16 e (udphdr + UdpHdr.check) (toBe e (n := 2) udpCsum)
  return .tx

def tryUdpRouter (e : Endian) : Xdp XdpAction := do
  let ethhdr ← ptrAtMut EthHdr.len 0
  let etherType ← readU16 e (ethhdr + EthHdr.etherType)
  if etherType ≠ EtherType.ipv4 e then
    return .pass
  let ipv4hdr ← ptrAtMut Ipv4Hdr.len EthHdr.len
  -- We only care about UDP packets
  let proto ← readBytes (ipv4hdr + Ipv4Hdr.proto) 1
  if proto ≠ IpProto.udp then
    return .pass
  let sourceIp := fromBe e (n := 4) (← readU32 e (ipv4hdr + Ipv4Hdr.srcAddr))
  let maps ← getMaps
  if isLinkLocalIp sourceIp || isFromLocalNetwork maps sourceIp then
    return .pass
  tryForwardPacket e

/-- The program: its verdict and what it leaves in memory, `none` for an access outside the
frame. -/
def udpRouter (e : Endian) (c : XdpContext) : Option (XdpAction × XdpContext) :=
  match tryUdpRouter e c with
  | some (.ok ret, c') => some (ret, c')
  | some (.error _, c') => some (.aborted, c')
  | none => none

end Ebpf
