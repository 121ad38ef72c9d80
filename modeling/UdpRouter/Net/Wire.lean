import UdpRouter.Lib.OnesComplement

/-!
# Ethernet frames with an IPv4/UDP datagram

The fields of a frame where RFC 791 and RFC 768 put them, the two checksums as a receiver checks
them, and `IsDatagram f d`: the frame `f` carries the datagram `d` in one unfragmented packet
without IP options. Frames may be longer than the packet (Ethernet padding).
-/

namespace Wire

open Bytes OnesComplement

abbrev Frame := List Byte
abbrev Addr := BitVec 32
abbrev Port := BitVec 16

/-! ## Fields -/

def byteAt (f : Frame) (o : Nat) : Nat := beNat (bytesAt f o 1)
def u16At (f : Frame) (o : Nat) : Nat := beNat (bytesAt f o 2)
def portAt (f : Frame) (o : Nat) : Port := fromBeBytes 2 (bytesAt f o 2)
def addrAt (f : Frame) (o : Nat) : Addr := fromBeBytes 4 (bytesAt f o 4)

/-- An address as it stands in a packet. -/
def addrBytes (a : Addr) : List Byte := toBeBytes (n := 4) a

def etherType (f : Frame) : Nat := u16At f 12
def version (f : Frame) : Nat := byteAt f 14 / 16
def ihl (f : Frame) : Nat := byteAt f 14 % 16
def totalLength (f : Frame) : Nat := u16At f 16
def moreFragments (f : Frame) : Nat := u16At f 20 / 2 ^ 13 % 2
def fragmentOffset (f : Frame) : Nat := u16At f 20 % 2 ^ 13
def protocol (f : Frame) : Nat := byteAt f 23
def source (f : Frame) : Addr := addrAt f 26
def destination (f : Frame) : Addr := addrAt f 30

/-- Where the IPv4 header of `f` ends by its own length field. -/
def udpStart (f : Frame) : Nat := 14 + 4 * ihl f

def udpLength (f : Frame) : Nat := u16At f (udpStart f + 4)
def udpCheck (f : Frame) : Nat := u16At f (udpStart f + 6)

/-! ## Checksums -/

/-- The words the IPv4 header checksum covers. -/
def ipWords (f : Frame) : List Nat := words (bytesAt f 14 (4 * ihl f))

def IpChecksumValid (f : Frame) : Prop := sum (ipWords f) = 0xffff

/-- What a sender puts in the check field of a 20-byte header: the checksum of the header with
that field zero. -/
def headerChecksum (f : Frame) : Nat :=
  checksum (words (overwrite (bytesAt f 14 20) 10 [0, 0]))

/-- The words the UDP checksum covers: pseudo-header, UDP header and data. -/
def udpWords (f : Frame) : List Nat :=
  words (bytesAt f 26 4) ++ words (bytesAt f 30 4) ++ [protocol f, udpLength f] ++
    words (bytesAt f (udpStart f) (udpLength f))

/-- A zero field means that the sender computed no checksum. -/
def UdpChecksumValid (f : Frame) : Prop := udpCheck f = 0 ∨ sum (udpWords f) = 0xffff

structure ChecksumsValid (f : Frame) : Prop where
  ip : IpChecksumValid f
  udp : UdpChecksumValid f

instance (f : Frame) : Decidable (IpChecksumValid f) :=
  inferInstanceAs (Decidable (sum (ipWords f) = 0xffff))

instance (f : Frame) : Decidable (UdpChecksumValid f) :=
  inferInstanceAs (Decidable (udpCheck f = 0 ∨ sum (udpWords f) = 0xffff))

instance (f : Frame) : Decidable (ChecksumsValid f) :=
  decidable_of_iff (IpChecksumValid f ∧ UdpChecksumValid f)
    ⟨fun h => ⟨h.1, h.2⟩, fun h => ⟨h.ip, h.udp⟩⟩

/-! ## Layout -/

/-- By the frame's own fields a UDP header lies at bytes 34..42, and at least four bytes of its
data at 42..46. -/
structure LayoutOk (f : Frame) : Prop where
  version : version f = 4
  ihl : ihl f = 5
  fragmentOffset : fragmentOffset f = 0
  totalLength : 32 ≤ totalLength f
  fits : 14 + Wire.totalLength f ≤ f.length
  udpLength : 12 ≤ udpLength f
  udpFits : Wire.udpLength f + 20 ≤ Wire.totalLength f

instance (f : Frame) : Decidable (LayoutOk f) :=
  decidable_of_iff
    (Wire.version f = 4 ∧ Wire.ihl f = 5 ∧ Wire.fragmentOffset f = 0 ∧ 32 ≤ Wire.totalLength f ∧
      14 + Wire.totalLength f ≤ f.length ∧ 12 ≤ Wire.udpLength f ∧
      Wire.udpLength f + 20 ≤ Wire.totalLength f)
    ⟨fun ⟨h1, h2, h3, h4, h5, h6, h7⟩ => ⟨h1, h2, h3, h4, h5, h6, h7⟩,
    fun h => ⟨h.1, h.2, h.3, h.4, h.5, h.6, h.7⟩⟩

/-! ## Datagrams -/

@[ext] structure Datagram where
  src : Addr
  srcPort : Port
  dst : Addr
  dstPort : Port
  payload : List Byte
  deriving DecidableEq

/-- The frame carries the datagram: one packet, 20-byte header, not a fragment. -/
structure IsDatagram (f : Frame) (d : Datagram) : Prop where
  etherType : etherType f = 0x0800
  version : version f = 4
  ihl : ihl f = 5
  moreFragments : moreFragments f = 0
  fragmentOffset : fragmentOffset f = 0
  protocol : protocol f = 17
  fits : 14 + totalLength f ≤ f.length
  totalLength : totalLength f = 28 + d.payload.length
  udpLength : u16At f 38 = 8 + d.payload.length
  src : source f = d.src
  dst : destination f = d.dst
  srcPort : portAt f 34 = d.srcPort
  dstPort : portAt f 36 = d.dstPort
  payload : bytesAt f 42 d.payload.length = d.payload

instance (f : Frame) (d : Datagram) : Decidable (IsDatagram f d) :=
  decidable_of_iff
    (Wire.etherType f = 0x0800 ∧ Wire.version f = 4 ∧ Wire.ihl f = 5 ∧ Wire.moreFragments f = 0 ∧
      Wire.fragmentOffset f = 0 ∧ Wire.protocol f = 17 ∧ 14 + Wire.totalLength f ≤ f.length ∧
      Wire.totalLength f = 28 + d.payload.length ∧ u16At f 38 = 8 + d.payload.length ∧
      source f = d.src ∧ destination f = d.dst ∧ portAt f 34 = d.srcPort ∧
      portAt f 36 = d.dstPort ∧ bytesAt f 42 d.payload.length = d.payload)
    ⟨fun ⟨h1, h2, h3, h4, h5, h6, h7, h8, h9, h10, h11, h12, h13, h14⟩ =>
      ⟨h1, h2, h3, h4, h5, h6, h7, h8, h9, h10, h11, h12, h13, h14⟩,
    fun h => ⟨h.1, h.2, h.3, h.4, h.5, h.6, h.7, h.8, h.9, h.10, h.11, h.12, h.13, h.14⟩⟩

@[simp] theorem length_addrBytes (a : Addr) : (addrBytes a).length = 4 := length_toBeBytes _

/-- The address field of a frame holds the address's bytes. -/
theorem bytesAt_addrAt {f : Frame} {o : Nat} (h : o + 4 ≤ f.length) :
    bytesAt f o 4 = addrBytes (addrAt f o) :=
  (toBeBytes_fromBeBytes (length_bytesAt h)).symm

theorem addrAt_of_bytes {f : Frame} {o : Nat} {a : Addr} (h : bytesAt f o 4 = addrBytes a) :
    addrAt f o = a := by
  rw [addrAt, h]
  exact fromBeBytes_toBeBytes _

namespace IsDatagram

variable {f : Frame} {d d' : Datagram}

theorem length (h : IsDatagram f d) : 42 + d.payload.length ≤ f.length := by
  have := h.fits
  rw [h.totalLength] at this
  omega

/-- A frame carries at most one datagram. -/
theorem unique (h : IsDatagram f d) (h' : IsDatagram f d') : d = d' := by
  have hl : d.payload.length = d'.payload.length := by
    have := h.udpLength
    rw [h'.udpLength] at this
    omega
  exact Datagram.ext (h.src.symm.trans h'.src) (h.srcPort.symm.trans h'.srcPort)
    (h.dst.symm.trans h'.dst) (h.dstPort.symm.trans h'.dstPort)
    (by rw [← h.payload, ← h'.payload, hl])

/-- Four payload bytes at least lie at bytes 42..46. -/
theorem head (h : IsDatagram f d) (h4 : 4 ≤ d.payload.length) :
    bytesAt f 42 4 = d.payload.take 4 := by
  have := bytesAt_bytesAt f (o := 42) (m := d.payload.length) (a := 0) (n := 4) (by omega)
  rw [h.payload, bytesAt_zero] at this
  exact this.symm

end IsDatagram

/-! ## Rotation -/

/-- The router's protocol on datagrams: on to the address at the head of the payload, in the
router's name, with the sender's address in its place. The ports stay. -/
def Datagram.rotate (d : Datagram) : Datagram where
  src := d.dst
  srcPort := d.srcPort
  dst := addrAt d.payload 0
  dstPort := d.dstPort
  payload := addrBytes d.src ++ d.payload.drop 4

theorem addrAt_addrBytes (a : Addr) (rest : List Byte) : addrAt (addrBytes a ++ rest) 0 = a := by
  apply addrAt_of_bytes
  rw [bytesAt_append_left (by simp), bytesAt_zero, List.take_of_length_le (by simp)]

theorem drop_addrBytes (a : Addr) (rest : List Byte) : (addrBytes a ++ rest).drop 4 = rest :=
  List.drop_left' (length_addrBytes a)

theorem Datagram.rotate_mk (src dst t : Addr) (p q : Port) (rest : List Byte) :
    rotate ⟨src, p, dst, q, addrBytes t ++ rest⟩ = ⟨dst, p, t, q, addrBytes src ++ rest⟩ := by
  simp only [rotate, addrAt_addrBytes, drop_addrBytes]

end Wire
