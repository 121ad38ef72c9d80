import UdpRouter.Client.Proof.Session
import UdpRouter.Ebpf.Proof.RoundTrip
import UdpRouter.Net.Encode

/-!
# The client, the router and the server together

The test client runs against its two sockets, the program of the router and the echo server. The
network brings every frame at most once, in any order and under any header that keeps its datagram
and its checksums valid, and may lose it. The router may have any configuration of `config` when
a frame arrives. `Leg`: the datagrams a ping consists of, and how often each has yet to arrive
somewhere.
-/

namespace Net.Ping

open Bytes Ebpf Wire
open Client (Socket Effect Reply Call Ledger)

/-- Three hosts and the ports of the client's sockets; the client's options name the other two. -/
structure Site where
  opt : Client.Opt
  histogram : Client.Histogram
  resolve : String → Option (Addr × Port)
  endian : Endian
  client : Addr
  router : Addr
  server : Addr
  port : Socket → Port
  parsed : Client.serverIp opt = .ok server
  resolve_server : resolve (opt.server ++ ":8888") = some (server, 8888)
  resolve_proxy : resolve (opt.proxy ++ ":8888") = some (router, 8888)
  built : ∃ empty, histogram.newWithBounds 1 100000 2 = .ok empty
  client_ne_router : client ≠ router
  client_ne_server : client ≠ server
  router_ne_server : router ≠ server
  port_ne : port .direct ≠ port .proxy
  client_routable : isLinkLocalIp client = false
  server_routable : isLinkLocalIp server = false

/-- The router forwards what the client and the server send. -/
def Serves (X : Site) (maps : BpfMaps) : Prop := Accepts maps X.client ∧ Accepts maps X.server

/-- The client's program, the frames in flight and what has arrived at the sockets. -/
structure World where
  program : Client.Process (Except String Unit)
  flight : List Frame
  buffers : Socket → List Datagram

inductive Event
  | client (x : Call)
  | route (cpu : Nat) (f f' : Frame) (v : XdpAction) (g : Frame)
  | serve (f : Frame)
  | deliver (f : Frame)
  | refuse (f : Frame)
  | lose (f : Frame)

/-- The frame `f` arrives as `f'`. -/
structure Arrives (f f' : Frame) (d : Datagram) : Prop where
  sent : IsDatagram f d
  arrived : IsDatagram f' d
  valid : ChecksumsValid f → ChecksumsValid f'

/-- What is replied to a call without the network. -/
def Replies (X : Site) : (c : Effect) → Reply c → Prop
  | .bind _ _, r => r = .ok ()
  | .println _, _ => True
  | .now, _ => True
  | .sendTo _ _ target, r => X.resolve target = none ∧ ∃ e, r = .error e
  | .recvFrom _ _, _ => False

/-- A server or client host takes the datagram for one of its sockets. -/
def Accepted (X : Site) (f : Frame) (d : Datagram) : Prop :=
  ChecksumsValid f ∧
    (d.dst = X.server ∧ d.dstPort = Server.port ∨
      d.dst = X.client ∧ ∃ socket, d.dstPort = X.port socket)

section
variable (X : Site) (config : BpfMaps → Prop) (lossy : Prop)

inductive Step : World → Event → World → Prop
  | compute {w : World} {c : Effect} {k : Reply c → Client.Process (Except String Unit)}
      {r : Reply c} :
      w.program = .call c k → Replies X c r → Step w (.client ⟨c, r⟩) { w with program := k r }
  | send {w : World} {socket : Socket} {buf : List Byte} {target : String}
      {k : Except String Nat → Client.Process (Except String Unit)} {a : Addr} {p : Port}
      {f : Frame} :
      w.program = .call (.sendTo socket buf target) k → X.resolve target = some (a, p) →
      IsDatagram f ⟨X.client, X.port socket, a, p, buf⟩ → ChecksumsValid f →
      Step w (.client ⟨.sendTo socket buf target, .ok buf.length⟩)
        { w with program := k (.ok buf.length), flight := f :: w.flight }
  | recv {w : World} {socket : Socket} {n : Nat}
      {k : Except String (List Byte × Addr × Port) → Client.Process (Except String Unit)}
      {d : Datagram} {ds : List Datagram} :
      w.program = .call (.recvFrom socket n) k → w.buffers socket = d :: ds →
      Step w (.client ⟨.recvFrom socket n, .ok (d.payload.take n, d.src, d.srcPort)⟩)
        { w with
          program := k (.ok (d.payload.take n, d.src, d.srcPort))
          buffers := Function.update w.buffers socket ds }
  | route {w : World} {f f' : Frame} {d : Datagram} {cpu : Nat} {maps : BpfMaps} {v : XdpAction}
      {c : XdpContext} :
      f ∈ w.flight → Arrives f f' d → d.dst = X.router → config maps →
      udpRouter X.endian ⟨cpu, f', maps⟩ = some (v, c) →
      Step w (.route cpu f f' v c.data)
        { w with flight := if v = .tx then c.data :: w.flight.erase f else w.flight.erase f }
  | serve {w : World} {f f' g : Frame} {d d' : Datagram} :
      f ∈ w.flight → Arrives f f' d → d.dst = X.server → ChecksumsValid f' →
      Server.echo d = some d' → IsDatagram g d' → ChecksumsValid g →
      Step w (.serve f) { w with flight := g :: w.flight.erase f }
  | deliver {w : World} {f f' : Frame} {d : Datagram} {socket : Socket} :
      f ∈ w.flight → Arrives f f' d → d.dst = X.client → ChecksumsValid f' →
      d.dstPort = X.port socket →
      Step w (.deliver f)
        { w with
          flight := w.flight.erase f
          buffers := Function.update w.buffers socket (w.buffers socket ++ [d]) }
  | refuse {w : World} {f f' : Frame} {d : Datagram} :
      f ∈ w.flight → Arrives f f' d → d.dst ≠ X.router → ¬ Accepted X f' d →
      Step w (.refuse f) { w with flight := w.flight.erase f }
  | lose {w : World} {f : Frame} :
      lossy → f ∈ w.flight → Step w (.lose f) { w with flight := w.flight.erase f }

end

theorem Step.mono {X : Site} {config config' : BpfMaps → Prop} {lossy lossy' : Prop} {w w' : World}
    {a : Event} (h : Step X config lossy w a w') (hc : ∀ maps, config maps → config' maps)
    (hl : lossy → lossy') : Step X config' lossy' w a w' := by
  cases h with
  | compute hp hr => exact .compute hp hr
  | send hp hr hf hv => exact .send hp hr hf hv
  | recv hp hb => exact .recv hp hb
  | route hf ha hd hm hr => exact .route hf ha hd (hc _ hm) hr
  | serve hf ha hd hv he hg hvg => exact .serve hf ha hd hv he hg hvg
  | deliver hf ha hd hv hp => exact .deliver hf ha hd hv hp
  | refuse hf ha hd hn => exact .refuse hf ha hd hn
  | lose hlossy hf => exact .lose (hl hlossy) hf

/-- Before the first call. -/
def Site.start (X : Site) : World :=
  ⟨Client.main X.histogram X.opt, [], fun _ => []⟩

/-! ## The legs of a ping -/

section
variable (X : Site)

/-- A datagram of a ping, with the number of arrivals to come. -/
inductive Leg : Socket → Nat → Datagram → Prop
  | ask : Leg .direct 2 ⟨X.client, X.port .direct, X.server, 8888, addrBytes X.server⟩
  | reply : Leg .direct 1 ⟨X.server, 8888, X.client, X.port .direct, addrBytes X.server⟩
  | request : Leg .proxy 4 ⟨X.client, X.port .proxy, X.router, 8888, addrBytes X.server⟩
  | forwarded : Leg .proxy 3 ⟨X.router, X.port .proxy, X.server, 8888, addrBytes X.client⟩
  | answer : Leg .proxy 2 ⟨X.server, 8888, X.router, X.port .proxy, addrBytes X.client⟩
  | delivered : Leg .proxy 1 ⟨X.router, 8888, X.client, X.port .proxy, addrBytes X.server⟩

/-- The host that a socket's pings are sent to. -/
def Site.peer : Socket → Addr
  | .direct => X.server
  | .proxy => X.router

/-- Arrivals to come, from the addresses of a frame. -/
def arrivals (f : Frame) : Nat :=
  if destination f = X.client then 1
  else if destination f = X.server then (if source f = X.client then 2 else 3)
  else if source f = X.server then 2 else 4

end

section
variable {X : Site} {socket : Socket} {n : Nat} {d : Datagram} {f g : Frame}

theorem Leg.arrivals_eq (h : Leg X socket n d) (hf : IsDatagram f d) : arrivals X f = n := by
  have hcr := X.client_ne_router
  have hcs := X.client_ne_server
  have hrs := X.router_ne_server
  unfold arrivals
  rw [hf.src, hf.dst]
  cases h <;> simp [hcr.symm, hcs, hcs.symm, hrs]

/-- What a socket receives in the end. -/
theorem Leg.last (h : Leg X socket 1 d) :
    d = ⟨X.peer socket, 8888, X.client, X.port socket, addrBytes X.server⟩ := by
  cases h with
  | reply => rfl
  | delivered => rfl

theorem Leg.first (X : Site) (socket : Socket) : ∃ n ≤ 4, 0 < n ∧ Leg X socket n
    ⟨X.client, X.port socket, X.peer socket, 8888, addrBytes X.server⟩ := by
  cases socket with
  | direct => exact ⟨2, by decide, by decide, .ask⟩
  | proxy => exact ⟨4, by decide, by decide, .request⟩

/-- What the router makes of a datagram with an address for its payload. -/
theorem route_ping {maps : BpfMaps} {src dst t : Addr} {p q : Port} {cpu : Nat} {v : XdpAction}
    {c : XdpContext} (ha : Accepts maps src) (hf : IsDatagram f ⟨src, p, dst, q, addrBytes t⟩)
    (hv : ChecksumsValid f) (hr : udpRouter X.endian ⟨cpu, f, maps⟩ = some (v, c)) :
    v = .tx ∧ IsDatagram c.data ⟨dst, p, t, q, addrBytes src⟩ ∧ ChecksumsValid c.data := by
  rw [← List.append_nil (addrBytes t)] at hf
  obtain ⟨g, hg, hd, hvg⟩ := forward_datagram X.endian cpu ha hf hv
  rw [hg, Option.some.injEq, Prod.mk.injEq] at hr
  obtain ⟨rfl, rfl⟩ := hr
  rw [List.append_nil] at hd
  exact ⟨rfl, hd, hvg⟩

/-- **At the router**, a ping goes on. -/
theorem Leg.route (h : Leg X socket n d) (hd : d.dst = X.router) {maps : BpfMaps} {cpu : Nat}
    {v : XdpAction} {c : XdpContext} (hm : Serves X maps) (hf : IsDatagram f d)
    (hv : ChecksumsValid f) (hr : udpRouter X.endian ⟨cpu, f, maps⟩ = some (v, c)) :
    v = .tx ∧ ∃ m d', n = m + 1 ∧ Leg X socket m d' ∧ IsDatagram c.data d' ∧
      ChecksumsValid c.data := by
  obtain ⟨hc, hs⟩ := hm
  cases h with
  | ask => exact absurd hd.symm X.router_ne_server
  | reply => exact absurd hd X.client_ne_router
  | request =>
    obtain ⟨rfl, hdata, hvalid⟩ := route_ping hc hf hv hr
    exact ⟨rfl, 3, _, rfl, .forwarded, hdata, hvalid⟩
  | forwarded => exact absurd hd.symm X.router_ne_server
  | answer =>
    obtain ⟨rfl, hdata, hvalid⟩ := route_ping hs hf hv hr
    exact ⟨rfl, 1, _, rfl, .delivered, hdata, hvalid⟩
  | delivered => exact absurd hd X.client_ne_router

theorem echo_ping (src dst a : Addr) (p : Port) :
    Server.echo ⟨src, p, dst, 8888, addrBytes a⟩ = some ⟨dst, 8888, src, p, addrBytes a⟩ := by
  have h := echo_mk src dst a p []
  rwa [List.take_nil, List.append_nil] at h

/-- **At the server**, a ping goes on. -/
theorem Leg.serve (h : Leg X socket n d) (hd : d.dst = X.server) :
    ∃ m d', n = m + 1 ∧ Leg X socket m d' ∧ Server.echo d = some d' := by
  cases h with
  | ask => exact ⟨1, _, rfl, .reply, echo_ping _ _ _ _⟩
  | reply => exact absurd hd X.client_ne_server
  | request => exact absurd hd X.router_ne_server
  | forwarded => exact ⟨2, _, rfl, .answer, echo_ping _ _ _ _⟩
  | answer => exact absurd hd X.router_ne_server
  | delivered => exact absurd hd X.client_ne_server

/-- **At the client**, a ping has come back to its socket. -/
theorem Leg.deliver (h : Leg X socket n d) (hd : d.dst = X.client) :
    n = 1 ∧ d.dstPort = X.port socket := by
  cases h with
  | ask => exact absurd hd.symm X.client_ne_server
  | reply => exact ⟨rfl, rfl⟩
  | request => exact absurd hd.symm X.client_ne_router
  | forwarded => exact absurd hd.symm X.client_ne_server
  | answer => exact absurd hd.symm X.client_ne_router
  | delivered => exact ⟨rfl, rfl⟩

/-- A leg ends at one of the three hosts, which takes it. -/
theorem Leg.accepted (h : Leg X socket n d) :
    d.dst = X.router ∨ d.dst = X.server ∧ d.dstPort = Server.port ∨
      d.dst = X.client ∧ d.dstPort = X.port socket := by
  cases h with
  | ask => exact .inr (.inl ⟨rfl, rfl⟩)
  | reply => exact .inr (.inr ⟨rfl, rfl⟩)
  | request => exact .inl rfl
  | forwarded => exact .inr (.inl ⟨rfl, rfl⟩)
  | answer => exact .inl rfl
  | delivered => exact .inr (.inr ⟨rfl, rfl⟩)

theorem Leg.length (h : Leg X socket n d) : d.payload.length ≤ 1472 := by
  cases h <;> exact (length_addrBytes _).trans_le (by decide)

theorem port_inj {s s' : Socket} (h : X.port s = X.port s') : s = s' := by
  cases s <;> cases s'
  · rfl
  · exact absurd h X.port_ne
  · exact absurd h.symm X.port_ne
  · rfl

end

/-! ## Three hosts -/

/-- The highest value that is counted with `v`. -/
def highestEquivalent (v : Nat) : Nat :=
  let shift := Nat.log2 (v ||| 255) - 7
  (v / 2 ^ shift + 1) * 2 ^ shift - 1

/-- A histogram with two significant digits: its highest value and what it has counted. -/
def exampleHistogram : Client.Histogram where
  Hist := Nat × List Nat
  newWithBounds low high sigfig :=
    if low < 1 then .error "LowIsZero"
    else if high < 2 * low then .error "HighLessThanTwiceLow"
    else if 5 < sigfig then .error "SigFigExceedsMax"
    else .ok (high, [])
  record hist v :=
    if v.toNat < 2 ^ max 8 (Nat.log2 hist.1 + 1) then (hist.1, v.toNat :: hist.2) else hist
  valueAtQuantile hist q :=
    let rank := max 1 (q * hist.2.length).ceil.toNat
    BitVec.ofNat 64 (highestEquivalent (hist.2.mergeSort.getD (rank - 1) 0))

/-- Addresses with a port; names would be left to the resolver. -/
def exampleResolve (target : String) : Option (Addr × Port) :=
  match target.toList.splitOn ':' with
  | [host, port] => do return (← Text.parseIpv4Addr host, ← (Text.fromStrRadix 10 16 port).toOption)
  | _ => none

/-- The hosts of the example frames. -/
def exampleSite : Site where
  opt := { proxy := "10.0.2.10", server := "10.0.3.10" }
  histogram := exampleHistogram
  resolve := exampleResolve
  endian := .little
  client := 0x0a00010a
  router := 0x0a00020a
  server := 0x0a00030a
  port socket := if socket = .direct then 40000 else 40001
  parsed := by
    have h : Text.parseIpv4Addr "10.0.3.10".toList = some 0x0a00030a := by decide +kernel
    rw [Client.serverIp, h]
  resolve_server := by decide +kernel
  resolve_proxy := by decide +kernel
  built := ⟨(100000, []), rfl⟩
  client_ne_router := by decide
  client_ne_server := by decide
  router_ne_server := by decide
  port_ne := by decide
  client_routable := by decide
  server_routable := by decide

end Net.Ping
