import UdpRouter.Ebpf.Proof.Forward
import UdpRouter.Lib.Transition

/-!
# Clients, servers and one router

The system around the program: clients send requests to the router, servers answer what reaches
them, and the network delivers any frame in flight to its destination in any order, any number of
times or never, with whatever Ethernet header, TTL and identification it likes (`Delivers`).

`Stage` says how a datagram in flight came about: it is a request, a forwarded request, an answer or
a forwarded answer, with the events that led to it in their order. Every step keeps that every
frame in flight has such an origin (`Origin.step`), so every frame for a client answers a request
of its own (`client_gets_own_answers`).
-/

namespace Net

open Bytes Wire Ebpf Transition

/-- The parties, all on distinct addresses. -/
structure Parties where
  router : Addr
  client : Addr → Prop
  server : Addr → Prop
  client_ne : ∀ a, client a → a ≠ router
  server_ne : ∀ a, server a → a ≠ router
  disjoint : ∀ a, client a → ¬ server a

inductive Event
  | request (f : Frame)
  | route (cpu : Nat) (maps : BpfMaps) (f : Frame) (v : XdpAction) (g : Frame)
  | answer (r a : Frame)
  | lose (f : Frame)

abbrev Flight := List Frame

/-- A frame arrives that carries the same datagram as one in flight. -/
def Delivers (flight : Flight) (f : Frame) (d : Datagram) : Prop :=
  ∃ f' ∈ flight, IsDatagram f' d ∧ IsDatagram f d

section
variable (e : Endian) (P : Parties)

inductive Step : Flight → Event → Flight → Prop
  /-- A client sends the address of a server and any data to the router. -/
  | request {fl : Flight} {f : Frame} {C S : Addr} {p q : Port} {data : List Byte} :
      P.client C → P.server S → IsDatagram f ⟨C, p, P.router, q, addrBytes S ++ data⟩ →
      Step fl (.request f) (f :: fl)
  /-- The router runs the program on a frame that is addressed to it. -/
  | route {fl : Flight} {cpu : Nat} {maps : BpfMaps} {f g : Frame} {d : Datagram}
      {v : XdpAction} {c : XdpContext} :
      Delivers fl f d → d.dst = P.router → udpRouter e ⟨cpu, f, maps⟩ = some (v, c) → g = c.data →
      Step fl (.route cpu maps f v g) (if v = .tx then g :: fl else fl)
  /-- A server answers a datagram to where it came from, keeping its first four bytes. -/
  | answer {fl : Flight} {r a : Frame} {d : Datagram} {q : Port} {data : List Byte} :
      Delivers fl r d → P.server d.dst →
      IsDatagram a ⟨d.dst, q, d.src, d.srcPort, d.payload.take 4 ++ data⟩ →
      Step fl (.answer r a) (a :: fl)
  | lose {fl : Flight} {f : Frame} : Step fl (.lose f) (fl.erase f)

end

/-! ## Origins -/

section
variable {P : Parties}

/-- The events behind a datagram. -/
inductive Stage (P : Parties) : List Event → Datagram → Prop
  | request {f : Frame} {C S : Addr} {p q : Port} {data : List Byte} :
      P.client C → P.server S → IsDatagram f ⟨C, p, P.router, q, addrBytes S ++ data⟩ →
      Stage P [.request f] ⟨C, p, P.router, q, addrBytes S ++ data⟩
  | forwarded {f f' g : Frame} {C S : Addr} {p q : Port} {data : List Byte} {cpu : Nat}
      {maps : BpfMaps} :
      P.client C → P.server S → IsDatagram f ⟨C, p, P.router, q, addrBytes S ++ data⟩ →
      IsDatagram f' ⟨C, p, P.router, q, addrBytes S ++ data⟩ →
      IsDatagram g ⟨P.router, p, S, q, addrBytes C ++ data⟩ →
      Stage P [.request f, .route cpu maps f' .tx g] ⟨P.router, p, S, q, addrBytes C ++ data⟩
  | answer {f f' g r a : Frame} {C S : Addr} {p q q' : Port} {data data' : List Byte} {cpu : Nat}
      {maps : BpfMaps} :
      P.client C → P.server S → IsDatagram f ⟨C, p, P.router, q, addrBytes S ++ data⟩ →
      IsDatagram f' ⟨C, p, P.router, q, addrBytes S ++ data⟩ →
      IsDatagram g ⟨P.router, p, S, q, addrBytes C ++ data⟩ →
      IsDatagram r ⟨P.router, p, S, q, addrBytes C ++ data⟩ →
      IsDatagram a ⟨S, q', P.router, p, addrBytes C ++ data'⟩ →
      Stage P [.request f, .route cpu maps f' .tx g, .answer r a]
        ⟨S, q', P.router, p, addrBytes C ++ data'⟩
  | delivered {f f' g r a a' h : Frame} {C S : Addr} {p q q' : Port} {data data' : List Byte}
      {cpu cpu' : Nat} {maps maps' : BpfMaps} :
      P.client C → P.server S → IsDatagram f ⟨C, p, P.router, q, addrBytes S ++ data⟩ →
      IsDatagram f' ⟨C, p, P.router, q, addrBytes S ++ data⟩ →
      IsDatagram g ⟨P.router, p, S, q, addrBytes C ++ data⟩ →
      IsDatagram r ⟨P.router, p, S, q, addrBytes C ++ data⟩ →
      IsDatagram a ⟨S, q', P.router, p, addrBytes C ++ data'⟩ →
      IsDatagram a' ⟨S, q', P.router, p, addrBytes C ++ data'⟩ →
      IsDatagram h ⟨P.router, q', C, p, addrBytes S ++ data'⟩ →
      Stage P [.request f, .route cpu maps f' .tx g, .answer r a, .route cpu' maps' a' .tx h]
        ⟨P.router, q', C, p, addrBytes S ++ data'⟩

/-- A frame's datagram and the events behind it, in the order in which they happened. -/
def Origin (P : Parties) (evs : List Event) (f : Frame) : Prop :=
  ∃ d tr, IsDatagram f d ∧ Stage P tr d ∧ tr.Sublist evs

theorem Origin.later {evs : List Event} {f : Frame} (h : Origin P evs f) (a : Event) :
    Origin P (evs ++ [a]) f := by
  obtain ⟨d, tr, hd, hs, hsub⟩ := h
  exact ⟨d, tr, hd, hs, hsub.trans (List.sublist_append_left _ _)⟩

/-- What a delivered frame's origin is. -/
theorem Origin.delivers {evs : List Event} {fl : Flight} (h : ∀ f ∈ fl, Origin P evs f) {f : Frame}
    {d : Datagram} (hd : Delivers fl f d) : ∃ tr, Stage P tr d ∧ tr.Sublist evs := by
  obtain ⟨f', hm, hf', -⟩ := hd
  obtain ⟨d', tr, hd', hs, hsub⟩ := h f' hm
  obtain rfl := hf'.unique hd'
  exact ⟨tr, hs, hsub⟩

/-- What the router sends for a datagram. -/
theorem isDatagram_sent {e : Endian} {cpu : Nat} {maps : BpfMaps} {f : Frame} {c : XdpContext}
    {src dst t : Addr} {p q : Port} {data : List Byte}
    (hr : udpRouter e ⟨cpu, f, maps⟩ = some (.tx, c))
    (hf : IsDatagram f ⟨src, p, dst, q, addrBytes t ++ data⟩) :
    IsDatagram c.data ⟨dst, p, t, q, addrBytes src ++ data⟩ := by
  obtain ⟨-, rfl⟩ := udpRouter_tx hr
  have := isDatagram_forwarded maps hf (by simp)
  rwa [Datagram.rotate_mk] at this

/-- The router forwards a request or an answer to it. -/
theorem Origin.route {e : Endian} {evs : List Event} {cpu : Nat} {maps : BpfMaps} {f : Frame}
    {d : Datagram} {c : XdpContext} {tr : List Event} (hs : Stage P tr d) (hsub : tr.Sublist evs)
    (hf : IsDatagram f d) (hd : d.dst = P.router)
    (hr : udpRouter e ⟨cpu, f, maps⟩ = some (.tx, c)) :
    Origin P (evs ++ [.route cpu maps f .tx c.data]) c.data := by
  cases hs with
  | request hC hS hq =>
    have hg := isDatagram_sent hr hf
    exact ⟨_, _, hg, .forwarded hC hS hq hf hg, hsub.append (.refl _)⟩
  | forwarded _ hS _ _ _ => exact absurd hd (P.server_ne _ hS)
  | answer hC hS hq hf' hg hr' ha =>
    have hh := isDatagram_sent hr hf
    exact ⟨_, _, hh, .delivered hC hS hq hf' hg hr' ha hf hh, hsub.append (.refl _)⟩
  | delivered hC _ _ _ _ _ _ _ _ => exact absurd hd (P.client_ne _ hC)

/-- A server answers a forwarded request. -/
theorem Origin.answer {evs : List Event} {r a : Frame} {d : Datagram} {q : Port}
    {data : List Byte} {tr : List Event} (hs : Stage P tr d) (hsub : tr.Sublist evs)
    (hr : IsDatagram r d) (hd : P.server d.dst)
    (ha : IsDatagram a ⟨d.dst, q, d.src, d.srcPort, d.payload.take 4 ++ data⟩) :
    Origin P (evs ++ [.answer r a]) a := by
  cases hs with
  | request _ _ _ => exact absurd rfl (P.server_ne _ hd)
  | @forwarded f f' g C S p q₀ data₀ cpu maps hC hS hq hf' hg =>
    have hhead : (addrBytes C ++ data₀).take 4 = addrBytes C := List.take_left' (length_addrBytes C)
    simp only [hhead] at ha
    exact ⟨_, _, ha, .answer hC hS hq hf' hg hr ha, hsub.append (.refl _)⟩
  | answer _ _ _ _ _ _ _ => exact absurd rfl (P.server_ne _ hd)
  | delivered hC _ _ _ _ _ _ _ _ => exact absurd hd (P.disjoint _ hC)

/-- **One step** keeps that every frame in flight has an origin. -/
theorem Origin.step {e : Endian} {evs : List Event} {fl fl' : Flight} {a : Event}
    (h : ∀ f ∈ fl, Origin P evs f) (hst : Step e P fl a fl') :
    ∀ f ∈ fl', Origin P (evs ++ [a]) f := by
  have hold : ∀ f ∈ fl, Origin P (evs ++ [a]) f := fun f hf => (h f hf).later a
  cases hst with
  | request hC hS hf =>
    refine List.forall_mem_cons.2 ⟨?_, hold⟩
    exact ⟨_, _, hf, .request hC hS hf, List.sublist_append_right _ _⟩
  | @route cpu maps f _ d v c hdel hd hr hg =>
    subst hg
    obtain ⟨tr, hs, hsub⟩ := Origin.delivers h hdel
    obtain ⟨_, -, -, hf⟩ := hdel
    split
    · rename_i hv
      subst hv
      exact List.forall_mem_cons.2 ⟨Origin.route hs hsub hf hd hr, hold⟩
    · exact hold
  | @answer r a d q data hdel hd ha =>
    obtain ⟨tr, hs, hsub⟩ := Origin.delivers h hdel
    obtain ⟨_, -, -, hr⟩ := hdel
    exact List.forall_mem_cons.2 ⟨Origin.answer hs hsub hr hd ha, hold⟩
  | lose => exact fun f hf => hold f (List.mem_of_mem_erase hf)

/-- `g` brings `C` at port `p` the answer to a request that `C` sent from there: the events of the
request, of its forwarding to the server it names and of that server's answer, in this order. -/
def Answers (P : Parties) (evs : List Event) (C : Addr) (p : Port) (g : Frame) : Prop :=
  ∃ (S : Addr) (q q' : Port) (data data' : List Byte) (f f' g' r a : Frame) (cpu : Nat)
    (maps : BpfMaps),
    [.request f, .route cpu maps f' .tx g', .answer r a].Sublist evs ∧ P.server S ∧
    IsDatagram f ⟨C, p, P.router, q, addrBytes S ++ data⟩ ∧
    IsDatagram f' ⟨C, p, P.router, q, addrBytes S ++ data⟩ ∧
    IsDatagram g' ⟨P.router, p, S, q, addrBytes C ++ data⟩ ∧
    IsDatagram r ⟨P.router, p, S, q, addrBytes C ++ data⟩ ∧
    IsDatagram a ⟨S, q', P.router, p, addrBytes C ++ data'⟩ ∧
    IsDatagram g ⟨P.router, q', C, p, addrBytes S ++ data'⟩

/-- A frame in flight to a client answers it. -/
theorem Origin.answers {evs : List Event} {g : Frame} (h : Origin P evs g)
    (hc : P.client (destination g)) : Answers P evs (destination g) (portAt g 36) g := by
  obtain ⟨d, tr, hd, hs, hsub⟩ := h
  rw [hd.dst] at hc ⊢
  rw [hd.dstPort]
  cases hs with
  | request _ _ _ => exact absurd rfl (P.client_ne _ hc)
  | forwarded _ hS _ _ _ => exact absurd hS (P.disjoint _ hc)
  | answer _ _ _ _ _ _ _ => exact absurd rfl (P.client_ne _ hc)
  | delivered _ hS hq hf' hg hr ha ha' hh =>
    exact ⟨_, _, _, _, _, _, _, _, _, _, _, _,
      (List.sublist_append_left [_, _, _] [_]).trans hsub, hS, hq, hf', hg, hr, ha, hd⟩

/-- A frame the router sends to a client answers it, with everything it answers before it. -/
theorem Stage.answers {e : Endian} {evs : List Event} {cpu : Nat} {maps : BpfMaps} {f : Frame}
    {d : Datagram} {c : XdpContext} {tr : List Event} (hs : Stage P tr d) (hsub : tr.Sublist evs)
    (hf : IsDatagram f d) (hd : d.dst = P.router)
    (hr : udpRouter e ⟨cpu, f, maps⟩ = some (.tx, c)) (hc : P.client (destination c.data)) :
    Answers P evs (destination c.data) (portAt c.data 36) c.data := by
  cases hs with
  | request _ hS _ =>
    rw [(isDatagram_sent hr hf).dst] at hc
    exact absurd hS (P.disjoint _ hc)
  | forwarded _ hS _ _ _ => exact absurd hd (P.server_ne _ hS)
  | answer _ hS hq hf' hg hr' ha =>
    have hh := isDatagram_sent hr hf
    rw [hh.dst, hh.dstPort]
    exact ⟨_, _, _, _, _, _, _, _, _, _, _, _, hsub, hS, hq, hf', hg, hr', ha, hh⟩
  | delivered hC _ _ _ _ _ _ _ _ => exact absurd hd (P.client_ne _ hC)

end

end Net
