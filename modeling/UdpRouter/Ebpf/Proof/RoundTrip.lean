import UdpRouter.Ebpf.Proof.Forward
import UdpRouter.Server.Main

/-!
# A request and its answer through the router

One forwarding step on datagrams (`forward_datagram`) taken twice with a server in between:
`Datagram.rotate_mk` moves the client's address into the payload on the way out and the server's
back into it on the way in, and the ports come back because nothing touches them.
-/

namespace Ebpf

open Bytes Wire Server

/-- **One pass**: a datagram from an accepted source is sent on rotated, its checksums valid. -/
theorem forward_datagram (e : Endian) (cpu : Nat) {maps : BpfMaps} {f : Frame} {src dst t : Addr}
    {p q : Port} {rest : List Byte} (ha : Accepts maps src)
    (hf : IsDatagram f ⟨src, p, dst, q, addrBytes t ++ rest⟩) (hv : ChecksumsValid f) :
    ∃ g, udpRouter e ⟨cpu, f, maps⟩ = some (.tx, ⟨cpu, g, maps⟩) ∧
      IsDatagram g ⟨dst, p, t, q, addrBytes src ++ rest⟩ ∧ ChecksumsValid g := by
  have h4 : 4 ≤ (addrBytes t ++ rest).length := by simp
  refine ⟨_, udpRouter_of_tx e cpu (verdict_of_datagram maps hf h4 ha), ?_,
    checksumsValid_of_datagram maps hf h4 hv⟩
  have := isDatagram_forwarded maps hf h4
  rwa [Datagram.rotate_mk] at this

/-- The answer of the echo server to a forwarded request. -/
theorem echo_mk (src dst c : Addr) (p : Port) (rest : List Byte) :
    echo ⟨src, p, dst, port, addrBytes c ++ rest⟩ =
      some ⟨dst, port, src, p, addrBytes c ++ rest.take 1020⟩ := by
  rw [echo, if_pos rfl]
  simp only [bufLen, List.take_append, length_addrBytes]
  rw [List.take_of_length_le (by simp)]

/-- **Round trip.** A request `S ++ rest` from `C:p` to `R:q` leaves as `C ++ rest` from `R:p` to
`S:q`; an answer from there that keeps the four bytes it received leaves as `S ++ rest'` from
`R:q` to `C:p`. The echo server's answer is such a one, and brings back a request of at most 1024
bytes exactly as it was sent. -/
theorem round_trip (e : Endian) (cpu cpu' : Nat) (maps : BpfMaps) (C R S : Addr) (p q : Port)
    (rest : List Byte) (f : Frame) (hC : Accepts maps C) (hS : Accepts maps S)
    (hf : IsDatagram f ⟨C, p, R, q, addrBytes S ++ rest⟩) (hv : ChecksumsValid f) :
    ∃ g, udpRouter e ⟨cpu, f, maps⟩ = some (.tx, ⟨cpu, g, maps⟩) ∧
      IsDatagram g ⟨R, p, S, q, addrBytes C ++ rest⟩ ∧ ChecksumsValid g ∧
      (∀ rest' a, IsDatagram a ⟨S, q, R, p, (addrBytes C ++ rest).take 4 ++ rest'⟩ →
        ChecksumsValid a →
        ∃ h, udpRouter e ⟨cpu', a, maps⟩ = some (.tx, ⟨cpu', h, maps⟩) ∧
          IsDatagram h ⟨R, q, C, p, addrBytes S ++ rest'⟩ ∧ ChecksumsValid h) ∧
      (q = port → ∀ d, IsDatagram g d → ∃ d', echo d = some d' ∧
        d' = ⟨S, q, R, p, (addrBytes C ++ rest).take 4 ++ rest.take 1020⟩ ∧
        ∀ a, IsDatagram a d' → ChecksumsValid a →
          ∃ h, udpRouter e ⟨cpu', a, maps⟩ = some (.tx, ⟨cpu', h, maps⟩) ∧ ChecksumsValid h ∧
            (4 + rest.length ≤ 1024 → IsDatagram h ⟨R, q, C, p, addrBytes S ++ rest⟩)) := by
  have hhead : (addrBytes C ++ rest).take 4 = addrBytes C := List.take_left' (length_addrBytes C)
  obtain ⟨g, hg, hd, hvg⟩ := forward_datagram e cpu hC hf hv
  refine ⟨g, hg, hd, hvg, fun rest' a ha hva => ?_, fun hq d hgd => ?_⟩
  · rw [hhead] at ha
    exact forward_datagram e cpu' hS ha hva
  · subst hq
    obtain rfl := hgd.unique hd
    refine ⟨_, echo_mk R S C p rest, by rw [hhead], fun a ha hva => ?_⟩
    obtain ⟨h, hh, hhd, hvh⟩ := forward_datagram e cpu' hS ha hva
    refine ⟨h, hh, hvh, fun hle => ?_⟩
    rwa [List.take_of_length_le (by omega)] at hhd

theorem round_trip_example : ∃ g,
    udpRouter .little ⟨0, exampleRequest, readmeMaps⟩ = some (.tx, ⟨0, g, readmeMaps⟩) ∧
      IsDatagram g ⟨0x0a00020a, 40000, 0x0a00030a, 8888, [10, 0, 1, 10, 104, 105, 33]⟩ := by
  obtain ⟨g, hg, hd, -⟩ := round_trip .little 0 0 readmeMaps 0x0a00010a 0x0a00020a 0x0a00030a
    40000 8888 [104, 105, 33] exampleRequest (by decide) (by decide) (by decide +kernel)
    (by decide +kernel)
  exact ⟨g, hg, hd⟩

end Ebpf
