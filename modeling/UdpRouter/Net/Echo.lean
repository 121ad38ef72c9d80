import UdpRouter.Net.Finish

/-!
# The server's loop in the network

The server call by call: what arrives at its socket waits there, is received and is sent back later,
and a call may fail. Of this the client sees no more than the one-step reply of `Net.Ping`: a frame
counts as in flight until its answer is (`Refines`). So the client still finishes unless a frame is
lost or a call of the server fails (`loop_finishes`).
-/

namespace Net.Ping.Echo

open Bytes Ebpf Program Transition Wire
open Client (Ledger)

structure State where
  /-- The client and the frames in flight. -/
  world : World
  server : Server.Process (Except String Unit)
  /-- The server's socket is open. -/
  bound : Bool
  /-- What has arrived at the socket. -/
  queue : List Datagram

def State.init (X : Site) : State := ⟨X.start, Server.setup, false, []⟩

abbrev Call : Type := (c : Server.Effect) × Server.Reply c

inductive Event
  | ping (a : Ping.Event)
  | arrive (f : Frame)
  | server (x : Call)
  | again

def Fails : Call → Prop
  | ⟨.bind _, r⟩ => ∃ e, r = .error e
  | ⟨.println _, _⟩ => False
  | ⟨.recvFrom _, r⟩ => ∃ e, r = .error e
  | ⟨.sendTo _ _, r⟩ => ∃ e, r = .error e

/-- The frame `f` can arrive at the server's port as the datagram `d`. -/
def Takes (X : Site) (f : Frame) (d : Datagram) : Prop :=
  ∃ f', Arrives f f' d ∧ d.dst = X.server ∧ ChecksumsValid f' ∧ d.dstPort = Server.port

section
variable (X : Site) (config : BpfMaps → Prop) (lossy : Prop)

inductive Step : State → Event → State → Prop
  | host {s : State} {a : Ping.Event} {w : World} :
      (∀ f, a ≠ .serve f) → Ping.Step X config lossy s.world a w →
      Step s (.ping a) { s with world := w }
  | arrive {s : State} {f : Frame} {d : Datagram} :
      s.bound = true → f ∈ s.world.flight → Takes X f d →
      Step s (.arrive f)
        { s with
          world := { s.world with flight := s.world.flight.erase f }
          queue := s.queue ++ [d] }
  | bind {s : State} {addr : String}
      {k : Except String Unit → Server.Process (Except String Unit)} :
      s.server = .call (.bind addr) k →
      Step s (.server ⟨.bind addr, .ok ()⟩) { s with server := k (.ok ()), bound := true }
  | println {s : State} {line : String} {k : Unit → Server.Process (Except String Unit)} :
      s.server = .call (.println line) k →
      Step s (.server ⟨.println line, ()⟩) { s with server := k () }
  | recv {s : State} {n : Nat}
      {k : Except String (List Byte × Addr × Port) → Server.Process (Except String Unit)}
      {d : Datagram} {ds : List Datagram} :
      s.server = .call (.recvFrom n) k → s.queue = d :: ds →
      Step s (.server ⟨.recvFrom n, .ok (d.payload.take n, d.src, d.srcPort)⟩)
        { s with server := k (.ok (d.payload.take n, d.src, d.srcPort)), queue := ds }
  | send {s : State} {buf : List Byte} {addr : Addr × Port}
      {k : Except String Nat → Server.Process (Except String Unit)} {g : Frame} :
      s.server = .call (.sendTo buf addr) k →
      IsDatagram g ⟨X.server, Server.port, addr.1, addr.2, buf⟩ → ChecksumsValid g →
      Step s (.server ⟨.sendTo buf addr, .ok buf.length⟩)
        { s with
          world := { s.world with flight := g :: s.world.flight }
          server := k (.ok buf.length) }
  /-- The server ends with the error, and its socket is closed. -/
  | fail {s : State} {c : Server.Effect}
      {k : Server.Reply c → Server.Process (Except String Unit)} {r : Server.Reply c} :
      lossy → s.server = .call c k → Fails ⟨c, r⟩ →
      Step s (.server ⟨c, r⟩) { s with server := k r, bound := false, queue := [] }
  | again {s : State} :
      s.server = .done (.ok ()) → Step s .again { s with server := Server.round }

end

def Event.ping? : Event → Option Ping.Event
  | .ping a => some a
  | _ => none

def pings (evs : List Event) : List Ping.Event := evs.filterMap Event.ping?

def Event.fails : Event → Prop
  | .server x => Fails x
  | _ => False

def Failed (evs : List Event) : Prop := ∃ a ∈ evs, a.fails

/-- What the client does not see. -/
def serves : Ping.Event → Bool
  | .serve _ => true
  | _ => false

/-! ## The loop -/

/-- Where the server is: whether its socket is open, the datagram in its hands and what the calls
up to its next `recv_from` weigh. -/
inductive Position : Server.Process (Except String Unit) → Bool → List Datagram → Nat → Prop
  | setup {addr line : String} {k : Except String Unit → Server.Process (Except String Unit)} :
      k (.ok ()) = .call (.println line) (fun _ => .done (.ok ())) →
      (∀ e, k (.error e) = .done (.error e)) → Position (.call (.bind addr) k) false [] 4
  | opened {line : String} : Position (.call (.println line) fun _ => .done (.ok ())) true [] 3
  | ended : Position (.done (.ok ())) true [] 2
  | receiving {k : Except String (List Byte × Addr × Port) →
      Server.Process (Except String Unit)} :
      (∀ b addr, k (.ok (b, addr)) = Server.sendBack b addr) →
      (∀ e, k (.error e) = .done (.error e)) →
      Position (.call (.recvFrom Server.bufLen) k) true [] 1
  | sending (d : Datagram) {k : Except String Nat → Server.Process (Except String Unit)} :
      (∀ n, k (.ok n) = .done (.ok ())) → (∀ e, k (.error e) = .done (.error e)) →
      Position (.call (.sendTo (d.payload.take Server.bufLen) (d.src, d.srcPort)) k) true [d] 3
  | failed (e : String) : Position (.done (.error e)) false [] 0

/-- The network `s` with the server's loop, and `w` without. The frames `taken` are in flight in `w`
only, until the server answers them; `dead` are those that it will not answer. -/
structure Refines (X : Site) (failed : Prop) (hand : List Datagram) (taken dead : List Frame)
    (n : Nat) (s : State) (w : World) : Prop where
  program : w.program = s.world.program
  buffers : w.buffers = s.world.buffers
  flight : w.flight.Perm (s.world.flight ++ (taken ++ dead))
  taken : List.Forall₂ (Takes X) taken (hand ++ s.queue)
  position : Position s.server s.bound hand n
  alive : ¬ failed → dead = [] ∧ 0 < n

/-- The weight of what the server still does by itself. -/
def weight (n : Nat) (s : State) : Nat := n + 4 * s.world.flight.length + 3 * s.queue.length

theorem position_setup : Position Server.setup false [] 4 := .setup rfl fun _ => rfl

theorem position_round : Position Server.round true [] 1 := .receiving (fun _ _ => rfl) fun _ => rfl

theorem position_sendBack (d : Datagram) : Position
    (Server.sendBack (d.payload.take Server.bufLen) (d.src, d.srcPort)) true [d] 3 :=
  .sending d (fun _ => rfl) fun _ => rfl

section
variable {X : Site} {config : BpfMaps → Prop} {lossy failed : Prop} {hand : List Datagram}
  {taken dead : List Frame} {n : Nat} {s s' : State} {w : World} {a : Event}

theorem refines_init (X : Site) : Refines X False [] [] [] 4 (.init X) X.start where
  program := rfl
  buffers := rfl
  flight := .refl _
  taken := .nil
  position := position_setup
  alive _ := ⟨rfl, by decide⟩

/-- A call that fails ends the server. -/
theorem Position.fail {p : Server.Process (Except String Unit)} {bound : Bool}
    (h : Position p bound hand n) {c : Server.Effect}
    {k : Server.Reply c → Server.Process (Except String Unit)} {r : Server.Reply c}
    (hp : p = .call c k) (hr : Fails ⟨c, r⟩) : ∃ e, k r = .done (.error e) := by
  subst hp
  cases h with
  | setup _ he =>
    obtain ⟨e, rfl⟩ := hr
    exact ⟨e, he e⟩
  | opened => exact hr.elim
  | receiving _ he =>
    obtain ⟨e, rfl⟩ := hr
    exact ⟨e, he e⟩
  | sending _ _ he =>
    obtain ⟨e, rfl⟩ := hr
    exact ⟨e, he e⟩

/-- What `Ping.Step` does for a step, and what is left to weigh. -/
def Follows (X : Site) (config : BpfMaps → Prop) (lossy failed : Prop) (n : Nat) (s : State)
    (w : World) (a : Event) (s' : State) : Prop :=
  ∃ hand taken dead m w' pevs, Run (Ping.Step X config lossy) w pevs w' ∧
    pevs.filter (fun b => !serves b) = a.ping?.toList ∧
    Refines X (failed ∨ a.fails) hand taken dead m s' w' ∧
    weight m s' < weight n s + 5 * pevs.length

/-- A step that is not seen. -/
theorem Follows.hidden {hand : List Datagram} {taken dead : List Frame} {m : Nat}
    (h : Refines X (failed ∨ a.fails) hand taken dead m s' w) (ha : a.ping? = none)
    (hw : weight m s' < weight n s) : Follows X config lossy failed n s w a s' :=
  ⟨hand, taken, dead, m, w, [], .refl, by rw [ha]; rfl, h, hw⟩

theorem Follows.seen {hand : List Datagram} {taken dead : List Frame} {m : Nat} {w' : World}
    {b : Ping.Event} (hst : Ping.Step X config lossy w b w')
    (h : Refines X (failed ∨ a.fails) hand taken dead m s' w')
    (ha : [b].filter (fun b => !serves b) = a.ping?.toList)
    (hw : weight m s' ≤ weight n s + 4) : Follows X config lossy failed n s w a s' := by
  refine ⟨hand, taken, dead, m, w', [b], .single hst, ha, h, ?_⟩
  rw [List.length_singleton]
  omega

/-! ## The steps -/

theorem Refines.mem (h : Refines X failed hand taken dead n s w) {f : Frame}
    (hf : f ∈ s.world.flight) : f ∈ w.flight :=
  h.flight.mem_iff.2 (List.mem_append_left _ hf)

/-- A frame of both is gone. -/
theorem Refines.erase (h : Refines X failed hand taken dead n s w) {f : Frame}
    (hf : f ∈ s.world.flight) :
    (w.flight.erase f).Perm (s.world.flight.erase f ++ (taken ++ dead)) := by
  rw [← List.erase_append_left _ hf]
  exact h.flight.erase f

/-- A step of the client or the network. -/
theorem Refines.host (h : Refines X failed hand taken dead n s w) {b : Ping.Event} {u : World}
    (hb : ∀ f, b ≠ .serve f) (hst : Ping.Step X config lossy s.world b u) :
    Follows X config lossy failed n s w (.ping b) { s with world := u } := by
  have hquiet : [b].filter (fun b => !serves b) = [b] := by
    cases b with
    | serve f => exact absurd rfl (hb f)
    | _ => rfl
  have halive : ¬ (failed ∨ (Event.ping b).fails) → dead = [] ∧ 0 < n := fun hn =>
    h.alive fun hf => hn (.inl hf)
  have hlen : ∀ f, f ∈ s.world.flight → (s.world.flight.erase f).length < s.world.flight.length :=
    fun f hf => by
      have := List.length_pos_of_mem hf
      rw [List.length_erase_of_mem hf]
      omega
  cases hst with
  | compute hp hr =>
    exact .seen (.compute (h.program.trans hp) hr)
      ⟨rfl, h.buffers, h.flight, h.taken, h.position, halive⟩ hquiet (Nat.le_add_right _ _)
  | send hp hr hf hv =>
    refine .seen (.send (h.program.trans hp) hr hf hv)
      ⟨rfl, h.buffers, h.flight.cons _, h.taken, h.position, halive⟩ hquiet ?_
    simp only [weight, List.length_cons]
    omega
  | recv hp hbuf =>
    refine .seen (.recv (h.program.trans hp) (h.buffers ▸ hbuf))
      ⟨rfl, ?_, h.flight, h.taken, h.position, halive⟩ hquiet (Nat.le_add_right _ _)
    rw [h.buffers]
  | @route f f' d cpu maps v c hf harr hd hm hr =>
    refine .seen (.route (h.mem hf) harr hd hm hr)
      ⟨h.program, h.buffers, ?_, h.taken, h.position, halive⟩ hquiet ?_
    · dsimp only
      split_ifs
      · exact (h.erase hf).cons _
      · exact h.erase hf
    · have := hlen f hf
      simp only [weight]
      split_ifs
      · rw [List.length_cons]
        omega
      · omega
  | serve _ _ _ _ _ _ _ => exact absurd rfl (hb _)
  | @deliver f f' d socket hf harr hd hv hport =>
    refine .seen (.deliver (h.mem hf) harr hd hv hport)
      ⟨h.program, ?_, h.erase hf, h.taken, h.position, halive⟩ hquiet ?_
    · rw [h.buffers]
    · have := hlen f hf
      simp only [weight]
      omega
  | @refuse f f' d hf harr hd hn =>
    refine .seen (.refuse (h.mem hf) harr hd hn)
      ⟨h.program, h.buffers, h.erase hf, h.taken, h.position, halive⟩ hquiet ?_
    have := hlen f hf
    simp only [weight]
    omega
  | @lose f hlossy hf =>
    refine .seen (.lose hlossy (h.mem hf))
      ⟨h.program, h.buffers, h.erase hf, h.taken, h.position, halive⟩ hquiet ?_
    have := hlen f hf
    simp only [weight]
    omega

/-- A datagram arrives at the server's socket. -/
theorem Refines.arrive (h : Refines X failed hand taken dead n s w) {f : Frame} {d : Datagram}
    (hf : f ∈ s.world.flight) (htake : Takes X f d) :
    Follows X config lossy failed n s w (.arrive f)
      { s with
        world := { s.world with flight := s.world.flight.erase f }
        queue := s.queue ++ [d] } := by
  have hperm : w.flight.Perm (s.world.flight.erase f ++ ((taken ++ [f]) ++ dead)) := by
    have hmid : (s.world.flight.erase f ++ f :: (taken ++ dead)).Perm
        (s.world.flight ++ (taken ++ dead)) :=
      List.perm_middle.trans ((List.perm_cons_erase hf).symm.append_right _)
    refine h.flight.trans (hmid.symm.trans (List.Perm.append_left _ ?_))
    rw [List.append_assoc]
    exact List.perm_middle.symm
  have htaken : List.Forall₂ (Takes X) (taken ++ [f]) (hand ++ (s.queue ++ [d])) := by
    rw [← List.append_assoc]
    exact List.rel_append h.taken (.cons htake .nil)
  refine .hidden ⟨h.program, h.buffers, hperm, htaken, h.position, fun hn => ?_⟩ rfl ?_
  · exact h.alive fun hf => hn (.inl hf)
  · have := List.length_pos_of_mem hf
    simp only [weight, List.length_erase_of_mem hf, List.length_append, List.length_singleton]
    omega

/-- The server answers, and the frame that it has taken is gone. -/
theorem Refines.send (h : Refines X failed hand taken dead n s w) {buf : List Byte}
    {addr : Addr × Port} {k : Except String Nat → Server.Process (Except String Unit)} {g : Frame}
    (hp : s.server = .call (.sendTo buf addr) k)
    (hg : IsDatagram g ⟨X.server, Server.port, addr.1, addr.2, buf⟩) (hvg : ChecksumsValid g) :
    Follows X config lossy failed n s w (.server ⟨.sendTo buf addr, .ok buf.length⟩)
      { s with
        world := { s.world with flight := g :: s.world.flight }
        server := k (.ok buf.length) } := by
  obtain ⟨hprog, hbuf, hflight, htaken, hpos, halive⟩ := h
  generalize hb : s.bound = b at hpos
  rw [hp] at hpos
  cases hpos with
  | sending d hok _ =>
    obtain ⟨f, taken, ⟨f', harr, hd, hv, hport⟩, hrest, rfl⟩ :=
      List.forall₂_cons_right_iff.1 htaken
    have hf : f ∈ w.flight := hflight.mem_iff.2 (by simp)
    have hperm : (w.flight.erase f).Perm (s.world.flight ++ (taken ++ dead)) := by
      have hmid : w.flight.Perm (f :: (s.world.flight ++ (taken ++ dead))) :=
        hflight.trans List.perm_middle
      simpa using hmid.erase f
    have hecho : Server.echo d =
        some ⟨X.server, Server.port, d.src, d.srcPort, d.payload.take Server.bufLen⟩ := by
      rw [Server.echo, if_pos hport, hd, hport]
    have hended : Position (k (.ok (d.payload.take Server.bufLen).length)) true [] 2 := by
      rw [hok]
      exact .ended
    refine .seen (.serve hf harr hd hv hecho hg hvg)
      ⟨hprog, hbuf, hperm.cons g, hrest, hended, fun hn => ?_⟩ rfl ?_
    · exact ⟨(halive fun hf => hn (.inl hf)).1, by decide⟩
    · simp only [weight, List.length_cons]
      omega

/-- The server ends, and with it what it has taken. -/
theorem Refines.fail (h : Refines X failed hand taken dead n s w) {c : Server.Effect}
    {k : Server.Reply c → Server.Process (Except String Unit)} {r : Server.Reply c}
    (hp : s.server = .call c k) (hr : Fails ⟨c, r⟩) :
    Follows X config lossy failed n s w (.server ⟨c, r⟩)
      { s with server := k r, bound := false, queue := [] } := by
  obtain ⟨e, he⟩ := h.position.fail hp hr
  have hn : 0 < n := by
    have hpos := h.position
    generalize s.bound = b at hpos
    rw [hp] at hpos
    cases hpos <;> decide
  have hend : Refines X (failed ∨ (Event.server ⟨c, r⟩).fails) [] [] (taken ++ dead) 0
      { s with server := k r, bound := false, queue := [] } w :=
    ⟨h.program, h.buffers, h.flight, .nil, he ▸ .failed e, fun hn => absurd (.inr hr) hn⟩
  refine .hidden hend rfl ?_
  simp only [weight, List.length_nil]
  omega

/-- A call of the server without the network, and the next round. -/
theorem Refines.alone (h : Refines X failed hand taken dead n s w) {m : Nat}
    (ha : a.ping? = none) (hworld : s'.world = s.world) (hqueue : s'.queue = s.queue)
    (hpos : Position s'.server s'.bound hand m) (hm : 0 < m) (hlt : m < n) :
    Follows X config lossy failed n s w a s' := by
  have hs' : Refines X (failed ∨ a.fails) hand taken dead m s' w :=
    ⟨hworld ▸ h.program, hworld ▸ h.buffers, hworld ▸ h.flight, hqueue ▸ h.taken, hpos,
      fun hn => ⟨(h.alive fun hf => hn (.inl hf)).1, hm⟩⟩
  refine .hidden hs' ha ?_
  simp only [weight, hworld, hqueue]
  omega

/-- **Every step** of the server's loop is followed. -/
theorem Refines.step (h : Refines X failed hand taken dead n s w)
    (hst : Step X config lossy s a s') : Follows X config lossy failed n s w a s' := by
  have hpos := h.position
  generalize hb : s.bound = b at hpos
  cases hst with
  | host hb hst => exact h.host hb hst
  | arrive _ hf htake => exact h.arrive hf htake
  | send hp hg hvg => exact h.send hp hg hvg
  | fail _ hp hr => exact h.fail hp hr
  | @bind addr k hp =>
    rw [hp] at hpos
    cases hpos with
    | @setup _ line _ hok _ =>
      have hopened : Position (k (.ok ())) true [] 3 := by
        rw [hok]
        exact .opened
      exact h.alone rfl rfl rfl hopened (by decide) (by decide)
  | println hp =>
    rw [hp] at hpos
    cases hpos with
    | opened =>
      have hended : Position (.done (.ok ())) s.bound [] 2 := hb ▸ .ended
      exact h.alone rfl rfl rfl hended (by decide) (by decide)
  | again hp =>
    rw [hp] at hpos
    cases hpos with
    | ended =>
      have hround : Position Server.round s.bound [] 1 := hb ▸ position_round
      exact h.alone rfl rfl rfl hround (by decide) (by decide)
  | @recv m k d ds hp hq =>
    rw [hp] at hpos
    cases hpos with
    | receiving hok _ =>
      have htaken := h.taken
      rw [hq] at htaken
      have hserver : Position (k (.ok (d.payload.take Server.bufLen, d.src, d.srcPort))) s.bound
          [d] 3 := by
        rw [hok, hb]
        exact position_sendBack d
      refine .hidden ⟨h.program, h.buffers, h.flight, htaken, hserver, fun hn => ?_⟩ rfl ?_
      · exact ⟨(h.alive fun hf => hn (.inl hf)).1, by decide⟩
      · simp only [weight, hq, List.length_cons]
        omega

end

/-! ## Runs -/

section
variable {X : Site} {config : BpfMaps → Prop} {lossy failed : Prop} {evs : List Event} {s : State}

/-- The network without the loop after the events `evs`. -/
structure Followed (X : Site) (config : BpfMaps → Prop) (lossy : Prop) (evs : List Event)
    (s : State) (pevs : List Ping.Event) (w : World) : Prop where
  run : Run (Ping.Step X config lossy) X.start pevs w
  seen : pevs.filter (fun b => !serves b) = pings evs
  refines : ∃ hand taken dead n, Refines X (Failed evs) hand taken dead n s w ∧
    evs.length + weight n s ≤ 4 + 5 * pevs.length

theorem failed_concat {a : Event} : Failed (evs ++ [a]) = (Failed evs ∨ a.fails) := by
  simp [Failed, or_and_right, exists_or]

/-- **Every run** with the server's loop is followed by one without it. -/
theorem followed_run (h : Run (Step X config lossy) (.init X) evs s) :
    ∃ pevs w, Followed X config lossy evs s pevs w := by
  induction h with
  | refl =>
    refine ⟨[], _, .refl, rfl, [], [], [], 4, ?_, Nat.le_refl 4⟩
    simpa [Failed] using refines_init X
  | @tail evs t u a _ hst ih =>
    obtain ⟨pevs, w, hr, hseen, hand, taken, dead, n, hR, hlen⟩ := ih
    obtain ⟨hand', taken', dead', m, w', pevs', hr', hseen', hR', hw⟩ := hR.step hst
    rw [← failed_concat] at hR'
    refine ⟨pevs ++ pevs', w', hr.trans hr', ?_, hand', taken', dead', m, hR', ?_⟩
    · rw [List.filter_append, hseen, hseen', pings, pings, List.filterMap_append]
      cases ha : a.ping? <;> simp [ha]
    · simp only [List.length_append, List.length_singleton]
      omega

/-- The answers are not the client's business. -/
theorem ledger_filter (pevs : List Ping.Event) :
    ledger (pevs.filter fun b => !serves b) = ledger pevs := by
  have h : ∀ q, (pevs.filter fun b => !serves b).foldl after q = pevs.foldl after q := by
    induction pevs with
    | nil => exact fun _ => rfl
    | cons b pevs ih =>
      intro q
      cases b with
      | serve f => exact ih q
      | _ => exact ih _
  exact h {}

theorem lost_filter (pevs : List Ping.Event) :
    Lost (pevs.filter fun b => !serves b) ↔ Lost pevs := by
  refine exists_congr fun b => and_congr_left fun hb => ?_
  rw [List.mem_filter]
  cases b with
  | lose f => simp [serves]
  | _ => exact hb.elim

/-- Nothing is lost and no call fails where that is not allowed. -/
theorem lossless_run {t : State} (h : Run (Step X config False) s evs t) :
    ¬ Lost (pings evs) ∧ ¬ Failed evs := by
  have hstep : ∀ {u v : State} {a : Event}, Step X config False u a v →
      (∀ b ∈ a.ping?, ¬ b.Loses) ∧ ¬ a.fails := by
    intro u v a hst
    cases hst with
    | host _ hst =>
      refine ⟨fun b hmem hb => ?_, not_false⟩
      obtain rfl := Option.mem_some_iff.1 hmem
      cases hst <;> first | exact hb | assumption
    | fail hlossy => exact hlossy.elim
    | arrive => exact ⟨nofun, not_false⟩
    | again => exact ⟨nofun, not_false⟩
    | println => exact ⟨nofun, not_false⟩
    | bind => exact ⟨nofun, nofun⟩
    | recv => exact ⟨nofun, nofun⟩
    | send => exact ⟨nofun, nofun⟩
  induction h with
  | refl => exact ⟨by simp [Lost, pings], by simp [Failed]⟩
  | @tail evs t u a _ hst ih =>
    obtain ⟨hl, hf⟩ := hstep hst
    refine ⟨?_, failed_concat ▸ not_or.2 ⟨ih.2, hf⟩⟩
    rintro ⟨b, hb, hlose⟩
    rw [pings, List.filterMap_append] at hb
    rcases List.mem_append.1 hb with hb | hb
    · exact ih.1 ⟨b, hb, hlose⟩
    · obtain ⟨c, hc, hbc⟩ := List.mem_filterMap.1 hb
      obtain rfl := List.mem_singleton.1 hc
      exact hl b hbc hlose

end

/-! ## Progress -/

section
variable {X : Site} {config : BpfMaps → Prop} {maps : BpfMaps} {q : Ledger} {lost failed : Prop}
  {hand : List Datagram} {taken dead : List Frame} {n : Nat} {s : State} {w : World}

/-- The server goes on, where it has something to answer or is not at `recv_from` yet. -/
theorem Position.moves (h : Position s.server s.bound hand n) (hn : 0 < n)
    (hne : hand ++ s.queue ≠ [] ∨ s.bound = false) : ∃ a t, Step X config False s a t := by
  generalize hp : s.server = p at h
  generalize hb : s.bound = b at h
  cases h with
  | setup => exact ⟨_, _, .bind hp⟩
  | opened => exact ⟨_, _, .println hp⟩
  | ended => exact ⟨_, _, .again hp⟩
  | receiving =>
    rcases hq : s.queue with _ | ⟨d, ds⟩
    · simp [hq, hb] at hne
    · exact ⟨_, _, .recv hp hq⟩
  | sending d =>
    have hlen : (d.payload.take Server.bufLen).length ≤ 1472 :=
      (List.length_take_le _ _).trans (by decide)
    exact ⟨_, _, .send hp (encode_isDatagram hlen) (encode_checksumsValid _)⟩
  | failed => exact absurd hn (Nat.lt_irrefl 0)

/-- With nothing taken the two networks are the same. -/
theorem Refines.world_eq (h : Refines X failed hand taken dead n s w)
    (hf : w.flight = s.world.flight) : s.world = w := by
  obtain ⟨hp, hb, -⟩ := h
  cases hw : s.world
  cases w
  simp_all

/-- **Without a loss or a failure** something can happen, until the client has finished. -/
theorem Refines.progress (h : Refines X failed hand taken dead n s w) (hI : Inv X q lost w)
    (hm : config maps) (hl : ¬ lost) (hfail : ¬ failed) :
    (∃ a t, Step X config False s a t) ∨ Finished X q s.world := by
  obtain ⟨rfl, hn⟩ := h.alive hfail
  have hflight := h.flight
  rw [List.append_nil] at hflight
  have hhost : w.flight = s.world.flight → ∀ a u, Ping.Step X config False w a u →
      (∀ f, a ≠ .serve f) → ∃ a t, Step X config False s a t := by
    intro hf a u hst ha
    rw [← h.world_eq hf] at hst
    exact ⟨_, _, .host ha hst⟩
  cases hI.place with
  | idle hs _ hf hb =>
    rw [hf] at hflight
    have hnil : w.flight = s.world.flight :=
      hf.trans (List.append_eq_nil_iff.1 hflight.symm.eq_nil).1.symm
    cases hp : w.program with
    | done r => exact .inr (h.world_eq hnil ▸ hI.finished hp)
    | panic message => exact absurd hp (hI.not_panic message)
    | call c k =>
      obtain ⟨a, u, hst⟩ : ∃ a u, Ping.Step X config False w a u := hI.calls hs hp
      refine .inl (hhost hnil a u hst ?_)
      rintro f rfl
      cases hst with
      | serve hmem => simp [hf] at hmem
  | @flight socket m f d hs _ hf hleg hd hv _ =>
    have hmem : f ∈ w.flight := by simp [hf]
    have harr : Arrives f f d := ⟨hd, hd, id⟩
    rw [hf] at hflight
    rcases List.append_eq_singleton_iff.1 hflight.symm.eq_singleton with ⟨-, rfl⟩ | ⟨hsf, -⟩
    · refine .inl (h.position.moves hn (.inl fun hnil => ?_))
      have := h.taken.length_eq
      simp [hnil] at this
    · have hsame : w.flight = s.world.flight := hf.trans hsf.symm
      rcases hleg.accepted with hr | ⟨hserver, hport⟩ | ⟨hclient, hport⟩
      · have hst : Ping.Step X config False w _ _ :=
          .route hmem harr hr hm (udpRouter_run X.endian 0 f maps)
        exact .inl (hhost hsame _ _ hst nofun)
      · cases hb : s.bound with
        | false => exact .inl (h.position.moves hn (.inr hb))
        | true =>
          exact .inl ⟨_, _, .arrive hb (hsame ▸ hmem) ⟨f, harr, hserver, hv, hport⟩⟩
      · exact .inl (hhost hsame _ _ (.deliver hmem harr hclient hv hport) nofun)
  | @arrived socket d hs _ hf _ hbuf =>
    rw [hf] at hflight
    have hnil : w.flight = s.world.flight :=
      hf.trans (List.append_eq_nil_iff.1 hflight.symm.eq_nil).1.symm
    obtain ⟨m, k, hp⟩ := hI.waiting hs
    have hqueue : w.buffers socket = [d] := by rw [hbuf, Function.update_self]
    exact .inl (hhost hnil _ _ (.recv hp hqueue) nofun)
  | lost _ hlost => exact absurd hlost hl

end

theorem Step.mono {X : Site} {config : BpfMaps → Prop} {lossy lossy' : Prop} {s s' : State}
    {a : Event} (h : Step X config lossy s a s') (hl : lossy → lossy') :
    Step X config lossy' s a s' := by
  cases h with
  | host ha hst => exact .host ha (hst.mono (fun _ h => h) hl)
  | arrive hb hf ht => exact .arrive hb hf ht
  | bind hp => exact .bind hp
  | println hp => exact .println hp
  | recv hp hq => exact .recv hp hq
  | send hp hg hv => exact .send hp hg hv
  | fail hlossy hp hr => exact .fail (hl hlossy) hp hr
  | again hp => exact .again hp

section
variable {X : Site} {config : BpfMaps → Prop} {maps : BpfMaps} {evs : List Event} {s : State}

/-- What a run comes to, as one of the network without the loop. -/
theorem Followed.finishes {pevs : List Ping.Event} {w : World}
    (h : Followed X config True evs s pevs w) (hc : ∀ maps, config maps → Serves X maps)
    (hm : config maps) (hl : ¬ Lost (pings evs)) (hf : ¬ Failed evs)
    (hmax : ∀ a t, ¬ Step X config False s a t) : Finished X (ledger (pings evs)) s.world := by
  obtain ⟨hr, hseen, hand, taken, dead, n, hR, -⟩ := h
  rw [← hseen, lost_filter] at hl
  rw [← hseen, ledger_filter]
  obtain ⟨hI, -⟩ := X.inv_start.run hc hr
  rcases hR.progress hI hm (by simpa using hl) hf with ⟨a, t, hst⟩ | hfin
  · exact absurd hst (hmax a t)
  · exact hfin

theorem Followed.length_le {pevs : List Ping.Event} {w : World}
    (h : Followed X config True evs s pevs w) (hc : ∀ maps, config maps → Serves X maps)
    (hm : config maps) : evs.length ≤ 25 * (8 * Client.rounds + 10) + 4 := by
  obtain ⟨hr, -, hand, taken, dead, n, -, hlen⟩ := h
  have hsteps := (terminates (X := X) hc hm).length_le ⟨_, _, X.inv_start⟩ hr
  have hstart := measure_start X
  omega

end

/-- **The client and the server's loop**, with a router that forwards for them. A run has at most
so many steps; whatever a socket receives comes from the host its pings go to and is the server's
address; and as long as no frame is lost and no call of the server fails, a run that only that could
carry on has ended with the client's report, and it can be carried on to such an end without. -/
theorem loop_finishes (X : Site) (config : BpfMaps → Prop) {maps : BpfMaps} {evs : List Event}
    {s : State} (hc : ∀ maps, config maps → Serves X maps) (hm : config maps)
    (h : Run (Step X config True) (.init X) evs s) :
    evs.length ≤ 25 * (8 * Client.rounds + 10) + 4 ∧
    (∀ socket n r, .ping (.client ⟨.recvFrom socket n, r⟩) ∈ evs →
      r = .ok (addrBytes X.server, X.peer socket, 8888)) ∧
    (¬ Lost (pings evs) → ¬ Failed evs →
      ((∀ a t, ¬ Step X config False s a t) → Finished X (ledger (pings evs)) s.world) ∧
      ∃ evs' t, Run (Step X config False) s evs' t ∧
        Finished X (ledger (pings (evs ++ evs'))) t.world) := by
  obtain ⟨pevs, w, hfollow⟩ := followed_run h
  refine ⟨hfollow.length_le hc hm, fun socket n r hr => ?_, fun hl hf =>
    ⟨hfollow.finishes hc hm hl hf, ?_⟩⟩
  · obtain ⟨-, hanswered⟩ := X.inv_start.run hc hfollow.run
    have hmem : .client ⟨.recvFrom socket n, r⟩ ∈ pevs.filter fun b => !serves b := by
      rw [hfollow.seen]
      exact List.mem_filterMap.2 ⟨_, hr, rfl⟩
    exact hanswered _ (List.mem_filter.1 hmem).1
  · have hmono : ∀ {evs' t}, Run (Step X config False) s evs' t →
        Run (Step X config True) (.init X) (evs ++ evs') t := fun hr =>
      h.trans (hr.map id fun _ _ _ hst => hst.mono False.elim)
    have hbound : ∀ evs' t, Run (Step X config False) s evs' t →
        evs'.length ≤ 25 * (8 * Client.rounds + 10) + 4 := by
      intro evs' t hr
      obtain ⟨pevs, w, hfollow⟩ := followed_run (hmono hr)
      have hlen := hfollow.length_le hc hm
      rw [List.length_append] at hlen
      omega
    obtain ⟨evs', t, hr, hmax⟩ := exists_stuck_of_bounded hbound
    obtain ⟨hl', hf'⟩ := lossless_run hr
    obtain ⟨pevs, w, hfollow⟩ := followed_run (hmono hr)
    refine ⟨evs', t, hr, hfollow.finishes hc hm ?_ ?_ hmax⟩
    · rintro ⟨b, hb, hlose⟩
      rw [pings, List.filterMap_append] at hb
      rcases List.mem_append.1 hb with hb | hb
      · exact hl ⟨b, hb, hlose⟩
      · exact hl' ⟨b, hb, hlose⟩
    · rintro ⟨a, ha, hfail⟩
      rcases List.mem_append.1 ha with ha | ha
      · exact hf ⟨a, ha, hfail⟩
      · exact hf' ⟨a, ha, hfail⟩

theorem loop_finishes_example : ∃ evs t,
    Run (Step exampleSite (Serves exampleSite) False) (.init exampleSite) evs t ∧
      Finished exampleSite (ledger (pings evs)) t.world := by
  have hserves : Serves exampleSite readmeMaps := ⟨by decide +kernel, by decide +kernel⟩
  have h := loop_finishes exampleSite (Serves exampleSite) (fun _ h => h) hserves .refl
  exact (h.2.2 (by simp [Lost, pings]) (by simp [Failed])).2

end Net.Ping.Echo
