import UdpRouter.Lib.Transition
import UdpRouter.Net.Ping

/-!
# The client finishes, or waits for a lost frame

Between two pings nothing is in flight; else there is one frame, on its way as a `Leg`, or one
datagram at the socket that waits for it (`Place`). So every run is finite (`terminates`), the
client can finish as long as no frame is lost (`Inv.finishes`), and after a loss nothing happens
any more (`Inv.stuck`).
-/

namespace Net.Ping

open Bytes Ebpf Wire Program Transition
open Client (Socket Effect Reply Call Ledger Allowed Outcome account)

/-! ## Runs -/

def after (q : Ledger) : Event → Ledger
  | .client x => q.enter x.1 x.2
  | _ => q

/-- What the client has done. -/
def ledger (evs : List Event) : Ledger := evs.foldl after {}

def Event.Loses : Event → Prop
  | .lose _ => True
  | _ => False

def Lost (evs : List Event) : Prop := ∃ a ∈ evs, a.Loses

/-- What is received at a socket comes from where its pings go, and names the server. -/
def Answered (X : Site) : Event → Prop
  | .client ⟨.recvFrom socket _, r⟩ => r = .ok (addrBytes X.server, X.peer socket, 8888)
  | _ => True

theorem lost_concat {evs : List Event} {a : Event} :
    Lost (evs ++ [a]) ↔ Lost evs ∨ a.Loses := by
  simp [Lost, or_and_right, exists_or]

/-! ## The invariant -/

/-- Where the ping is, if there is one. -/
inductive Place (X : Site) (q : Ledger) (lost : Prop) (w : World) : Prop
  | idle : q.sent = q.received → ¬ lost → w.flight = [] → w.buffers = (fun _ => []) →
      Place X q lost w
  | flight {socket : Socket} {n : Nat} {f : Frame} {d : Datagram} :
      q.sent = q.received ++ [socket] → ¬ lost → w.flight = [f] → Leg X socket n d →
      IsDatagram f d → ChecksumsValid f → w.buffers = (fun _ => []) → Place X q lost w
  | arrived {socket : Socket} {d : Datagram} :
      q.sent = q.received ++ [socket] → ¬ lost → w.flight = [] → Leg X socket 1 d →
      w.buffers = Function.update (fun _ => []) socket [d] → Place X q lost w
  | lost {socket : Socket} :
      q.sent = q.received ++ [socket] → lost → w.flight = [] → w.buffers = (fun _ => []) →
      Place X q lost w

structure Inv (X : Site) (q : Ledger) (lost : Prop) (w : World) : Prop where
  keeps : Keeps (account X.opt) (Outcome X.histogram X.opt) w.program q
  within : ∃ n, Within n w.program
  clean : q.error = none
  place : Place X q lost w

/-- Five for each call to come, as a ping makes at most four arrivals. -/
noncomputable def measure (X : Site) (w : World) : Nat :=
  5 * rank w.program + (w.flight.map (arrivals X)).sum

section
variable {X : Site} {q : Ledger} {lost : Prop} {w w' : World}

theorem not_idle_of_waiting {socket : Socket} (h : q.sent = q.received ++ [socket]) : ¬ q.Idle := by
  intro hq
  have := congrArg List.length (h.symm.trans hq.answered)
  simp at this

/-- Between two pings. -/
theorem Place.of_idle (h : Place X q lost w) (hq : q.Idle) :
    ¬ lost ∧ w.flight = [] ∧ w.buffers = fun _ => [] := by
  cases h with
  | idle _ hl hf hb => exact ⟨hl, hf, hb⟩
  | flight hs => exact absurd hq (not_idle_of_waiting hs)
  | arrived hs => exact absurd hq (not_idle_of_waiting hs)
  | lost hs => exact absurd hq (not_idle_of_waiting hs)

/-- A frame in flight is the only one, and a leg of the outstanding ping. -/
theorem Place.of_flight (h : Place X q lost w) {f : Frame} (hf : f ∈ w.flight) :
    ∃ socket n d, q.sent = q.received ++ [socket] ∧ ¬ lost ∧ w.flight = [f] ∧ Leg X socket n d ∧
      IsDatagram f d ∧ ChecksumsValid f ∧ w.buffers = fun _ => [] := by
  cases h with
  | idle _ _ hfl _ => simp [hfl] at hf
  | @flight socket n f' d hs hl hfl hleg hd hv hb =>
    obtain rfl : f = f' := by simpa [hfl] using hf
    exact ⟨socket, n, d, hs, hl, hfl, hleg, hd, hv, hb⟩
  | arrived _ _ hfl => simp [hfl] at hf
  | lost _ _ hfl => simp [hfl] at hf

/-- What arrives is a leg of the outstanding ping, and leaves nothing in flight. -/
theorem Place.of_arrival (h : Place X q lost w) {f f' : Frame} {d : Datagram} (hf : f ∈ w.flight)
    (harr : Arrives f f' d) : ∃ socket n, q.sent = q.received ++ [socket] ∧ ¬ lost ∧
      w.flight.erase f = [] ∧ Leg X socket n d ∧ arrivals X f = n ∧ ChecksumsValid f' ∧
      w.buffers = fun _ => [] := by
  obtain ⟨socket, n, d', hs, hl, hfl, hleg, hd', hv, hb⟩ := h.of_flight hf
  obtain rfl := harr.sent.unique hd'
  have herase : w.flight.erase f = [] := by simp [hfl]
  exact ⟨socket, n, hs, hl, herase, hleg, hleg.arrivals_eq hd', harr.valid hv, hb⟩

/-- What a call needs, and what its reply leaves. -/
theorem Inv.call (h : Inv X q lost w) {c : Effect}
    {k : Reply c → Client.Process (Except String Unit)} (hp : w.program = .call c k) :
    Allowed X.opt q c ∧ ∀ r,
      Keeps (account X.opt) (Outcome X.histogram X.opt) (k r) (q.enter c r) ∧
      (∃ n, Within n (k r)) ∧ rank (k r) < rank w.program := by
  obtain ⟨n, hn⟩ := h.within
  have hk := h.keeps
  rw [hp] at hk hn ⊢
  exact ⟨hk.1, fun r => ⟨hk.2 r, ⟨n - 1, hn.reply r⟩, rank_lt hn r⟩⟩

/-- A call without the network leaves pings alone. -/
theorem Replies.quiet {c : Effect} {r : Reply c} (h : Replies X c r) (ha : Allowed X.opt q c) :
    q.Idle ∧ (q.enter c r).error = q.error ∧ (q.enter c r).sent = q.sent ∧
      (q.enter c r).received = q.received := by
  cases c with
  | bind socket addr =>
    obtain rfl : r = .ok () := h
    exact ⟨ha.1, rfl, rfl, rfl⟩
  | println line => exact ⟨ha, rfl, rfl, rfl⟩
  | now => exact ⟨ha, rfl, rfl, rfl⟩
  | sendTo socket buf target =>
    obtain ⟨hn, -⟩ : X.resolve target = none ∧ _ := h
    obtain ⟨-, -, rfl, -⟩ := ha
    cases socket with
    | direct =>
      have hr := X.resolve_server
      rw [show X.resolve (X.opt.server ++ ":8888") = none from hn] at hr
      cases hr
    | proxy =>
      have hr := X.resolve_proxy
      rw [show X.resolve (X.opt.proxy ++ ":8888") = none from hn] at hr
      cases hr
  | recvFrom socket bufLen => exact h.elim

/-- What a ping is sent as. -/
theorem allowed_sendTo {socket : Socket} {buf : List Byte} {target : String}
    (h : Allowed X.opt q (.sendTo socket buf target)) :
    X.resolve target = some (X.peer socket, 8888) ∧ buf = addrBytes X.server := by
  obtain ⟨-, -, rfl, -, a, ha, rfl⟩ := h
  rw [X.parsed, Except.ok.injEq] at ha
  subst ha
  refine ⟨?_, rfl⟩
  cases socket with
  | direct => exact X.resolve_server
  | proxy => exact X.resolve_proxy

/-! ## One step -/

/-- What a step does. -/
structure Kept (X : Site) (q : Ledger) (lost : Prop) (w : World) (a : Event) (w' : World) :
    Prop where
  inv : Inv X (after q a) (lost ∨ a.Loses) w'
  nearer : measure X w' < measure X w
  answered : Answered X a

theorem Inv.compute (h : Inv X q lost w) {c : Effect} {r : Reply c}
    {k : Reply c → Client.Process (Except String Unit)} (hp : w.program = .call c k)
    (hr : Replies X c r) : Kept X q lost w (.client ⟨c, r⟩) { w with program := k r } := by
  obtain ⟨ha, hnext⟩ := h.call hp
  obtain ⟨hk, hw, hlt⟩ := hnext r
  obtain ⟨hq, he, hs, hrec⟩ := hr.quiet ha
  obtain ⟨hl, hf, hb⟩ := h.place.of_idle hq
  refine ⟨⟨hk, hw, he.trans h.clean, .idle ?_ ?_ hf hb⟩, ?_, ?_⟩
  · rw [after, hs, hrec]
    exact hq.answered
  · simpa [Event.Loses] using hl
  · unfold measure
    dsimp only
    omega
  · cases c with
    | recvFrom socket n => exact hr.elim
    | _ => trivial

theorem Inv.send (h : Inv X q lost w) {socket : Socket} {buf : List Byte} {target : String}
    {k : Except String Nat → Client.Process (Except String Unit)} {a : Addr} {p : Port} {f : Frame}
    (hp : w.program = .call (.sendTo socket buf target) k) (hr : X.resolve target = some (a, p))
    (hf : IsDatagram f ⟨X.client, X.port socket, a, p, buf⟩) (hv : ChecksumsValid f) :
    Kept X q lost w (.client ⟨.sendTo socket buf target, .ok buf.length⟩)
      { w with program := k (.ok buf.length), flight := f :: w.flight } := by
  obtain ⟨ha, hnext⟩ := h.call hp
  obtain ⟨hk, hw, hlt⟩ := hnext (.ok buf.length)
  obtain ⟨hl, hfl, hb⟩ := h.place.of_idle ha.1
  obtain ⟨hres, rfl⟩ := allowed_sendTo ha
  rw [hres, Option.some.injEq, Prod.mk.injEq] at hr
  obtain ⟨rfl, rfl⟩ := hr
  obtain ⟨n, hn, -, hleg⟩ := Leg.first X socket
  have hsent : q.sent ++ [socket] = q.received ++ [socket] :=
    congrArg (· ++ [socket]) ha.1.answered
  refine ⟨⟨hk, hw, h.clean, .flight hsent ?_ ?_ hleg hf hv hb⟩, ?_, trivial⟩
  · simpa [Event.Loses] using hl
  · rw [hfl]
  · have harr := hleg.arrivals_eq hf
    unfold measure
    rw [hfl, List.map_cons, List.sum_cons, harr]
    dsimp only
    omega

theorem Inv.recv (h : Inv X q lost w) {socket : Socket} {n : Nat}
    {k : Except String (List Byte × Addr × Port) → Client.Process (Except String Unit)}
    {d : Datagram} {ds : List Datagram} (hp : w.program = .call (.recvFrom socket n) k)
    (hb : w.buffers socket = d :: ds) :
    Kept X q lost w (.client ⟨.recvFrom socket n, .ok (d.payload.take n, d.src, d.srcPort)⟩)
      { w with
        program := k (.ok (d.payload.take n, d.src, d.srcPort))
        buffers := Function.update w.buffers socket ds } := by
  obtain ⟨⟨-, hsent, rfl⟩, hnext⟩ := h.call hp
  obtain ⟨hk, hw, hlt⟩ := hnext (.ok (d.payload.take 1024, d.src, d.srcPort))
  cases h.place with
  | idle _ _ _ hbuf => simp [hbuf] at hb
  | flight _ _ _ _ _ _ hbuf => simp [hbuf] at hb
  | lost _ _ _ hbuf => simp [hbuf] at hb
  | @arrived socket' d' hs hl hfl hleg hbuf =>
    obtain rfl : socket = socket' := by simpa using hsent.symm.trans hs
    rw [hbuf, Function.update_self, List.cons.injEq] at hb
    obtain ⟨rfl, rfl⟩ := hb
    refine ⟨⟨hk, hw, h.clean, .idle hsent ?_ hfl ?_⟩, ?_, ?_⟩
    · simpa [Event.Loses] using hl
    · change Function.update w.buffers socket [] = fun _ => []
      rw [hbuf, Function.update_idem]
      exact Function.update_eq_self socket (fun _ => ([] : List Datagram))
    · unfold measure
      dsimp only
      omega
    · obtain rfl := hleg.last
      change Except.ok _ = Except.ok _
      rw [List.take_of_length_le (by simp)]

/-- A frame in flight that arrives is replaced by what comes of it. -/
theorem Inv.arrive (h : Inv X q lost w) {f : Frame} (hf : f ∈ w.flight) (a : Event)
    (ha : after q a = q) (hq : Answered X a) {w' : World} (hp : w'.program = w.program)
    (hm : (w'.flight.map (arrivals X)).sum < arrivals X f)
    (hplace : Place X q (lost ∨ a.Loses) w') : Kept X q lost w a w' := by
  obtain ⟨_, _, _, -, -, hfl, -⟩ := h.place.of_flight hf
  refine ⟨⟨?_, ?_, ?_, ?_⟩, ?_, hq⟩
  · rw [ha, hp]
    exact h.keeps
  · rw [hp]
    exact h.within
  · rw [ha]
    exact h.clean
  · rwa [ha]
  · unfold measure
    rw [hp, hfl, List.map_singleton, List.sum_singleton]
    omega

/-- **One step.** -/
theorem Inv.step {config : BpfMaps → Prop} {lossy : Prop} {a : Event} (h : Inv X q lost w)
    (hc : ∀ maps, config maps → Serves X maps) (hst : Step X config lossy w a w') :
    Kept X q lost w a w' := by
  cases hst with
  | compute hp hr => exact h.compute hp hr
  | send hp hr hf hv => exact h.send hp hr hf hv
  | recv hp hb => exact h.recv hp hb
  | @route f f' d cpu maps v c hf harr hd hm hr =>
    obtain ⟨socket, n, hs, hl, herase, hleg, hn, hv, hb⟩ := h.place.of_arrival hf harr
    obtain ⟨rfl, m, d', rfl, hleg', hg, hvg⟩ := hleg.route hd (hc maps hm) harr.arrived hv hr
    have hnew : (if XdpAction.tx = .tx then c.data :: w.flight.erase f else w.flight.erase f) =
        [c.data] := by
      rw [if_pos rfl, herase]
    refine h.arrive hf (.route cpu f f' .tx c.data) rfl trivial rfl ?_
      (.flight hs ?_ hnew hleg' hg hvg hb)
    · dsimp only
      rw [hnew, List.map_singleton, List.sum_singleton, hleg'.arrivals_eq hg, hn]
      omega
    · simpa [Event.Loses] using hl
  | @serve f f' g d d' hf harr hd _ he hg hvg =>
    obtain ⟨socket, n, hs, hl, herase, hleg, hn, hv, hb⟩ := h.place.of_arrival hf harr
    obtain ⟨m, d₁, rfl, hleg', he'⟩ := hleg.serve hd
    rw [he, Option.some.injEq] at he'
    subst he'
    have hnew : g :: w.flight.erase f = [g] := by rw [herase]
    refine h.arrive hf (.serve f) rfl trivial rfl ?_ (.flight hs ?_ hnew hleg' hg hvg hb)
    · dsimp only
      rw [hnew, List.map_singleton, List.sum_singleton, hleg'.arrivals_eq hg, hn]
      omega
    · simpa [Event.Loses] using hl
  | @deliver f f' d socket' hf harr hd _ hport =>
    obtain ⟨socket, n, hs, hl, herase, hleg, hn, hv, hb⟩ := h.place.of_arrival hf harr
    obtain ⟨rfl, hport'⟩ := hleg.deliver hd
    obtain rfl : socket' = socket := port_inj (hport.symm.trans hport')
    refine h.arrive hf (.deliver f) rfl trivial rfl ?_ (.arrived hs ?_ herase hleg ?_)
    · dsimp only
      rw [herase, hn]
      simp
    · simpa [Event.Loses] using hl
    · dsimp only
      rw [hb]
      rfl
  | @refuse f f' d hf harr hd hn =>
    -- every leg ends where it is accepted
    obtain ⟨socket, n, -, -, -, hleg, -, hv, -⟩ := h.place.of_arrival hf harr
    refine absurd ⟨hv, ?_⟩ hn
    rcases hleg.accepted with hr | hserver | ⟨hclient, hport⟩
    · exact absurd hr hd
    · exact .inl hserver
    · exact .inr ⟨hclient, socket, hport⟩
  | @lose f _ hf =>
    obtain ⟨socket, n, d, hs, -, hfl, hleg, hd, -, hb⟩ := h.place.of_flight hf
    have herase : w.flight.erase f = [] := by simp [hfl]
    have hpos : 0 < n := by cases hleg <;> decide
    refine h.arrive hf (.lose f) rfl trivial rfl ?_ (.lost hs (.inr trivial) herase hb)
    dsimp only
    rw [herase, hleg.arrivals_eq hd]
    simpa using hpos

/-! ## Progress -/

/-- The client has returned `Ok` after all its pings. -/
structure Finished (X : Site) (q : Ledger) (w : World) : Prop where
  program : w.program = .done (.ok ())
  sent : q.sent = Client.schedule
  received : q.received = Client.schedule
  report : ∃ empty, X.histogram.newWithBounds 1 100000 2 = .ok empty ∧
    q.lines = Client.report X.histogram empty q.readings
  flight : w.flight = []
  buffers : w.buffers = fun _ => []

def Waiting (w : World) : Prop :=
  ∃ socket n k, w.program = .call (.recvFrom socket n) k

variable {config : BpfMaps → Prop} {maps : BpfMaps}

/-- A client that has returned has finished. -/
theorem Inv.finished (h : Inv X q lost w) {r : Except String Unit} (hp : w.program = .done r) :
    Finished X q w := by
  have hk := h.keeps
  rw [hp] at hk
  change Outcome X.histogram X.opt (.ok r) q at hk
  cases hk with
  | finished he hq hs hlen hlines =>
    obtain ⟨-, hf, hb⟩ := h.place.of_idle hq
    exact ⟨hp, hs, hq.answered ▸ hs, ⟨_, he, hlines⟩, hf, hb⟩
  | failed he => exact absurd (h.clean.symm.trans he) (by simp)

theorem Inv.not_panic (h : Inv X q lost w) (message : String) : w.program ≠ .panic message := by
  intro hp
  have hk := h.keeps
  rw [hp] at hk
  change Outcome X.histogram X.opt (.error message) q at hk
  cases hk with
  | unparsed hu => exact Client.unwrap_error hu _ X.parsed
  | unbuilt hu =>
    obtain ⟨empty, he⟩ := X.built
    exact Client.unwrap_error hu _ he

/-- What waits for an answer asks for nothing else. -/
theorem Inv.waiting (h : Inv X q lost w) {socket : Socket} (hs : q.sent = q.received ++ [socket]) :
    ∃ n k, w.program = .call (.recvFrom socket n) k := by
  have hidle := not_idle_of_waiting hs
  cases hp : w.program with
  | done r =>
    have hfin := h.finished hp
    have := hfin.received.trans (hfin.sent.symm.trans hs)
    simp at this
  | panic message => exact absurd hp (h.not_panic message)
  | call c k =>
    obtain ⟨ha, -⟩ := h.call hp
    cases c with
    | bind _ _ => exact absurd ha.1 hidle
    | println _ => exact absurd ha hidle
    | now => exact absurd ha hidle
    | sendTo _ _ _ => exact absurd ha.1 hidle
    | recvFrom socket' n =>
      obtain ⟨-, hs', -⟩ := ha
      obtain rfl : socket = socket' := by simpa using hs.symm.trans hs'
      exact ⟨n, k, rfl⟩

/-- A frame in flight can arrive. -/
theorem Inv.moves (h : Inv X q lost w) (hm : config maps) {f : Frame} (hf : f ∈ w.flight) :
    ∃ a u, Step X config False w a u := by
  obtain ⟨socket, n, d, -, -, -, hleg, hd, hv, -⟩ := h.place.of_flight hf
  have harr : Arrives f f d := ⟨hd, hd, id⟩
  rcases hleg.accepted with hr | ⟨hserver, -⟩ | ⟨hclient, hport⟩
  · exact ⟨_, _, .route hf harr hr hm (udpRouter_run X.endian 0 f maps)⟩
  · obtain ⟨m, d', -, hleg', he⟩ := hleg.serve hserver
    exact ⟨_, _, .serve hf harr hserver hv he (encode_isDatagram hleg'.length)
      (encode_checksumsValid d')⟩
  · exact ⟨_, _, .deliver hf harr hclient hv hport⟩

/-- The client can make its next call. -/
theorem Inv.calls (h : Inv X q lost w) (hq : q.sent = q.received) {c : Effect}
    {k : Reply c → Client.Process (Except String Unit)} (hp : w.program = .call c k) :
    ∃ a u, Step X config False w a u := by
  obtain ⟨ha, -⟩ := h.call hp
  cases c with
  | bind socket addr =>
    exact ⟨_, _, .compute hp (show Replies X (.bind socket addr) (.ok ()) from rfl)⟩
  | println line => exact ⟨_, _, .compute hp (show Replies X (.println line) () from trivial)⟩
  | now => exact ⟨_, _, .compute hp (show Replies X .now (0 : Nat) from trivial)⟩
  | sendTo socket buf target =>
    obtain ⟨hr, rfl⟩ := allowed_sendTo ha
    obtain ⟨n, -, -, hleg⟩ := Leg.first X socket
    exact ⟨_, _, .send hp hr (encode_isDatagram hleg.length) (encode_checksumsValid _)⟩
  | recvFrom socket n =>
    obtain ⟨hclean, hs, -⟩ := ha
    exact absurd ⟨hclean, hq⟩ (not_idle_of_waiting hs)

/-- **Without a loss** something can happen, until the client has finished. -/
theorem Inv.progress (h : Inv X q lost w) (config : BpfMaps → Prop) (hm : config maps)
    (hl : ¬ lost) :
    (∃ a u, Step X config False w a u) ∨ Finished X q w := by
  cases h.place with
  | idle hs _ hf hb =>
    cases hp : w.program with
    | done r => exact .inr (h.finished hp)
    | panic message => exact absurd hp (h.not_panic message)
    | call c k => exact .inl (h.calls hs hp)
  | @flight _ _ f _ _ _ hfl => exact .inl (h.moves hm (f := f) (by simp [hfl]))
  | @arrived socket d hs _ _ _ hb =>
    obtain ⟨n, k, hp⟩ := h.waiting hs
    have hbuf : w.buffers socket = [d] := by rw [hb, Function.update_self]
    exact .inl ⟨_, _, .recv hp hbuf⟩
  | lost _ hlost => exact absurd hlost hl

/-- **After a loss** the client waits, and nothing happens. -/
theorem Inv.stuck (h : Inv X q lost w) (config : BpfMaps → Prop) (hl : lost) :
    Waiting w ∧ ∀ a u, ¬ Step X config True w a u := by
  cases h.place with
  | idle _ hn => exact absurd hl hn
  | flight _ hn => exact absurd hl hn
  | arrived _ hn => exact absurd hl hn
  | @lost socket hs _ hf hb =>
    obtain ⟨n, k, hp⟩ := h.waiting hs
    refine ⟨⟨socket, n, k, hp⟩, fun a u hst => ?_⟩
    cases hst with
    | compute hp' hr =>
      have hidle := (hr.quiet (h.call hp').1).1
      exact not_idle_of_waiting hs hidle
    | send hp' => exact not_idle_of_waiting hs (h.call hp').1.1
    | recv _ hb' => simp [hb] at hb'
    | route hf' => simp [hf] at hf'
    | serve hf' => simp [hf] at hf'
    | deliver hf' => simp [hf] at hf'
    | refuse hf' => simp [hf] at hf'
    | lose _ hf' => simp [hf] at hf'

end

/-! ## Whole runs -/

section
variable {X : Site} {q : Ledger} {lost : Prop} {w w' : World} {config : BpfMaps → Prop}
  {maps : BpfMaps} {lossy : Prop} {evs : List Event}

theorem Site.inv_start (X : Site) : Inv X {} False X.start where
  keeps := Client.keeps_main X.histogram X.opt
  within := ⟨_, Client.within_main X.histogram X.opt⟩
  clean := rfl
  place := .idle rfl not_false rfl rfl

/-- **Over any run**, the invariant. -/
theorem Inv.run (h : Inv X q lost w) (hc : ∀ maps, config maps → Serves X maps)
    (hr : Run (Step X config lossy) w evs w') :
    Inv X (evs.foldl after q) (lost ∨ Lost evs) w' ∧ ∀ a ∈ evs, Answered X a := by
  refine hr.invariant (I := fun evs w => Inv X (evs.foldl after q) (lost ∨ Lost evs) w ∧
    ∀ a ∈ evs, Answered X a) ⟨?_, by simp⟩ fun evs t a u _ hI hst => ?_
  · simpa [Lost] using h
  · have hk := hI.1.step hc hst
    rw [List.foldl_append, lost_concat, ← or_assoc]
    refine ⟨hk.inv, fun b hb => ?_⟩
    rcases List.mem_append.1 hb with hb | hb
    · exact hI.2 b hb
    · obtain rfl := List.mem_singleton.1 hb
      exact hk.answered

/-- Every run comes to an end. -/
theorem terminates (hc : ∀ maps, config maps → Serves X maps) (hm : config maps) :
    Terminates (Step X config lossy) (fun w => ∃ q lost, Inv X q lost w) (measure X)
      (fun w => (∃ q, Finished X q w) ∨ Waiting w) where
  keeps := by
    rintro s a t ⟨q, lost, h⟩ hst
    exact ⟨_, _, (h.step hc hst).inv⟩
  decreases := by
    rintro s a t ⟨q, lost, h⟩ hst
    exact (h.step hc hst).nearer
  progress := by
    rintro s ⟨q, lost, h⟩ hmax
    by_cases hl : lost
    · exact .inr (h.stuck config hl).1
    · rcases h.progress config hm hl with ⟨a, u, hst⟩ | hfin
      · exact absurd (hst.mono (fun _ h => h) False.elim) (hmax a u)
      · exact .inl ⟨q, hfin⟩

theorem measure_start (X : Site) : measure X X.start ≤ 5 * (8 * Client.rounds + 10) := by
  have h := (Client.within_main X.histogram X.opt).rank_le
  unfold measure Site.start
  simpa using h

theorem not_lost_of_run (h : Run (Step X config False) w evs w') : ¬ Lost evs := by
  refine h.invariant (I := fun evs _ => ¬ Lost evs) (by simp [Lost]) fun evs t a u _ hI hst => ?_
  rw [lost_concat]
  rintro (hl | hl)
  · exact hI hl
  · cases hst <;> first | exact hl | assumption

/-- **Without a loss** so far the client can still finish, whatever the configuration. -/
theorem Inv.finishes (h : Inv X q lost w) (hc : ∀ maps, config maps → Serves X maps)
    (hm : config maps) (hl : ¬ lost) :
    ∃ evs u, Run (Step X config False) w evs u ∧ Finished X (evs.foldl after q) u := by
  obtain ⟨evs, u, hr, hmax⟩ := (terminates (X := X) hc hm).exists_stuck ⟨_, _, h⟩
  have hl' : ¬ (lost ∨ Lost evs) := not_or.2 ⟨hl, not_lost_of_run hr⟩
  rcases (h.run hc hr).1.progress config hm hl' with ⟨a, t, hst⟩ | hfin
  · exact absurd hst (hmax a t)
  · exact ⟨evs, u, hr, hfin⟩

end

end Net.Ping
