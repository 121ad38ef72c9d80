import UdpRouter.Net.Finish
import UdpRouter.Router.Proof.Updates

/-!
# Pings through a router under management

The client's pings while the router process goes on: management calls, the actor and packets from
elsewhere, in any order. As long as no local network is set that holds the client or the server, the
pings do not notice (`simulates`), and the client finishes unless a frame is lost
(`client_finishes`).
-/

open Router

namespace Net.Ping.Managed

open Bytes Ebpf Management Transition Wire

inductive Event
  | manage (a : Router.Event)
  | ping (a : Ping.Event)

/-- A local network that holds neither the client nor the server. -/
def Spares (X : Site) (net mask : BitVec 32) : Prop :=
  X.client &&& mask ≠ net ∧ X.server &&& mask ≠ net

def Harmless (X : Site) : Router.Event → Prop
  | .issue _ (.setLocalNetAndMask net mask) => Spares X net mask
  | _ => True

def HarmlessMessage (X : Site) : BpfActorMessage → Prop
  | .setLocalNetAndMask net mask => Spares X net mask
  | _ => True

section
variable (X : Site) (cap : Nat) (lossy : Prop)

/-- A ping meets the router's maps of the moment, and is one of its packets. -/
inductive Step : Router.State × World → Event → Router.State × World → Prop
  | manage {s s' : Router.State} {w : World} {a : Router.Event} :
      Harmless X a → Router.Step X.endian cap s a s' → Step (s, w) (.manage a) (s', w)
  | host {s : Router.State} {w w' : World} {a : Ping.Event} :
      (∀ cpu f f' v g, a ≠ .route cpu f f' v g) → Ping.Step X (· = s.maps) lossy w a w' →
      Step (s, w) (.ping a) (s, w')
  | route {s s' : Router.State} {w w' : World} {cpu : Nat} {f f' g : Frame} {v : XdpAction} :
      Ping.Step X (· = s.maps) lossy w (.route cpu f f' v g) w' →
      Router.Step X.endian cap s (.packet cpu s.maps f' v g) s' →
      Step (s, w) (.ping (.route cpu f f' v g)) (s', w')

end

def Event.ping? : Event → Option Ping.Event
  | .manage _ => none
  | .ping a => some a

def pings (evs : List Event) : List Ping.Event := evs.filterMap Event.ping?

/-- No update in the queue takes the client or the server for local. -/
def HarmlessBox (X : Site) (s : Router.State) : Prop :=
  ∀ m, m ∈ s.box.waiting ∨ m ∈ s.box.queue → HarmlessMessage X m.2

/-- The program is attached and forwards for the client and the server, also after every update in
the queue. -/
structure Serving (X : Site) (s : Router.State) : Prop where
  attached : s.phase ≠ .loading
  maps : Serves X s.maps
  box : HarmlessBox X s

/-! ## The router -/

section
variable {X : Site} {cap cpus : Nat} {s s' : Router.State} {maps : BpfMaps} {a : Router.Event}
  {evs : List Router.Event}

/-- A harmless update puts a local network in force that serves. -/
theorem serves_set {net mask : BitVec 32} (h : Spares X net mask) (maps : BpfMaps) :
    Serves X (applied maps (.setLocalNetAndMask net mask)) := by
  have hin : InForce (applied maps (.setLocalNetAndMask net mask))
      (.setLocalNetAndMask net mask) :=
    inForce_of_entry 0 rfl (entry_applied_written maps _ .localNet)
  refine ⟨⟨X.client_routable, ?_⟩, ⟨X.server_routable, ?_⟩⟩
  · rw [hin]
    exact beq_eq_false_iff_ne.2 h.1
  · rw [hin]
    exact beq_eq_false_iff_ne.2 h.2

theorem serves_applied {msg : BpfActorMessage} (h : Serves X maps) (hm : HarmlessMessage X msg) :
    Serves X (applied maps msg) := by
  cases msg with
  | setLocalNetAndMask net mask => exact serves_set hm maps
  | getStats call => exact h
  | setBackendNetAndMask net mask => exact h
  | setGatewayMacAddress mac => exact h

theorem harmless_message {call : Nat} {r : Request} (h : Harmless X (.issue call r)) :
    HarmlessMessage X (BpfActorHandle.message call r) := by
  cases r with
  | setLocalNetAndMask net mask => exact h
  | getStats => trivial
  | setBackendNetAndMask net mask => trivial
  | setGatewayMacAddress mac => trivial

theorem HarmlessBox.step (h : HarmlessBox X s) (ha : Harmless X a)
    (hst : Router.Step X.endian cap s a s') : HarmlessBox X s' := by
  cases hst with
  | issue hb =>
    cases hb with
    | post =>
      rintro m (hm | hm)
      · rcases List.mem_cons.1 hm with rfl | hm
        · exact harmless_message ha
        · exact h m (.inl hm)
      · exact h m (.inr hm)
  | enqueue hb =>
    cases hb with
    | @enqueue _ rest hperm _ =>
      rintro m (hm | hm)
      · exact h m (.inl (hperm.mem_iff.2 (List.mem_cons_of_mem _ hm)))
      · rcases List.mem_append.1 hm with hm | hm
        · exact h m (.inr hm)
        · obtain rfl := List.mem_singleton.1 hm
          exact h _ (.inl (hperm.mem_iff.2 List.mem_cons_self))
  | handle _ hb _ =>
    cases hb with
    | take hq =>
      rintro m (hm | hm)
      · exact h m (.inl hm)
      · exact h m (.inr (hq ▸ List.mem_cons_of_mem _ hm))
  | ret _ _ _ => exact h
  | attach _ => exact h
  | start _ => exact h
  | packet _ _ => exact h

theorem attached_step (h : s.phase ≠ .loading) (hst : Router.Step X.endian cap s a s') :
    s'.phase ≠ .loading := by
  cases hst with
  | attach _ => nofun
  | start _ => nofun
  | issue _ => exact h
  | enqueue _ => exact h
  | ret _ _ _ => exact h
  | handle _ _ _ => exact h
  | packet _ _ => exact h

/-- What the actor handles comes from the queue, after the start. -/
theorem handle_inv {call : Nat} {msg : BpfActorMessage} {answer : Option (Nat × RouterStatistics)}
    (h : Router.Step X.endian cap s (.handle call msg answer) s') :
    s.phase = .receiving ∧ (call, msg) ∈ s.box.queue := by
  cases h with
  | handle hp hb _ =>
    cases hb with
    | take hq => exact ⟨hp, hq ▸ List.mem_cons_self⟩

/-- **One step of the router process.** -/
theorem Serving.step (h : Serving X s) (ha : Harmless X a)
    (hst : Router.Step X.endian cap s a s') : Serving X s' := by
  refine ⟨attached_step h.attached hst, ?_, h.box.step ha hst⟩
  rcases hst.maps with ⟨call, msg, answer, rfl, hm⟩ | ⟨-, hm⟩
  · rw [hm]
    exact serves_applied h.maps (h.box _ (.inr (handle_inv hst).2))
  · rw [hm]
    exact h.maps

def HandledLocalNet (evs : List Router.Event) : Prop :=
  ∃ call net mask, (call, .setLocalNetAndMask net mask) ∈ handled evs

/-- The handled messages after one more event. -/
theorem handled_concat (evs : List Router.Event) (call : Nat) (msg : BpfActorMessage)
    (answer : Option (Nat × RouterStatistics)) :
    handled (evs ++ [.handle call msg answer]) = handled evs ++ [(call, msg)] := by
  simp [handled, Router.Event.op, Mailbox.Op.taken]

/-- **From its start**, a router that only got harmless updates serves once it has handled one of
its local network. -/
theorem serving_of_run (h : Run (Router.Step X.endian cap) (.init cpus) evs s)
    (hharm : ∀ a ∈ evs, Harmless X a) (hset : HandledLocalNet evs) : Serving X s := by
  suffices hI : (∀ a ∈ evs, Harmless X a) →
      HarmlessBox X s ∧ (HandledLocalNet evs → Serving X s) from (hI hharm).2 hset
  refine h.invariant (I := fun evs s => (∀ a ∈ evs, Harmless X a) →
    HarmlessBox X s ∧ (HandledLocalNet evs → Serving X s)) ?_ fun evs t a u _ hI hst hall => ?_
  · rintro -
    refine ⟨fun m hm => hm.elim nofun nofun, ?_⟩
    rintro ⟨call, net, mask, hm⟩
    cases hm
  · obtain ⟨hbox, hserve⟩ := hI fun b hb => hall b (List.mem_append_left _ hb)
    have ha := hall a (List.mem_append_right _ List.mem_cons_self)
    refine ⟨hbox.step ha hst, fun hset => ?_⟩
    by_cases hbefore : HandledLocalNet evs
    · exact (hserve hbefore).step ha hst
    obtain ⟨call, net, mask, hm⟩ := hset
    rcases hst.maps with ⟨call', msg, answer, rfl, hmaps⟩ | ⟨hn, -⟩
    · rw [handled_concat] at hm
      rcases List.mem_append.1 hm with hm | hm
      · exact absurd ⟨call, net, mask, hm⟩ hbefore
      · obtain ⟨rfl, rfl⟩ := Prod.mk.inj (List.mem_singleton.1 hm)
        obtain ⟨hp, hq⟩ := handle_inv hst
        refine ⟨attached_step (by rw [hp]; nofun) hst, ?_, hbox.step ha hst⟩
        rw [hmaps]
        exact serves_set (hbox _ (.inr hq)) t.maps
    · rw [handled_concat_of_ne hn] at hm
      exact absurd ⟨call, net, mask, hm⟩ hbefore

end

/-! ## The pings -/

section
variable {X : Site} {cap : Nat} {lossy : Prop} {s s₀ : Router.State} {w w' : World}
  {evs : List Event}

/-- **The router process is hidden from the pings.** -/
theorem simulates : Simulates (Step X cap lossy) (Ping.Step X (Serves X) lossy) Event.ping?
    (fun x u => Serving X x.1 ∧ x.2 = u) where
  hidden := by
    rintro _ a _ u ⟨hs, rfl⟩ hst ha
    cases hst with
    | manage hharm hr => exact ⟨hs.step hharm hr, rfl⟩
    | host _ _ => cases ha
    | route _ _ => cases ha
  visible := by
    rintro _ a _ u b ⟨hs, rfl⟩ hst ha
    cases hst with
    | manage _ _ => cases ha
    | host _ hp =>
      cases ha
      exact ⟨_, hp.mono (fun maps hm => hm ▸ hs.maps) id, hs, rfl⟩
    | @route s _ _ _ cpu f f' g v hp hr =>
      cases ha
      have hharm : Harmless X (.packet cpu s.maps f' v g) := trivial
      exact ⟨_, hp.mono (fun maps hm => hm ▸ hs.maps) id, hs.step hharm hr, rfl⟩

/-- The router alone. -/
theorem run_of_router {s' : Router.State} {evs : List Router.Event}
    (h : Run (Router.Step X.endian cap) s evs s') (ha : ∀ a ∈ evs, Harmless X a) :
    Run (Step X cap lossy) (s, w) (evs.map .manage) (s', w) := by
  induction h with
  | refl => exact .refl
  | tail _ hst ih =>
    rw [List.map_append]
    refine (ih fun b hb => ha b (List.mem_append_left _ hb)).tail (.manage ?_ hst)
    exact ha _ (List.mem_append_right _ List.mem_cons_self)

/-- Pings alone, with the router as it stands. -/
theorem step_of_ping {a : Ping.Event} (hs : s.phase ≠ .loading)
    (h : Ping.Step X (· = s.maps) lossy w a w') : Step X cap lossy (s, w) (.ping a) (s, w') := by
  by_cases hroute : ∃ cpu f f' v g, a = .route cpu f f' v g
  · obtain ⟨cpu, f, f', v, g, rfl⟩ := hroute
    refine .route h ?_
    cases h with
    | @route _ _ d _ maps _ c _ _ _ hm hr =>
      subst hm
      have hpacket : Router.Step X.endian cap s (.packet cpu s.maps f' v c.data)
          { s with maps := c.maps } := .packet hs hr
      rw [udpRouter_run, Option.some.injEq, Prod.mk.injEq] at hr
      obtain ⟨-, rfl⟩ := hr
      exact hpacket
  · refine .host (fun cpu f f' v g he => hroute ⟨cpu, f, f', v, g, he⟩) h

theorem run_of_pings {evs : List Ping.Event} (hs : s.phase ≠ .loading)
    (h : Run (Ping.Step X (· = s.maps) lossy) w evs w') :
    Run (Step X cap lossy) (s, w) (evs.map .ping) (s, w') := by
  induction h with
  | refl => exact .refl
  | tail _ hst ih =>
    rw [List.map_append]
    exact ih.tail (step_of_ping hs hst)

theorem pings_map (evs : List Ping.Event) : pings (evs.map .ping) = evs := by
  induction evs with
  | nil => rfl
  | cons a evs ih => exact congrArg (a :: ·) ih

end

/-- **The client under management.** The router process has started and handled a local network,
and then the client starts; no local network that is ever set holds the client or the server. The
pings take at most five steps for each call of the client; whatever a socket receives comes from the
host its pings go to and is the server's address; after a loss the client waits for good; without
one, pings that cannot go on have ended with the client's report on all of them, and they can always
go on to such an end. -/
theorem client_finishes (X : Site) (cap cpus : Nat) {s₀ s : Router.State}
    {pre : List Router.Event} {evs : List Event} {w : World}
    (h₀ : Run (Router.Step X.endian cap) (.init cpus) pre s₀) (hpre : ∀ a ∈ pre, Harmless X a)
    (hset : HandledLocalNet pre) (h : Run (Step X cap True) (s₀, X.start) evs (s, w)) :
    (pings evs).length ≤ 5 * (8 * Client.rounds + 10) ∧
    (∀ socket n r, .ping (.client ⟨.recvFrom socket n, r⟩) ∈ evs →
      r = .ok (addrBytes X.server, X.peer socket, 8888)) ∧
    (Lost (pings evs) → Waiting w ∧ ∀ a x, ¬ Step X cap True (s, w) (.ping a) x) ∧
    (¬ Lost (pings evs) →
      ((∀ a x, ¬ Step X cap True (s, w) (.ping a) x) → Finished X (ledger (pings evs)) w) ∧
      ∃ evs' u, Run (Step X cap False) (s, w) evs' (s, u) ∧
        Finished X (ledger (pings (evs ++ evs'))) u) := by
  obtain ⟨_, hrun, hserving, rfl⟩ := simulates.run h ⟨serving_of_run h₀ hpre hset, rfl⟩
  obtain ⟨hI, hanswered⟩ := X.inv_start.run (fun _ h => h) hrun
  have hserve : ∀ maps, maps = s.maps → Serves X maps := fun maps hm => hm ▸ hserving.maps
  refine ⟨?_, fun socket n r hr => ?_, fun hl => ?_, fun hl => ⟨fun hmax => ?_, ?_⟩⟩
  · have hlen := (terminates (X := X) (fun _ h => h) hserving.maps).length_le
      ⟨_, _, X.inv_start⟩ hrun
    have hm := measure_start X
    change (evs.filterMap Event.ping?).length ≤ _
    omega
  · exact hanswered _ (List.mem_filterMap.2 ⟨_, hr, rfl⟩)
  · obtain ⟨hwait, hstuck⟩ := hI.stuck (Serves X) (.inr hl)
    refine ⟨hwait, fun a x hst => ?_⟩
    obtain ⟨v, hv, -⟩ := simulates.visible ⟨hserving, rfl⟩ hst rfl
    exact hstuck a v hv
  · have hl' : ¬ (False ∨ Lost (pings evs)) := by simpa using hl
    rcases hI.progress (· = s.maps) rfl hl' with ⟨a, u, hst⟩ | hfin
    · exact absurd (step_of_ping hserving.attached (hst.mono (fun _ h => h) False.elim)) (hmax a _)
    · exact hfin
  · have hl' : ¬ (False ∨ Lost (pings evs)) := by simpa using hl
    obtain ⟨evs', u, hr, hfin⟩ := hI.finishes hserve rfl hl'
    refine ⟨evs'.map .ping, u, run_of_pings hserving.attached hr, ?_⟩
    rw [pings, List.filterMap_append, ← pings, ← pings, pings_map, ledger, List.foldl_append]
    exact hfin

/-- The router has handled 10.0.2.0/24 as its local network, the next one is 10.0.4.0/24. -/
theorem client_finishes_example : ∃ s evs u,
    entry s.maps .localNet = netAndMask 0x0a000400 0xffffff00 ∧
    Run (Step exampleSite channelCapacity False) (s, exampleSite.start) evs (s, u) ∧
    Finished exampleSite (ledger (pings evs)) u := by
  have hfirst : Spares exampleSite 0x0a000200 0xffffff00 := ⟨by decide, by decide⟩
  have hsecond : Spares exampleSite 0x0a000400 0xffffff00 := ⟨by decide, by decide⟩
  have hset : HandledLocalNet (acknowledgedEvents ++ [.start, .handle 0 (messageOf (0, localSet)).2
      none, .packet 0 localMaps clientFrame .tx (forwarded localMaps clientFrame)]) :=
    ⟨0, _, _, List.mem_cons_self⟩
  have hrouter : Run (Router.Step exampleSite.endian channelCapacity) handledState _ _ :=
    deliver_run (r := .setLocalNetAndMask 0x0a000400 0xffffff00) (by decide) rfl rfl
      (handleMessage_eq _ _)
  have hupdate : Run (Step exampleSite channelCapacity True)
      (handledState, exampleSite.start) _ _ :=
    run_of_router hrouter (by simpa [Harmless] using hsecond)
  obtain ⟨evs, u, hr, hfin⟩ := ((client_finishes exampleSite channelCapacity 1 handled_run
    (by simpa [Harmless, acknowledgedEvents, localSet] using hfirst) hset hupdate).2.2.2
    (by simp [pings, Event.ping?, Lost])).2
  have hentry := entry_applied_written handledState.maps
    (.setLocalNetAndMask 0x0a000400 0xffffff00) .localNet
  exact ⟨_, evs, u, hentry, hr, hfin⟩

end Net.Ping.Managed
