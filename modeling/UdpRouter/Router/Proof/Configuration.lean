import UdpRouter.Router.Proof.Calls

/-!
# Configuration updates of the process

What `Updates` says of the transition system, over the runs of the process in detail, where a
message is in the channel, then in the actor's hands, then handled. `updates_whole_ordered`: values
are whole, a message changes only its own map, calls in sequence take effect in sequence, and a
drained channel with nothing in the actor's hands leaves the last value; with a message in its hands
it need not (`received_counterexample`). `handled_update_in_force`: where the message of a returned
call is, and what holds once it is handled; before that an older value may be in force
(`acknowledged_counterexample`).
-/

namespace Router.Process

open Bytes Ebpf Management Mailbox Startup Transition Wire

/-! ## What is seen of a run -/

section
variable {evs pre post : List Event} {a : Router.Event}

theorem seen_append (evs evs' : List Event) : seen (evs ++ evs') = seen evs ++ seen evs' :=
  List.filterMap_append

theorem seen_router (pre : List Event) (a : Router.Event) (post : List Event) :
    seen (pre ++ .router a :: post) = seen pre ++ a :: seen post := by
  rw [seen_append]
  rfl

theorem mem_seen (h : .router a ∈ evs) : a ∈ seen evs := List.mem_filterMap.2 ⟨_, h, rfl⟩

/-- Only the start and the attachment are seen under another name. -/
theorem mem_of_seen (h : a ∈ seen evs) (ha : a ≠ .attach) (hs : a ≠ .start) : .router a ∈ evs := by
  obtain ⟨b, hb, hv⟩ := List.mem_filterMap.1 h
  cases b with
  | router _ =>
    cases hv
    exact hb
  | call x =>
    rw [Event.seen, Option.ite_none_right_eq_some] at hv
    exact absurd (Option.some.inj hv.2).symm ha
  | begin => exact absurd (Option.some.inj hv).symm hs
  | recv _ _ => cases hv
  | cancel _ => cases hv

end

/-! ## The maps -/

section
variable {e : Endian} {cap cpus : Nat} {opt : Opt} {evs : List Event} {c c' : State} {a : Event}

/-- **What a step does to the maps**: only `handle_message` changes them. -/
theorem Step.maps (h : Step e cap c a c') :
    (∃ call msg answer, a = .router (.handle call msg answer) ∧ c'.maps = applied c.maps msg) ∨
      ((∀ call msg answer, a ≠ .router (.handle call msg answer)) ∧ c'.maps = c.maps) := by
  cases h with
  | handle _ hm =>
    rw [handleMessage_eq, Option.some.injEq, Prod.mk.injEq] at hm
    exact .inl ⟨_, _, _, rfl, hm.1.symm⟩
  | packet _ _ hr =>
    rw [udpRouter_run, Option.some.injEq, Prod.mk.injEq] at hr
    obtain ⟨-, rfl⟩ := hr
    exact .inr ⟨nofun, rfl⟩
  | issue _ _ => exact .inr ⟨nofun, rfl⟩
  | enqueue _ _ => exact .inr ⟨nofun, rfl⟩
  | ret _ _ _ _ => exact .inr ⟨nofun, rfl⟩
  | cancel _ _ => exact .inr ⟨nofun, rfl⟩
  | call _ => exact .inr ⟨nofun, rfl⟩
  | begin _ => exact .inr ⟨nofun, rfl⟩
  | recv _ _ => exact .inr ⟨nofun, rfl⟩

theorem Step.packet_of (ha : c.alive) (hatt : c.attached = true) (cpu : Nat) (f : Frame) :
    Step e cap c (.router (.packet cpu c.maps f (verdict c.maps f) (output c.maps f))) c :=
  .packet ha hatt (udpRouter_run e cpu f c.maps)

theorem Step.packet_pass (ha : c.alive) (hatt : c.attached = true) (cpu : Nat) {f : Frame}
    (hv : verdict c.maps f = .pass) : Step e cap c (.router (.packet cpu c.maps f .pass f)) c := by
  have ho : output c.maps f = f := if_neg (by rw [hv]; nofun)
  have h : Step e cap c _ c := @Step.packet_of e cap c ha hatt cpu f
  rwa [ho, hv] at h

/-- The maps are those of the handled messages. -/
theorem maps_of_run (h : Run (Step e cap) (.init opt cpus) evs c) :
    c.maps = configured cpus (handled (seen evs)) := by
  obtain ⟨s, gone, lost, hr, hs⟩ := refines_of_run h
  rw [← hs.maps]
  exact (invariant hr).maps

/-- **Nothing is lost**: with the channel and the actor's hands empty all that was sent is in the
maps. -/
theorem entry_of_drained (h : Run (Step e cap) (.init opt cpus) evs c) (ht : c.task.inHand = [])
    (hq : c.box.queue = []) (k : Kind) :
    entry c.maps k = (lastWritten k (enqueued (seen evs))).getD 0 := by
  rw [maps_of_run h, entry_configured, enqueued_seen h, ht, hq, List.append_nil, List.append_nil]

end

/-! ## Whole, ordered and not lost -/

/-- The initial pair, or the pair of one request. -/
def Origin (pre : List Event) (request : BitVec 32 → BitVec 32 → Request) (net mask : BitVec 32) :
    Prop :=
  net = 0 ∧ mask = 0 ∨ ∃ call, .router (.issue call (request net mask)) ∈ pre

theorem origin_of_seen {pre : List Event} {request : BitVec 32 → BitVec 32 → Request}
    {net mask : BitVec 32}
    (h : net = 0 ∧ mask = 0 ∨ ∃ call, .issue call (request net mask) ∈ seen pre) :
    Origin pre request net mask :=
  h.imp_right fun ⟨call, hm⟩ => ⟨call, mem_of_seen hm nofun nofun⟩

/-- **Updates are whole, ordered and not lost.** Over every run of the process, with any capacity:
(a) a packet is judged by the initial pair or by the pair of one request, for either network; (b)
handling a message replaces the map of its own kind, if it has one, and nothing else, and no other
step changes a map; (c) of two calls, one returned before the other was issued, the earlier is never
handled after the later; (d) when the channel is empty and the actor has no message in its hands,
each map holds the value of the last message of its kind. -/
theorem updates_whole_ordered (e : Endian) (cap cpus : Nat) (opt : Opt) (evs : List Event)
    (c : State) (h : Run (Step e cap) (.init opt cpus) evs c) :
    (∀ pre cpu maps f v g post, evs = pre ++ .router (.packet cpu maps f v g) :: post →
      v = verdict maps f ∧
      (∃ net mask, Origin pre .setLocalNetAndMask net mask ∧
        InForce maps (.setLocalNetAndMask net mask)) ∧
      (∃ net mask, Origin pre .setBackendNetAndMask net mask ∧
        InForce maps (.setBackendNetAndMask net mask))) ∧
    (∀ c₁ a c₂, Step e cap c₁ a c₂ →
      (∀ call msg ans, a = .router (.handle call msg ans) →
        (msg.write = none → c₂.maps = c₁.maps) ∧
        ∀ k v, msg.write = some (k, v) → c₂.maps = setEntry c₁.maps v k) ∧
      ((∀ call msg ans, a ≠ .router (.handle call msg ans)) → c₂.maps = c₁.maps)) ∧
    (∀ p₁ p₂ p₃ i j ri rj res,
      evs = p₁ ++ .router (.ret i res) :: (p₂ ++ .router (.issue j rj) :: p₃) →
      .router (.issue i ri) ∈ p₁ →
      ¬ [messageOf (j, rj), messageOf (i, ri)].Sublist (handled (seen evs))) ∧
    (c.task.inHand = [] → c.box.queue = [] →
      ∀ k, entry c.maps k = (lastWritten k (enqueued (seen evs))).getD 0) := by
  obtain ⟨s, gone, lost, hr, -⟩ := refines_of_run h
  refine ⟨fun pre cpu maps f v g post he => ?_, fun c₁ a c₂ hst => ?_,
    fun p₁ p₂ p₃ i j ri rj res he hi => ?_, entry_of_drained h⟩
  · subst he
    rw [seen_router] at hr
    obtain ⟨hv, ⟨net, mask, hl, hfl⟩, net', mask', hb, hfb⟩ := packet_whole hr
    exact ⟨hv, ⟨net, mask, origin_of_seen hl, hfl⟩, net', mask', origin_of_seen hb, hfb⟩
  · obtain ⟨call', msg', ans', rfl, hm⟩ | ⟨ha, hm⟩ := hst.maps
    · refine ⟨fun call msg ans he => ?_, fun hn => absurd rfl (hn call' msg' ans')⟩
      cases he
      rw [hm, applied]
      exact ⟨fun hw => by rw [hw], fun k v hw => by rw [hw]⟩
    · exact ⟨fun call msg ans he => absurd he (ha call msg ans), fun _ => hm⟩
  · subst he
    rw [seen_router, seen_router] at hr ⊢
    exact not_handled_before hr (mem_seen hi)

/-- The actor has received the message. -/
def received : State := { started with task := .handling 0 (messageOf (0, localSet)).2, next := 1 }

def receivedEvents : List Event := setEvents ++ [.recv 0 (messageOf (0, localSet)).2]

theorem received_run :
    Run (Step .little channelCapacity) (.init plainOpt 1) receivedEvents received :=
  set_run.tail (.recv rfl (.take rfl))

/-- And handled it. -/
theorem applied_run : Run (Step .little channelCapacity) (.init plainOpt 1)
    (receivedEvents ++ [.router (.handle 0 (messageOf (0, localSet)).2 none)])
    { started with maps := localMaps, next := 1 } :=
  received_run.tail (.handle rfl rfl)

theorem updates_whole_ordered_example : entry localMaps .localNet = 0x0a000200ffffff00 := by
  have h := updates_whole_ordered .little channelCapacity 1 plainOpt _ _ applied_run
  exact h.2.2.2 rfl rfl .localNet

/-- The channel is empty and no call is pending, and the map does not hold the last value: the
message is in the actor's hands. -/
theorem received_counterexample :
    Run (Step .little channelCapacity) (.init plainOpt 1) receivedEvents received ∧
    received.box = .empty ∧ received.pending = [] ∧
    entry received.maps .localNet ≠ (lastWritten .localNet (enqueued (seen receivedEvents))).getD 0
    := by
  refine ⟨received_run, rfl, rfl, ?_⟩
  decide +kernel

/-! ## In force -/

/-- **An update in force.** For a Set call: once it has returned, its message has been handled, is
in the actor's hands or is in the channel; and every packet after it was handled is judged and
rewritten with its value or with that of a call of its kind whose message was enqueued after it. -/
theorem handled_update_in_force (e : Endian) (cap cpus : Nat) (opt : Opt) (evs : List Event)
    (c : State) (h : Run (Step e cap) (.init opt cpus) evs c) (call : Nat) (r : Request) (k : Kind)
    (hk : kindOf r = some k) :
    (∀ res, .router (.issue call r) ∈ evs → .router (.ret call res) ∈ evs →
      messageOf (call, r) ∈ handled (seen evs) ∨ messageOf (call, r) ∈ c.task.inHand ∨
        messageOf (call, r) ∈ c.box.queue) ∧
    (∀ pre cpu maps f v g post, evs = pre ++ .router (.packet cpu maps f v g) :: post →
      messageOf (call, r) ∈ handled (seen pre) →
      v = verdict maps f ∧ g = output maps f ∧
        ∃ call' r', .router (.issue call' r') ∈ pre ∧ kindOf r' = some k ∧ InForce maps r' ∧
          (messageOf (call', r') = messageOf (call, r) ∨
            [messageOf (call, r), messageOf (call', r')].Sublist (enqueued (seen pre)))) := by
  obtain ⟨s, gone, lost, hr, -⟩ := refines_of_run h
  refine ⟨fun res hi hret => ?_, fun pre cpu maps f v g post he hm => ?_⟩
  · obtain ⟨r', hi', hm⟩ := enqueued_of_returned hr (mem_returned.2 ⟨res, mem_seen hret⟩)
    obtain rfl := (invariant hr).issue_unique (mem_seen hi) hi'
    rw [enqueued_seen h] at hm
    simpa only [List.mem_append] using hm
  · subst he
    rw [seen_router] at hr
    obtain ⟨hv, hg, call', r', hi', hk', hf, ho⟩ := packet_in_force hr hk hm
    exact ⟨hv, hg, call', r', mem_of_seen hi' nofun nofun, hk', hf, ho⟩

theorem handled_update_in_force_example :
    messageOf (0, localSet) ∈ handled (seen receivedEvents) ∨
      messageOf (0, localSet) ∈ received.task.inHand ∨
      messageOf (0, localSet) ∈ received.box.queue := by
  have h := handled_update_in_force .little channelCapacity 1 plainOpt _ _ received_run 0 localSet
    .localNet rfl
  exact h.1 .empty (by simp [receivedEvents, setEvents]) (by simp [receivedEvents, setEvents])

/-- The call has returned, and the frame is still judged by the unset local network. -/
theorem acknowledged_counterexample :
    ∃ c, Run (Step .little channelCapacity) (.init plainOpt 1)
      (setEvents ++ [.router (.packet 0 (.fresh 1) clientFrame .pass clientFrame)]) c ∧
    .router (.issue 0 localSet) ∈ setEvents ∧ .router (.ret 0 .empty) ∈ setEvents ∧
    (∀ call r, .router (.issue call r) ∈ setEvents → kindOf r = some .localNet → r = localSet) ∧
    ¬ InForce (.fresh 1) localSet := by
  have hst : Step .little channelCapacity
      { started with box := ⟨[], [messageOf (0, localSet)]⟩, next := 1 }
      (.router (.packet 0 (.fresh 1) clientFrame .pass clientFrame)) _ :=
    .packet_pass (by simp [State.alive, started]) rfl 0 (by decide +kernel)
  refine ⟨_, set_run.tail hst, by simp [setEvents], by simp [setEvents], ?_,
    fun h => absurd (h 0x0a00010a) (by decide)⟩
  simp [setEvents, startEvents]

end Router.Process
