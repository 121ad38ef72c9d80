import UdpRouter.Router.Proof.Process
import UdpRouter.Router.Proof.Updates

/-!
# Calls that return and calls that are dropped

Of the calls of a run each is pending or has returned, once (`returned_perm`), and the message of
one that has returned is in the channel's history. So acknowledgements are ahead of the actor by at
most the capacity and the message in its hands (`acknowledged_ahead`); a call dropped before its
message was sent never takes effect, and one dropped later does (`cancelled_calls`).
-/

namespace Router

open Bytes Ebpf Management Mailbox Startup Transition Wire

/-! ## Returned calls -/

def Event.returned : Event → Option Nat
  | .ret call _ => some call
  | _ => none

/-- The calls that have returned, in their order. -/
def returned (evs : List Event) : List Nat := evs.filterMap Event.returned

section
variable {e : Endian} {cap cpus : Nat} {evs : List Event} {s s' : State} {a : Event}

theorem returned_concat (evs : List Event) (a : Event) :
    returned (evs ++ [a]) = returned evs ++ a.returned.toList := by
  cases h : a.returned <;> simp [returned, List.filterMap_append, h]

theorem mem_returned {call : Nat} : call ∈ returned evs ↔ ∃ res, .ret call res ∈ evs := by
  rw [returned, List.mem_filterMap]
  constructor
  · rintro ⟨a, ha, hc⟩
    cases a with
    | ret _ res =>
      cases hc
      exact ⟨res, ha⟩
    | _ => cases hc
  · rintro ⟨res, hm⟩
    exact ⟨_, hm, rfl⟩

/-- **What a step does to the calls**, those that have returned with those that are pending. -/
theorem Step.returned (h : Step e cap s a s') :
    (a.returned.toList ++ s'.pending.map Prod.fst).Perm
      (s.pending.map Prod.fst ++ a.issued.toList.map Prod.fst) := by
  cases h with
  | @issue r b _ => exact (List.perm_append_singleton s.next _).symm
  | @ret call r res hp _ _ =>
    have hperm := (List.perm_cons_erase hp).map Prod.fst
    simpa [Event.returned, Event.issued] using hperm.symm
  | _ => simp [Event.returned, Event.issued]

/-- **Every run**: a call is pending or has returned, and neither twice. -/
theorem returned_perm (h : Run (Step e cap) (.init cpus) evs s) :
    (returned evs ++ s.pending.map Prod.fst).Perm ((issued evs).map Prod.fst) := by
  refine h.invariant (I := fun evs s => (returned evs ++ s.pending.map Prod.fst).Perm
    ((issued evs).map Prod.fst)) (.refl _) fun evs s a s' _ hI hst => ?_
  rw [returned_concat, issued_concat, List.map_append, List.append_assoc]
  have hone := hst.returned.append_left (returned evs)
  rw [← List.append_assoc (returned evs) (s.pending.map Prod.fst)] at hone
  exact hone.trans (hI.append_right _)

theorem nodup_returned (h : Run (Step e cap) (.init cpus) evs s) : (returned evs).Nodup := by
  have hn := (returned_perm h).nodup_iff.2 (invariant h).nodup_calls
  exact (List.nodup_append.1 hn).1

/-- The message of a call that has returned has been sent. -/
theorem enqueued_of_returned (h : Run (Step e cap) (.init cpus) evs s) {call : Nat}
    (hc : call ∈ returned evs) :
    ∃ r, .issue call r ∈ evs ∧ messageOf (call, r) ∈ enqueued evs := by
  obtain ⟨res, hm⟩ := mem_returned.1 hc
  obtain ⟨pre, post, rfl⟩ := List.append_of_mem hm
  obtain ⟨t, t', hr, hst, -⟩ := h.cut
  cases hst with
  | @ret _ r _ hp _ _ =>
    have hi := mem_issued.1 ((invariant hr).pending _ hp)
    refine ⟨r, List.mem_append_left _ hi, ?_⟩
    rw [enqueued_append]
    exact List.mem_append_left _ (enqueued_of_ret h hi)

end

namespace Process

/-! ## Acknowledgements -/

section
variable {e : Endian} {cap cpus : Nat} {opt : Opt} {evs : List Event} {c c' : State} {a : Event}

/-- The queue never holds more than its capacity. -/
theorem Step.bounded (h : Step e cap c a c') (hb : c.box.queue.length ≤ cap) :
    c'.box.queue.length ≤ cap := by
  cases h with
  | issue _ hm => exact hm.bounded hb
  | enqueue _ hm => exact hm.bounded hb
  | recv _ hm => exact hm.bounded hb
  | _ => exact hb

theorem bounded_of_run (h : Run (Step e cap) (.init opt cpus) evs c) :
    c.box.queue.length ≤ cap :=
  h.invariant (I := fun _ c => c.box.queue.length ≤ cap) (Nat.zero_le _)
    fun _ _ _ _ _ hb hst => hst.bounded hb

/-- What has been sent is handled, in the actor's hands or in the channel. -/
theorem enqueued_seen (h : Run (Step e cap) (.init opt cpus) evs c) :
    enqueued (seen evs) = handled (seen evs) ++ (c.task.inHand ++ c.box.queue) := by
  obtain ⟨s, gone, lost, hr, hs⟩ := refines_of_run h
  rw [← hs.queue]
  exact (invariant hr).history.fifo

end

/-- **Acknowledgements.** In every run no call returns twice and no message is handled twice; the
message of a call that has returned is handled, in the actor's hands or in the channel; and the
calls that have returned outnumber the handled messages by at most the channel's capacity and the
message in the actor's hands. -/
theorem acknowledged_ahead (e : Endian) (cap cpus : Nat) (opt : Opt) (evs : List Event) (c : State)
    (h : Run (Step e cap) (.init opt cpus) evs c) :
    (returned (seen evs)).Nodup ∧ (handled (seen evs)).Nodup ∧
    (∀ call r, .issue call r ∈ seen evs → call ∈ returned (seen evs) →
      messageOf (call, r) ∈ handled (seen evs) ∨
        messageOf (call, r) ∈ c.task.inHand ++ c.box.queue) ∧
    (returned (seen evs)).length ≤
      (handled (seen evs)).length + c.task.inHand.length + cap := by
  have hfifo := enqueued_seen h
  obtain ⟨s, gone, lost, hr, hs⟩ := refines_of_run h
  have hI := invariant hr
  refine ⟨nodup_returned hr, hI.nodup_enqueued.sublist hI.history.taken_sublist, ?_, ?_⟩
  · intro call r hi hc
    obtain ⟨r', hi', hm⟩ := enqueued_of_returned hr hc
    obtain rfl := hI.issue_unique hi hi'
    rw [hfifo] at hm
    exact List.mem_append.1 hm
  · have hsub : returned (seen evs) ⊆ (enqueued (seen evs)).map Prod.fst := by
      intro call hc
      obtain ⟨r, -, hm⟩ := enqueued_of_returned hr hc
      exact List.mem_map.2 ⟨_, hm, rfl⟩
    have hlen := (nodup_returned hr).length_le_of_subset hsub
    have hroom := bounded_of_run h
    rw [List.length_map, hfifo, List.length_append, List.length_append] at hlen
    omega

/-- A Set call on a started process. -/
def setEvents : List Event :=
  startEvents ++ [.router (.issue 0 localSet), .router (.enqueue 0 (messageOf (0, localSet)).2),
    .router (.ret 0 .empty)]

theorem set_run : Run (Step .little channelCapacity) (.init plainOpt 1) setEvents
    { started with box := ⟨[], [messageOf (0, localSet)]⟩, next := 1 } :=
  started_run.trans (.cons (.issue nofun .post)
    (.cons (.enqueue nofun (.enqueue (.refl _) (by decide)))
      (.single (.ret (r := localSet) nofun List.mem_cons_self nofun rfl))))

theorem acknowledged_ahead_example : (returned (seen setEvents)).length ≤ 8 := by
  have h := acknowledged_ahead .little channelCapacity 1 plainOpt _ _ set_run
  exact h.2.2.2

/-! ## Dropped calls -/

section
variable {e : Endian} {cap cpus : Nat} {opt : Opt} {evs : List Event} {c c' : State} {a : Event}
  {call : Nat}

theorem mem_enqueued_seen {msg : BpfActorMessage} :
    (call, msg) ∈ enqueued (seen evs) ↔ .router (.enqueue call msg) ∈ evs := by
  rw [enqueued, Mailbox.enqueued, ops, seen]
  simp only [List.mem_filterMap]
  constructor
  · rintro ⟨op, ⟨b, ⟨a, ha, hb⟩, hop⟩, hx⟩
    cases op with
    | enqueue x =>
      cases hx
      cases b with
      | enqueue _ _ =>
        cases hop
        cases a with
        | router _ =>
          cases hb
          exact ha
        | call x => cases hx : attaches x <;> simp [Event.seen, hx] at hb
        | _ => cases hb
      | _ => cases hop
    | _ => cases hx
  · intro h
    exact ⟨_, ⟨_, ⟨_, h, rfl⟩, rfl⟩, rfl⟩

/-- The handler of `call` is gone, and so is its message unless it has been sent. -/
structure Dropped (call : Nat) (c : State) : Prop where
  issued : call < c.next
  pending : ∀ p ∈ c.pending, p.1 ≠ call
  waiting : ∀ x ∈ c.box.waiting, x.1 ≠ call

/-- **One step** of a process without the handler. -/
theorem Dropped.step (h : Dropped call c) (hst : Step e cap c a c') :
    Dropped call c' ∧ (∀ res, a ≠ .router (.ret call res)) ∧
      ∀ msg, a ≠ .router (.enqueue call msg) := by
  cases hst with
  | issue _ hb =>
    cases hb with
    | post =>
      refine ⟨⟨Nat.lt_succ_of_lt h.issued, fun p hp => ?_, fun x hx => ?_⟩, nofun, nofun⟩
      · rcases List.mem_cons.1 hp with rfl | hp
        · exact (Nat.ne_of_lt h.issued).symm
        · exact h.pending p hp
      · rcases List.mem_cons.1 hx with rfl | hx
        · exact (Nat.ne_of_lt h.issued).symm
        · exact h.waiting x hx
  | enqueue _ hb =>
    cases hb with
    | enqueue hw _ =>
      refine ⟨⟨h.issued, h.pending, fun x hx => ?_⟩, nofun, fun msg he => ?_⟩
      · exact h.waiting x (hw.mem_iff.2 (List.mem_cons_of_mem _ hx))
      · cases he
        exact h.waiting _ (hw.mem_iff.2 List.mem_cons_self) rfl
  | ret _ hp _ _ =>
    refine ⟨⟨h.issued, fun p hm => h.pending p (List.mem_of_mem_erase hm), h.waiting⟩,
      fun res he => ?_, nofun⟩
    cases he
    exact h.pending _ hp rfl
  | cancel _ _ =>
    exact ⟨⟨h.issued, fun p hp => h.pending p (List.mem_filter.1 hp).1,
      fun x hx => h.waiting x (List.mem_filter.1 hx).1⟩, nofun, nofun⟩
  | recv _ hb =>
    cases hb with
    | take _ => exact ⟨⟨h.issued, h.pending, h.waiting⟩, nofun, nofun⟩
  | call _ => exact ⟨⟨h.issued, h.pending, h.waiting⟩, nofun, nofun⟩
  | begin _ => exact ⟨⟨h.issued, h.pending, h.waiting⟩, nofun, nofun⟩
  | handle _ _ => exact ⟨⟨h.issued, h.pending, h.waiting⟩, nofun, nofun⟩
  | packet _ _ _ => exact ⟨⟨h.issued, h.pending, h.waiting⟩, nofun, nofun⟩

/-- **A run** of a process without the handler. -/
theorem Dropped.run (h : Dropped call c) (hr : Run (Step e cap) c evs c') :
    (∀ res, .router (.ret call res) ∉ evs) ∧ ∀ msg, .router (.enqueue call msg) ∉ evs := by
  have hI := hr.invariant (I := fun evs c => Dropped call c ∧
    (∀ res, .router (.ret call res) ∉ evs) ∧ ∀ msg, .router (.enqueue call msg) ∉ evs)
    ⟨h, nofun, nofun⟩ fun evs c a c' _ hI hst => ?_
  · exact hI.2
  · obtain ⟨hd, hret, henq⟩ := hI.1.step hst
    refine ⟨hd, fun res hm => ?_, fun msg hm => ?_⟩
    · rcases List.mem_append.1 hm with hm | hm
      · exact hI.2.1 res hm
      · exact hret res (List.mem_singleton.1 hm).symm
    · rcases List.mem_append.1 hm with hm | hm
      · exact hI.2.2 msg hm
      · exact henq msg (List.mem_singleton.1 hm).symm

/-- What a dropped handler leaves. -/
theorem dropped_of_cancel (h : Run (Step e cap) (.init opt cpus) evs c)
    (hst : Step e cap c (.cancel call) c') : Dropped call c' := by
  obtain ⟨s, gone, lost, -, hs⟩ := refines_of_run h
  cases hst with
  | cancel _ hc =>
    obtain ⟨p, hp, rfl⟩ := List.mem_map.1 hc
    refine ⟨?_, fun q hq => by simpa using (List.mem_filter.1 hq).2,
      fun x hx => by simpa using (List.mem_filter.1 hx).2⟩
    have := hs.names_lt p (hs.pending.mem_iff.2 (List.mem_append_left _ hp))
    rwa [hs.next] at this

end

/-- **Dropped calls.** In every run in which the handler of a call is dropped: the call does not
return afterwards; if its message had not been sent by then, the actor never handles it; and if it
had, it is handled, in the actor's hands or in the channel. -/
theorem cancelled_calls (e : Endian) (cap cpus : Nat) (opt : Opt) (pre post : List Event)
    (call : Nat) (c : State)
    (h : Run (Step e cap) (.init opt cpus) (pre ++ .cancel call :: post) c) :
    (∀ res, .router (.ret call res) ∉ post) ∧
    ((∀ msg, (call, msg) ∉ enqueued (seen pre)) →
      ∀ msg, (call, msg) ∉ handled (seen (pre ++ .cancel call :: post))) ∧
    (∀ msg, (call, msg) ∈ enqueued (seen pre) →
      (call, msg) ∈ handled (seen (pre ++ .cancel call :: post)) ∨
        (call, msg) ∈ c.task.inHand ++ c.box.queue) := by
  have hfifo := enqueued_seen h
  obtain ⟨t, t', hr, hst, hr'⟩ := h.cut
  obtain ⟨hret, henq⟩ := (dropped_of_cancel hr hst).run hr'
  refine ⟨hret, fun hpre msg hm => ?_, fun msg hm => ?_⟩
  · have hin : (call, msg) ∈ enqueued (seen (pre ++ .cancel call :: post)) := by
      rw [hfifo]
      exact List.mem_append_left _ hm
    rcases List.mem_append.1 (mem_enqueued_seen.1 hin) with hin | hin
    · exact hpre msg (mem_enqueued_seen.2 hin)
    · rcases List.mem_cons.1 hin with hin | hin
      · cases hin
      · exact henq msg hin
  · rw [← List.mem_append, ← hfifo]
    exact mem_enqueued_seen.2 (List.mem_append_left _ (mem_enqueued_seen.1 hm))

/-- The client of a Set call goes away before there is room for its message. -/
def dropEvents : List Event := (startEvents ++ [.router (.issue 0 localSet)]) ++ .cancel 0 :: []

theorem drop_run : Run (Step .little channelCapacity) (.init plainOpt 1) dropEvents
    { started with next := 1 } :=
  (started_run.tail (.issue nofun .post)).tail (.cancel nofun List.mem_cons_self)

theorem cancelled_calls_example :
    ∃ c, Run (Step .little channelCapacity) (.init plainOpt 1) dropEvents c ∧
      ∀ msg, (0, msg) ∉ handled (seen dropEvents) := by
  have h := cancelled_calls .little channelCapacity 1 plainOpt _ _ 0 _ drop_run
  refine ⟨_, drop_run, h.2.1 fun msg hm => ?_⟩
  have hin := mem_enqueued_seen.1 hm
  simp [startEvents] at hin

end Process

end Router
