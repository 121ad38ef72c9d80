import UdpRouter.Router.Proof.BpfActor
import UdpRouter.Router.System

/-!
# The invariant of the router process

`Invariant` ties a state to the events behind it: calls are named in their order, the channel is a
bounded mailbox whose history is that of the run (`history_of_run`), and the maps are those of a
fresh program after the handled messages and nothing else. `invariant` holds it over every run; what
follows it reads off single events.
-/

namespace Router

open Bytes Ebpf Management Mailbox Transition Wire

/-- The maps after the handled messages. -/
def configured (cpus : Nat) (msgs : List (Nat × BpfActorMessage)) : BpfMaps :=
  msgs.foldl (fun maps x => applied maps x.2) (.fresh cpus)

/-- The message of a call. -/
def messageOf (p : Nat × Request) : Nat × BpfActorMessage := (p.1, BpfActorHandle.message p.1 p.2)

structure Invariant (cpus cap : Nat) (evs : List Event) (s : State) : Prop where
  calls : (issued evs).map Prod.fst = List.range s.next
  pending : ∀ p ∈ s.pending, p ∈ issued evs
  posted : Mailbox.posted (ops evs) = (issued evs).map messageOf
  history : History cap (ops evs) s.box
  maps : s.maps = configured cpus (handled evs)

/-! ## Events one by one -/

section
variable (evs : List Event) (a : Event)

@[simp] theorem ops_concat : ops (evs ++ [a]) = ops evs ++ a.op.toList := by
  cases h : a.op <;> simp [ops, List.filterMap_append, h]

@[simp] theorem issued_concat : issued (evs ++ [a]) = issued evs ++ a.issued.toList := by
  cases h : a.issued <;> simp [issued, List.filterMap_append, h]

/-- A call posts its message, and nothing else does. -/
theorem posted_ops_concat : Mailbox.posted (ops (evs ++ [a])) =
    Mailbox.posted (ops evs) ++ a.issued.toList.map messageOf := by
  rw [ops_concat]
  cases a <;> simp [Event.op, Event.issued, Op.posted, messageOf]

end

theorem configured_concat (cpus : Nat) (msgs : List (Nat × BpfActorMessage))
    (x : Nat × BpfActorMessage) :
    configured cpus (msgs ++ [x]) = applied (configured cpus msgs) x.2 := by
  simp [configured]

section
variable {e : Endian} {cap cpus : Nat} {evs : List Event} {s s' : State} {a : Event}

/-- A packet changes nothing in the process. -/
theorem Step.packet_of (hp : s.phase ≠ .loading) (cpu : Nat) (f : Frame) :
    Step e cap s (.packet cpu s.maps f (verdict s.maps f) (output s.maps f)) s :=
  .packet hp (udpRouter_run e cpu f s.maps)

theorem Step.packet_tx (hp : s.phase ≠ .loading) (cpu : Nat) {f : Frame}
    (hv : verdict s.maps f = .tx) :
    Step e cap s (.packet cpu s.maps f .tx (forwarded s.maps f)) s := by
  rw [← output_of_tx hv, ← hv]
  exact .packet_of hp cpu f

theorem Step.packet_pass (hp : s.phase ≠ .loading) (cpu : Nat) {f : Frame}
    (hv : verdict s.maps f = .pass) : Step e cap s (.packet cpu s.maps f .pass f) s := by
  have ho : output s.maps f = f := if_neg (by rw [hv]; nofun)
  have h : Step e cap s (.packet cpu s.maps f (verdict s.maps f) (output s.maps f)) s :=
    .packet_of hp cpu f
  rwa [ho, hv] at h

/-- **The channel is a bounded mailbox.** -/
theorem Step.box (h : Step e cap s a s') :
    (∃ op, a.op = some op ∧ Mailbox.Step cap s.box op s'.box) ∨ (a.op = none ∧ s'.box = s.box) := by
  cases h with
  | issue hb => exact .inl ⟨_, rfl, hb⟩
  | enqueue hb => exact .inl ⟨_, rfl, hb⟩
  | handle _ hb _ => exact .inl ⟨_, rfl, hb⟩
  | ret _ _ _ => exact .inr ⟨rfl, rfl⟩
  | attach _ => exact .inr ⟨rfl, rfl⟩
  | start _ => exact .inr ⟨rfl, rfl⟩
  | packet _ _ => exact .inr ⟨rfl, rfl⟩

theorem simulates_mailbox :
    Simulates (Step e cap) (Mailbox.Step cap) Event.op fun s b => s.box = b where
  hidden hb hs ho := by
    obtain ⟨op, ho', -⟩ | ⟨-, hb'⟩ := hs.box
    · exact absurd (ho.symm.trans ho') nofun
    · exact hb'.trans hb
  visible := by
    rintro s a s' _ op rfl hs ho
    obtain ⟨op', ho', hb⟩ | ⟨ho', -⟩ := hs.box
    · obtain rfl := Option.some.inj (ho.symm.trans ho')
      exact ⟨_, hb, rfl⟩
    · exact absurd (ho.symm.trans ho') nofun

theorem history_of_run (h : Run (Step e cap) (.init cpus) evs s) : History cap (ops evs) s.box := by
  obtain ⟨_, hb, rfl⟩ := simulates_mailbox.run h rfl
  exact history hb

/-- **What a step does to the maps**: only the actor changes them. -/
theorem Step.maps (h : Step e cap s a s') :
    (∃ call msg answer, a = .handle call msg answer ∧ s'.maps = applied s.maps msg) ∨
      ((∀ call msg answer, a ≠ .handle call msg answer) ∧ s'.maps = s.maps) := by
  cases h with
  | handle _ _ hm =>
    rw [handleMessage_eq, Option.some.injEq, Prod.mk.injEq] at hm
    exact .inl ⟨_, _, _, rfl, hm.1.symm⟩
  | packet _ hr =>
    rw [udpRouter_run, Option.some.injEq, Prod.mk.injEq] at hr
    obtain ⟨-, rfl⟩ := hr
    exact .inr ⟨nofun, rfl⟩
  | issue _ => exact .inr ⟨nofun, rfl⟩
  | enqueue _ => exact .inr ⟨nofun, rfl⟩
  | ret _ _ _ => exact .inr ⟨nofun, rfl⟩
  | attach _ => exact .inr ⟨nofun, rfl⟩
  | start _ => exact .inr ⟨nofun, rfl⟩

theorem handled_concat_of_ne (h : ∀ call msg answer, a ≠ .handle call msg answer) :
    handled (evs ++ [a]) = handled evs := by
  unfold handled
  rw [ops_concat]
  cases a with
  | handle call msg answer => exact absurd rfl (h call msg answer)
  | issue _ _ => simp [Event.op, Op.taken]
  | enqueue _ _ => simp [Event.op, Op.taken]
  | ret _ _ => simp [Event.op]
  | attach => simp [Event.op]
  | start => simp [Event.op]
  | packet _ _ _ _ _ => simp [Event.op]

theorem Invariant.maps_step (h : Invariant cpus cap evs s) (hs : Step e cap s a s') :
    s'.maps = configured cpus (handled (evs ++ [a])) := by
  obtain ⟨call, msg, answer, rfl, hm⟩ | ⟨ha, hm⟩ := hs.maps
  · rw [hm, h.maps, ← configured_concat cpus (handled evs) (call, msg)]
    simp [handled, Event.op, Op.taken]
  · rw [hm, h.maps, handled_concat_of_ne ha]

/-- **What a step does to the calls**: it issues one under the next name, or at most ends some. -/
theorem Step.calls (h : Step e cap s a s') :
    (∃ r, a = .issue s.next r ∧ s'.next = s.next + 1 ∧ s'.pending = (s.next, r) :: s.pending) ∨
      (a.issued = none ∧ s'.next = s.next ∧ ∀ p ∈ s'.pending, p ∈ s.pending) := by
  cases h with
  | issue _ => exact .inl ⟨_, rfl, rfl, rfl⟩
  | ret _ _ _ => exact .inr ⟨rfl, rfl, fun p hp => List.mem_of_mem_erase hp⟩
  | enqueue _ => exact .inr ⟨rfl, rfl, fun p hp => hp⟩
  | attach _ => exact .inr ⟨rfl, rfl, fun p hp => hp⟩
  | start _ => exact .inr ⟨rfl, rfl, fun p hp => hp⟩
  | handle _ _ _ => exact .inr ⟨rfl, rfl, fun p hp => hp⟩
  | packet _ _ => exact .inr ⟨rfl, rfl, fun p hp => hp⟩

/-- **One step.** -/
theorem Invariant.step (h : Invariant cpus cap evs s) (hs : Step e cap s a s')
    (hh : History cap (ops (evs ++ [a])) s'.box) : Invariant cpus cap (evs ++ [a]) s' := by
  have hposted : Mailbox.posted (ops (evs ++ [a])) = (issued (evs ++ [a])).map messageOf := by
    rw [posted_ops_concat, issued_concat, h.posted, List.map_append]
  obtain ⟨r, rfl, hn, hp⟩ | ⟨ha, hn, hp⟩ := hs.calls
  · refine ⟨?_, fun p hm => ?_, hposted, hh, h.maps_step hs⟩
    · rw [issued_concat, List.map_append, h.calls, hn, List.range_succ]
      rfl
    · rw [hp] at hm
      rw [issued_concat]
      rcases List.mem_cons.1 hm with rfl | hm
      · exact List.mem_append_right _ List.mem_cons_self
      · exact List.mem_append_left _ (h.pending p hm)
  · have hi : issued (evs ++ [a]) = issued evs := by simp [ha]
    refine ⟨?_, fun p hm => ?_, hposted, hh, h.maps_step hs⟩
    · rw [hi, hn, h.calls]
    · rw [hi]
      exact h.pending p (hp p hm)

/-- **Every run.** -/
theorem invariant (h : Run (Step e cap) (.init cpus) evs s) : Invariant cpus cap evs s :=
  h.invariant ⟨rfl, nofun, rfl, .empty, rfl⟩ fun _ _ _ _ hr hI hs =>
    hI.step hs (history_of_run (hr.tail hs))

/-! ## Events of a run -/

variable {pre post : List Event}

/-- **A packet** is judged with the maps of the messages handled before it. -/
theorem packet_of_run {cpu : Nat} {maps : BpfMaps} {f g : Frame} {v : XdpAction}
    (h : Run (Step e cap) (.init cpus) (pre ++ .packet cpu maps f v g :: post) s) :
    maps = configured cpus (handled pre) ∧ v = verdict maps f ∧ g = output maps f := by
  obtain ⟨t, t', hr, hst, -⟩ := h.cut
  have hm := (invariant hr).maps
  cases hst with
  | packet _ hrun =>
    rw [udpRouter_run, Option.some.injEq, Prod.mk.injEq] at hrun
    obtain ⟨hv, rfl⟩ := hrun
    exact ⟨hm, hv.symm, rfl⟩

/-- **An answer** is read off the maps of the messages handled before it. -/
theorem handle_of_run {call : Nat} {msg : BpfActorMessage} {ans : Option (Nat × RouterStatistics)}
    (h : Run (Step e cap) (.init cpus) (pre ++ .handle call msg ans :: post) s) :
    ans = answer (configured cpus (handled pre)) msg := by
  obtain ⟨t, t', hr, hst, -⟩ := h.cut
  cases hst with
  | handle _ _ hm =>
    rw [handleMessage_eq, Option.some.injEq, Prod.mk.injEq, (invariant hr).maps] at hm
    exact hm.2.symm

theorem mem_issued {call : Nat} {r : Request} : (call, r) ∈ issued evs ↔ .issue call r ∈ evs := by
  rw [issued, List.mem_filterMap]
  constructor
  · rintro ⟨a, ha, he⟩
    cases a with
    | issue _ _ =>
      cases he
      exact ha
    | _ => cases he
  · intro h
    exact ⟨_, h, rfl⟩

/-- A handled message is that of a call. -/
theorem Invariant.issued_of_handled (h : Invariant cpus cap evs s) {x : Nat × BpfActorMessage}
    (hx : x ∈ handled evs) : ∃ call r, .issue call r ∈ evs ∧ x = messageOf (call, r) := by
  have hp := h.history.posted_of_enqueued (h.history.taken_sublist.subset hx)
  rw [h.posted] at hp
  obtain ⟨⟨call, r⟩, hi, rfl⟩ := List.mem_map.1 hp
  exact ⟨call, r, mem_issued.1 hi, rfl⟩

theorem Invariant.nodup_calls (h : Invariant cpus cap evs s) :
    ((issued evs).map Prod.fst).Nodup := by
  rw [h.calls]
  exact List.nodup_range

theorem Invariant.nodup_enqueued (h : Invariant cpus cap evs s) : (enqueued evs).Nodup := by
  refine h.history.nodup ?_
  rw [h.posted]
  refine List.Nodup.of_map Prod.fst ?_
  rw [List.map_map]
  exact h.nodup_calls

/-- One request a call. -/
theorem Invariant.issue_unique (h : Invariant cpus cap evs s) {call : Nat} {r r' : Request}
    (hr : .issue call r ∈ evs) (hr' : .issue call r' ∈ evs) : r = r' := by
  have := List.inj_on_of_nodup_map h.nodup_calls (mem_issued.2 hr) (mem_issued.2 hr') rfl
  exact congrArg Prod.snd this

/-- **A call that has returned** has its message in the channel's history. -/
theorem enqueued_of_ret {call : Nat} {r : Request} {res : Response}
    (h : Run (Step e cap) (.init cpus) (pre ++ .ret call res :: post) s)
    (hi : .issue call r ∈ pre) : messageOf (call, r) ∈ enqueued pre := by
  obtain ⟨t, t', hr, hst, -⟩ := h.cut
  have hI := invariant hr
  cases hst with
  | @ret _ r' _ hp hw _ =>
    obtain rfl := hI.issue_unique hi (mem_issued.1 (hI.pending _ hp))
    refine hI.history.enqueued_of_posted ?_ hw
    rw [hI.posted]
    exact List.mem_map_of_mem (mem_issued.2 hi)

end

/-! ## The last write -/

/-- The last value written to the map of the kind `k`. -/
def lastWritten (k : Kind) (msgs : List (Nat × BpfActorMessage)) : Option (BitVec 64) :=
  (msgs.filterMap fun x => x.2.written k).getLast?

theorem entry_configured (cpus : Nat) (msgs : List (Nat × BpfActorMessage)) (k : Kind) :
    entry (configured cpus msgs) k = (lastWritten k msgs).getD 0 := by
  have h := entry_foldl_applied (.fresh cpus) (msgs.map Prod.snd) k
  rw [List.foldl_map, List.filterMap_map, entry_fresh] at h
  exact h

/-- The message behind the last write. -/
theorem exists_of_lastWritten {k : Kind} {msgs : List (Nat × BpfActorMessage)} {v : BitVec 64}
    (h : lastWritten k msgs = some v) : ∃ x ∈ msgs, x.2.written k = some v :=
  List.mem_filterMap.1 (List.mem_of_getLast? h)

/-- A write is the last one, or another follows it that is. -/
theorem lastWritten_of_mem {k : Kind} {msgs : List (Nat × BpfActorMessage)}
    {x : Nat × BpfActorMessage} {v : BitVec 64} (hx : x ∈ msgs) (hv : x.2.written k = some v) :
    ∃ y v', y.2.written k = some v' ∧ lastWritten k msgs = some v' ∧
      (y = x ∨ [x, y].Sublist msgs) := by
  induction msgs using List.reverseRecOn with
  | nil => cases hx
  | append_singleton msgs z ih =>
    cases hz : z.2.written k with
    | some v' =>
      have hlast : lastWritten k (msgs ++ [z]) = some v' := by
        simp [lastWritten, hz]
      rcases List.mem_append.1 hx with hm | hm
      · have hsub : [x].Sublist msgs := List.singleton_sublist.2 hm
        exact ⟨z, v', hz, hlast, .inr (hsub.append (.refl [z]))⟩
      · exact ⟨z, v', hz, hlast, .inl (List.mem_singleton.1 hm).symm⟩
    | none =>
      have hm : x ∈ msgs := by
        rcases List.mem_append.1 hx with hm | hm
        · exact hm
        · rw [List.mem_singleton.1 hm, hz] at hv
          cases hv
      obtain ⟨y, v', hy, hl, ho⟩ := ih hm
      refine ⟨y, v', hy, by simpa [lastWritten, hz] using hl, ?_⟩
      rcases ho with ho | ho
      · exact .inl ho
      · exact .inr (ho.trans (List.sublist_append_left _ _))

/-! ## One call -/

section
variable {e : Endian} {cap : Nat} {s : State} {r : Request}

/-- A call that finds the queue empty puts its message there. -/
theorem call_run (hcap : 0 < cap) (hbox : s.box = .empty) :
    Run (Step e cap) s
      [.issue s.next r, .enqueue s.next (BpfActorHandle.message s.next r)]
      { s with
        box := ⟨[], [(s.next, BpfActorHandle.message s.next r)]⟩
        pending := (s.next, r) :: s.pending
        next := s.next + 1 } := by
  obtain ⟨phase, maps, box, pending, answers, next⟩ := s
  subst hbox
  exact .cons (.issue .post) (.single (.enqueue (.enqueue (.refl _) hcap)))

/-- The actor handles it, and the queue is empty again. -/
theorem deliver_run (hcap : 0 < cap) (hphase : s.phase = .receiving) (hbox : s.box = .empty)
    {maps : BpfMaps} {answer : Option (Nat × RouterStatistics)}
    (h : handleMessage s.maps (BpfActorHandle.message s.next r) = some (maps, answer)) :
    Run (Step e cap) s
      [.issue s.next r, .enqueue s.next (BpfActorHandle.message s.next r),
        .handle s.next (BpfActorHandle.message s.next r) answer]
      { s with
        box := .empty
        maps := maps
        pending := (s.next, r) :: s.pending
        answers := answer.toList ++ s.answers
        next := s.next + 1 } :=
  (call_run hcap hbox).trans (.single (.handle hphase (.take rfl) h))

end

end Router
