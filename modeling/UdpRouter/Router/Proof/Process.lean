import UdpRouter.Router.Process
import UdpRouter.Router.Proof.Invariant
import UdpRouter.Router.Proof.Startup

/-!
# The process refines the transition system

`Refines` relates the process in detail to a state of `Router.Step`: the queue there is the message
in the actor's hands and the channel, and a call whose handler was dropped stays among those that
wait. What the start-up keeps (`keeps_startup`) gives the attachment exactly once. Every run of the
process is seen as a run with room for one message more (`process_refines`).
-/

namespace Router.Process

open Bytes Ebpf Management Mailbox Program Startup Transition Wire

/-- What is known of the start-up: it has kept its account so far, and the program is attached
when an attempt took. -/
def Starts (opt : Opt) (p : Startup.Process Unit) (attached : Bool) : Prop :=
  ∃ tr, Keeps (.history (allowed opt)) (Outcome opt) p tr ∧
    (attached = true ↔ ∃ mode, took opt mode ∈ attempts tr)

/-- How far the actor is. -/
def Progress (opt : Opt) (attached : Bool) (phase : Phase) : Task → Prop
  | .starting p => Starts opt p attached ∧ phase = if attached then .attached else .loading
  | .receiving => attached = true ∧ phase = .receiving
  | .handling _ _ => attached = true ∧ phase = .receiving

/-- The process `c` and the state `s`; `gone` are the calls whose handlers were dropped, `lost` the
messages dropped with them. -/
structure Refines (opt : Opt) (gone : List (Nat × Request)) (lost : List (Nat × BpfActorMessage))
    (c : State) (s : Router.State) : Prop where
  maps : s.maps = c.maps
  answers : s.answers = c.answers
  next : s.next = c.next
  queue : s.box.queue = c.task.inHand ++ c.box.queue
  waiting : s.box.waiting.Perm (c.box.waiting ++ lost)
  pending : s.pending.Perm (c.pending ++ gone)
  lost_gone : ∀ x ∈ lost, x.1 ∈ gone.map Prod.fst
  names_lt : ∀ p ∈ s.pending, p.1 < s.next
  names_nodup : (s.pending.map Prod.fst).Nodup
  progress : Progress opt c.attached s.phase c.task

theorem Task.inHand_length (t : Task) : t.inHand.length ≤ 1 := by
  cases t <;> simp [Task.inHand]

/-! ## The start-up -/

section
variable {opt : Opt} {attached : Bool} {phase : Phase}

theorem starts_startup (opt : Opt) : Starts opt (startup opt) false :=
  ⟨[], keeps_startup opt, by simp [attempts]⟩

/-- **A call of the start-up.** Only an attempt that took attaches the program, and it is the first
such one. -/
theorem Starts.call {c : Effect} {k : Reply c → Startup.Process Unit}
    (h : Starts opt (.call c k) attached) (r : Reply c) :
    Starts opt (k r) (attached || attaches ⟨c, r⟩) ∧
      (attaches ⟨c, r⟩ = true → attached = false) := by
  obtain ⟨tr, ⟨ha, hk⟩, hiff⟩ := h
  have hmem : ∀ mode, took opt mode ∈ attempts (tr ++ [⟨c, r⟩]) ↔
      took opt mode ∈ attempts tr ∨ attempt ⟨c, r⟩ = some (took opt mode) := by
    intro mode
    rw [attempts_concat, List.mem_append, Option.mem_toList]
  refine ⟨⟨_, hk r, ?_⟩, fun ht => ?_⟩
  · simp only [Account.history, hmem, exists_or, Bool.or_eq_true, hiff]
    refine or_congr_right ⟨fun ht => ?_, fun ⟨mode, hm⟩ => ?_⟩
    · cases c with
      | attach iface mode =>
        obtain ⟨rfl, -⟩ := ha
        exact ⟨mode, by simp only [attempt, took, show isOk r = true from ht]⟩
      | _ => cases ht
    · cases c with
      | attach iface mode' =>
        simp only [attempt, took, Option.some.injEq, Prod.mk.injEq] at hm
        exact hm.2.2
      | _ => cases hm
  · cases c with
    | attach iface mode =>
      obtain ⟨-, -, failed, hf, -⟩ := ha
      refine Bool.eq_false_iff.2 fun hatt => ?_
      obtain ⟨mode', hm⟩ := hiff.1 hatt
      rw [hf] at hm
      simp [took, Startup.lost] at hm
    | _ => cases ht

theorem Starts.done (h : Starts opt (.done ()) attached) : attached = true := by
  obtain ⟨tr, ho, hiff⟩ := h
  exact hiff.2 ((Outcome.ok_iff ho).1 rfl).2

end

/-! ## The steps -/

section
variable {e : Endian} {cap : Nat} {opt : Opt} {gone : List (Nat × Request)}
  {lost : List (Nat × BpfActorMessage)} {c c' : State} {s : Router.State}

theorem Refines.phase_ne (h : Refines opt gone lost c s) (ha : c.attached = true) :
    s.phase ≠ .loading := by
  have hp := h.progress
  cases ht : c.task with
  | starting p =>
    rw [ht, ha] at hp
    rw [hp.2]
    simp
  | receiving =>
    rw [ht] at hp
    simp [hp.2]
  | handling call msg =>
    rw [ht] at hp
    simp [hp.2]

/-- The names of calls that are gone are not pending. -/
theorem Refines.gone_pending (h : Refines opt gone lost c s) {p q : Nat × Request} (hp : p ∈ gone)
    (hq : q ∈ c.pending) : p.1 ≠ q.1 := by
  have hn := (h.pending.map Prod.fst).nodup_iff.1 h.names_nodup
  rw [List.map_append, List.nodup_append] at hn
  exact (hn.2.2 _ (List.mem_map_of_mem hq) _ (List.mem_map_of_mem hp)).symm

/-- A message of a pending call that does not wait was not dropped either. -/
theorem Refines.not_waiting (h : Refines opt gone lost c s) {call : Nat} {r : Request}
    (hp : (call, r) ∈ c.pending) {msg : BpfActorMessage} (hw : (call, msg) ∉ c.box.waiting) :
    (call, msg) ∉ s.box.waiting := by
  intro hm
  rcases List.mem_append.1 (h.waiting.mem_iff.1 hm) with hm | hm
  · exact hw hm
  · obtain ⟨p, hg, hn⟩ := List.mem_map.1 (h.lost_gone _ hm)
    exact h.gone_pending hg hp hn

theorem Refines.issue (h : Refines opt gone lost c s) (r : Request) :
    ∃ t, Router.Step e (cap + 1) s (.issue c.next r) t ∧ Refines opt gone lost
      { c with
        box := ⟨(c.next, BpfActorHandle.message c.next r) :: c.box.waiting, c.box.queue⟩
        pending := (c.next, r) :: c.pending
        next := c.next + 1 } t := by
  have hst : Router.Step e (cap + 1) s (.issue s.next r) _ := .issue .post
  rw [h.next] at hst
  refine ⟨_, hst, h.maps, h.answers, rfl, h.queue, h.waiting.cons _, h.pending.cons _, h.lost_gone,
    fun p hp => ?_, ?_, h.progress⟩
  · rcases List.mem_cons.1 hp with rfl | hp
    · exact Nat.lt_succ_self _
    · exact Nat.lt_succ_of_lt (h.next ▸ h.names_lt p hp)
  · refine List.nodup_cons.2 ⟨fun hm => ?_, h.names_nodup⟩
    obtain ⟨p, hp, hn⟩ := List.mem_map.1 hm
    have := h.names_lt p hp
    rw [h.next] at this
    omega

theorem Refines.enqueue (h : Refines opt gone lost c s) {call : Nat} {msg : BpfActorMessage}
    {w : List (Nat × BpfActorMessage)} (hw : c.box.waiting.Perm ((call, msg) :: w))
    (hroom : c.box.queue.length < cap) :
    ∃ t, Router.Step e (cap + 1) s (.enqueue call msg) t ∧
      Refines opt gone lost { c with box := ⟨w, c.box.queue ++ [(call, msg)]⟩ } t := by
  have hroom' : s.box.queue.length < cap + 1 := by
    have := c.task.inHand_length
    rw [h.queue, List.length_append]
    omega
  have hw' : s.box.waiting.Perm ((call, msg) :: (w ++ lost)) := h.waiting.trans (hw.append_right _)
  refine ⟨_, .enqueue (.enqueue hw' hroom'), h.maps, h.answers, h.next, ?_, .refl _, h.pending,
    h.lost_gone, h.names_lt, h.names_nodup, h.progress⟩
  rw [h.queue, List.append_assoc]

theorem Refines.ret (h : Refines opt gone lost c s) {call : Nat} {r : Request} {res : Response}
    (hp : (call, r) ∈ c.pending) (hw : (call, BpfActorHandle.message call r) ∉ c.box.waiting)
    (hres : ManagementServer.response (c.answers.lookup call) r = some res) :
    ∃ t, Router.Step e (cap + 1) s (.ret call res) t ∧
      Refines opt gone lost { c with pending := c.pending.erase (call, r) } t := by
  have hp' : (call, r) ∈ s.pending := h.pending.mem_iff.2 (List.mem_append_left _ hp)
  refine ⟨_, .ret hp' (h.not_waiting hp hw) (h.answers ▸ hres), h.maps, h.answers, h.next, h.queue,
    h.waiting, ?_, h.lost_gone, fun p hm => h.names_lt p (List.mem_of_mem_erase hm), ?_,
    h.progress⟩
  · rw [← List.erase_append_left _ hp]
    exact h.pending.erase _
  · exact h.names_nodup.sublist (List.erase_sublist.map _)

theorem perm_split {α : Type} (call : Nat) (l : List (Nat × α)) :
    l.Perm (l.filter (fun x => x.1 ≠ call) ++ l.filter fun x => x.1 = call) := by
  simpa using (List.filter_append_perm (fun x : Nat × α => x.1 ≠ call) l).symm

/-- A dropped call joins those that are gone, its message, if it waits, those that are lost. -/
theorem Refines.cancel (h : Refines opt gone lost c s) {call : Nat}
    (hc : call ∈ c.pending.map Prod.fst) :
    Refines opt (c.pending.filter (fun p => p.1 = call) ++ gone)
      (c.box.waiting.filter (fun x => x.1 = call) ++ lost)
      { c with
        box := ⟨c.box.waiting.filter fun x => x.1 ≠ call, c.box.queue⟩
        pending := c.pending.filter fun p => p.1 ≠ call } s := by
  obtain ⟨p, hp, hn⟩ := List.mem_map.1 hc
  refine ⟨h.maps, h.answers, h.next, h.queue, ?_, ?_, fun x hx => ?_, h.names_lt, h.names_nodup,
    h.progress⟩
  · rw [← List.append_assoc]
    exact h.waiting.trans ((perm_split call _).append_right _)
  · rw [← List.append_assoc]
    exact h.pending.trans ((perm_split call _).append_right _)
  · rw [List.map_append, List.mem_append]
    rcases List.mem_append.1 hx with hx | hx
    · refine .inl (List.mem_map.2 ⟨p, List.mem_filter.2 ⟨hp, by simpa using hn⟩, ?_⟩)
      simpa [hn, eq_comm] using (List.mem_filter.1 hx).2
    · exact .inr (h.lost_gone x hx)

theorem Refines.recv (h : Refines opt gone lost c s) (ht : c.task = .receiving) {call : Nat}
    {msg : BpfActorMessage} {q : List (Nat × BpfActorMessage)}
    (hq : c.box.queue = (call, msg) :: q) : Refines opt gone lost
      { c with task := .handling call msg, box := ⟨c.box.waiting, q⟩ } s := by
  have hp := h.progress
  rw [ht] at hp
  refine ⟨h.maps, h.answers, h.next, ?_, h.waiting, h.pending, h.lost_gone, h.names_lt,
    h.names_nodup, hp⟩
  rw [h.queue, ht, hq]
  rfl

theorem Refines.handle (h : Refines opt gone lost c s) {call : Nat} {msg : BpfActorMessage}
    {maps : BpfMaps} {answer : Option (Nat × RouterStatistics)} (ht : c.task = .handling call msg)
    (hm : handleMessage c.maps msg = some (maps, answer)) :
    ∃ t, Router.Step e (cap + 1) s (.handle call msg answer) t ∧ Refines opt gone lost
      { c with task := .receiving, maps := maps, answers := answer.toList ++ c.answers } t := by
  have hp := h.progress
  rw [ht] at hp
  have hq : s.box.queue = (call, msg) :: c.box.queue := by
    rw [h.queue, ht]
    rfl
  refine ⟨_, .handle hp.2 (.take hq) (h.maps ▸ hm), rfl, ?_, h.next, rfl, h.waiting, h.pending,
    h.lost_gone, h.names_lt, h.names_nodup, hp.1, hp.2⟩
  rw [h.answers]

theorem Refines.begin (h : Refines opt gone lost c s) (ht : c.task = .starting (.done ())) :
    ∃ t, Router.Step e (cap + 1) s .start t ∧
      Refines opt gone lost { c with task := .receiving } t := by
  obtain ⟨hs, hphase⟩ : Starts opt (.done ()) c.attached ∧ _ := ht ▸ h.progress
  have ha := hs.done
  rw [ha] at hphase
  refine ⟨_, .start hphase, h.maps, h.answers, h.next, ?_, h.waiting, h.pending, h.lost_gone,
    h.names_lt, h.names_nodup, ha, rfl⟩
  rw [h.queue, ht]
  rfl

/-- A call of the start-up that attaches nothing. -/
theorem Refines.call (h : Refines opt gone lost c s) {x : Effect}
    {k : Reply x → Startup.Process Unit} (ht : c.task = .starting (.call x k)) {r : Reply x}
    (hr : attaches ⟨x, r⟩ = false) :
    Refines opt gone lost
      { c with task := .starting (k r), attached := c.attached || attaches ⟨x, r⟩ } s := by
  obtain ⟨hs, hphase⟩ : Starts opt (.call x k) c.attached ∧ _ := ht ▸ h.progress
  refine ⟨h.maps, h.answers, h.next, ?_, h.waiting, h.pending, h.lost_gone, h.names_lt,
    h.names_nodup, (hs.call r).1, ?_⟩
  · rw [h.queue, ht]
    rfl
  · rw [hphase, hr, Bool.or_false]

/-- The call of the start-up that attaches the program. -/
theorem Refines.attach (h : Refines opt gone lost c s) {x : Effect}
    {k : Reply x → Startup.Process Unit} (ht : c.task = .starting (.call x k)) {r : Reply x}
    (hr : attaches ⟨x, r⟩ = true) :
    ∃ t, Router.Step e (cap + 1) s .attach t ∧ Refines opt gone lost
      { c with task := .starting (k r), attached := c.attached || attaches ⟨x, r⟩ } t := by
  obtain ⟨hs, hphase⟩ : Starts opt (.call x k) c.attached ∧ _ := ht ▸ h.progress
  rw [(hs.call r).2 hr] at hphase
  refine ⟨_, .attach hphase, h.maps, h.answers, h.next, ?_, h.waiting, h.pending, h.lost_gone,
    h.names_lt, h.names_nodup, (hs.call r).1, ?_⟩
  · rw [h.queue, ht]
    rfl
  · rw [hr, Bool.or_true]
    rfl

theorem Refines.packet (h : Refines opt gone lost c s) {cpu : Nat} {f : Frame} {v : XdpAction}
    {x : XdpContext} (ha : c.attached = true) (hrun : udpRouter e ⟨cpu, f, c.maps⟩ = some (v, x)) :
    ∃ t, Router.Step e (cap + 1) s (.packet cpu c.maps f v x.data) t ∧
      Refines opt gone lost { c with maps := x.maps } t := by
  refine ⟨{ s with maps := x.maps }, ?_, rfl, h.answers, h.next, h.queue, h.waiting, h.pending,
    h.lost_gone, h.names_lt, h.names_nodup, h.progress⟩
  rw [← h.maps] at hrun ⊢
  exact .packet (h.phase_ne ha) hrun

end

/-- **Every step of the process** is one of the transition system or is not seen there. -/
theorem simulates (e : Endian) (cap : Nat) (opt : Opt) :
    Simulates (Step e cap) (Router.Step e (cap + 1)) Event.seen
      fun c s => ∃ gone lost, Refines opt gone lost c s where
  hidden := by
    rintro c a c' s ⟨gone, lost, h⟩ hst hv
    cases hst with
    | cancel _ hc => exact ⟨_, _, h.cancel hc⟩
    | call ht =>
      refine ⟨gone, lost, h.call ht ?_⟩
      by_contra hr
      simp [Event.seen, hr] at hv
    | recv ht hb =>
      cases hb with
      | take hq => exact ⟨gone, lost, h.recv ht hq⟩
    | _ => cases hv
  visible := by
    rintro c a c' s b ⟨gone, lost, h⟩ hst hv
    cases hst with
    | issue _ hb =>
      cases hv
      cases hb with
      | post =>
        obtain ⟨t, ht, hr⟩ := h.issue _
        exact ⟨t, ht, gone, lost, hr⟩
    | enqueue _ hb =>
      cases hv
      cases hb with
      | enqueue hw hroom =>
        obtain ⟨t, ht, hr⟩ := h.enqueue hw hroom
        exact ⟨t, ht, gone, lost, hr⟩
    | ret _ hp hw hres =>
      cases hv
      obtain ⟨t, ht, hr⟩ := h.ret hp hw hres
      exact ⟨t, ht, gone, lost, hr⟩
    | @call x k r ht =>
      have hr : attaches ⟨x, r⟩ = true := by
        by_contra hr
        simp [Event.seen, hr] at hv
      simp only [Event.seen, hr, if_true, Option.some.injEq] at hv
      subst hv
      obtain ⟨t, ht, hr⟩ := h.attach ht hr
      exact ⟨t, ht, gone, lost, hr⟩
    | begin ht =>
      cases hv
      obtain ⟨t, ht, hr⟩ := h.begin ht
      exact ⟨t, ht, gone, lost, hr⟩
    | handle ht hm =>
      cases hv
      obtain ⟨t, ht, hr⟩ := h.handle ht hm
      exact ⟨t, ht, gone, lost, hr⟩
    | packet _ ha hrun =>
      cases hv
      obtain ⟨t, ht, hr⟩ := h.packet ha hrun
      exact ⟨t, ht, gone, lost, hr⟩
    | cancel _ _ => cases hv
    | recv _ _ => cases hv

theorem refines_init (opt : Opt) (cpus : Nat) :
    Refines opt [] [] (.init opt cpus) (.init cpus) where
  maps := rfl
  answers := rfl
  next := rfl
  queue := rfl
  waiting := .refl _
  pending := .refl _
  lost_gone := nofun
  names_lt := nofun
  names_nodup := List.nodup_nil
  progress := ⟨starts_startup opt, rfl⟩

/-! ## A start-up in one piece -/

section
variable {e : Endian} {cap : Nat} {σ : Type} {env : (c : Effect) → σ → Reply c × σ}

/-- The start-up against an environment in which it ends well. -/
theorem startup_run {p : Startup.Process Unit} {x : σ} (hp : (exec env p x).1 = .ok ()) {s : State}
    (hs : s.task = .starting p) :
    Run (Step e cap) s ((trace env p x).map .call)
      { s with
        task := .starting (.done ())
        attached := s.attached || (trace env p x).any attaches } := by
  induction p generalizing x s with
  | done a =>
    obtain ⟨task, attached, maps, box, pending, answers, next⟩ := s
    obtain rfl := hs
    simp only [trace, List.map_nil, List.any_nil, Bool.or_false]
    exact .refl
  | panic message => cases hp
  | call c k ih =>
    have hrest := ih (env c x).1 hp (s :=
      { s with
        task := .starting (k (env c x).1)
        attached := s.attached || attaches ⟨c, (env c x).1⟩ }) rfl
    have hstep : Step e cap s (.call ⟨c, (env c x).1⟩) _ := .call hs
    simpa [trace, Bool.or_assoc] using hrest.cons hstep

end

/-- An environment in which everything succeeds. -/
def granted : (c : Effect) → Unit → Reply c × Unit
  | .println _, _ => ((), ())
  | .warn _, _ => ((), ())
  | .programMut _, _ => (some (), ())
  | .takeMap _, _ => (some (), ())
  | .loadFile _, _ => (.ok (), ())
  | .initLogger, _ => (.ok (), ())
  | .tryIntoXdp, _ => (.ok (), ())
  | .load, _ => (.ok (), ())
  | .attach _ _, _ => (.ok (), ())
  | .tryFromMap _, _ => (.ok (), ())

def plainOpt : Opt := { bpfProg := "udp-router" }

/-- The process at the top of its loop. -/
def started : State := ⟨.receiving, true, .fresh 1, .empty, [], [], 0⟩

def startEvents : List Event := (trace granted (startup plainOpt) ()).map .call ++ [.begin]

theorem started_run : Run (Step .little channelCapacity) (.init plainOpt 1) startEvents started :=
  (startup_run (x := ()) (p := startup plainOpt) rfl rfl).tail (.begin rfl)

/-! ## Refinement -/

theorem refines_of_run {e : Endian} {cap cpus : Nat} {opt : Opt} {evs : List Event} {c : State}
    (h : Run (Step e cap) (.init opt cpus) evs c) :
    ∃ s gone lost, Run (Router.Step e (cap + 1)) (.init cpus) (seen evs) s ∧
      Refines opt gone lost c s := by
  obtain ⟨s, hr, gone, lost, hs⟩ := (simulates e cap opt).run h ⟨[], [], refines_init opt cpus⟩
  exact ⟨s, gone, lost, hr, hs⟩

/-- **Every run of the process** is seen as a run of the transition system with room for one message
more, the one in the actor's hands, to a state with the same maps, answers and messages. -/
theorem process_refines (e : Endian) (cap cpus : Nat) (opt : Opt) (evs : List Event) (c : State)
    (h : Run (Step e cap) (.init opt cpus) evs c) :
    ∃ s gone lost, Run (Router.Step e (cap + 1)) (.init cpus) (seen evs) s ∧
      Refines opt gone lost c s :=
  refines_of_run h

theorem process_refines_example :
    ∃ s, Run (Router.Step .little 9) (.init 1) (seen startEvents) s ∧ s.phase = .receiving := by
  obtain ⟨s, gone, lost, hr, hs⟩ := process_refines .little channelCapacity 1 plainOpt _ _
    started_run
  exact ⟨s, hr, hs.progress.2⟩

end Router.Process
