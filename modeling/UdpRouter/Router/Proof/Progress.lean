import UdpRouter.Router.Proof.Calls

/-!
# Every call comes to its end

The process left to itself, with no new call, packet or client that goes away: each of its steps
brings it nearer to its end (`work`), and as long as a call waits it has a step, because the message
of a call that cannot return yet is on its way (`OnItsWay`). So every call returns
(`calls_complete`).
-/

namespace Router.Process

open Bytes Ebpf Management Mailbox Startup Transition Wire

/-- The steps of the channel, the actor and the handlers. -/
def internal : Event → Bool
  | .router (.enqueue _ _) => true
  | .router (.ret _ _) => true
  | .router (.handle _ _ _) => true
  | .recv _ _ => true
  | _ => false

/-- The actor has entered its loop. -/
def Serving (c : State) : Prop :=
  c.task = .receiving ∨ ∃ call msg, c.task = .handling call msg

/-- The messages that are not handled yet. -/
def State.undone (c : State) : List (Nat × BpfActorMessage) :=
  c.box.waiting ++ (c.task.inHand ++ c.box.queue)

/-- What the call returns has arrived. -/
def Answered (answers : List (Nat × RouterStatistics)) (p : Nat × Request) : Prop :=
  ManagementServer.response (answers.lookup p.1) p.2 ≠ none

/-- The message of a pending call is not handled yet, or the call has its answer. -/
def OnItsWay (c : State) : Prop :=
  ∀ p ∈ c.pending, messageOf p ∈ c.undone ∨ Answered c.answers p

/-- The steps that are left. -/
def work (c : State) : Nat :=
  3 * c.box.waiting.length + 2 * c.box.queue.length + c.task.inHand.length + c.pending.length

/-! ## Answers -/

section
variable {answers : List (Nat × RouterStatistics)} {p : Nat × Request}

theorem answered_iff : Answered answers p ↔ p.2 = .getStats → answers.lookup p.1 ≠ none := by
  unfold Answered
  cases p.2 <;> simp [ManagementServer.response]

theorem lookup_append_ne_none {l l' : List (Nat × RouterStatistics)} {call : Nat}
    (h : l'.lookup call ≠ none) : (l ++ l').lookup call ≠ none := by
  rw [List.lookup_append]
  cases l.lookup call with
  | some _ => simp
  | none => simpa using h

theorem Answered.append (h : Answered answers p) (l : List (Nat × RouterStatistics)) :
    Answered (l ++ answers) p := by
  rw [answered_iff] at h ⊢
  exact fun hp => lookup_append_ne_none (h hp)

/-- Handling the message of a call answers it. -/
theorem answered_of_handle {maps : BpfMaps} (p : Nat × Request) :
    Answered ((answer maps (messageOf p).2).toList ++ answers) p := by
  rw [answered_iff]
  intro hp
  obtain ⟨call, r⟩ := p
  cases hp
  simp [messageOf, BpfActorHandle.message, answer]

end

/-! ## One step -/

section
variable {e : Endian} {cap cpus : Nat} {opt : Opt} {evs : List Event} {c c' : State} {a : Event}

/-- A step that takes no message away and leaves the answers. -/
theorem OnItsWay.mono (h : OnItsWay c) (hp : ∀ p ∈ c'.pending, p ∈ c.pending)
    (hu : ∀ x ∈ c.undone, x ∈ c'.undone) (ha : c'.answers = c.answers) : OnItsWay c' := by
  intro p hm
  rw [ha]
  exact (h p (hp p hm)).imp_left (hu _)

theorem OnItsWay.step (h : OnItsWay c) (hst : Step e cap c a c') : OnItsWay c' := by
  cases hst with
  | @issue r b _ hb =>
    cases hb with
    | post =>
      intro p hp
      rcases List.mem_cons.1 hp with rfl | hp
      · exact .inl List.mem_cons_self
      · exact (h p hp).imp_left (List.mem_cons_of_mem _)
  | enqueue _ hb =>
    cases hb with
    | enqueue hw _ =>
      refine h.mono (fun p hp => hp) (fun x hx => ?_) rfl
      simp only [State.undone, List.mem_append, hw.mem_iff, List.mem_cons, List.not_mem_nil,
        or_false] at hx ⊢
      tauto
  | ret _ _ _ _ => exact h.mono (fun p hp => List.mem_of_mem_erase hp) (fun x hx => hx) rfl
  | @cancel call _ _ =>
    intro p hp
    obtain ⟨hp, hne⟩ := List.mem_filter.1 hp
    refine (h p hp).imp_left fun hx => ?_
    rcases List.mem_append.1 hx with hx | hx
    · exact List.mem_append_left _ (List.mem_filter.2 ⟨hx, hne⟩)
    · exact List.mem_append_right _ hx
  | call ht =>
    refine h.mono (fun p hp => hp) (fun x hx => ?_) rfl
    simpa only [State.undone, ht, Task.inHand] using hx
  | begin ht =>
    refine h.mono (fun p hp => hp) (fun x hx => ?_) rfl
    simpa only [State.undone, ht, Task.inHand] using hx
  | recv ht hb =>
    cases hb with
    | take hq =>
      refine h.mono (fun p hp => hp) (fun x hx => ?_) rfl
      simpa only [State.undone, ht, hq, Task.inHand, List.nil_append,
        List.singleton_append] using hx
  | @handle call msg maps answer ht hm =>
    rw [handleMessage_eq, Option.some.injEq, Prod.mk.injEq] at hm
    obtain ⟨-, rfl⟩ := hm
    intro p hp
    rcases h p hp with hx | hx
    · simp only [State.undone, ht, Task.inHand, List.mem_append, List.mem_singleton] at hx
      rcases hx with hx | hx | hx
      · exact .inl (List.mem_append_left _ hx)
      · obtain rfl : (messageOf p).2 = msg := congrArg Prod.snd hx
        exact .inr (answered_of_handle p)
      · exact .inl (List.mem_append_right _ hx)
    · exact .inr (hx.append _)
  | packet _ _ _ => exact h.mono (fun p hp => hp) (fun x hx => hx) rfl

theorem onItsWay_of_run (h : Run (Step e cap) (.init opt cpus) evs c) : OnItsWay c :=
  h.invariant (I := fun _ c => OnItsWay c) nofun fun _ _ _ _ _ hI hst => hI.step hst

/-- A step of the process left to itself. -/
def Internal (e : Endian) (cap : Nat) (c : State) (a : Event) (c' : State) : Prop :=
  internal a = true ∧ Step e cap c a c'

theorem Internal.serving (hs : Serving c) (h : Internal e cap c a c') : Serving c' := by
  obtain ⟨hi, hst⟩ := h
  cases hst with
  | enqueue _ _ => exact hs
  | ret _ _ _ _ => exact hs
  | recv _ _ => exact .inr ⟨_, _, rfl⟩
  | handle _ _ => exact .inl rfl
  | _ => cases hi

theorem Internal.work_lt (h : Internal e cap c a c') : work c' < work c := by
  obtain ⟨hi, hst⟩ := h
  cases hst with
  | enqueue _ hb =>
    cases hb with
    | enqueue hw _ =>
      simp only [work, hw.length_eq, List.length_cons, List.length_append, List.length_nil]
      omega
  | ret _ hp _ _ =>
    have := List.length_pos_of_mem hp
    simp only [work, List.length_erase_of_mem hp]
    omega
  | recv ht hb =>
    cases hb with
    | take hq =>
      simp only [work, ht, hq, Task.inHand, List.length_cons, List.length_nil]
      omega
  | handle ht _ =>
    simp only [work, ht, Task.inHand, List.length_cons, List.length_nil]
    omega
  | _ => cases hi

/-- Nothing is left to do. -/
def Done (c : State) : Prop := c.task = .receiving ∧ c.box = .empty ∧ c.pending = []

/-- **No deadlock**: as long as something is left to do, there is a step. -/
theorem done_of_stuck (hcap : 0 < cap) (hs : Serving c) (hw : OnItsWay c)
    (hstuck : ∀ a c', ¬ Internal e cap c a c') : Done c := by
  obtain ⟨task, attached, maps, ⟨waiting, queue⟩, pending, answers, next⟩ := c
  have ht : task = .receiving := by
    rcases hs with ht | ⟨call, msg, ht⟩
    · exact ht
    · obtain rfl : task = .handling call msg := ht
      exact absurd ⟨rfl, .handle rfl (handleMessage_eq _ _)⟩ (hstuck _ _)
  subst ht
  have hq : queue = [] := by
    cases queue with
    | nil => rfl
    | cons x q => exact absurd ⟨rfl, .recv rfl (.take rfl)⟩ (hstuck (.recv x.1 x.2) _)
  subst hq
  have hwaiting : waiting = [] := by
    cases waiting with
    | nil => rfl
    | cons x w =>
      exact absurd ⟨rfl, .enqueue nofun (.enqueue (.refl _) hcap)⟩
        (hstuck (.router (.enqueue x.1 x.2)) _)
  subst hwaiting
  refine ⟨rfl, rfl, ?_⟩
  cases pending with
  | nil => rfl
  | cons p l =>
    rcases hw p List.mem_cons_self with hx | hx
    · cases hx
    · obtain ⟨res, hres⟩ := Option.ne_none_iff_exists'.1 hx
      exact absurd ⟨rfl, .ret nofun List.mem_cons_self nofun hres⟩
        (hstuck (.router (.ret p.1 res)) _)

theorem terminates (e : Endian) {cap : Nat} (hcap : 0 < cap) :
    Terminates (Internal e cap) (fun c => Serving c ∧ OnItsWay c) work Done where
  keeps h hst := ⟨hst.serving h.1, h.2.step hst.2⟩
  decreases _ hst := hst.work_lt
  progress h hstuck := done_of_stuck hcap h.1 h.2 hstuck

/-- A call that is no longer pending has returned. -/
theorem returned_of_internal (h : Run (Internal e cap) c evs c') {p : Nat × Request}
    (hp : p ∈ c.pending) : p ∈ c'.pending ∨ ∃ res, .router (.ret p.1 res) ∈ evs := by
  induction h with
  | refl => exact .inl hp
  | @tail evs t u a _ hst ih =>
    rcases ih with hm | ⟨res, hm⟩
    · obtain ⟨hi, hst⟩ := hst
      cases hst with
      | @ret call r res _ _ _ _ =>
        by_cases heq : p = (call, r)
        · exact .inr ⟨res, by simp [heq]⟩
        · exact .inl ((List.mem_erase_of_ne heq).2 hm)
      | enqueue _ _ => exact .inl hm
      | recv _ _ => exact .inl hm
      | handle _ _ => exact .inl hm
      | _ => cases hi
    · exact .inr ⟨res, List.mem_append_left _ hm⟩

end

/-- **Every call comes to its end.** From any state that a run reaches in the actor's loop, the
process left to itself makes at most `work c` steps; where it cannot go on, every call that was
pending has returned, and the channel is empty; and it can get there. -/
theorem calls_complete (e : Endian) (cap cpus : Nat) (opt : Opt) (evs : List Event) (c : State)
    (hcap : 0 < cap) (h : Run (Step e cap) (.init opt cpus) evs c) (hs : Serving c) :
    (∀ evs' t, Run (Internal e cap) c evs' t → evs'.length + work t ≤ work c) ∧
    (∀ evs' t, Run (Internal e cap) c evs' t → (∀ a u, ¬ Internal e cap t a u) →
      t.box = .empty ∧ ∀ p ∈ c.pending, ∃ res, .router (.ret p.1 res) ∈ evs') ∧
    ∃ evs' t, Run (Internal e cap) c evs' t ∧ ∀ a u, ¬ Internal e cap t a u := by
  have hT := terminates e hcap
  have hI : Serving c ∧ OnItsWay c := ⟨hs, onItsWay_of_run h⟩
  refine ⟨fun evs' t hr => hT.length_le hI hr, fun evs' t hr hmax => ?_, ?_⟩
  · obtain ⟨-, hbox, hpending⟩ := hT.done hI hr hmax
    refine ⟨hbox, fun p hp => (returned_of_internal hr hp).resolve_left ?_⟩
    rw [hpending]
    exact List.not_mem_nil
  · exact hT.exists_stuck hI

/-- A GetStats call is waiting for its answer. -/
theorem asked_run : Run (Step .little channelCapacity) (.init plainOpt 1)
    (startEvents ++ [.router (.issue 0 .getStats)])
    { started with
      box := ⟨[messageOf (0, .getStats)], []⟩, pending := [(0, .getStats)], next := 1 } :=
  started_run.tail (.issue nofun .post)

theorem calls_complete_example :
    ∃ evs : List Event, (∃ res, .router (.ret 0 res) ∈ evs) ∧ evs.length ≤ 4 := by
  obtain ⟨hlen, hdone, evs, t, hr, hmax⟩ := calls_complete .little channelCapacity 1 plainOpt _ _
    (by decide) asked_run (.inl rfl)
  obtain ⟨-, hret⟩ := hdone evs t hr hmax
  obtain ⟨res, hm⟩ := hret (0, .getStats) List.mem_cons_self
  exact ⟨evs, ⟨res, hm⟩, Nat.le_trans (Nat.le_add_right _ _) (hlen evs t hr)⟩

end Router.Process
