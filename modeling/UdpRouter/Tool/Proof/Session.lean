import UdpRouter.Router.Proof.Invariant
import UdpRouter.Tool.Proof.Run
import UdpRouter.Tool.Session

/-!
# The tool's runs with the router process

A session is a run of the router process (`router_run`), and its tool follows the run of the tool
alone in which every call succeeds (`Follows`, `follows_of_run`): what it has called so far and
what is left of it make up that run. A tool that has finished has therefore issued exactly `sent`
(`issued_of_finished`), and when the queue is drained again the actor has handled exactly the
messages of these calls (`handled_of_drained`).
-/

namespace Tool

open Bytes Management Mailbox Program Router Transition

/-- The router process in a session. -/
theorem router_run {e : Endian} {cap : Nat} {x y : Client × State} {evs : List Event}
    (h : Run (SessionStep e cap) x evs y) : Run (Router.Step e cap) x.2 evs y.2 := by
  refine Run.map Prod.snd (fun x a y hs => ?_) h
  cases hs with
  | issue h => exact h
  | ret h => exact h
  | other _ h => exact h

/-! ## The tool alone -/

@[simp] theorem exec_settle {α : Type} (p : Process α) (log : List Request) :
    exec record (settle p) log = exec record p log := by
  fun_induction settle p generalizing log with
  | case1 url k ih => exact ih log
  | case2 line k ih => exact ih log
  | case3 p h h' => rfl

/-- The log only grows. -/
theorem prefix_exec {α : Type} (p : Process α) (log : List Request) :
    log <+: (exec record p log).2 := by
  induction p generalizing log with
  | done a => exact List.prefix_rfl
  | panic message => exact List.prefix_rfl
  | call c k ih =>
    refine List.IsPrefix.trans ?_ (ih _ _)
    cases c with
    | rpc req => exact List.prefix_append log [req]
    | _ => exact List.prefix_rfl

/-! ## The tool in a session -/

/-- What is left of the tool when its calls succeed. -/
def Client.rest : Client → Process (Except String Unit)
  | .running p => p
  | .awaiting _ k => k (.ok .empty)

/-- The requests of a session's calls. -/
def requests (evs : List Event) : List Request := (issued evs).map Prod.snd

theorem mem_requests {evs : List Event} {call : Nat} {req : Request}
    (h : .issue call req ∈ evs) : req ∈ requests evs :=
  List.mem_map_of_mem (f := Prod.snd) (mem_issued.2 h)

theorem requests_concat (evs : List Event) (a : Event) :
    requests (evs ++ [a]) = requests evs ++ (a.issued.map Prod.snd).toList := by
  rw [requests, requests, issued_concat, List.map_append]
  cases a.issued <;> rfl

/-- The tool has called what the run of `p` alone calls first, and goes on as that run does. -/
structure Follows (p : Process (Except String Unit)) (evs : List Event) (c : Client) : Prop where
  run : exec record p [] = exec record c.rest (requests evs)
  call : ∀ call k, c = .awaiting call k → ∃ req, .issue call req ∈ evs

section
variable {e : Endian} {cap cpus : Nat} {p : Process (Except String Unit)} {evs₀ evs : List Event}
  {t : State} {x y : Client × State} {a : Event}

/-- What has been called so far is called in the end. -/
theorem Follows.prefix_log {c : Client} (h : Follows p evs c) :
    requests evs <+: (exec record p []).2 := by
  rw [h.run]
  exact prefix_exec _ _

/-- **One step**, when the tool only issues Set calls. -/
theorem Follows.step (hI : Invariant cpus cap (evs₀ ++ evs) x.2)
    (hset : ∀ req ∈ (exec record p []).2, kindOf req ≠ none) (h : Follows p evs x.1)
    (hs : SessionStep e cap x a y) : Follows p (evs ++ [a]) y.1 := by
  cases hs with
  | @issue req k s s' call hst =>
    refine ⟨?_, fun call' k' he => ?_⟩
    · rw [requests_concat]
      exact h.run
    · cases he
      exact ⟨req, by simp⟩
  | @ret call k s s' res hst =>
    refine ⟨?_, nofun⟩
    have hres : res = .empty := by
      obtain ⟨req, hreq⟩ := h.call call k rfl
      have hk := hset req (h.prefix_log.subset (mem_requests hreq))
      cases hst with
      | @ret _ r _ hp _ hr =>
        obtain rfl := hI.issue_unique (mem_issued.1 (hI.pending _ hp))
          (List.mem_append_right evs₀ hreq)
        cases r with
        | getStats => exact absurd rfl hk
        | _ => exact (Option.some.inj hr).symm
    rw [requests_concat, hres]
    simpa [Client.rest, Event.issued] using h.run
  | @other c a s s' ha _ =>
    have hi : a.issued = none := by
      cases a with
      | issue _ _ => cases ha
      | _ => rfl
    refine ⟨?_, fun call k he => ?_⟩
    · rw [requests_concat, hi]
      simpa using h.run
    · obtain ⟨req, hreq⟩ := h.call call k he
      exact ⟨req, List.mem_append_left _ hreq⟩

/-- **A session** that starts where the router process has got to. -/
theorem follows_of_run (h₀ : Run (Router.Step e cap) (.init cpus) evs₀ t)
    (hset : ∀ req ∈ (exec record p []).2, kindOf req ≠ none)
    (h : Run (SessionStep e cap) (.running (settle p), t) evs y) : Follows p evs y.1 := by
  refine h.invariant (I := fun evs y => Follows p evs y.1) ⟨?_, nofun⟩
    fun evs x a y hr hF hst => hF.step (invariant (h₀.trans (router_run hr))) hset hst
  exact (exec_settle p []).symm

/-- A tool that has finished has issued what it issues alone. -/
theorem issued_of_finished (h₀ : Run (Router.Step e cap) (.init cpus) evs₀ t)
    (hset : ∀ req ∈ (exec record p []).2, kindOf req ≠ none) {r : Except String Unit} {s : State}
    (h : Run (SessionStep e cap) (.running (settle p), t) evs (.running (.done r), s)) :
    exec record p [] = (.ok r, requests evs) :=
  (follows_of_run h₀ hset h).run

/-! ## A session to the end -/

/-- One Set call, from an empty queue to an empty queue. -/
theorem session_call {s : State} {req : Request}
    {k : Except String Response → Process (Except String Unit)} (hcap : 0 < cap)
    (hphase : s.phase = .receiving) (hbox : s.box = .empty) (hk : kindOf req ≠ none) :
    ∃ evs s', Run (SessionStep e cap) (.running (.call (.rpc req) k), s) evs
      (.running (settle (k (.ok .empty))), s') ∧ s'.phase = .receiving ∧ s'.box = .empty := by
  obtain ⟨phase, maps, box, pending, answers, next⟩ := s
  subst hphase hbox
  have hres : ManagementServer.response (answers.lookup next) req = some .empty := by
    cases req with
    | getStats => exact absurd rfl hk
    | _ => rfl
  have hnot : (next, BpfActorHandle.message next req) ∉
      ([] : List (Nat × BpfActorMessage)) := List.not_mem_nil
  exact ⟨_, _, .cons (.issue (.issue .post))
    (.cons (.other rfl (.enqueue (.enqueue (.refl _) hcap)))
      (.cons (.ret (.ret List.mem_cons_self hnot hres))
        (.single (.other rfl (.handle rfl (.take rfl) (handleMessage_eq _ _)))))), rfl, rfl⟩

/-- **Call by call**: where a Set call leads back to such a state, whatever the tool alone runs to
its end can be run to its end. -/
theorem finishes_of_calls {σ ε : Type} {step : Client × σ → ε → Client × σ → Prop} {P : σ → Prop}
    (hcall : ∀ {s req} (k : Except String Response → Process (Except String Unit)), P s →
      kindOf req ≠ none → ∃ evs s', Run step (.running (.call (.rpc req) k), s) evs
        (.running (settle (k (.ok .empty))), s') ∧ P s')
    {r : Except String Unit} {log log' : List Request} (hp : exec record p log = (.ok r, log'))
    (hset : ∀ req ∈ log', kindOf req ≠ none) {s : σ} (hs : P s) :
    ∃ evs s', Run step (.running (settle p), s) evs (.running (.done r), s') ∧ P s' := by
  induction p generalizing log s with
  | done a =>
    obtain rfl : a = r := Except.ok.inj (Prod.mk.inj hp).1
    exact ⟨[], s, .refl, hs⟩
  | panic message => cases hp
  | call c k ih =>
    cases c with
    | connect url => exact ih _ hp hs
    | println line => exact ih _ hp hs
    | rpc req =>
      have hmem : req ∈ log' := by
        have hpre := prefix_exec (k (.ok .empty)) (log ++ [req])
        rw [show exec record (k (.ok .empty)) (log ++ [req]) = _ from hp] at hpre
        exact hpre.subset (by simp)
      obtain ⟨evs, s', hr, hs'⟩ := hcall k hs (hset req hmem)
      obtain ⟨evs', s'', hr', hs''⟩ := ih _ hp hs'
      exact ⟨_, s'', hr.trans hr', hs''⟩

/-- **A session can be run to its end** whenever the tool alone runs to its end. -/
theorem session_finishes (hcap : 0 < cap) {r : Except String Unit} {log log' : List Request}
    (hp : exec record p log = (.ok r, log')) (hset : ∀ req ∈ log', kindOf req ≠ none) {s : State}
    (hphase : s.phase = .receiving) (hbox : s.box = .empty) :
    ∃ evs s', Run (SessionStep e cap) (.running (settle p), s) evs (.running (.done r), s') ∧
      s'.box = .empty := by
  obtain ⟨evs, s', hr, -, hb⟩ := finishes_of_calls
    (P := fun s : State => s.phase = .receiving ∧ s.box = .empty)
    (fun k hs hk => session_call hcap hs.1 hs.2 hk) hp hset ⟨hphase, hbox⟩
  exact ⟨evs, s', hr, hb⟩

/-! ## The queue drained -/

/-- **From one empty queue to the next** the actor handles the messages of the calls between. -/
theorem handled_of_drained {s : State} (h₀ : Run (Router.Step e cap) (.init cpus) evs₀ t)
    (h : Run (Router.Step e cap) t evs s) (ht : t.box = .empty) (hs : s.box = .empty) :
    handled (evs₀ ++ evs) = handled evs₀ ++ handled evs ∧
      (handled evs).Perm ((issued evs).map messageOf) := by
  have happ : handled (evs₀ ++ evs) = handled evs₀ ++ handled evs := by
    simp only [handled, Mailbox.taken, ops, List.filterMap_append]
  -- with nothing queued or waiting, what was posted is what was handled
  have hall : ∀ {l : List Event} {u : State}, Run (Router.Step e cap) (.init cpus) l u →
      u.box = .empty → (handled l).Perm ((issued l).map messageOf) := by
    intro l u hl hu
    have hI := invariant hl
    have hk := hI.history.kept
    rw [hI.history.fifo, hu, hI.posted] at hk
    simpa [Box.empty, handled] using hk.symm
  have h1 := hall h₀ ht
  have h2 := hall (h₀.trans h) hs
  have hissued : issued (evs₀ ++ evs) = issued evs₀ ++ issued evs := List.filterMap_append
  rw [happ, hissued, List.map_append] at h2
  exact ⟨happ, (List.perm_append_left_iff _).1 (h2.trans (h1.symm.append_right _))⟩

end

end Tool
