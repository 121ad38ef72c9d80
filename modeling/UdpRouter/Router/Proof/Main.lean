import UdpRouter.Router.Main
import UdpRouter.Router.Proof.Process

/-!
# Where the router serves

`main` opens its socket by `steps`, one after the other (`keeps_main`), at the address that the
options give, if they give one: a dotted quad or an IPv6 address in brackets, and a port of 16 bits
(`IsAddress`). Next to `main` the process runs as `Router.Process` does, with no call before the
socket listens (`serves_at`).
-/

namespace Router.Main

open Bytes Program Startup Text Transition

abbrev Call : Type := (c : Effect) × Reply c

def Event.call : Event → Option Call
  | .main x => some x
  | .router _ => none

def Event.inner : Event → Option Process.Event
  | .main _ => none
  | .router a => some a

/-- The calls of `main`. -/
def mainCalls (evs : List Event) : List Call := evs.filterMap Event.call

/-- The events of the rest of the process. -/
def routerEvents (evs : List Event) : List Process.Event := evs.filterMap Event.inner

/-- The address that the options give. -/
def IsAddress (opt : Opt) (addr : SocketAddr) : Prop :=
  opt.port.toNat < 65536 ∧
    ∃ f, IsHost opt.bindAddress.toList f ∧ addr = f (opt.port.setWidth 16)

/-- Before the socket. -/
def preliminary : Effect → Bool
  | .setrlimit => true
  | .debug _ => true
  | .spawn => true
  | _ => false

/-- The way to a socket that listens at `addr`. -/
def steps (addr : SocketAddr) : List Effect :=
  [.socket (domainOf addr), .setReuseAddress, .setReusePort, .setNonblocking, .bind addr,
    .listen 1024, .fromStd]

def failed : Call → Bool
  | ⟨.setrlimit, _⟩ => false
  | ⟨.debug _, _⟩ => false
  | ⟨.spawn, _⟩ => false
  | ⟨.socket _, r⟩ => !isOk r
  | ⟨.setReuseAddress, r⟩ => !isOk r
  | ⟨.setReusePort, r⟩ => !isOk r
  | ⟨.setNonblocking, r⟩ => !isOk r
  | ⟨.bind _, r⟩ => !isOk r
  | ⟨.listen _, r⟩ => !isOk r
  | ⟨.fromStd, r⟩ => !isOk r
  | ⟨.serve, r⟩ => !isOk r

/-- Preliminary calls, and after them the calls `cs`, with success. -/
structure Reached (cs : List Effect) (tr : List Call) : Prop where
  split : ∃ before opened, tr = before ++ opened ∧ (∀ x ∈ before, preliminary x.1 = true) ∧
    (∀ x ∈ opened, failed x = false) ∧ opened.map Sigma.fst = cs

/-- What must have happened before a call. -/
def allowed (opt : Opt) (tr : List Call) (c : Effect) : Prop :=
  preliminary c = true ∨ ∃ addr cs, IsAddress opt addr ∧ Reached cs tr ∧
    cs ++ [c] <+: steps addr ++ [.serve]

/-- How `main` ends. -/
inductive Outcome (opt : Opt) : Except String Unit → List Call → Prop
  | unparsed {message : String} {tr : List Call} :
      (∀ addr, ¬ IsAddress opt addr) → Reached [] tr → Outcome opt (.error message) tr
  | broken {message : String} {tr : List Call} {x : Call} :
      x ∈ tr → failed x = true → Outcome opt (.error message) tr
  | ended {addr : SocketAddr} {tr : List Call} :
      IsAddress opt addr → Reached (steps addr ++ [.serve]) tr → Outcome opt (.ok ()) tr

/-! ## The task -/

section
variable {opt : Opt} {addr : SocketAddr} {cs : List Effect} {tr : List Call} {x : Call}

theorem parse_ok_iff : parse (opt.bindAddress ++ ":" ++ toString opt.port.toNat) = .ok addr ↔
    IsAddress opt addr := by
  have htext : (opt.bindAddress ++ ":" ++ toString opt.port.toNat).toList =
      opt.bindAddress.toList ++ ':' :: Nat.toDigits 10 opt.port.toNat := by
    simp
  rw [IsAddress, ← BitVec.ofNat_toNat, ← parseSocketAddr_port, parse, htext]
  split <;> simp_all

example : parse "127.0.0.1:8888" = .ok (.v4 0x7f000001 8888) := by decide +kernel
example : parse "[::1]:8888" = .ok (.v6 1 8888 0) := by decide +kernel
example : parse "localhost:8888" = .error "AddrParseError(Socket)" := by decide +kernel

theorem reached_nil (h : ∀ x ∈ tr, preliminary x.1 = true) : Reached [] tr :=
  ⟨tr, [], (List.append_nil tr).symm, h, nofun, rfl⟩

theorem Reached.next (h : Reached cs tr) (hx : failed x = false) :
    Reached (cs ++ [x.1]) (tr ++ [x]) := by
  obtain ⟨before, opened, rfl, hb, ho, rfl⟩ := h.split
  refine ⟨before, opened ++ [x], List.append_assoc .., hb, fun y hy => ?_, by simp⟩
  rcases List.mem_append.1 hy with hy | hy
  · exact ho y hy
  · rwa [List.mem_singleton.1 hy]

theorem unwrap_cases (r : Except String Unit) :
    ((!isOk r) = false ∧ unwrap r = .done ()) ∨
      ((!isOk r) = true ∧ ∃ message, unwrap r = .panic message) := by
  cases r with
  | ok _ => exact .inl ⟨rfl, rfl⟩
  | error e => exact .inr ⟨rfl, _, rfl⟩

/-- One more call for the socket. -/
theorem keeps_next {c : Effect} {check : Reply c → Task Unit} {f : Unit → Task Unit}
    (haddr : IsAddress opt addr) (h : Reached cs tr)
    (hc : cs ++ [c] <+: steps addr ++ [.serve])
    (hcheck : ∀ r, (failed ⟨c, r⟩ = false ∧ check r = .done ()) ∨
      (failed ⟨c, r⟩ = true ∧ ∃ message, check r = .panic message))
    (hok : ∀ tr, Reached (cs ++ [c]) tr → Keeps (.history (allowed opt)) (Outcome opt) (f ()) tr) :
    Keeps (.history (allowed opt)) (Outcome opt) (ask c >>= fun r => check r >>= f) tr := by
  refine ⟨.inr ⟨addr, cs, haddr, h, hc⟩, fun r => ?_⟩
  change Keeps _ _ (check r >>= f) (tr ++ [⟨c, r⟩])
  rcases hcheck r with ⟨hr, hd⟩ | ⟨hr, message, hp⟩
  · rw [hd]
    exact hok _ (h.next hr)
  · rw [hp]
    exact .broken (List.mem_append_right _ List.mem_cons_self) hr

theorem keeps_start (h : ∀ x ∈ tr, preliminary x.1 = true) :
    Keeps (.history (allowed opt)) (Outcome opt) (start opt) tr := by
  unfold start
  cases hp : parse (opt.bindAddress ++ ":" ++ toString opt.port.toNat) with
  | error e =>
    refine .unparsed (fun addr ha => ?_) (reached_nil h)
    rw [parse_ok_iff.2 ha] at hp
    cases hp
  | ok addr =>
    have ha := parse_ok_iff.1 hp
    refine keeps_next ha (reached_nil h) ⟨_, rfl⟩ unwrap_cases fun tr h => ?_
    refine keeps_next ha h ⟨_, rfl⟩ unwrap_cases fun tr h => ?_
    refine keeps_next ha h ⟨_, rfl⟩ unwrap_cases fun tr h => ?_
    refine keeps_next ha h ⟨_, rfl⟩ unwrap_cases fun tr h => ?_
    refine keeps_next ha h ⟨_, rfl⟩ unwrap_cases fun tr h => ?_
    refine keeps_next ha h ⟨_, rfl⟩ unwrap_cases fun tr h => ?_
    refine keeps_next ha h ⟨_, rfl⟩ unwrap_cases fun tr h => ?_
    refine ⟨.inr ⟨addr, _, ha, h, List.prefix_rfl⟩, fun r => ?_⟩
    cases r with
    | ok _ =>
      have hx : failed ⟨.serve, .ok ()⟩ = false := rfl
      exact .ended ha (h.next hx)
    | error e => exact .broken (List.mem_append_right _ List.mem_cons_self) rfl

theorem keeps_main (opt : Opt) : Keeps (.history (allowed opt)) (Outcome opt) (main opt) [] := by
  refine ⟨.inl rfl, fun (ret : Int) => ?_⟩
  have hrest : ∀ tr, (∀ x ∈ tr, preliminary x.1 = true) →
      Keeps (.history (allowed opt)) (Outcome opt) (do spawn; start opt) tr := by
    refine fun tr h => ⟨.inl rfl, fun r => keeps_start fun x hx => ?_⟩
    rcases List.mem_append.1 hx with hx | hx
    · exact h x hx
    · rw [List.mem_singleton.1 hx]
      rfl
  change Keeps _ _ (if ret ≠ 0 then _ else _) [(⟨.setrlimit, ret⟩ : Call)]
  split_ifs
  · refine ⟨.inl rfl, fun _ => hrest _ fun x hx => ?_⟩
    rcases List.mem_cons.1 hx with rfl | hx
    · rfl
    · rw [List.mem_singleton.1 hx]
      rfl
  · refine hrest _ fun x hx => ?_
    rw [List.mem_singleton.1 hx]
    rfl

end

/-! ## The runs -/

section
variable {e : Endian} {cap cpus : Nat} {opt : Opt} {addr : SocketAddr} {evs : List Event}
  {s : State}

/-- The rest of the process takes its steps as it does without `main`. -/
theorem simulates (e : Endian) (cap : Nat) :
    Simulates (Step e cap) (Process.Step e cap) Event.inner (fun s u => s.router = u) where
  hidden := by
    rintro s a t _ rfl hst ha
    cases hst with
    | main _ _ => rfl
    | router _ _ _ _ => cases ha
  visible := by
    rintro s a t _ b rfl hst ha
    cases hst with
    | main _ _ => cases ha
    | router _ _ _ hst =>
      cases ha
      exact ⟨_, hst, rfl⟩

theorem after_run (h : Run (Step e cap) (.init opt cpus) evs s) :
    After (main opt) (mainCalls evs) s.task := by
  induction h with
  | refl => exact .refl
  | tail _ hst ih =>
    rw [mainCalls, List.filterMap_append]
    cases hst with
    | main _ ht =>
      rw [ht] at ih
      exact ih.tail _
    | router _ _ _ _ =>
      rw [show List.filterMap Event.call [.router _] = [] from rfl, List.append_nil]
      exact ih

theorem prefix_serve {cs : List Effect} (h : cs ++ [.serve] <+: steps addr ++ [.serve]) :
    cs = steps addr := by
  rcases List.prefix_concat_iff.1 h with h | h
  · exact (List.append_inj' h rfl).1
  · have hm : Effect.serve ∈ steps addr := h.subset (by simp)
    simp [steps] at hm

/-- **Where `main` serves**, it listens. -/
theorem serving_reached (h : Run (Step e cap) (.init opt cpus) evs s) (hs : s.serving) :
    ∃ addr, IsAddress opt addr ∧ Reached (steps addr) (mainCalls evs) := by
  obtain ⟨k, hk⟩ := hs
  have hkeeps := (keeps_main opt).after (after_run h)
  rw [hk] at hkeeps
  rcases hkeeps.1 with hp | ⟨addr, cs, ha, hr, hc⟩
  · cases hp
  · exact ⟨addr, ha, prefix_serve hc ▸ hr⟩

/-- Without an address there is no call for a socket. -/
theorem preliminary_run (h : Run (Step e cap) (.init opt cpus) evs s)
    (hno : ∀ addr, ¬ IsAddress opt addr) : ∀ x ∈ mainCalls evs, preliminary x.1 = true := by
  intro x hx
  obtain ⟨pre, post, hsplit⟩ := List.append_of_mem hx
  obtain ⟨k, hk⟩ := (hsplit ▸ after_run h).cut
  rcases ((keeps_main opt).after hk).1 with hp | ⟨addr, -, ha, -⟩
  · exact hp
  · exact absurd ha (hno addr)

/-- `main` alone. -/
theorem run_of_after {p : Task Unit} {tr : List Call} (h : After s.task tr p)
    (ha : s.router.alive) : Run (Step e cap) s (tr.map .main)
      { s with task := p, spawned := s.spawned || tr.any fun x => spawns x.1 } := by
  induction h with
  | refl =>
    rw [List.any_nil, Bool.or_false]
    exact .refl
  | tail r _ ih =>
    rw [List.map_append, List.any_append, ← Bool.or_assoc]
    simpa using ih.tail (.main ha rfl)

/-- The rest alone, while `main` serves. -/
theorem run_of_router {revs : List Process.Event} {router : Process.State} (hs : s.serving)
    (hspawned : s.spawned = true) (h : Run (Process.Step e cap) s.router revs router) :
    Run (Step e cap) s (revs.map .router) { s with router := router } := by
  induction h with
  | refl => exact .refl
  | tail _ hst ih =>
    rw [List.map_append]
    obtain ⟨k, hk⟩ := hs
    exact ih.tail (.router ⟨_, k, hk⟩ hspawned (fun _ _ _ => ⟨k, hk⟩) hst)

/-- With an address `main` can come to serve. -/
theorem after_serve (h : IsAddress opt addr) :
    ∃ tr k, After (main opt) tr (.call .serve k) ∧ tr.any (fun x => spawns x.1) = true := by
  let ret : Reply .setrlimit := (0 : Int)
  let ok : Except String Unit := .ok ()
  obtain ⟨k, hk, hk0⟩ : ∃ k, main opt = .call .setrlimit k ∧
      k ret = .call .spawn fun _ => start opt := ⟨_, rfl, rfl⟩
  have hmain : After (main opt) [] (.call .setrlimit k) := hk ▸ .refl
  have hspawn := hmain.tail ret
  rw [hk0] at hspawn
  have hstart := hspawn.tail ()
  unfold start at hstart
  rw [parse_ok_iff.2 h] at hstart
  exact ⟨_, _, ((((((hstart.tail ok).tail ok).tail ok).tail ok).tail ok).tail ok).tail ok, rfl⟩

end

/-- **Where the router serves.** In every run of the whole process: without `main` it is a run of
the process; a call comes in only after the listening socket has been opened at the address of the
options; when they give none, no call for a socket is made; and `main` ends only as in `Outcome`.
When they give one, any run of the process can take place while `main` serves. -/
theorem serves_at (e : Endian) (cap cpus : Nat) (opt : Opt) :
    (∀ evs s, Run (Step e cap) (.init opt cpus) evs s →
      Run (Process.Step e cap) (.init opt.toOpt cpus) (routerEvents evs) s.router ∧
      (∀ pre call r post, evs = pre ++ .router (.router (.issue call r)) :: post →
        ∃ addr, IsAddress opt addr ∧ Reached (steps addr) (mainCalls pre)) ∧
      ((∀ addr, ¬ IsAddress opt addr) → ∀ x ∈ mainCalls evs, preliminary x.1 = true) ∧
      (∀ message, s.task = .panic message → Outcome opt (.error message) (mainCalls evs)) ∧
      (s.task = .done () → Outcome opt (.ok ()) (mainCalls evs))) ∧
    ((∃ addr, IsAddress opt addr) → ∀ revs router,
      Run (Process.Step e cap) (.init opt.toOpt cpus) revs router →
      ∃ evs s, Run (Step e cap) (.init opt cpus) evs s ∧ s.serving ∧
        routerEvents evs = revs ∧ s.router = router) := by
  refine ⟨fun evs s h => ⟨?_, ?_, preliminary_run h, fun message ht => ?_, fun ht => ?_⟩, ?_⟩
  · obtain ⟨router, hr, rfl⟩ := (simulates e cap).run h rfl
    exact hr
  · rintro pre call r post rfl
    obtain ⟨t, _, hr, hst, -⟩ := h.cut
    cases hst with
    | router _ _ hserve _ => exact serving_reached hr (hserve call r rfl)
  · have hkeeps := (keeps_main opt).after (after_run h)
    rwa [ht] at hkeeps
  · have hkeeps := (keeps_main opt).after (after_run h)
    rwa [ht] at hkeeps
  · rintro ⟨addr, ha⟩ revs router h
    obtain ⟨tr, k, hafter, hany⟩ := after_serve ha
    have hmain : Run (Step e cap) (.init opt cpus) (tr.map .main) ⟨_, _, _⟩ :=
      run_of_after hafter nofun
    refine ⟨_, _, hmain.trans (run_of_router ⟨k, rfl⟩ hany h), ⟨k, rfl⟩, ?_, rfl⟩
    simp [routerEvents, Event.inner, List.filterMap_map, Function.comp_def]

end Router.Main
