import UdpRouter.Ebpf.Proof.Lookups
import UdpRouter.Router.Packets
import UdpRouter.Router.Proof.Configuration

/-!
# Packets between the updates

`Inv`: without the packets a run is one of the process, and a frame in progress has read the maps
at times between its arrival and now. `lookups_whole`: a finished frame was judged with the maps of
one such time and addressed with the gateway of the same or a later one; what the process does
with packets that take no time is one of these runs. `gateway_window_iff`: when, however the packets
fall between the updates, no frame leaves before a gateway is configured.
-/

namespace Router.Packets

open Bytes Ebpf Management Program Startup Transition Wire
open Process (plainOpt seen started started_run startEvents)

/-! ## Times -/

/-- The maps after the events `q`. -/
def mapsAt (cpus : Nat) (q : List Process.Event) : BpfMaps := configured cpus (handled (seen q))

def valueAt (cpus : Nat) (q : List Process.Event) (c : Lookups.Lookup) : BitVec 64 :=
  Lookups.value (mapsAt cpus q) c

/-- The local network of `maps` with the gateway of `maps'`. -/
def mixed (maps maps' : BpfMaps) : BpfMaps :=
  { maps with gatewayMacAddress := maps'.gatewayMacAddress }

/-- The verdict does not ask for the gateway. -/
theorem verdict_mixed (maps maps' : BpfMaps) (f : Frame) :
    verdict (mixed maps maps') f = verdict maps f := rfl

theorem managed_append (evs evs' : List Event) :
    managed (evs ++ evs') = managed evs ++ managed evs' := List.filterMap_append

theorem managed_concat {a : Event} (ha : a.managed = none) (evs : List Event) :
    managed (evs ++ [a]) = managed evs := by
  rw [managed_append, managed, managed, List.filterMap_cons_none ha]
  exact List.append_nil _

theorem managed_concat_router (a : Process.Event) (evs : List Event) :
    managed (evs ++ [.router a]) = managed evs ++ [a] := managed_append evs _

@[simp] theorem managed_map_router (qs : List Process.Event) :
    managed (qs.map .router) = qs := by
  induction qs with
  | nil => rfl
  | cons a qs ih => exact congrArg (a :: ·) ih

/-! ## The CPUs -/

section
variable {s : State} {cpu cpu' : Nat} {job job' : Option Job}

@[simp] theorem put_same : (s.put cpu job).jobs cpu = job := Function.update_self ..

theorem put_other (h : cpu' ≠ cpu) : (s.put cpu job).jobs cpu' = s.jobs cpu' :=
  Function.update_of_ne h ..

theorem put_put : (s.put cpu job).put cpu job' = s.put cpu job' := by
  rw [State.put, State.put, State.put, Function.update_idem]

theorem put_free (h : s.jobs cpu = none) : s.put cpu none = s := by
  rw [State.put, ← h, Function.update_eq_self]

end

/-! ## Frames in progress -/

/-- Not an arrival on the CPU, and not the end of a frame there. -/
def Meanwhile (cpu : Nat) (a : Event) : Prop :=
  (∀ f, a ≠ .arrive cpu f) ∧ ∀ f v g, a ≠ .finish cpu f v g

/-- The frame arrived last on its CPU, and each of its lookups so far read the maps of a time since
then. -/
def Working (e : Endian) (cpus : Nat) (evs : List Event) (cpu : Nat) (job : Job) : Prop :=
  ∃ p₀ p₁ tr, evs = p₀ ++ .arrive cpu job.frame :: p₁ ∧ (∀ a ∈ p₁, Meanwhile cpu a) ∧
    Sampled (valueAt cpus) (managed p₀) tr (managed evs) ∧
    After (Lookups.udpRouter e job.frame) tr job.rest

structure Inv (e : Endian) (cap cpus : Nat) (opt : Opt) (evs : List Event) (s : State) : Prop where
  router : Run (Process.Step e cap) (.init opt cpus) (managed evs) s.router
  jobs : ∀ cpu job, s.jobs cpu = some job → Working e cpus evs cpu job

section
variable {e : Endian} {cap cpus : Nat} {opt : Opt} {evs : List Event} {s s' : State} {a : Event}
  {cpu : Nat} {f g : Frame} {v : XdpAction}

theorem Working.later {job : Job} (h : Working e cpus evs cpu job) (ha : Meanwhile cpu a) :
    Working e cpus (evs ++ [a]) cpu job := by
  obtain ⟨p₀, p₁, tr, rfl, hp, hs, hafter⟩ := h
  refine ⟨p₀, p₁ ++ [a], tr, by simp, fun b hb => ?_, hs.mono ?_, hafter⟩
  · rcases List.mem_append.1 hb with hb | hb
    · exact hp b hb
    · rwa [List.mem_singleton.1 hb]
  · rw [managed_append _ [a]]
    exact List.prefix_append _ _

/-- A frame that arrives. -/
theorem working_arrive (e : Endian) (cpus : Nat) (evs : List Event) (cpu : Nat) (f : Frame) :
    Working e cpus (evs ++ [.arrive cpu f]) cpu ⟨f, Lookups.udpRouter e f⟩ := by
  refine ⟨evs, [], [], rfl, nofun, ?_, .refl⟩
  rw [managed_concat rfl]
  exact List.prefix_rfl

/-- **A lookup** reads the maps as they are now. -/
theorem Working.lookup {c : Lookups.Lookup}
    {k : BitVec 64 → Lookups.Reading (Option (XdpAction × Frame))}
    (h : Working e cpus evs cpu ⟨f, .call c k⟩) :
    Working e cpus (evs ++ [.lookup cpu c (valueAt cpus (managed evs) c)]) cpu
      ⟨f, k (valueAt cpus (managed evs) c)⟩ := by
  obtain ⟨p₀, p₁, tr, he, hp, hs, hafter⟩ :=
    h.later (a := .lookup cpu c (valueAt cpus (managed evs) c)) ⟨nofun, nofun⟩
  rw [managed_concat rfl] at hs
  exact ⟨p₀, p₁, _, he, hp, by rw [managed_concat rfl]; exact hs.concat c, hafter.tail _⟩

/-- What one CPU does leaves the process and the other CPUs as they are. -/
theorem Inv.put (h : Inv e cap cpus opt evs s) (ha : a.managed = none) {job : Option Job}
    (ho : ∀ cpu', cpu' ≠ cpu → Meanwhile cpu' a)
    (hj : ∀ job', job = some job' → Working e cpus (evs ++ [a]) cpu job') :
    Inv e cap cpus opt (evs ++ [a]) (s.put cpu job) := by
  refine ⟨?_, fun cpu' job' hjob => ?_⟩
  · rw [managed_concat ha]
    exact h.router
  · by_cases hc : cpu' = cpu
    · subst hc
      rw [put_same] at hjob
      exact hj job' hjob
    · rw [put_other hc] at hjob
      exact (h.jobs cpu' job' hjob).later (ho cpu' hc)

/-- **One step.** -/
theorem Inv.step (h : Inv e cap cpus opt evs s) (hst : Step e cap s a s') :
    Inv e cap cpus opt (evs ++ [a]) s' := by
  cases hst with
  | router _ hst =>
    refine ⟨?_, fun cpu job hj => (h.jobs cpu job hj).later ⟨nofun, nofun⟩⟩
    rw [managed_concat_router]
    exact h.router.tail hst
  | @arrive cpu f _ _ _ =>
    refine h.put rfl (fun cpu' hc => ⟨fun f' he => ?_, nofun⟩) fun job' hj => ?_
    · cases he
      exact hc rfl
    · cases hj
      exact working_arrive e cpus evs cpu f
  | lookup hj =>
    refine h.put rfl (fun _ _ => ⟨nofun, nofun⟩) fun job' hj' => ?_
    cases hj'
    have hw := (h.jobs _ _ hj).lookup
    rwa [valueAt, mapsAt, ← Process.maps_of_run h.router] at hw
  | finish hj =>
    refine h.put rfl (fun cpu' hc => ⟨nofun, fun f' v' g' he => ?_⟩) nofun
    cases he
    exact hc rfl

/-- **Every run.** -/
theorem inv (h : Run (Step e cap) (.init opt cpus) evs s) : Inv e cap cpus opt evs s :=
  h.invariant ⟨.refl, nofun⟩ fun _ _ _ _ _ hI hst => hI.step hst

/-! ## The end of a frame -/

/-- **A frame that has been judged**: the times of its two lookups. -/
theorem Working.done {o : Option (XdpAction × Frame)} (h : Working e cpus evs cpu ⟨f, .done o⟩) :
    ∃ p₀ p₁ q₁ q₂, evs = p₀ ++ .arrive cpu f :: p₁ ∧ (∀ a ∈ p₁, Meanwhile cpu a) ∧
      managed p₀ <+: q₁ ∧ q₁ <+: q₂ ∧ q₂ <+: managed evs ∧
      o = some (verdict (mapsAt cpus q₁) f,
        output (mixed (mapsAt cpus q₁) (mapsAt cpus q₂)) f) := by
  obtain ⟨p₀, p₁, tr, he, hp, hs, hafter⟩ := h
  refine ⟨p₀, p₁, ?_⟩
  rcases Lookups.lookups_of_after hafter with rfl | ⟨x, rfl⟩ | ⟨x, y, rfl⟩
  · exact ⟨_, _, he, hp, List.prefix_rfl, List.prefix_rfl, hs,
      Lookups.result_of_after hafter nofun⟩
  · obtain ⟨q₁, h1, hx, h2⟩ := hs
    refine ⟨q₁, q₁, he, hp, h1, List.prefix_rfl, h2, Lookups.result_of_after hafter fun z hz => ?_⟩
    rw [List.mem_singleton.1 hz]
    exact hx
  · obtain ⟨q₁, h1, hx, q₂, h2, hy, h3⟩ := hs
    have hm : Lookups.Holds (mixed (mapsAt cpus q₁) (mapsAt cpus q₂))
        [⟨.localNetAndMask, x⟩, ⟨.gatewayMacAddress, y⟩] := by
      intro z hz
      rcases List.mem_cons.1 hz with rfl | hz
      · exact hx
      · rw [List.mem_singleton.1 hz]
        exact hy
    have ho := Lookups.result_of_after hafter hm
    exact ⟨q₁, q₂, he, hp, h1, h2, h3, ho⟩

/-- **A frame that is finished** in a run. -/
theorem finished_of_run {pre post : List Event}
    (h : Run (Step e cap) (.init opt cpus) (pre ++ .finish cpu f v g :: post) s) :
    ∃ p₀ p₁ q₁ q₂, pre = p₀ ++ .arrive cpu f :: p₁ ∧ (∀ a ∈ p₁, Meanwhile cpu a) ∧
      managed p₀ <+: q₁ ∧ q₁ <+: q₂ ∧ q₂ <+: managed pre ∧
      v = verdict (mapsAt cpus q₁) f ∧
      g = output (mixed (mapsAt cpus q₁) (mapsAt cpus q₂)) f := by
  obtain ⟨t, t', hr, hst, -⟩ := h.cut
  cases hst with
  | finish hj =>
    obtain ⟨p₀, p₁, q₁, q₂, he, hp, h1, h2, h3, ho⟩ := ((inv hr).jobs _ _ hj).done
    obtain ⟨hv, hg⟩ := Prod.mk.inj (Option.some.inj ho)
    exact ⟨p₀, p₁, q₁, q₂, he, hp, h1, h2, h3, hv, hg⟩

/-! ## A CPU by itself -/

/-- The lookups of the program on a CPU. -/
def lookupsOn (cpu : Nat) (tr : Lookups.Trace) : List Event := tr.map fun x => .lookup cpu x.1 x.2

theorem managed_lookupsOn (cpu : Nat) (tr : Lookups.Trace) : managed (lookupsOn cpu tr) = [] := by
  induction tr with
  | nil => rfl
  | cons x tr ih => exact ih

/-- The program goes on while nothing else moves. -/
theorem alone_run {p : Lookups.Reading (Option (XdpAction × Frame))}
    (hj : s.jobs cpu = some ⟨f, p⟩)
    (hp : (exec (Lookups.answer s.router.maps) p ()).1 = .ok (some (v, g))) :
    Run (Step e cap) s
      (lookupsOn cpu (trace (Lookups.answer s.router.maps) p ()) ++ [.finish cpu f v g])
      (s.put cpu none) := by
  induction p generalizing s with
  | done o =>
    obtain rfl := Except.ok.inj hp
    exact .single (.finish hj)
  | panic message => cases hp
  | call c k ih =>
    have hrest := ih (Lookups.value s.router.maps c) put_same hp
    rw [put_put] at hrest
    exact .cons (.lookup hj) hrest

/-- **A frame in progress can be finished** by its CPU alone, in at most two lookups. -/
theorem Inv.finishes (h : Inv e cap cpus opt evs s) {job : Job} (hj : s.jobs cpu = some job) :
    ∃ tr v g, tr.length ≤ 2 ∧
      Run (Step e cap) s (lookupsOn cpu tr ++ [.finish cpu job.frame v g]) (s.put cpu none) := by
  obtain ⟨f, p⟩ := job
  obtain ⟨p₀, p₁, tr, -, -, -, hafter⟩ := h.jobs _ _ hj
  obtain ⟨rest, hcs, hrest⟩ := (Lookups.along_udpRouter e f).after hafter
  have hlen := (hrest.trace (Lookups.answer s.router.maps) ()).length_le
  have hcs := congrArg List.length hcs
  simp only [List.length_map, List.length_append, List.length_cons, List.length_nil] at hlen hcs
  have hend := hafter.trace (Lookups.answer s.router.maps) ()
  cases hx : (exec (Lookups.answer s.router.maps) p ()).1 with
  | ok o =>
    rw [hx] at hend
    obtain ⟨c, k, hc⟩ | ⟨v, g, ho⟩ := Lookups.after_cases hend
    · cases hc
    · cases ho
      exact ⟨_, v, g, by omega, alone_run hj hx⟩
  | error message =>
    rw [hx] at hend
    obtain ⟨c, k, hc⟩ | ⟨v, g, ho⟩ := Lookups.after_cases hend
    · cases hc
    · cases ho

/-! ## Packets that take no time -/

/-- A frame from its arrival to its end, with nothing in between. -/
def packetEvents (e : Endian) (maps : BpfMaps) (cpu : Nat) (f : Frame) : List Event :=
  .arrive cpu f ::
    (lookupsOn cpu (trace (Lookups.answer maps) (Lookups.udpRouter e f) ()) ++
      [.finish cpu f (verdict maps f) (output maps f)])

def atOnce (e : Endian) : Process.Event → List Event
  | .router (.packet cpu maps f _ _) => packetEvents e maps cpu f
  | a => [.router a]

theorem packet_run (ha : s.router.alive) (hatt : s.router.attached = true)
    (hfree : s.jobs cpu = none) (f : Frame) :
    Run (Step e cap) s (packetEvents e s.router.maps cpu f) s := by
  have hp := congrArg Prod.fst (Lookups.exec_udpRouter e s.router.maps f)
  have hrest : Run (Step e cap) (s.put cpu (some ⟨f, Lookups.udpRouter e f⟩)) _ _ :=
    alone_run put_same hp
  rw [put_put, put_free hfree] at hrest
  exact .cons (.arrive ha hatt hfree) hrest

theorem atOnce_of_not_packet {a : Process.Event} (ha : isPacket a = false) :
    atOnce e a = [.router a] := by
  cases a with
  | router b =>
    cases b with
    | packet _ _ _ _ _ => cases ha
    | _ => rfl
  | _ => rfl

/-- **A run of the process** is one in which every frame takes no time. -/
theorem atOnce_run {qs : List Process.Event} {c : Process.State}
    (h : Run (Process.Step e cap) (.init opt cpus) qs c) :
    Run (Step e cap) (.init opt cpus) (qs.flatMap (atOnce e)) ⟨c, fun _ => none⟩ := by
  induction h with
  | refl => exact .refl
  | @tail qs c c' a _ hst ih =>
    rw [List.flatMap_append, List.flatMap_singleton]
    refine ih.trans ?_
    cases ha : isPacket a with
    | false =>
      rw [atOnce_of_not_packet ha]
      exact .single (.router ha hst)
    | true =>
      cases hst with
      | packet halive hatt hrun =>
        rw [udpRouter_run, Option.some.injEq, Prod.mk.injEq] at hrun
        obtain ⟨-, rfl⟩ := hrun
        exact packet_run (s := ⟨c, fun _ => none⟩) halive hatt rfl _
      | _ => cases ha

end

/-- **Packets lookup by lookup.** In every run, whatever moves between the lookups: (a) without the
packets it is a run of the process; (b) a frame that is finished arrived last on its CPU, and there
are two times since, the first not after the second, such that its verdict is that of the maps of
the first and its output that of these maps with the gateway of the second; (c) a frame in progress
can be finished by its CPU alone in at most two lookups. And (d) every run of the process, where a
packet is one step, is such a run. -/
theorem lookups_whole (e : Endian) (cap cpus : Nat) (opt : Opt) :
    (∀ evs s, Run (Step e cap) (.init opt cpus) evs s →
      Run (Process.Step e cap) (.init opt cpus) (managed evs) s.router ∧
      (∀ pre cpu f v g post, evs = pre ++ .finish cpu f v g :: post →
        ∃ p₀ p₁ q₁ q₂, pre = p₀ ++ .arrive cpu f :: p₁ ∧ (∀ a ∈ p₁, Meanwhile cpu a) ∧
          managed p₀ <+: q₁ ∧ q₁ <+: q₂ ∧ q₂ <+: managed pre ∧
          v = verdict (mapsAt cpus q₁) f ∧
          g = output (mixed (mapsAt cpus q₁) (mapsAt cpus q₂)) f) ∧
      (∀ cpu job, s.jobs cpu = some job → ∃ tr v g, tr.length ≤ 2 ∧
        Run (Step e cap) s (lookupsOn cpu tr ++ [.finish cpu job.frame v g]) (s.put cpu none))) ∧
    (∀ qs c, Run (Process.Step e cap) (.init opt cpus) qs c →
      Run (Step e cap) (.init opt cpus) (qs.flatMap (atOnce e)) ⟨c, fun _ => none⟩) := by
  refine ⟨fun evs s h => ⟨(inv h).router, fun pre cpu f v g post he => ?_, fun cpu job hj =>
    (inv h).finishes hj⟩, fun qs c h => atOnce_run h⟩
  subst he
  exact finished_of_run h

/-! ## A frame between two configurations -/

theorem Step.lookup_of {e : Endian} {cap cpu : Nat} {s : State} {f : Frame} {c : Lookups.Lookup}
    {k : BitVec 64 → Lookups.Reading (Option (XdpAction × Frame))} {v : BitVec 64}
    {p : Lookups.Reading (Option (XdpAction × Frame))} (hj : s.jobs cpu = some ⟨f, .call c k⟩)
    (hv : Lookups.value s.router.maps c = v) (hk : k v = p) :
    Step e cap s (.lookup cpu c v) (s.put cpu (some ⟨f, p⟩)) := by
  subst hv hk
  exact .lookup hj

/-- What is managed while the CPUs rest. -/
theorem managed_run {e : Endian} {cap : Nat} {qs : List Process.Event} {c c' : Process.State}
    {jobs : Nat → Option Job} (h : Run (Process.Step e cap) c qs c')
    (hq : ∀ a ∈ qs, isPacket a = false) :
    Run (Step e cap) ⟨c, jobs⟩ (qs.map .router) ⟨c', jobs⟩ := by
  induction h with
  | refl => exact .refl
  | @tail qs c c' a _ hst ih =>
    rw [List.map_append]
    exact (ih fun b hb => hq b (List.mem_append_left _ hb)).tail
      (.router (hq a (List.mem_append_right _ List.mem_cons_self)) hst)

/-- A Set call and its handling. -/
def setCall (call : Nat) (r : Request) : List Process.Event :=
  [.router (.issue call r), .router (.enqueue call (BpfActorHandle.message call r)),
    .recv call (BpfActorHandle.message call r),
    .router (.handle call (BpfActorHandle.message call r) none)]

theorem setCall_run {e : Endian} {cap : Nat} (hcap : 0 < cap) {c : Process.State}
    (ht : c.task = .receiving) (hbox : c.box = .empty) {r : Request}
    (hr : answer c.maps (BpfActorHandle.message c.next r) = none) :
    Run (Process.Step e cap) c (setCall c.next r)
      { c with
        maps := applied c.maps (BpfActorHandle.message c.next r)
        pending := (c.next, r) :: c.pending
        next := c.next + 1 } := by
  obtain ⟨task, attached, maps, box, pending, answers, next⟩ := c
  obtain rfl := ht
  obtain rfl := hbox
  have hm := handleMessage_eq maps (BpfActorHandle.message next r)
  rw [hr] at hm
  exact .cons (.issue nofun .post) (.cons (.enqueue nofun (.enqueue (.refl _) hcap))
    (.cons (.recv rfl (.take rfl)) (.single (.handle rfl hm))))

/-- The network of all sources. -/
def everywhere : Request := .setLocalNetAndMask 0 0

def gatewaySet : Request := .setGatewayMacAddress 0x020000000001

theorem clientFrame_lookups : ∃ k k',
    Lookups.udpRouter .little clientFrame = .call .localNetAndMask k ∧
    k 0x0a000200ffffff00 = .call .gatewayMacAddress k' ∧
    k' 0x020000000001 = .done (some (.tx, output readmeMaps clientFrame)) := by
  obtain ⟨k, k', g, h1, h2, h3⟩ : ∃ k k' g,
      Lookups.udpRouter .little clientFrame = .call .localNetAndMask k ∧
      k 0x0a000200ffffff00 = .call .gatewayMacAddress k' ∧
      k' 0x020000000001 = .done (some (.tx, g)) := ⟨_, _, _, rfl, rfl, rfl⟩
  have h0 : After (Lookups.udpRouter .little clientFrame) [] (.call .localNetAndMask k) := by
    rw [← h1]
    exact .refl
  have h1' := h0.tail 0x0a000200ffffff00
  rw [h2] at h1'
  have h2' := h1'.tail 0x020000000001
  rw [h3] at h2'
  have hm : Lookups.Holds readmeMaps
      [⟨.localNetAndMask, 0x0a000200ffffff00⟩, ⟨.gatewayMacAddress, 0x020000000001⟩] := by
    intro x hx
    rcases List.mem_pair.1 hx with rfl | rfl <;> rfl
  have hv : verdict readmeMaps clientFrame = .tx := verdict_probe _ (by decide)
  have ho := Lookups.result_of_after h2' hm
  rw [hv] at ho
  exact ⟨k, k', h1, h2, by rw [h3, ho]⟩

def tornEvents : List Event :=
  ((startEvents ++ setCall 0 localSet).map .router ++
      [.arrive 0 clientFrame, .lookup 0 .localNetAndMask 0x0a000200ffffff00]) ++
    ((setCall 1 everywhere ++ setCall 2 gatewaySet).map .router ++
      [.lookup 0 .gatewayMacAddress 0x020000000001,
        .finish 0 clientFrame .tx (output readmeMaps clientFrame)])

/-- The process before and after the change. -/
def localState : Process.State :=
  { started with maps := localMaps, pending := [(0, localSet)], next := 1 }

def gatewayState : Process.State :=
  { started with
    maps := setEntry (setEntry localMaps 0 .localNet) 0x020000000001 .gatewayMac
    pending := [(2, gatewaySet), (1, everywhere), (0, localSet)]
    next := 3 }

/-- The local network changes between the two lookups of a frame, and with it the gateway: the frame
is judged by the old network and sent to the new gateway, as at no single time. -/
theorem torn_counterexample :
    (∃ s, Run (Step .little channelCapacity) (.init plainOpt 1) tornEvents s) ∧
    ∀ q, q <+: managed tornEvents →
      output (mapsAt 1 q) clientFrame ≠ output readmeMaps clientFrame := by
  obtain ⟨k, k', h1, h2, h3⟩ := clientFrame_lookups
  refine ⟨?_, ?_⟩
  · have hset : Run (Process.Step .little channelCapacity) started (setCall 0 localSet)
        localState := setCall_run (by decide) rfl rfl rfl
    have haway : Run (Process.Step .little channelCapacity) localState (setCall 1 everywhere) _ :=
      setCall_run (by decide) rfl rfl rfl
    have hreset : Run (Process.Step .little channelCapacity) localState
        (setCall 1 everywhere ++ setCall 2 gatewaySet) gatewayState :=
      haway.trans (setCall_run (by decide) rfl rfl rfl)
    have hlocal : Run (Step .little channelCapacity) ⟨localState, fun _ => none⟩
        [.arrive 0 clientFrame, .lookup 0 .localNetAndMask 0x0a000200ffffff00] _ :=
      .cons (.arrive (by simp [Process.State.alive, localState, started]) rfl rfl)
        (.single (.lookup_of (by rw [put_same, h1]) rfl h2))
    have hgateway : ∀ jobs, jobs 0 = some ⟨clientFrame, .call .gatewayMacAddress k'⟩ →
        Run (Step .little channelCapacity) ⟨gatewayState, jobs⟩
          [.lookup 0 .gatewayMacAddress 0x020000000001,
            .finish 0 clientFrame .tx (output readmeMaps clientFrame)] _ := fun jobs hj =>
      .cons (.lookup_of hj rfl h3) (.single (.finish put_same))
    exact ⟨_, ((managed_run (started_run.trans hset) (by decide)).trans hlocal).trans
      ((managed_run hreset (by decide)).trans (hgateway _ (Function.update_self ..)))⟩
  · have h : ∀ q ∈ (managed tornEvents).inits,
        output (mapsAt 1 q) clientFrame ≠ output readmeMaps clientFrame := by decide +kernel
    exact fun q hq => h q ((List.mem_inits ..).2 hq)

/-! ## Frames before the gateway -/

section
variable {e : Endian} {cap cpus : Nat} {opt : Opt} {qs : List Process.Event} {c : Process.State}

/-- No message is handled during the start-up. -/
theorem fresh_of_starting (h : Run (Process.Step e cap) (.init opt cpus) qs c) :
    ∀ p, c.task = .starting p → c.maps = .fresh cpus := by
  refine h.invariant (I := fun _ c => ∀ p, c.task = .starting p → c.maps = .fresh cpus)
    (fun _ _ => rfl) fun qs c a c' _ hI hst p ht => ?_
  cases hst with
  | issue _ _ => exact hI p ht
  | enqueue _ _ => exact hI p ht
  | ret _ _ _ _ => exact hI p ht
  | cancel _ _ => exact hI p ht
  | call hp => exact hI _ hp
  | begin _ => cases ht
  | recv _ _ => cases ht
  | handle _ _ => cases ht
  | packet _ _ hrun =>
    rw [udpRouter_run, Option.some.injEq, Prod.mk.injEq] at hrun
    obtain ⟨-, rfl⟩ := hrun
    exact hI p ht

/-- A configured process has been started, and the program attached. -/
theorem running_of_entry (h : Run (Process.Step e cap) (.init opt cpus) qs c)
    (he : entry c.maps .localNet ≠ 0) : c.alive ∧ c.attached = true := by
  have hrun : ∀ p, c.task ≠ .starting p := fun p ht => he (by
    rw [fresh_of_starting h p ht, entry_fresh])
  refine ⟨fun message => hrun _, ?_⟩
  obtain ⟨s, gone, lost, -, hs⟩ := Process.refines_of_run h
  have hp := hs.progress
  cases ht : c.task with
  | starting p => exact absurd ht (hrun p)
  | receiving =>
    rw [ht] at hp
    exact hp.1
  | handling call msg =>
    rw [ht] at hp
    exact hp.1

/-- The address of a frame that was sent. -/
theorem dstMac_mixed {maps maps' : BpfMaps} {f : Frame} (hv : verdict maps f = .tx) :
    bytesAt (output (mixed maps maps') f) 0 6 = getGatewayMacAddress maps' := by
  rw [output_of_tx ((verdict_mixed maps maps' f).trans hv),
    bytesAt_forwarded_dstMac _ (length_of_tx hv)]
  rfl

theorem handled_seen_mono {q q' : List Process.Event} (h : q <+: q') :
    handled (seen q) <+: handled (seen q') :=
  ((h.filterMap Process.Event.seen).filterMap Event.op).filterMap Mailbox.Op.taken

/-- **A frame that is sent** was accepted at a time at which the local network was set, and carries
the gateway of the same or a later time. -/
theorem sent_at {pre post : List Event} {s : State} {cpu : Nat} {f g : Frame}
    (h : Run (Step e cap) (.init opt cpus) (pre ++ .finish cpu f .tx g :: post) s) :
    ∃ q₁ q₂, q₁ <+: q₂ ∧ q₂ <+: managed pre ∧ entry (mapsAt cpus q₁) .localNet ≠ 0 ∧
      bytesAt g 0 6 = getGatewayMacAddress (mapsAt cpus q₂) := by
  obtain ⟨p₀, p₁, q₁, q₂, -, -, -, h2, h3, hv, rfl⟩ := finished_of_run h
  refine ⟨q₁, q₂, h2, h3, fun h0 => ?_, dstMac_mixed hv.symm⟩
  exact (rejects_all_iff _).2 h0 _ ((verdict_eq_tx_iff _ f).1 hv.symm).2.2.2

/-- As soon as some source is accepted, a frame can be sent. -/
theorem sends_run (h : Run (Process.Step e cap) (.init opt cpus) qs c)
    (he : entry c.maps .localNet ≠ 0) : ∃ evs f g, managed evs = [] ∧
      Run (Step e cap) ⟨c, fun _ => none⟩ (evs ++ [.finish 0 f .tx g]) ⟨c, fun _ => none⟩ := by
  obtain ⟨a, ha⟩ := not_forall_not.1 (mt (rejects_all_iff c.maps).1 he)
  obtain ⟨halive, hatt⟩ := running_of_entry h he
  have hr : Run (Step e cap) ⟨c, fun _ => none⟩ (packetEvents e c.maps 0 (probe a a))
      ⟨c, fun _ => none⟩ := packet_run halive hatt rfl _
  rw [packetEvents, verdict_probe a ha, ← List.cons_append] at hr
  exact ⟨.arrive 0 (probe a a) :: lookupsOn 0 _, _, _, managed_lookupsOn 0 _, hr⟩

end

/-- **When the gateway is configured, lookup by lookup.** However frames arrive and are processed
among the calls, the start-up and the actor's messages in `qs`, every frame that is sent carries
the address of a message handled by then, exactly when a message for the gateway has been handled
at every time at which the local network is not the unset one. -/
theorem gateway_window_iff (e : Endian) (cap cpus : Nat) (opt : Opt) (qs : List Process.Event)
    (c : Process.State) (h : Run (Process.Step e cap) (.init opt cpus) qs c)
    (hq : ∀ a ∈ qs, isPacket a = false) :
    (∀ evs s, Run (Step e cap) (.init opt cpus) evs s → managed evs = qs →
      ∀ pre cpu f g post, evs = pre ++ .finish cpu f .tx g :: post →
        ∃ call mac, (call, .setGatewayMacAddress mac) ∈ handled (seen (managed pre)) ∧
          bytesAt g 0 6 = bytesAt (toBeBytes (n := 8) mac) 2 6) ↔
    (∀ q, q <+: qs → entry (mapsAt cpus q) .localNet ≠ 0 →
      ∃ call mac, (call, .setGatewayMacAddress mac) ∈ handled (seen q)) := by
  constructor
  · rintro hp q ⟨rest, rfl⟩ he
    -- the frame that falls between `q` and the rest
    obtain ⟨t, hr, hrest⟩ := h.of_append
    rw [mapsAt, ← Process.maps_of_run hr] at he
    obtain ⟨evs, f, g, hevs, hsend⟩ := sends_run hr he
    have hrun := (managed_run hr fun a ha => hq a (List.mem_append_left _ ha)).trans
      (hsend.trans (managed_run hrest fun a ha => hq a (List.mem_append_right _ ha)))
    rw [List.append_assoc, ← List.append_assoc] at hrun
    have hpre : managed (q.map .router ++ evs) = q := by
      rw [managed_append, managed_map_router, hevs, List.append_nil]
    have hall : managed (q.map .router ++ evs ++ ([.finish 0 f .tx g] ++ rest.map .router)) =
        q ++ rest := by
      rw [managed_append, hpre]
      exact congrArg (q ++ ·) (managed_map_router rest)
    obtain ⟨call, mac, hm, -⟩ := hp _ _ hrun hall _ 0 f g (rest.map .router) rfl
    rw [hpre] at hm
    exact ⟨call, mac, hm⟩
  · rintro hp evs s hr rfl pre cpu f g post rfl
    obtain ⟨q₁, q₂, h12, h2, hne, hmac⟩ := sent_at hr
    have hle : managed pre <+: managed (pre ++ .finish cpu f .tx g :: post) := by
      rw [managed_append]
      exact List.prefix_append _ _
    obtain ⟨call₁, mac₁, hm₁⟩ := hp q₁ (h12.trans (h2.trans hle)) hne
    obtain ⟨call, mac, hm, hg⟩ :=
      gateway_configured cpus ⟨call₁, mac₁, (handled_seen_mono h12).subset hm₁⟩
    exact ⟨call, mac, (handled_seen_mono h2).subset hm, hmac.trans hg⟩

/-- After the local network alone. -/
theorem gateway_window_iff_example :
    ¬ ∀ evs s, Run (Step .little channelCapacity) (.init plainOpt 1) evs s →
      managed evs = startEvents ++ setCall 0 localSet →
      ∀ pre cpu f g post, evs = pre ++ .finish cpu f .tx g :: post →
        ∃ call mac, (call, .setGatewayMacAddress mac) ∈ handled (seen (managed pre)) ∧
          bytesAt g 0 6 = bytesAt (toBeBytes (n := 8) mac) 2 6 := by
  have hrun : Run (Process.Step .little channelCapacity) (.init plainOpt 1)
      (startEvents ++ setCall 0 localSet) localState :=
    started_run.trans (setCall_run (by decide) rfl rfl rfl)
  rw [gateway_window_iff .little channelCapacity 1 plainOpt _ _ hrun (by decide)]
  intro h
  have hhandled : handled (seen (startEvents ++ setCall 0 localSet)) =
      [(0, BpfActorHandle.message 0 localSet)] := rfl
  obtain ⟨call, mac, hm⟩ := h _ List.prefix_rfl (by rw [mapsAt, hhandled]; decide)
  rw [hhandled, List.mem_singleton] at hm
  cases hm

end Router.Packets
