import UdpRouter.Router.Startup

/-!
# How the program is attached

Whatever the kernel replies, the attempts of a start-up are an initial part of `candidates`, every
one but the last in vain; every call comes after those it needs (`allowed`), the maps are opened in
their order once the program is attached, and the start-up ends well exactly when an attempt took
and no other call failed (`attach_order`).
-/

namespace Router.Startup

open Program

abbrev Trace : Type := List ((c : Effect) × Reply c)

/-- The modes to try, in their order. -/
def candidates (opt : Opt) : List XdpMode :=
  if opt.forceSkbMode then [.skb]
  else if opt.forceHwMode then [.hw]
  else if opt.forceDrvMode then [.drv]
  else [.hw, .drv] ++ if opt.allowSkbMode then [.skb] else []

def mapNames : List String :=
  ["TOTAL_PACKETS", "CLIENT_TO_SERVER_PACKETS", "SERVER_TO_CLIENT_PACKETS", "LOCAL_NET_AND_MASK",
    "BACKEND_NET_AND_MASK", "GATEWAY_MAC_ADDRESS"]

/-- An attempt to attach, and whether it took. -/
def attempt : (c : Effect) × Reply c → Option (String × XdpMode × Bool)
  | ⟨.attach iface mode, r⟩ => some (iface, mode, isOk r)
  | _ => none

def attempts (tr : Trace) : List (String × XdpMode × Bool) := tr.filterMap attempt

/-- A map that was opened. -/
def openedMap : (c : Effect) × Reply c → Option String
  | ⟨.tryFromMap name, r⟩ => if isOk r then some name else none
  | _ => none

def opened (tr : Trace) : List String := tr.filterMap openedMap

/-- A call that `run_actor` takes for granted has failed. -/
def fatal : (c : Effect) × Reply c → Bool
  | ⟨.println _, _⟩ => false
  | ⟨.warn _, _⟩ => false
  | ⟨.initLogger, _⟩ => false
  | ⟨.attach _ _, _⟩ => false
  | ⟨.programMut _, r⟩ => Option.isNone r
  | ⟨.takeMap _, r⟩ => Option.isNone r
  | ⟨.loadFile _, r⟩ => !isOk r
  | ⟨.tryIntoXdp, r⟩ => !isOk r
  | ⟨.load, r⟩ => !isOk r
  | ⟨.tryFromMap _, r⟩ => !isOk r

/-- An attempt that took. -/
def took (opt : Opt) (mode : XdpMode) : String × XdpMode × Bool := (opt.iface, mode, true)

/-- An attempt in vain. -/
def lost (opt : Opt) (mode : XdpMode) : String × XdpMode × Bool := (opt.iface, mode, false)

/-- The modes tried in vain, the mode that took and the maps opened. -/
structure Reached (opt : Opt) (failed : List XdpMode) (won : Option XdpMode) (maps : List String)
    (tr : Trace) : Prop where
  attempts : attempts tr = failed.map (lost opt) ++ won.toList.map (took opt)
  order : failed ++ won.toList <+: candidates opt
  opened : opened tr = maps

/-- The program is attached, and `name` is the next map to open. -/
def NextMap (opt : Opt) (name : String) (tr : Trace) : Prop :=
  opened tr ++ [name] <+: mapNames ∧ ∃ failed mode, Reached opt failed (some mode) (opened tr) tr

/-- What must have happened before a call. -/
def allowed (opt : Opt) (tr : Trace) : Effect → Prop
  | .println _ => True
  | .loadFile path => path = opt.bpfProg
  | .initLogger => ⟨.loadFile opt.bpfProg, .ok ()⟩ ∈ tr
  | .warn _ => ∃ message, ⟨.initLogger, .error message⟩ ∈ tr
  | .programMut name => name = "udp_router" ∧ ⟨.loadFile opt.bpfProg, .ok ()⟩ ∈ tr
  | .tryIntoXdp => ⟨.programMut "udp_router", some ()⟩ ∈ tr
  | .load => ⟨.tryIntoXdp, .ok ()⟩ ∈ tr
  | .attach iface mode => iface = opt.iface ∧ ⟨.load, .ok ()⟩ ∈ tr ∧
      ∃ failed, attempts tr = failed.map (lost opt) ∧ failed ++ [mode] <+: candidates opt
  | .takeMap name => NextMap opt name tr
  | .tryFromMap name => NextMap opt name tr ∧ ∃ pre, tr = pre ++ [⟨.takeMap name, some ()⟩]

def Clean (tr : Trace) : Prop := ∀ x ∈ tr, fatal x = false

/-- How a start-up ends. -/
inductive Outcome (opt : Opt) : Except String Unit → Trace → Prop
  | attached {failed : List XdpMode} {mode : XdpMode} {tr : Trace} :
      Reached opt failed (some mode) mapNames tr → Clean tr → Outcome opt (.ok ()) tr
  | broken {failed : List XdpMode} {won : Option XdpMode} {maps : List String} {tr : Trace}
      {message : String} :
      Reached opt failed won maps tr → ¬ Clean tr → Outcome opt (.error message) tr
  | exhausted {tr : Trace} {message : String} :
      Reached opt (candidates opt) none [] tr → Clean tr → Outcome opt (.error message) tr

/-! ## One call -/

section
variable {opt : Opt} {failed : List XdpMode} {won : Option XdpMode} {maps : List String}
  {tr : Trace} {x : (c : Effect) × Reply c}

theorem attempts_concat (tr : Trace) (x : (c : Effect) × Reply c) :
    attempts (tr ++ [x]) = attempts tr ++ (attempt x).toList := by
  cases h : attempt x <;> simp [attempts, List.filterMap_append, h]

theorem opened_concat (tr : Trace) (x : (c : Effect) × Reply c) :
    opened (tr ++ [x]) = opened tr ++ (openedMap x).toList := by
  cases h : openedMap x <;> simp [opened, List.filterMap_append, h]

theorem clean_concat : Clean (tr ++ [x]) ↔ Clean tr ∧ fatal x = false := by
  simp [Clean, or_imp, forall_and]

/-- A call that neither attaches nor opens a map. -/
theorem Reached.quiet (h : Reached opt failed won maps tr) (ha : attempt x = none)
    (ho : openedMap x = none) : Reached opt failed won maps (tr ++ [x]) := by
  refine ⟨?_, h.order, ?_⟩
  · rw [attempts_concat, ha, h.attempts]
    exact List.append_nil _
  · rw [opened_concat, ho, h.opened]
    exact List.append_nil _

theorem Reached.took {mode : XdpMode} {r : Except String Unit}
    (h : Reached opt failed none maps tr) (ho : failed ++ [mode] <+: candidates opt)
    (hr : isOk r = true) :
    Reached opt failed (some mode) maps (tr ++ [⟨.attach opt.iface mode, r⟩]) := by
  refine ⟨?_, ho, ?_⟩
  · rw [attempts_concat, h.attempts]
    simp [attempt, hr, Startup.took]
  · rw [opened_concat, h.opened]
    exact List.append_nil _

theorem Reached.lost {mode : XdpMode} {r : Except String Unit}
    (h : Reached opt failed none maps tr) (ho : failed ++ [mode] <+: candidates opt)
    (hr : isOk r = false) :
    Reached opt (failed ++ [mode]) none maps (tr ++ [⟨.attach opt.iface mode, r⟩]) := by
  refine ⟨?_, by simpa using ho, ?_⟩
  · rw [attempts_concat, h.attempts]
    simp [attempt, hr, Startup.lost]
  · rw [opened_concat, h.opened]
    exact List.append_nil _

theorem Reached.opens {name : String} {r : Except String Unit}
    (h : Reached opt failed won maps tr) (hr : isOk r = true) :
    Reached opt failed won (maps ++ [name]) (tr ++ [⟨.tryFromMap name, r⟩]) := by
  refine ⟨?_, h.order, ?_⟩
  · rw [attempts_concat, h.attempts]
    exact List.append_nil _
  · rw [opened_concat, h.opened]
    simp [openedMap, hr]

/-! ## The parts -/

variable {post : Except String Unit → Trace → Prop}

/-- A call whose failure is a panic. -/
theorem keeps_checked {c : Effect} {check : Reply c → Process Unit} {f : Unit → Process Unit}
    (ha : allowed opt tr c)
    (hcheck : ∀ r, (fatal ⟨c, r⟩ = false ∧ check r = .done ()) ∨
      (fatal ⟨c, r⟩ = true ∧ ∃ message, check r = .panic message))
    (hok : ∀ r, fatal ⟨c, r⟩ = false → Keeps (.history (allowed opt)) post (f ()) (tr ++ [⟨c, r⟩]))
    (herr : ∀ r message, fatal ⟨c, r⟩ = true → post (.error message) (tr ++ [⟨c, r⟩])) :
    Keeps (.history (allowed opt)) post (ask c >>= fun r => check r >>= f) tr := by
  refine ⟨ha, fun r => ?_⟩
  change Keeps _ post (check r >>= f) (tr ++ [⟨c, r⟩])
  rcases hcheck r with ⟨hr, hd⟩ | ⟨hr, message, hp⟩
  · rw [hd]
    exact hok r hr
  · rw [hp]
    exact herr r message hr

theorem unwrap_cases (r : Except String Unit) :
    ((!isOk r) = false ∧ unwrap r = .done ()) ∨
      ((!isOk r) = true ∧ ∃ message, unwrap r = .panic message) := by
  cases r with
  | ok _ => exact .inl ⟨rfl, rfl⟩
  | error e => exact .inr ⟨rfl, _, rfl⟩

theorem eq_ok_of_isOk {r : Except String Unit} (h : (!isOk r) = false) : r = .ok () := by
  cases r with
  | ok _ => rfl
  | error e => cases h

theorem eq_some_of_isNone {r : Option Unit} (h : Option.isNone r = false) : r = some () := by
  cases r with
  | some _ => rfl
  | none => cases h

theorem expect_cases (text : String) (r : Except String Unit) :
    ((!isOk r) = false ∧ expect text r = .done ()) ∨
      ((!isOk r) = true ∧ ∃ message, expect text r = .panic message) := by
  cases r with
  | ok _ => exact .inl ⟨rfl, rfl⟩
  | error e => exact .inr ⟨rfl, _, rfl⟩

theorem unwrapOption_cases (r : Option Unit) :
    (Option.isNone r = false ∧ unwrapOption r = .done ()) ∨
      (Option.isNone r = true ∧ ∃ message, unwrapOption r = .panic message) := by
  cases r with
  | some _ => exact .inl ⟨rfl, rfl⟩
  | none => exact .inr ⟨rfl, _, rfl⟩

/-- A mode that is forced. -/
theorem keeps_forced {mode : XdpMode} {text line : String} (h : Reached opt [] none [] tr)
    (hclean : Clean tr) (hload : ⟨.load, .ok ()⟩ ∈ tr) (hc : candidates opt = [mode])
    (hok : ∀ failed mode tr, Reached opt failed (some mode) [] tr → Clean tr → post (.ok ()) tr)
    (herr : ∀ message tr, Reached opt (candidates opt) none [] tr → Clean tr →
      post (.error message) tr) :
    Keeps (.history (allowed opt)) post (do
      expect text (← attach opt.iface mode)
      println line) tr := by
  have ho : [] ++ [mode] <+: candidates opt := by rw [hc]; exact List.prefix_rfl
  refine ⟨⟨rfl, hload, [], by simpa using h.attempts, ho⟩, fun r => ?_⟩
  cases r with
  | ok _ =>
    refine ⟨trivial, fun _ => hok [] mode _ ((h.took ho rfl).quiet rfl rfl) ?_⟩
    exact clean_concat.2 ⟨clean_concat.2 ⟨hclean, rfl⟩, rfl⟩
  | error e =>
    refine herr _ _ ?_ (clean_concat.2 ⟨hclean, rfl⟩)
    rw [hc]
    exact h.lost ho rfl

/-- A mode that may fail, with what is done then. -/
theorem keeps_try {mode : XdpMode} {line : String} {rest : Process Unit}
    (h : Reached opt failed none [] tr) (hclean : Clean tr) (hload : ⟨.load, .ok ()⟩ ∈ tr)
    (ho : failed ++ [mode] <+: candidates opt)
    (hok : ∀ failed mode tr, Reached opt failed (some mode) [] tr → Clean tr → post (.ok ()) tr)
    (hrest : ∀ tr, Reached opt (failed ++ [mode]) none [] tr → Clean tr → ⟨.load, .ok ()⟩ ∈ tr →
      Keeps (.history (allowed opt)) post rest tr) :
    Keeps (.history (allowed opt)) post (do
      let r ← attach opt.iface mode
      if isOk r then println line else rest) tr := by
  refine ⟨⟨rfl, hload, failed, by simpa using h.attempts, ho⟩, fun r => ?_⟩
  cases r with
  | ok _ =>
    refine ⟨trivial, fun _ => hok failed mode _ ((h.took ho rfl).quiet rfl rfl) ?_⟩
    exact clean_concat.2 ⟨clean_concat.2 ⟨hclean, rfl⟩, rfl⟩
  | error e =>
    exact hrest _ (h.lost ho rfl) (clean_concat.2 ⟨hclean, rfl⟩) (List.mem_append_left _ hload)

/-- The modes one after the other. -/
theorem keeps_attachProgram (h : Reached opt [] none [] tr) (hclean : Clean tr)
    (hload : ⟨.load, .ok ()⟩ ∈ tr)
    (hok : ∀ failed mode tr, Reached opt failed (some mode) [] tr → Clean tr → post (.ok ()) tr)
    (herr : ∀ message tr, Reached opt (candidates opt) none [] tr → Clean tr →
      post (.error message) tr) :
    Keeps (.history (allowed opt)) post (attachProgram opt) tr := by
  unfold attachProgram
  by_cases hskb : opt.forceSkbMode
  · rw [if_pos hskb]
    exact keeps_forced h hclean hload (if_pos hskb) hok herr
  by_cases hhw : opt.forceHwMode
  · rw [if_neg hskb, if_pos hhw]
    exact keeps_forced h hclean hload (by simp [candidates, hskb, hhw]) hok herr
  by_cases hdrv : opt.forceDrvMode
  · rw [if_neg hskb, if_neg hhw, if_pos hdrv]
    exact keeps_forced h hclean hload (by simp [candidates, hskb, hhw, hdrv]) hok herr
  rw [if_neg hskb, if_neg hhw, if_neg hdrv]
  have hc : candidates opt = [.hw, .drv] ++ if opt.allowSkbMode then [.skb] else [] := by
    simp [candidates, hskb, hhw, hdrv]
  refine keeps_try h hclean hload (by simp [hc]) hok fun tr h hclean hload => ?_
  refine keeps_try h hclean hload (by simp [hc]) hok fun tr h hclean hload => ?_
  by_cases hallow : opt.allowSkbMode
  · rw [if_pos hallow] at hc ⊢
    refine keeps_try h hclean hload (by simp [hc]) hok fun tr h hclean _ => ?_
    exact herr _ tr (by rw [hc]; exact h) hclean
  · rw [if_neg hallow] at hc ⊢
    exact herr _ tr (by rw [hc]; exact h) hclean

/-- One map, once the program is attached. -/
theorem keeps_openMap {name : String} {mode : XdpMode}
    (h : Reached opt failed (some mode) maps tr) (hclean : Clean tr)
    (hname : maps ++ [name] <+: mapNames)
    (hok : ∀ tr, Reached opt failed (some mode) (maps ++ [name]) tr → Clean tr → post (.ok ()) tr)
    (herr : ∀ message tr, Reached opt failed (some mode) maps tr → ¬ Clean tr →
      post (.error message) tr) :
    Keeps (.history (allowed opt)) post (openMap name) tr := by
  have hnext : ∀ {tr : Trace}, Reached opt failed (some mode) maps tr → NextMap opt name tr := by
    intro tr h
    exact ⟨by rwa [h.opened], failed, mode, h.opened ▸ h⟩
  refine keeps_checked (hnext h) unwrapOption_cases (fun r hr => ?_) fun r message hr => ?_
  · have h1 := h.quiet (x := ⟨.takeMap name, r⟩) rfl rfl
    have hclean1 := clean_concat.2 ⟨hclean, hr⟩
    obtain rfl := eq_some_of_isNone hr
    refine ⟨⟨hnext h1, tr, rfl⟩, fun r' => ?_⟩
    cases r' with
    | ok _ => exact hok _ (h1.opens rfl) (clean_concat.2 ⟨hclean1, rfl⟩)
    | error e =>
      refine herr _ _ (h1.quiet rfl rfl) fun hc => ?_
      exact absurd (clean_concat.1 hc).2 (by simp [fatal, isOk])
  · refine herr _ _ (h.quiet rfl rfl) fun hc => ?_
    rw [(clean_concat.1 hc).2] at hr
    cases hr

/-- The logger may fail. -/
theorem keeps_logger {rest : Process Unit} (h : Reached opt failed won maps tr)
    (hclean : Clean tr) (hfile : ⟨.loadFile opt.bpfProg, .ok ()⟩ ∈ tr)
    (hrest : ∀ tr, Reached opt failed won maps tr → Clean tr →
      ⟨.loadFile opt.bpfProg, .ok ()⟩ ∈ tr → Keeps (.history (allowed opt)) post rest tr) :
    Keeps (.history (allowed opt)) post (do
      match ← initLogger with
      | .ok _ => pure ()
      | .error e => warn ("Failed to initialize eBPF logger: " ++ e)
      rest) tr := by
  refine ⟨hfile, fun r => ?_⟩
  have hclean1 : Clean (tr ++ [⟨.initLogger, r⟩]) := clean_concat.2 ⟨hclean, rfl⟩
  have h1 : Reached opt failed won maps (tr ++ [⟨.initLogger, r⟩]) := h.quiet rfl rfl
  have hfile1 := List.mem_append_left [⟨.initLogger, r⟩] hfile
  cases r with
  | ok _ => exact hrest _ h1 hclean1 hfile1
  | error e =>
    refine ⟨⟨e, List.mem_append_right _ List.mem_cons_self⟩, fun _ => ?_⟩
    exact hrest _ (h1.quiet rfl rfl) (clean_concat.2 ⟨hclean1, rfl⟩)
      (List.mem_append_left _ hfile1)

/-- One map, and what follows. -/
theorem keeps_openMap_bind {name : String} {mode : XdpMode} {rest : Process Unit}
    (h : Reached opt failed (some mode) maps tr) (hclean : Clean tr)
    (hname : maps ++ [name] <+: mapNames)
    (hrest : ∀ tr, Reached opt failed (some mode) (maps ++ [name]) tr → Clean tr →
      Keeps (.history (allowed opt)) (Outcome opt) rest tr) :
    Keeps (.history (allowed opt)) (Outcome opt) (openMap name >>= fun _ => rest) tr := by
  apply Keeps.bind
  exact keeps_openMap h hclean hname hrest fun message tr h hn => .broken h hn

theorem Outcome.of_fatal {message : String} (h : Reached opt failed won maps tr)
    (ha : attempt x = none) (ho : openedMap x = none) (hx : fatal x = true) :
    Outcome opt (.error message) (tr ++ [x]) := by
  refine .broken (h.quiet ha ho) fun hc => ?_
  rw [(clean_concat.1 hc).2] at hx
  cases hx

/-- **What a start-up keeps.** -/
theorem keeps_startup (opt : Opt) :
    Keeps (.history (allowed opt)) (Outcome opt) (startup opt) [] := by
  unfold startup
  have h0 : Reached opt [] none [] [] := ⟨rfl, List.nil_prefix, rfl⟩
  refine ⟨trivial, fun r => ?_⟩
  have h1 := h0.quiet (x := ⟨.println ("Loading XDP program from file: " ++ opt.bpfProg), r⟩) rfl
    rfl
  have hclean : Clean ([] ++ [⟨.println ("Loading XDP program from file: " ++ opt.bpfProg), r⟩]) :=
    clean_concat.2 ⟨nofun, rfl⟩
  refine keeps_checked rfl unwrap_cases (fun r hr => ?_) fun r _ hr => .of_fatal h1 rfl rfl hr
  obtain rfl := eq_ok_of_isOk hr
  refine keeps_logger (h1.quiet rfl rfl) (clean_concat.2 ⟨hclean, hr⟩) (by simp)
    fun tr h hclean hfile => ?_
  refine keeps_checked ⟨rfl, hfile⟩ unwrapOption_cases (fun r hr => ?_)
    fun r _ hr => .of_fatal h rfl rfl hr
  obtain rfl := eq_some_of_isNone hr
  have h2 := h.quiet (x := ⟨.programMut "udp_router", some ()⟩) rfl rfl
  have hclean2 := clean_concat.2 ⟨hclean, hr⟩
  refine keeps_checked (List.mem_append_right _ List.mem_cons_self) unwrap_cases
    (fun r hr => ?_) fun r _ hr => .of_fatal h2 rfl rfl hr
  obtain rfl := eq_ok_of_isOk hr
  have h3 := h2.quiet (x := ⟨.tryIntoXdp, .ok ()⟩) rfl rfl
  have hclean3 := clean_concat.2 ⟨hclean2, hr⟩
  refine keeps_checked (List.mem_append_right _ List.mem_cons_self)
    (expect_cases "Failed to load XDP program") (fun r hr => ?_)
    fun r _ hr => .of_fatal h3 rfl rfl hr
  obtain rfl := eq_ok_of_isOk hr
  have hclean4 := clean_concat.2 ⟨hclean3, hr⟩
  apply Keeps.bind
  refine keeps_attachProgram (h3.quiet rfl rfl) hclean4 (by simp)
    (fun failed mode tr h hclean => ?_) fun message tr h hclean => .exhausted h hclean
  refine keeps_openMap_bind h hclean (by decide) fun tr h hclean => ?_
  refine keeps_openMap_bind h hclean (by decide) fun tr h hclean => ?_
  refine keeps_openMap_bind h hclean (by decide) fun tr h hclean => ?_
  refine keeps_openMap_bind h hclean (by decide) fun tr h hclean => ?_
  refine keeps_openMap_bind h hclean (by decide) fun tr h hclean => ?_
  exact keeps_openMap h hclean (by decide) (fun tr h hclean => .attached h hclean)
    fun message tr h hn => .broken h hn

theorem Outcome.opened {r : Except String Unit} (h : Outcome opt r tr) (hr : r = .ok ()) :
    opened tr = mapNames := by
  cases h with
  | attached h _ => exact h.opened
  | broken _ _ => cases hr
  | exhausted _ _ => cases hr

theorem Outcome.ok_iff {r : Except String Unit} (h : Outcome opt r tr) :
    r = .ok () ↔ Clean tr ∧ ∃ mode, took opt mode ∈ attempts tr := by
  cases h with
  | @attached failed mode _ h hclean =>
    refine ⟨fun _ => ⟨hclean, mode, ?_⟩, fun _ => rfl⟩
    rw [h.attempts]
    simp
  | broken _ hn =>
    refine ⟨fun he => ?_, fun hx => absurd hx.1 hn⟩
    cases he
  | exhausted h _ =>
    refine ⟨fun he => ?_, fun hx => ?_⟩
    · cases he
    · obtain ⟨-, mode, hm⟩ := hx
      rw [h.attempts] at hm
      simp [took, lost] at hm

end

end Router.Startup
