import UdpRouter.Client.Main

/-!
# What the client does

The calls of a run are entered in a `Ledger`; `Allowed` says what a call needs of it. At most one
ping is outstanding, the pings follow `schedule`, and a run that ends well has sent and received
all of them and printed the `report` of its clock readings (`client_conforms`).
-/

namespace Client

open Bytes Wire Program

abbrev Call : Type := (c : Effect) × Reply c

/-- The sockets of the pings sent and received, the clock readings, the lines printed and the
error, if a call failed. -/
structure Ledger where
  bound : List Socket := []
  sent : List Socket := []
  received : List Socket := []
  readings : List Nat := []
  lines : List String := []
  error : Option String := none

/-- `q`, or the error in it. -/
def Ledger.checked {α : Type} (q : Ledger) : Except String α → Ledger
  | .ok _ => q
  | .error e => { q with error := some e }

def Ledger.read (q : Ledger) (t : Nat) : Ledger := { q with readings := q.readings ++ [t] }

def Ledger.enter (q : Ledger) : (c : Effect) → Reply c → Ledger
  | .bind socket _, r => { q with bound := q.bound ++ [socket] }.checked r
  | .println line, _ => { q with lines := q.lines ++ [line] }
  | .now, t => q.read t
  | .sendTo socket _ _, r => { q with sent := q.sent ++ [socket] }.checked r
  | .recvFrom socket _, r => { q with received := q.received ++ [socket] }.checked r

def ledgerOf (tr : List Call) : Ledger := tr.foldl (fun q x => q.enter x.1 x.2) {}

/-- The pings in their order. -/
def schedule : List Socket := List.replicate rounds .direct ++ List.replicate rounds .proxy

def targetOf (opt : Opt) : Socket → String
  | .direct => opt.server ++ ":8888"
  | .proxy => opt.proxy ++ ":8888"

/-- No call has failed and no ping is outstanding. -/
structure Ledger.Idle (q : Ledger) : Prop where
  clean : q.error = none
  answered : q.sent = q.received

/-- What a call needs. -/
def Allowed (opt : Opt) (q : Ledger) : Effect → Prop
  | .bind socket addr => q.Idle ∧ q.sent = [] ∧ socket ∉ q.bound ∧ addr = "0.0.0.0:0"
  | .println _ => q.Idle
  | .now => q.Idle
  | .sendTo socket buf target => q.Idle ∧ socket ∈ q.bound ∧ target = targetOf opt socket ∧
      q.sent ++ [socket] <+: schedule ∧ ∃ a, serverIp opt = .ok a ∧ buf = addrBytes a
  | .recvFrom socket bufLen =>
      q.error = none ∧ q.sent = q.received ++ [socket] ∧ bufLen = 1024

def account (opt : Opt) : Account Effect Reply Ledger where
  allows := Allowed opt
  enter := Ledger.enter

/-! ## The report -/

/-- The clock is read before and after each ping. -/
def durations : List Nat → List (BitVec 64)
  | start :: stop :: rest => elapsedMicros start stop :: durations rest
  | _ => []

section
variable (H : Histogram)

def recorded (hist : H.Hist) (readings : List Nat) : H.Hist :=
  (durations readings).foldl H.record hist

def percentiles (name : String) (hist : H.Hist) : List String :=
  [latencyLine H "p50" name hist 0.50, latencyLine H "p99" name hist 0.99,
    latencyLine H "p99.9" name hist 0.999]

/-- The lines of a run, from its clock readings. -/
def report (empty : H.Hist) (readings : List Nat) : List String :=
  "Measuring direct ping to server" ::
    percentiles H "direct latency" (recorded H empty (readings.take (2 * rounds))) ++
  "Measuring ping through proxy" ::
    percentiles H "latency through proxy" (recorded H empty (readings.drop (2 * rounds)))

/-- How a run ends. -/
inductive Outcome (opt : Opt) : Except String (Except String Unit) → Ledger → Prop
  | finished {empty : H.Hist} {q : Ledger} :
      H.newWithBounds 1 100000 2 = .ok empty → q.Idle → q.sent = schedule →
      q.readings.length = 4 * rounds → q.lines = report H empty q.readings →
      Outcome opt (.ok (.ok ())) q
  | failed {e : String} {q : Ledger} : q.error = some e → Outcome opt (.ok (.error e)) q
  | unparsed {message : String} {q : Ledger} :
      unwrap (serverIp opt) = .error message → q.error = none → q.sent = [] →
      Outcome opt (.error message) q
  | unbuilt {message : String} {q : Ledger} :
      unwrap (H.newWithBounds 1 100000 2) = .error message → q.error = none → q.sent = [] →
      Outcome opt (.error message) q

end

/-! ## The parts -/

section
variable {H : Histogram} {opt : Opt} {q : Ledger} {socket : Socket} {payload : List Byte}
  {target : String}

theorem unwrap_error {α : Type} {x : Except String α} {message : String}
    (h : unwrap x = .error message) : ∀ a, x ≠ .ok a := by
  rintro a rfl
  cases h

theorem unwrap_cases {α : Type} (x : Except String α) :
    (∃ a, x = .ok a ∧ unwrap x = .ok a) ∨ ∃ message, unwrap x = .error message := by
  cases x with
  | ok a => exact .inl ⟨a, rfl, rfl⟩
  | error e => exact .inr ⟨_, rfl⟩

/-- **The loop**: the pings still to be sent are the next of the schedule. -/
theorem keeps_pings {post : Except String (Except String H.Hist) → Ledger → Prop} {a : Addr}
    (ha : serverIp opt = .ok a) (htarget : target = targetOf opt socket) (n : Nat) (hist : H.Hist)
    (hq : q.Idle) (hb : socket ∈ q.bound) (hs : q.sent ++ List.replicate n socket <+: schedule)
    (hok : ∀ rs : List Nat, rs.length = 2 * n → post (.ok (.ok (recorded H hist rs)))
      { q with
        sent := q.sent ++ List.replicate n socket
        received := q.received ++ List.replicate n socket
        readings := q.readings ++ rs })
    (hfail : ∀ q e, q.error = some e → post (.ok (.error e)) q) :
    Keeps (account opt) post (pings H socket (addrBytes a) target n hist) q := by
  induction n generalizing hist q with
  | zero =>
    have h0 := hok [] rfl
    simp only [List.replicate_zero, List.append_nil] at h0
    exact h0
  | succ n ih =>
    rw [List.replicate_succ] at hs
    have hnext : q.sent ++ [socket] <+: schedule := by
      refine List.IsPrefix.trans ⟨List.replicate n socket, ?_⟩ hs
      rw [List.append_assoc, List.singleton_append]
    refine ⟨hq, fun (start : Nat) => ?_⟩
    refine ⟨⟨⟨hq.clean, hq.answered⟩, hb, htarget, hnext, a, ha, rfl⟩, fun r => ?_⟩
    cases r with
    | error e => exact hfail _ e rfl
    | ok _ =>
      refine ⟨⟨hq.clean, congrArg (· ++ [socket]) hq.answered, rfl⟩, fun r => ?_⟩
      cases r with
      | error e => exact hfail _ e rfl
      | ok _ =>
        have hidle : q.sent ++ [socket] = q.received ++ [socket] :=
          congrArg (· ++ [socket]) hq.answered
        refine ⟨⟨hq.clean, hidle⟩, fun (stop : Nat) => ?_⟩
        refine ih _ ⟨hq.clean, hidle⟩ hb ?_ fun rs hrs => ?_
        · change q.sent ++ [socket] ++ List.replicate n socket <+: schedule
          rwa [List.append_assoc, List.singleton_append]
        · have hlen : (start :: stop :: rs).length = 2 * (n + 1) := by
            rw [List.length_cons, List.length_cons, hrs]
            rfl
          have hdone := hok (start :: stop :: rs) hlen
          rw [List.replicate_succ, List.append_cons q.sent, List.append_cons q.received,
            List.append_cons q.readings, List.append_cons (q.readings ++ [start])] at hdone
          exact hdone

/-- **One half of `main`.** -/
theorem keeps_measure {post : Except String (Except String Unit) → Ledger → Prop} {a : Addr}
    {empty : H.Hist} {host heading name : String} (ha : serverIp opt = .ok a)
    (he : H.newWithBounds 1 100000 2 = .ok empty) (htarget : host ++ ":8888" = targetOf opt socket)
    (hq : q.Idle) (hb : socket ∈ q.bound)
    (hs : q.sent ++ List.replicate rounds socket <+: schedule)
    (hok : ∀ rs : List Nat, rs.length = 2 * rounds → post (.ok (.ok ()))
      { q with
        sent := q.sent ++ List.replicate rounds socket
        received := q.received ++ List.replicate rounds socket
        readings := q.readings ++ rs
        lines := q.lines ++ heading :: percentiles H name (recorded H empty rs) })
    (hfail : ∀ q e, q.error = some e → post (.ok (.error e)) q) :
    Keeps (account opt) post (measure H socket (addrBytes a) host heading name) q := by
  unfold measure
  refine ⟨hq, fun _ => ?_⟩
  rw [he]
  refine Keeps.bind (p := pings H socket (addrBytes a) (host ++ ":8888") rounds empty) ?_
  refine keeps_pings ha htarget rounds empty ⟨hq.clean, hq.answered⟩ hb hs (fun rs hrs => ?_)
    fun q e h => hfail q e h
  have hidle : ∀ lines : List String, Ledger.Idle
      { q with
        sent := q.sent ++ List.replicate rounds socket
        received := q.received ++ List.replicate rounds socket
        readings := q.readings ++ rs
        lines := lines } :=
    fun _ => ⟨hq.clean, congrArg (· ++ List.replicate rounds socket) hq.answered⟩
  refine ⟨hidle _, fun _ => ⟨hidle _, fun _ => ⟨hidle _, fun _ => ?_⟩⟩⟩
  have hdone := hok rs hrs
  have hlines : q.lines ++ heading :: percentiles H name (recorded H empty rs) =
      q.lines ++ [heading] ++ [latencyLine H "p50" name (recorded H empty rs) 0.50] ++
        [latencyLine H "p99" name (recorded H empty rs) 0.99] ++
        [latencyLine H "p99.9" name (recorded H empty rs) 0.999] := by
    simp [percentiles]
  rw [hlines] at hdone
  exact hdone

/-- Without a histogram it stops after its heading. -/
theorem keeps_measure_unbuilt {post : Except String (Except String Unit) → Ledger → Prop}
    {host heading name message : String} (hq : q.Idle)
    (he : unwrap (H.newWithBounds 1 100000 2) = .error message)
    (hpanic : post (.error message) { q with lines := q.lines ++ [heading] }) :
    Keeps (account opt) post (measure H socket payload host heading name) q := by
  unfold measure
  refine ⟨hq, fun _ => ?_⟩
  rw [show unwrap (H.newWithBounds 1 (100 * 1000) 2) = .error message from he]
  exact hpanic

/-- **What a run keeps.** -/
theorem keeps_main (H : Histogram) (opt : Opt) :
    Keeps (account opt) (Outcome H opt) (main H opt) {} := by
  have hdirect : Socket.direct ∈ [Socket.direct, Socket.proxy] := by decide
  have hproxy : Socket.proxy ∈ [Socket.direct, Socket.proxy] := by decide
  have hfree : Socket.proxy ∉ [Socket.direct] := by decide
  unfold main
  refine ⟨⟨⟨rfl, rfl⟩, rfl, List.not_mem_nil, rfl⟩, fun r => ?_⟩
  cases r with
  | error e => exact .failed rfl
  | ok _ =>
    refine ⟨⟨⟨rfl, rfl⟩, rfl, hfree, rfl⟩, fun r => ?_⟩
    cases r with
    | error e => exact .failed rfl
    | ok _ =>
      rcases unwrap_cases (serverIp opt) with ⟨a, ha, hu⟩ | ⟨message, hu⟩
      · rw [hu]
        refine Keeps.bind (p := measure H .direct (addrBytes a) opt.server _ _) ?_
        rcases unwrap_cases (H.newWithBounds 1 100000 2) with ⟨empty, he, -⟩ | ⟨message, he⟩
        · refine keeps_measure ha he rfl ⟨rfl, rfl⟩ hdirect (List.prefix_append _ _)
            (fun rs hrs => ?_) fun q e h => .failed h
          refine keeps_measure ha he rfl ⟨rfl, rfl⟩ hproxy (List.prefix_refl _)
            (fun rs' hrs' => ?_) fun q e h => .failed h
          refine .finished he ⟨rfl, rfl⟩ rfl ?_ ?_
          · change ([] ++ rs ++ rs').length = 4 * rounds
            rw [List.nil_append, List.length_append, hrs, hrs']
            omega
          · change _ = report H empty ([] ++ rs ++ rs')
            rw [List.nil_append, report, List.take_left' hrs, List.drop_left' hrs]
            rfl
        · exact keeps_measure_unbuilt ⟨rfl, rfl⟩ he (.unbuilt he rfl rfl)
      · rw [hu]
        exact .unparsed hu rfl rfl

end

/-! ## The length of a run -/

section
variable (H : Histogram)

theorem within_pings (socket : Socket) (payload : List Byte) (target : String) (n : Nat)
    (hist : H.Hist) : Within (4 * n) (pings H socket payload target n hist) := by
  induction n generalizing hist with
  | zero => trivial
  | succ n ih =>
    refine within_ask fun start => within_ask fun r => ?_
    cases r with
    | error e => trivial
    | ok _ =>
      refine within_ask fun r => ?_
      cases r with
      | error e => trivial
      | ok _ => exact within_ask fun stop => ih _

theorem within_measure (socket : Socket) (payload : List Byte) (host heading name : String) :
    Within (4 * rounds + 4) (measure H socket payload host heading name) := by
  unfold measure
  refine within_ask fun _ => ?_
  cases unwrap (H.newWithBounds 1 (100 * 1000) 2) with
  | error message => trivial
  | ok hist =>
    refine Within.bind (p := pings H socket payload (host ++ ":8888") rounds hist)
      (within_pings H socket payload _ rounds hist) fun r => ?_
    cases r with
    | error e => trivial
    | ok hist => exact within_ask fun _ => within_ask fun _ => within_ask fun _ => trivial

theorem within_main (opt : Opt) : Within (8 * rounds + 10) (main H opt) := by
  unfold main
  refine within_ask fun r => ?_
  cases r with
  | error e => trivial
  | ok _ =>
    refine within_ask fun r => ?_
    cases r with
    | error e => trivial
    | ok _ =>
      cases unwrap (serverIp opt) with
      | error message => trivial
      | ok a =>
        have hsum : 8 * rounds + 8 = 4 * rounds + 4 + (4 * rounds + 4) := by omega
        rw [hsum]
        refine Within.bind (p := measure H .direct (addrBytes a) opt.server _ _)
          (within_measure H .direct _ _ _ _) fun r => ?_
        cases r with
        | error e => trivial
        | ok _ => exact within_measure H .proxy _ _ _ _

end

/-- **What the client does**, whatever is replied: every call is allowed by those before it, at most
one ping is outstanding and never more than 10000 are sent from a socket; it ends with an error
when a call failed, with a panic before the first ping when the server is not an address, and
otherwise after all pings, with the report of the clock readings. -/
theorem client_conforms {σ : Type} (H : Histogram) (opt : Opt)
    (env : (c : Effect) → σ → Reply c × σ) (s : σ) :
    (∀ pre x post, trace env (main H opt) s = pre ++ x :: post →
      Allowed opt (ledgerOf pre) x.1) ∧
    Outcome H opt (exec env (main H opt) s).1 (ledgerOf (trace env (main H opt) s)) ∧
    (trace env (main H opt) s).length ≤ 8 * rounds + 10 := by
  refine ⟨fun pre x post ht => ?_, (keeps_main H opt).exec env s, ?_⟩
  · exact (keeps_main H opt).allowed env s ht
  · exact Within.length_le (within_main H opt) env s

end Client
