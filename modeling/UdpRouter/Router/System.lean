import UdpRouter.Ebpf.Proof.Run
import UdpRouter.Lib.Mailbox
import UdpRouter.Router.Server

/-!
# The router process and its packets

Management calls, the actor's channel, the actor task and the XDP program as one transition
system. `run_actor` first loads and attaches the program and then receives; packets arrive from
the attachment on. A message counts as queued until the actor has handled it, so a capacity covers
both the channel and the message in the actor's hands.
-/

namespace Router

open Bytes Ebpf Management Mailbox Transition Wire

/-- How far `run_actor` is. -/
inductive Phase
  | loading
  | attached
  | receiving
  deriving DecidableEq

structure State where
  phase : Phase
  maps : BpfMaps
  box : Box (Nat × BpfActorMessage)
  /-- Calls that have not returned. -/
  pending : List (Nat × Request)
  /-- The actor's answers, by call. -/
  answers : List (Nat × RouterStatistics)
  /-- The number of calls so far; the next call's name. -/
  next : Nat

def State.init (cpus : Nat) : State := ⟨.loading, .fresh cpus, .empty, [], [], 0⟩

inductive Event
  | issue (call : Nat) (r : Request)
  | enqueue (call : Nat) (msg : BpfActorMessage)
  | ret (call : Nat) (res : Response)
  | attach
  | start
  | handle (call : Nat) (msg : BpfActorMessage) (answer : Option (Nat × RouterStatistics))
  | packet (cpu : Nat) (maps : BpfMaps) (f : Frame) (v : XdpAction) (g : Frame)

section
variable (e : Endian) (cap : Nat)

inductive Step : State → Event → State → Prop
  /-- A client calls; the handler is about to send its message. -/
  | issue {s : State} {r : Request} {b : Box (Nat × BpfActorMessage)} :
      Mailbox.Step cap s.box (.post (s.next, BpfActorHandle.message s.next r)) b →
      Step s (.issue s.next r)
        { s with box := b, pending := (s.next, r) :: s.pending, next := s.next + 1 }
  /-- `sender.send(msg).await` completes. -/
  | enqueue {s : State} {call : Nat} {msg : BpfActorMessage} {b : Box (Nat × BpfActorMessage)} :
      Mailbox.Step cap s.box (.enqueue (call, msg)) b →
      Step s (.enqueue call msg) { s with box := b }
  /-- The handler returns to its client. -/
  | ret {s : State} {call : Nat} {r : Request} {res : Response} :
      (call, r) ∈ s.pending → (call, BpfActorHandle.message call r) ∉ s.box.waiting →
      ManagementServer.response (s.answers.lookup call) r = some res →
      Step s (.ret call res) { s with pending := s.pending.erase (call, r) }
  | attach {s : State} : s.phase = .loading → Step s .attach { s with phase := .attached }
  | start {s : State} : s.phase = .attached → Step s .start { s with phase := .receiving }
  /-- One iteration of the actor's loop. -/
  | handle {s : State} {call : Nat} {msg : BpfActorMessage} {b : Box (Nat × BpfActorMessage)}
      {maps : BpfMaps} {answer : Option (Nat × RouterStatistics)} :
      s.phase = .receiving → Mailbox.Step cap s.box (.take (call, msg)) b →
      handleMessage s.maps msg = some (maps, answer) →
      Step s (.handle call msg answer)
        { s with box := b, maps := maps, answers := answer.toList ++ s.answers }
  /-- The XDP program on an arriving frame. -/
  | packet {s : State} {cpu : Nat} {f : Frame} {v : XdpAction} {c : XdpContext} :
      s.phase ≠ .loading → udpRouter e ⟨cpu, f, s.maps⟩ = some (v, c) →
      Step s (.packet cpu s.maps f v c.data) { s with maps := c.maps }

end

/-! ## What a run did -/

/-- The operation on the channel. -/
def Event.op : Event → Option (Op (Nat × BpfActorMessage))
  | .issue call r => some (.post (call, BpfActorHandle.message call r))
  | .enqueue call msg => some (.enqueue (call, msg))
  | .handle call msg _ => some (.take (call, msg))
  | _ => none

def Event.issued : Event → Option (Nat × Request)
  | .issue call r => some (call, r)
  | _ => none

def ops (evs : List Event) : List (Op (Nat × BpfActorMessage)) := evs.filterMap Event.op

/-- The calls, in their order. -/
def issued (evs : List Event) : List (Nat × Request) := evs.filterMap Event.issued

/-- The messages sent to the channel, in their order. -/
def enqueued (evs : List Event) : List (Nat × BpfActorMessage) := Mailbox.enqueued (ops evs)

/-- The messages the actor has handled, in their order. -/
def handled (evs : List Event) : List (Nat × BpfActorMessage) := Mailbox.taken (ops evs)

end Router
