import UdpRouter.Router.Startup
import UdpRouter.Router.System

/-!
# The process in detail

`udp-router` as it runs: `run_actor` with the calls of its start-up, `recv` and `handle_message` as
two steps, and handlers that are dropped when their client goes away. A panic aborts the whole
process. `seen` is what the transition system of `Router.Step` shows of an event.
-/

namespace Router.Process

open Bytes Ebpf Management Mailbox Startup Wire

/-- What `run_actor` is doing. -/
inductive Task
  | starting (p : Startup.Process Unit)
  | receiving
  | handling (call : Nat) (msg : BpfActorMessage)

structure State where
  task : Task
  /-- The kernel runs the program on the interface. -/
  attached : Bool
  maps : BpfMaps
  /-- The channel, and the messages whose `send` waits for room in it. -/
  box : Box (Nat × BpfActorMessage)
  /-- Calls whose handler has neither returned nor been dropped. -/
  pending : List (Nat × Request)
  answers : List (Nat × RouterStatistics)
  next : Nat

def State.init (opt : Opt) (cpus : Nat) : State :=
  ⟨.starting (startup opt), false, .fresh cpus, .empty, [], [], 0⟩

/-- No panic has ended the process. -/
def State.alive (s : State) : Prop := ∀ message, s.task ≠ .starting (.panic message)

inductive Event
  | router (a : Router.Event)
  /-- A call of the start-up, with its reply. -/
  | call (x : (c : Effect) × Reply c)
  | begin
  | recv (call : Nat) (msg : BpfActorMessage)
  | cancel (call : Nat)

/-- An attempt to attach that took. -/
def attaches : (c : Effect) × Reply c → Bool
  | ⟨.attach _ _, r⟩ => isOk r
  | _ => false

def Event.seen : Event → Option Router.Event
  | .router a => some a
  | .call x => if attaches x then some .attach else none
  | .begin => some .start
  | .recv _ _ => none
  | .cancel _ => none

section
variable (e : Endian) (cap : Nat)

inductive Step : State → Event → State → Prop
  | issue {s : State} {r : Request} {b : Box (Nat × BpfActorMessage)} : s.alive →
      Mailbox.Step cap s.box (.post (s.next, BpfActorHandle.message s.next r)) b →
      Step s (.router (.issue s.next r))
        { s with box := b, pending := (s.next, r) :: s.pending, next := s.next + 1 }
  | enqueue {s : State} {call : Nat} {msg : BpfActorMessage} {b : Box (Nat × BpfActorMessage)} :
      s.alive → Mailbox.Step cap s.box (.enqueue (call, msg)) b →
      Step s (.router (.enqueue call msg)) { s with box := b }
  | ret {s : State} {call : Nat} {r : Request} {res : Response} : s.alive →
      (call, r) ∈ s.pending → (call, BpfActorHandle.message call r) ∉ s.box.waiting →
      ManagementServer.response (s.answers.lookup call) r = some res →
      Step s (.router (.ret call res)) { s with pending := s.pending.erase (call, r) }
  /-- The handler is dropped where it waits, and with it a message that is not sent yet. -/
  | cancel {s : State} {call : Nat} : s.alive → call ∈ s.pending.map Prod.fst →
      Step s (.cancel call)
        { s with
          box := ⟨s.box.waiting.filter fun x => x.1 ≠ call, s.box.queue⟩
          pending := s.pending.filter fun p => p.1 ≠ call }
  | call {s : State} {c : Effect} {k : Reply c → Startup.Process Unit} {r : Reply c} :
      s.task = .starting (.call c k) →
      Step s (.call ⟨c, r⟩)
        { s with task := .starting (k r), attached := s.attached || attaches ⟨c, r⟩ }
  | begin {s : State} : s.task = .starting (.done ()) → Step s .begin { s with task := .receiving }
  | recv {s : State} {call : Nat} {msg : BpfActorMessage} {b : Box (Nat × BpfActorMessage)} :
      s.task = .receiving → Mailbox.Step cap s.box (.take (call, msg)) b →
      Step s (.recv call msg) { s with task := .handling call msg, box := b }
  | handle {s : State} {call : Nat} {msg : BpfActorMessage} {maps : BpfMaps}
      {answer : Option (Nat × RouterStatistics)} :
      s.task = .handling call msg → handleMessage s.maps msg = some (maps, answer) →
      Step s (.router (.handle call msg answer))
        { s with task := .receiving, maps := maps, answers := answer.toList ++ s.answers }
  | packet {s : State} {cpu : Nat} {f : Frame} {v : XdpAction} {c : XdpContext} : s.alive →
      s.attached = true → udpRouter e ⟨cpu, f, s.maps⟩ = some (v, c) →
      Step s (.router (.packet cpu s.maps f v c.data)) { s with maps := c.maps }

end

/-- The message that has been received and is not handled yet. -/
def Task.inHand : Task → List (Nat × BpfActorMessage)
  | .handling call msg => [(call, msg)]
  | _ => []

/-- The events that the transition system of the router shows. -/
def seen (evs : List Event) : List Router.Event := evs.filterMap Event.seen

end Router.Process
