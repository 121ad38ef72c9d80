import UdpRouter.Ebpf.Lookups
import UdpRouter.Router.Process

/-!
# Packets lookup by lookup

The process with the XDP program as it runs on the CPUs. A frame that arrives keeps its CPU until
the program has ended; around each lookup the actor, the clients and the other CPUs may move. The
packets of `Router.Process`, which take no time, do not occur.
-/

namespace Router.Packets

open Bytes Ebpf Startup Wire

/-- A frame as it arrived, and what the program has still to do. -/
structure Job where
  frame : Frame
  rest : Lookups.Reading (Option (XdpAction × Frame))

structure State where
  router : Process.State
  /-- What each CPU works on. -/
  jobs : Nat → Option Job

def State.init (opt : Opt) (cpus : Nat) : State := ⟨.init opt cpus, fun _ => none⟩

def State.put (s : State) (cpu : Nat) (job : Option Job) : State :=
  { s with jobs := Function.update s.jobs cpu job }

def isPacket : Process.Event → Bool
  | .router (.packet _ _ _ _ _) => true
  | _ => false

inductive Event
  | router (a : Process.Event)
  | arrive (cpu : Nat) (f : Frame)
  /-- A lookup, and what it reads. -/
  | lookup (cpu : Nat) (c : Lookups.Lookup) (v : BitVec 64)
  | finish (cpu : Nat) (f : Frame) (v : XdpAction) (g : Frame)

section
variable (e : Endian) (cap : Nat)

inductive Step : State → Event → State → Prop
  | router {s : State} {a : Process.Event} {c : Process.State} : isPacket a = false →
      Process.Step e cap s.router a c → Step s (.router a) { s with router := c }
  | arrive {s : State} {cpu : Nat} {f : Frame} : s.router.alive → s.router.attached = true →
      s.jobs cpu = none →
      Step s (.arrive cpu f) (s.put cpu (some ⟨f, Lookups.udpRouter e f⟩))
  /-- The maps are read as they are now. -/
  | lookup {s : State} {cpu : Nat} {f : Frame} {c : Lookups.Lookup}
      {k : BitVec 64 → Lookups.Reading (Option (XdpAction × Frame))} :
      s.jobs cpu = some ⟨f, .call c k⟩ →
      Step s (.lookup cpu c (Lookups.value s.router.maps c))
        (s.put cpu (some ⟨f, k (Lookups.value s.router.maps c)⟩))
  | finish {s : State} {cpu : Nat} {f g : Frame} {v : XdpAction} :
      s.jobs cpu = some ⟨f, .done (some (v, g))⟩ →
      Step s (.finish cpu f v g) (s.put cpu none)

end

/-- What is left of a run without the packets. -/
def Event.managed : Event → Option Process.Event
  | .router a => some a
  | _ => none

def managed (evs : List Event) : List Process.Event := evs.filterMap Event.managed

end Router.Packets
