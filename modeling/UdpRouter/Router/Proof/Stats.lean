import UdpRouter.Ebpf.Proof.Reach
import UdpRouter.Router.Proof.Invariant

/-!
# The statistics

What a GetStats answer should report is a function of the events before it (`Right`). No step
writes a counter, so every answer is zero (`stats_of_run`), and `stats_iff` says which are right.
-/

namespace Router

open Bytes Ebpf Management Mailbox Transition Wire

/-! ## What should be counted -/

def Event.isPacket : Event → Bool
  | .packet _ _ _ _ _ => true
  | _ => false

/-- A frame sent on for a client: its source is outside the backend network at that moment. -/
def Event.fromClient : Event → Bool
  | .packet _ maps f v _ => v = .tx && !isFromBackendServer maps (source f)
  | _ => false

/-- A frame sent on for a backend server. -/
def Event.fromServer : Event → Bool
  | .packet _ maps f v _ => v = .tx && isFromBackendServer maps (source f)
  | _ => false

/-- The frames processed so far. -/
def processed (evs : List Event) : Nat := evs.countP Event.isPacket

/-- The answer that the events before it call for. -/
structure Right (evs : List Event) (st : RouterStatistics) : Prop where
  total : st.totalPackets.toNat = processed evs
  clientToServer : st.clientToServerPackets.toNat = evs.countP Event.fromClient
  serverToClient : st.serverToClientPackets.toNat = evs.countP Event.fromServer

theorem countP_fromClient_le (evs : List Event) : evs.countP Event.fromClient ≤ processed evs :=
  List.countP_mono_left fun a _ h => by cases a <;> first | rfl | cases h

theorem countP_fromServer_le (evs : List Event) : evs.countP Event.fromServer ≤ processed evs :=
  List.countP_mono_left fun a _ h => by cases a <;> first | rfl | cases h

/-! ## What is answered -/

theorem readMetric_replicate (cpus : Nat) : readMetric (List.replicate cpus 0) = 0 := by
  unfold readMetric
  induction cpus with
  | zero => rfl
  | succ n ih => exact ih

theorem getStats_configured (cpus : Nat) (msgs : List (Nat × BpfActorMessage)) :
    getStats (configured cpus msgs) = ⟨0, 0, 0⟩ := by
  induction msgs using List.reverseRecOn with
  | nil =>
    simp only [configured, List.foldl_nil, getStats, BpfMaps.fresh, readMetric_replicate]
  | append_singleton msgs x ih => rw [configured_concat, getStats_applied, ih]

section
variable {e : Endian} {cap cpus : Nat} {s : State} {pre post : List Event}

/-- **Every answer is zero.** -/
theorem stats_of_run {call i : Nat} {msg : BpfActorMessage} {st : RouterStatistics}
    (h : Run (Step e cap) (.init cpus) (pre ++ .handle call msg (some (i, st)) :: post) s) :
    msg = .getStats i ∧ st = ⟨0, 0, 0⟩ := by
  have ha := handle_of_run h
  cases msg with
  | getStats j =>
    rw [answer, getStats_configured] at ha
    cases ha
    exact ⟨rfl, rfl⟩
  | _ => cases ha

/-- A GetStats message is answered. -/
theorem answer_of_getStats {call i : Nat} {ans : Option (Nat × RouterStatistics)}
    (h : Run (Step e cap) (.init cpus) (pre ++ .handle call (.getStats i) ans :: post) s) :
    ans = some (i, ⟨0, 0, 0⟩) := by
  rw [handle_of_run h, answer, getStats_configured]

theorem right_zero_iff (evs : List Event) : Right evs ⟨0, 0, 0⟩ ↔ processed evs = 0 := by
  constructor
  · intro h
    exact h.total.symm
  · intro h
    have hc := countP_fromClient_le evs
    have hs := countP_fromServer_le evs
    exact ⟨h.symm, (Nat.le_zero.1 (h ▸ hc)).symm, (Nat.le_zero.1 (h ▸ hs)).symm⟩

end

/-- **When the statistics are right.** An answer is right exactly when no frame was processed before
it, and all answers of a run are exactly when no frame was processed before any of them. -/
theorem stats_iff (e : Endian) (cap cpus : Nat) (evs : List Event) (s : State)
    (h : Run (Step e cap) (.init cpus) evs s) :
    (∀ pre call msg i st post, evs = pre ++ .handle call msg (some (i, st)) :: post →
      (Right pre st ↔ processed pre = 0)) ∧
    ((∀ pre call msg i st post, evs = pre ++ .handle call msg (some (i, st)) :: post →
        Right pre st) ↔
      ∀ pre call i ans post, evs = pre ++ .handle call (.getStats i) ans :: post →
        processed pre = 0) := by
  have hone : ∀ pre call msg i st post, evs = pre ++ .handle call msg (some (i, st)) :: post →
      (Right pre st ↔ processed pre = 0) := by
    intro pre call msg i st post he
    subst he
    obtain ⟨-, rfl⟩ := stats_of_run h
    exact right_zero_iff pre
  refine ⟨hone, fun hr pre call i ans post he => ?_, fun hz pre call msg i st post he => ?_⟩
  · subst he
    obtain rfl := answer_of_getStats h
    exact (hone _ _ _ _ _ _ rfl).1 (hr _ _ _ _ _ _ rfl)
  · have hp := he
    subst he
    obtain ⟨rfl, -⟩ := stats_of_run h
    exact (hone _ _ _ _ _ _ rfl).2 (hz _ _ _ _ _ rfl)

/-- One frame, then GetStats. -/
def countedEvents : List Event :=
  [.attach, .packet 0 (.fresh 1) clientFrame .pass clientFrame, .start, .issue 0 .getStats,
    .enqueue 0 (.getStats 0)]

theorem counted_run : Run (Step .little channelCapacity) (.init 1)
    (countedEvents ++ [.handle 0 (.getStats 0) (some (0, ⟨0, 0, 0⟩))])
    ⟨.receiving, .fresh 1, ⟨[], []⟩, [(0, .getStats)], [(0, ⟨0, 0, 0⟩)], 1⟩ := by
  have hp : Step .little channelCapacity ⟨.attached, .fresh 1, .empty, [], [], 0⟩
      (.packet 0 (.fresh 1) clientFrame .pass clientFrame)
      ⟨.attached, .fresh 1, .empty, [], [], 0⟩ :=
    .packet_pass (by decide) 0 (by decide +kernel)
  exact .cons (.attach rfl) (.cons hp (.cons (.start rfl) (deliver_run (by decide) rfl rfl rfl)))

theorem stats_iff_example : ¬ Right countedEvents ⟨0, 0, 0⟩ := by
  have h := stats_iff .little channelCapacity 1 _ _ counted_run
  exact (h.1 countedEvents 0 (.getStats 0) 0 ⟨0, 0, 0⟩ [] rfl).not.2 (by decide)

/-- One frame was processed, and the answer says none. -/
theorem stats_counterexample : ∃ s, Run (Step .little channelCapacity) (.init 1)
      (countedEvents ++ [.handle 0 (.getStats 0) (some (0, ⟨0, 0, 0⟩))]) s ∧
    ¬ Right countedEvents ⟨0, 0, 0⟩ :=
  ⟨_, counted_run, fun h => absurd h.total (by decide)⟩

end Router
