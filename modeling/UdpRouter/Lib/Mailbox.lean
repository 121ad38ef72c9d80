import UdpRouter.Lib.Transition

/-!
# A bounded mailbox

Senders post entries; an entry waits until the queue has room, in any order among those waiting,
and the receiver takes entries from the head. `History` relates a mailbox to the operations behind
it: what was taken is a prefix of what was enqueued, and nothing posted is lost or doubled
(`history`).
-/

namespace Mailbox

open Transition

variable {α : Type}

/-- The entries that wait for room, and the queue. -/
structure Box (α : Type) where
  waiting : List α
  queue : List α

def Box.empty : Box α := ⟨[], []⟩

inductive Op (α : Type)
  | post (x : α)
  | enqueue (x : α)
  | take (x : α)

inductive Step (cap : Nat) : Box α → Op α → Box α → Prop
  | post {b : Box α} {x : α} : Step cap b (.post x) ⟨x :: b.waiting, b.queue⟩
  | enqueue {b : Box α} {x : α} {w : List α} :
      b.waiting.Perm (x :: w) → b.queue.length < cap → Step cap b (.enqueue x) ⟨w, b.queue ++ [x]⟩
  | take {b : Box α} {x : α} {q : List α} :
      b.queue = x :: q → Step cap b (.take x) ⟨b.waiting, q⟩

/-- The queue never holds more than the capacity. -/
theorem Step.bounded {cap : Nat} {op : Op α} {b b' : Box α} (h : Step cap b op b')
    (hb : b.queue.length ≤ cap) : b'.queue.length ≤ cap := by
  cases h with
  | post => exact hb
  | enqueue _ hroom => simpa using Nat.succ_le_of_lt hroom
  | take hq =>
    rw [hq, List.length_cons] at hb
    exact Nat.le_of_succ_le hb

/-! ## History -/

def Op.posted : Op α → Option α
  | .post x => some x
  | _ => none

def Op.enqueued : Op α → Option α
  | .enqueue x => some x
  | _ => none

def Op.taken : Op α → Option α
  | .take x => some x
  | _ => none

def posted (ops : List (Op α)) : List α := ops.filterMap Op.posted
def enqueued (ops : List (Op α)) : List α := ops.filterMap Op.enqueued
def taken (ops : List (Op α)) : List α := ops.filterMap Op.taken

section
variable (ops : List (Op α)) (op : Op α)

@[simp] theorem posted_concat : posted (ops ++ [op]) = posted ops ++ op.posted.toList := by
  cases h : op.posted <;> simp [posted, List.filterMap_append, h]

@[simp] theorem enqueued_concat : enqueued (ops ++ [op]) = enqueued ops ++ op.enqueued.toList := by
  cases h : op.enqueued <;> simp [enqueued, List.filterMap_append, h]

@[simp] theorem taken_concat : taken (ops ++ [op]) = taken ops ++ op.taken.toList := by
  cases h : op.taken <;> simp [taken, List.filterMap_append, h]

end

/-- What holds of a mailbox after the operations `ops`. -/
structure History (cap : Nat) (ops : List (Op α)) (b : Box α) : Prop where
  fifo : enqueued ops = taken ops ++ b.queue
  kept : (posted ops).Perm (enqueued ops ++ b.waiting)
  bounded : b.queue.length ≤ cap

section
variable {cap : Nat} {ops : List (Op α)} {b b' : Box α}

theorem History.empty : History cap ([] : List (Op α)) .empty := ⟨rfl, .refl _, Nat.zero_le _⟩

theorem History.step {op : Op α} (h : History cap ops b) (hs : Step cap b op b') :
    History cap (ops ++ [op]) b' := by
  obtain ⟨hf, hk, hb⟩ := h
  cases hs with
  | @post x =>
    refine ⟨by simpa [Op.enqueued, Op.taken] using hf, ?_, hb⟩
    have hp := (List.perm_append_singleton x _).trans ((hk.cons x).trans List.perm_middle.symm)
    simpa [Op.posted, Op.enqueued] using hp
  | @enqueue x w hw hroom =>
    refine ⟨by simp [Op.enqueued, Op.taken, hf], ?_, by simpa using Nat.succ_le_of_lt hroom⟩
    have hp := hk.trans (hw.append_left _)
    simpa [Op.posted, Op.enqueued] using hp
  | @take x q hq =>
    refine ⟨by simp [Op.enqueued, Op.taken, hf, hq], by simpa [Op.posted, Op.enqueued] using hk, ?_⟩
    rw [hq, List.length_cons] at hb
    exact Nat.le_of_succ_le hb

/-- **Every run**: first in, first out, and nothing lost or doubled. -/
theorem history (h : Run (Step cap) .empty ops b) : History cap ops b :=
  h.invariant .empty fun _ _ _ _ _ hI hs => hI.step hs

theorem History.taken_sublist (h : History cap ops b) : (taken ops).Sublist (enqueued ops) :=
  h.fifo ▸ List.sublist_append_left _ _

theorem History.nodup (h : History cap ops b) (hn : (posted ops).Nodup) : (enqueued ops).Nodup :=
  (List.nodup_append.1 (h.kept.nodup_iff.1 hn)).1

theorem History.posted_of_enqueued (h : History cap ops b) {x : α} (hx : x ∈ enqueued ops) :
    x ∈ posted ops :=
  h.kept.mem_iff.2 (List.mem_append_left _ hx)

/-- What is posted and does not wait has been enqueued. -/
theorem History.enqueued_of_posted (h : History cap ops b) {x : α} (hx : x ∈ posted ops)
    (hw : x ∉ b.waiting) : x ∈ enqueued ops :=
  (List.mem_append.1 (h.kept.mem_iff.1 hx)).resolve_right hw

end

/-! ## Order in a list without repetitions -/

/-- Two entries do not stand in both orders. -/
theorem not_sublist_swap {x y : α} {l : List α} (hn : l.Nodup) (h : [x, y].Sublist l) :
    ¬ [y, x].Sublist l := by
  induction l with
  | nil => cases h
  | cons z l ih =>
    obtain ⟨hz, hn⟩ := List.nodup_cons.1 hn
    intro h'
    have hmem : ∀ {a b : α}, [a, b].Sublist l → b ∈ l := fun hs => hs.subset (by simp)
    cases h with
    | cons _ h =>
      cases h' with
      | cons _ h' => exact ih hn h h'
      | cons_cons _ _ => exact hz (hmem h)
    | cons_cons _ h =>
      cases h' with
      | cons _ h' => exact hz (hmem h')
      | cons_cons _ _ => exact hz (h.subset (by simp))

end Mailbox
