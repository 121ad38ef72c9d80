import UdpRouter.Ebpf.Main
import UdpRouter.Router.Server

/-!
# What a message does to the maps

`handleMessage_eq`: a message never makes the actor panic, and it changes at most the map of its
own kind (`entry_applied`). `InForce maps r`: the XDP program with the maps `maps` judges and
rewrites frames with the value of the request `r`; the entry of its kind decides it
(`inForce_of_entry`).
-/

namespace Router

open Bytes Ebpf Management

/-- The configuration maps. -/
inductive Kind
  | localNet
  | backendNet
  | gatewayMac
  deriving DecidableEq

/-- The value of a configuration map. -/
def entry (maps : BpfMaps) : Kind → BitVec 64
  | .localNet => read maps.localNetAndMask 0
  | .backendNet => read maps.backendNetAndMask 0
  | .gatewayMac => read maps.gatewayMacAddress 0

/-- The map a message writes, and the value. -/
def BpfActorMessage.write : BpfActorMessage → Option (Kind × BitVec 64)
  | .getStats _ => none
  | .setLocalNetAndMask net mask => some (.localNet, netAndMask net mask)
  | .setBackendNetAndMask net mask => some (.backendNet, netAndMask net mask)
  | .setGatewayMacAddress mac => some (.gatewayMac, mac)

/-- The maps with one entry replaced. -/
def setEntry (maps : BpfMaps) (v : BitVec 64) : Kind → BpfMaps
  | .localNet => { maps with localNetAndMask := Vector.replicate 1 v }
  | .backendNet => { maps with backendNetAndMask := Vector.replicate 1 v }
  | .gatewayMac => { maps with gatewayMacAddress := Vector.replicate 1 v }

theorem writeMap_zero (m : BpfArray) (v : BitVec 64) :
    writeMap m 0 v = some (Vector.replicate 1 v) := by
  rw [writeMap, BpfArray.set, dif_pos Nat.zero_lt_one, Option.some.injEq]
  ext i hi
  obtain rfl : i = 0 := by omega
  simp

theorem read_replicate (v : BitVec 64) : read (Vector.replicate 1 v) 0 = v := rfl

theorem entry_setEntry (maps : BpfMaps) (v : BitVec 64) (k k' : Kind) :
    entry (setEntry maps v k') k = if k' = k then v else entry maps k := by
  cases k' <;> cases k <;> first | exact read_replicate v | rfl

/-- The maps after a message. -/
def applied (maps : BpfMaps) (msg : BpfActorMessage) : BpfMaps :=
  match msg.write with
  | some (k, v) => setEntry maps v k
  | none => maps

/-- What a message answers, and to whom. -/
def answer (maps : BpfMaps) : BpfActorMessage → Option (Nat × RouterStatistics)
  | .getStats respondTo => some (respondTo, getStats maps)
  | _ => none

/-- **Handling a message** never fails. -/
theorem handleMessage_eq (maps : BpfMaps) (msg : BpfActorMessage) :
    handleMessage maps msg = some (applied maps msg, answer maps msg) := by
  cases msg with
  | getStats respondTo => rfl
  | setLocalNetAndMask net mask =>
    rw [handleMessage, setLocalNetMask, writeMap_zero]
    rfl
  | setBackendNetAndMask net mask =>
    rw [handleMessage, setBackendNetMask, writeMap_zero]
    rfl
  | setGatewayMacAddress mac =>
    rw [handleMessage, setGatewayMacAddress, writeMap_zero]
    rfl

/-- **Only its own map.** -/
theorem entry_applied (maps : BpfMaps) (msg : BpfActorMessage) (k : Kind) :
    entry (applied maps msg) k =
      match msg.write with
      | some (k', v) => if k' = k then v else entry maps k
      | none => entry maps k := by
  unfold applied
  cases msg.write with
  | none => rfl
  | some p => exact entry_setEntry maps p.2 k p.1

/-- No message changes a counter. -/
theorem getStats_applied (maps : BpfMaps) (msg : BpfActorMessage) :
    getStats (applied maps msg) = getStats maps := by
  cases msg <;> rfl

@[simp] theorem entry_fresh (cpus : Nat) (k : Kind) : entry (.fresh cpus) k = 0 := by
  cases k <;> exact read_zero 0

/-! ## Several messages -/

/-- The value a message writes to the map of the kind `k`. -/
def BpfActorMessage.written (k : Kind) (msg : BpfActorMessage) : Option (BitVec 64) :=
  match msg.write with
  | some (k', v) => if k' = k then some v else none
  | none => none

def handleAll (maps : BpfMaps) (msgs : List BpfActorMessage) : Option BpfMaps :=
  msgs.foldlM (fun maps msg => (handleMessage maps msg).map Prod.fst) maps

theorem handleAll_eq (maps : BpfMaps) (msgs : List BpfActorMessage) :
    handleAll maps msgs = some (msgs.foldl applied maps) := by
  induction msgs generalizing maps with
  | nil => rfl
  | cons msg msgs ih =>
    rw [List.foldl_cons, ← ih, handleAll, List.foldlM_cons, handleMessage_eq]
    rfl

theorem entry_applied_written (maps : BpfMaps) (msg : BpfActorMessage) (k : Kind) :
    entry (applied maps msg) k = (msg.written k).getD (entry maps k) := by
  rw [entry_applied, BpfActorMessage.written]
  cases msg.write with
  | none => rfl
  | some p => by_cases h : p.1 = k <;> simp [h]

/-- **The last message of its kind decides an entry.** -/
theorem entry_foldl_applied (maps : BpfMaps) (msgs : List BpfActorMessage) (k : Kind) :
    entry (msgs.foldl applied maps) k =
      (msgs.filterMap (BpfActorMessage.written k)).getLast?.getD (entry maps k) := by
  induction msgs using List.reverseRecOn with
  | nil => rfl
  | append_singleton msgs msg ih =>
    rw [List.foldl_append, List.foldl_cons, List.foldl_nil, entry_applied_written,
      List.filterMap_append]
    cases hw : msg.written k with
    | none => simp [hw, ih]
    | some v => simp [hw]

/-! ## Requests in force -/

/-- The map a request is for. -/
def kindOf : Request → Option Kind
  | .getStats => none
  | .setLocalNetAndMask _ _ => some .localNet
  | .setBackendNetAndMask _ _ => some .backendNet
  | .setGatewayMacAddress _ => some .gatewayMac

/-- Frames are judged and rewritten with the value of the request. -/
def InForce (maps : BpfMaps) : Request → Prop
  | .getStats => True
  | .setLocalNetAndMask net mask => ∀ ip, isFromLocalNetwork maps ip = ((ip &&& mask) == net)
  | .setBackendNetAndMask net mask => ∀ ip, isFromBackendServer maps ip = ((ip &&& mask) == net)
  | .setGatewayMacAddress mac => getGatewayMacAddress maps = bytesAt (toBeBytes (n := 8) mac) 2 6

theorem netAndMask_net (net mask : BitVec 32) : (netAndMask net mask >>> 32).setWidth 32 = net := by
  refine BitVec.eq_of_getLsbD_eq fun i hi => ?_
  simp [netAndMask, hi, show 32 + i < 64 by omega, show i < 64 by omega]

theorem netAndMask_mask (net mask : BitVec 32) :
    (netAndMask net mask &&& 0xffffffff#64).setWidth 32 = mask := by
  have hlow : (netAndMask net mask).setWidth 32 = mask := by
    refine BitVec.eq_of_getLsbD_eq fun i hi => ?_
    simp [netAndMask, hi]
  rw [BitVec.setWidth_and, hlow]
  exact BitVec.and_allOnes

theorem write_message (call : Nat) (r : Request) :
    ((BpfActorHandle.message call r).write).map Prod.fst = kindOf r := by
  cases r <;> rfl

/-- The entry of its kind puts a request in force. -/
theorem inForce_of_entry {maps : BpfMaps} (call : Nat) {r : Request} {k : Kind} {v : BitVec 64}
    (hw : (BpfActorHandle.message call r).write = some (k, v)) (he : entry maps k = v) :
    InForce maps r := by
  subst he
  cases r with
  | getStats => trivial
  | setLocalNetAndMask net mask =>
    obtain ⟨rfl, he⟩ := Prod.mk.inj (Option.some.inj hw)
    intro ip
    rw [isFromLocalNetwork, show read maps.localNetAndMask 0 = _ from he.symm]
    simp only [netAndMask_net, netAndMask_mask]
  | setBackendNetAndMask net mask =>
    obtain ⟨rfl, he⟩ := Prod.mk.inj (Option.some.inj hw)
    intro ip
    rw [isFromBackendServer, show read maps.backendNetAndMask 0 = _ from he.symm]
    simp only [netAndMask_net, netAndMask_mask]
  | setGatewayMacAddress mac =>
    obtain ⟨rfl, he⟩ := Prod.mk.inj (Option.some.inj hw)
    rw [InForce, getGatewayMacAddress, show read maps.gatewayMacAddress 0 = _ from he.symm]

end Router
