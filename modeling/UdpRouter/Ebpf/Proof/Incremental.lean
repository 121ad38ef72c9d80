import UdpRouter.Ebpf.Main
import UdpRouter.Lib.OnesComplement
import Mathlib.Data.List.GetD

/-!
# One checksum patch

`update_udp_checksum` replaces one word under a checksum with two's-complement arithmetic, where
RFC 1624 asks for one's-complement. A patch keeps a checksum valid exactly when the subtraction
and the addition wrap both or neither (`update_verifies_iff`): a wrap of one of them alone is a
carry that is not brought round. `incremental_iff` says so for one change and for any sequence.
-/

namespace Ebpf

open OnesComplement

/-! ## Words and their checksum -/

/-- The words and the checksum add up to all ones. -/
def Verifies (ws : List (BitVec 16)) (csum : BitVec 16) : Prop :=
  sum (ws.map BitVec.toNat ++ [csum.toNat]) = 65535

instance (ws : List (BitVec 16)) (csum : BitVec 16) : Decidable (Verifies ws csum) :=
  inferInstanceAs (Decidable (_ = _))

/-- The complement of the folded sum. -/
def checksumOf (ws : List (BitVec 16)) : BitVec 16 :=
  BitVec.ofNat 16 (checksum (ws.map BitVec.toNat))

/-- The ordinary sum of words. -/
def total (ws : List (BitVec 16)) : Nat := (ws.map BitVec.toNat).sum

theorem toNat_words_lt (ws : List (BitVec 16)) : ∀ w ∈ ws.map BitVec.toNat, w < 65536 := by
  intro w hw
  obtain ⟨x, -, rfl⟩ := List.mem_map.1 hw
  exact x.isLt

theorem verifies_iff (ws : List (BitVec 16)) (csum : BitVec 16) : Verifies ws csum ↔
    0 < total ws + csum.toNat ∧ (total ws + csum.toNat) % 65535 = 0 := by
  have h : ∀ w ∈ ws.map BitVec.toNat ++ [csum.toNat], w < 65536 := by
    intro w hw
    rcases List.mem_append.1 hw with hw | hw
    · exact toNat_words_lt ws w hw
    · exact List.mem_singleton.1 hw ▸ csum.isLt
  rw [Verifies, sum_eq_max_iff h, List.sum_append, List.sum_singleton, total]

theorem verifies_checksumOf (ws : List (BitVec 16)) : Verifies ws (checksumOf ws) := by
  have hws : ∀ w ∈ ws.map BitVec.toNat ++ [], w < 65536 := by
    rw [List.append_nil]
    exact toNat_words_lt ws
  have h := sum_checksum hws
  have hlt : checksum (ws.map BitVec.toNat) < 65536 := by unfold checksum; omega
  rw [List.append_nil] at h
  rwa [Verifies, checksumOf, BitVec.toNat_ofNat, Nat.mod_eq_of_lt hlt]

theorem total_set {ws : List (BitVec 16)} {i : Nat} (hi : i < ws.length) (new : BitVec 16) :
    total (ws.set i new) + ws[i].toNat = total ws + new.toNat := by
  induction ws generalizing i with
  | nil => simp at hi
  | cons w ws ih =>
    cases i with
    | zero => simp [total]; omega
    | succ i =>
      have := ih (i := i) (by simpa using hi)
      simp only [total, List.set_cons_succ, List.map_cons, List.sum_cons,
        List.getElem_cons_succ] at this ⊢
      omega

/-! ## One change -/

/-- The subtraction and the addition of the patch wrap both or neither. -/
def WrapsCancel (csum old new : BitVec 16) : Prop :=
  old.toNat ≤ (~~~csum).toNat + new.toNat ∧ (~~~csum).toNat + new.toNat < old.toNat + 65536

instance (csum old new : BitVec 16) : Decidable (WrapsCancel csum old new) :=
  inferInstanceAs (Decidable (_ ∧ _))

theorem toNat_updateUdpChecksum (csum old new : BitVec 16) :
    (updateUdpChecksum csum old new).toNat =
      65535 - ((~~~csum).toNat + (65536 - old.toNat) + new.toNat) % 65536 := by
  rw [updateUdpChecksum, BitVec.toNat_not, BitVec.toNat_add, BitVec.toNat_sub]
  omega

/-- **One patch.** -/
theorem update_verifies_iff {ws : List (BitVec 16)} {csum : BitVec 16} (h : Verifies ws csum)
    {i : Nat} (hi : i < ws.length) (new : BitVec 16) :
    Verifies (ws.set i new) (updateUdpChecksum csum ws[i] new) ↔ WrapsCancel csum ws[i] new := by
  have ht := total_set hi new
  have hn : (~~~csum).toNat = 65535 - csum.toNat := BitVec.toNat_not
  have hc := csum.isLt
  have ho := ws[i].isLt
  have hw := new.isLt
  rw [verifies_iff] at h ⊢
  rw [toNat_updateUdpChecksum, WrapsCancel, hn]
  generalize ws[i].toNat = old at *
  omega

/-! ## Any sequence of changes -/

/-- A change puts a word at a position and patches the checksum. -/
def update (s : List (BitVec 16) × BitVec 16) (c : Nat × BitVec 16) :
    List (BitVec 16) × BitVec 16 :=
  (s.1.set c.1 c.2, updateUdpChecksum s.2 (s.1.getD c.1 0) c.2)

/-- The checksum is valid before the changes and after each of them. -/
def KeepsValid : List (BitVec 16) × BitVec 16 → List (Nat × BitVec 16) → Prop
  | s, [] => Verifies s.1 s.2
  | s, c :: cs => Verifies s.1 s.2 ∧ KeepsValid (update s c) cs

/-- The wraps cancel in each patch. -/
def EachCancels : List (BitVec 16) × BitVec 16 → List (Nat × BitVec 16) → Prop
  | _, [] => True
  | s, c :: cs => WrapsCancel s.2 (s.1.getD c.1 0) c.2 ∧ EachCancels (update s c) cs

/-- **A sequence of patches.** -/
theorem keepsValid_iff {s : List (BitVec 16) × BitVec 16} (h : Verifies s.1 s.2)
    {cs : List (Nat × BitVec 16)} (hi : ∀ c ∈ cs, c.1 < s.1.length) :
    KeepsValid s cs ↔ EachCancels s cs := by
  induction cs generalizing s with
  | nil => exact iff_of_true h trivial
  | cons c cs ih =>
    have hc := hi c List.mem_cons_self
    have hget : s.1.getD c.1 0 = s.1[c.1] := List.getD_eq_getElem _ _ hc
    have hstep := update_verifies_iff h hc c.2
    rw [← hget] at hstep
    have hrest : ∀ d ∈ cs, d.1 < (update s c).1.length := fun d hd => by
      rw [update, List.length_set]
      exact hi d (List.mem_cons_of_mem c hd)
    rw [KeepsValid, EachCancels]
    refine ⟨fun hk => ?_, fun hk => ?_⟩
    · obtain ⟨-, hk⟩ := hk
      have hv : Verifies (update s c).1 (update s c).2 := by
        cases cs with
        | nil => exact hk
        | cons d ds => exact hk.1
      exact ⟨hstep.1 hv, (ih hv hrest).1 hk⟩
    · obtain ⟨hw, he⟩ := hk
      exact ⟨h, (ih (hstep.2 hw) hrest).2 he⟩

/-- **When the incremental update is that of RFC 1624**: for one change exactly when the wraps
cancel, for any sequence of changes exactly when they do in each. -/
theorem incremental_iff (ws : List (BitVec 16)) :
    (∀ i (hi : i < ws.length) new,
      Verifies (ws.set i new) (updateUdpChecksum (checksumOf ws) ws[i] new) ↔
        WrapsCancel (checksumOf ws) ws[i] new) ∧
    (∀ cs : List (Nat × BitVec 16), (∀ c ∈ cs, c.1 < ws.length) →
      (KeepsValid (ws, checksumOf ws) cs ↔ EachCancels (ws, checksumOf ws) cs)) :=
  have h := verifies_checksumOf ws
  ⟨fun _ hi new => update_verifies_iff h hi new, fun _ hi => keepsValid_iff (s := (_, _)) h hi⟩

/-- The protocol number and one more word: the patch to 65535 wraps once. -/
theorem incremental_counterexample :
    [17#16, 5#16][0] ≠ 0 ∧
      ¬ Verifies ([17#16, 5#16].set 1 65535)
        (updateUdpChecksum (checksumOf [17#16, 5#16]) [17#16, 5#16][1] 65535) := by
  decide

end Ebpf
