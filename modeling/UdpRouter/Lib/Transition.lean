/-!
# Runs of labelled transition systems

`Run step s evs t`: the steps with labels `evs` lead from `s` to `t`. Invariants may speak of the
labels so far (`Run.invariant`); a run splits at any label (`Run.cut`). `Forever step s`: the steps
can go on without end from `s`. `Simulates`: a system whose steps another one follows, some of them
unseen, so that its runs are runs of the other (`Simulates.run`). `Terminates`: every step brings
the system nearer to its end, and where it stops it is done.
-/

namespace Transition

variable {σ ε : Type}

/-- A finite run, extended at its end. -/
inductive Run (step : σ → ε → σ → Prop) (s : σ) : List ε → σ → Prop
  | refl : Run step s [] s
  | tail {evs : List ε} {t u : σ} {a : ε} :
      Run step s evs t → step t a u → Run step s (evs ++ [a]) u

namespace Run

variable {step : σ → ε → σ → Prop} {s t u : σ} {evs evs' : List ε}

theorem single {a : ε} (h : step s a t) : Run step s [a] t := .tail .refl h

theorem trans (h : Run step s evs t) (h' : Run step t evs' u) : Run step s (evs ++ evs') u := by
  induction h' with
  | refl => rwa [List.append_nil]
  | tail _ hs ih =>
    rw [← List.append_assoc]
    exact .tail ih hs

theorem cons {a : ε} (h : step s a t) (h' : Run step t evs u) : Run step s (a :: evs) u :=
  (single h).trans h'

/-- **The invariant rule**, for an invariant of the labels so far and the state. -/
theorem invariant {I : List ε → σ → Prop} (h : Run step s evs t) (h0 : I [] s)
    (hs : ∀ evs t a u, Run step s evs t → I evs t → step t a u → I (evs ++ [a]) u) : I evs t := by
  induction h with
  | refl => exact h0
  | tail hr hst ih => exact hs _ _ _ _ hr ih hst

/-- The image of a run under a map of the states that keeps the steps. -/
theorem map {σ' : Type} {step' : σ' → ε → σ' → Prop} (g : σ → σ')
    (hg : ∀ s a t, step s a t → step' (g s) a (g t)) (h : Run step s evs t) :
    Run step' (g s) evs (g t) := by
  induction h with
  | refl => exact .refl
  | tail _ hst ih => exact .tail ih (hg _ _ _ hst)

theorem of_append (h : Run step s (evs ++ evs') u) :
    ∃ t, Run step s evs t ∧ Run step t evs' u := by
  generalize he : evs ++ evs' = l at h
  induction h generalizing evs' with
  | refl =>
    obtain ⟨rfl, rfl⟩ := List.append_eq_nil_iff.1 he
    exact ⟨s, .refl, .refl⟩
  | @tail l t u a hr hst ih =>
    rcases List.eq_nil_or_concat evs' with rfl | ⟨evs'', b, rfl⟩
    · rw [List.append_nil] at he
      exact ⟨u, he ▸ .tail hr hst, .refl⟩
    · rw [List.concat_eq_append, ← List.append_assoc] at he
      obtain ⟨hl, hb⟩ := List.append_inj' he rfl
      cases hb
      obtain ⟨m, h1, h2⟩ := ih hl
      exact ⟨m, h1, List.concat_eq_append ▸ .tail h2 hst⟩

/-- The step of a run at one of its labels. -/
theorem cut {pre post : List ε} {a : ε} (h : Run step s (pre ++ a :: post) u) :
    ∃ t t', Run step s pre t ∧ step t a t' ∧ Run step t' post u := by
  rw [List.append_cons] at h
  obtain ⟨t', h1, h2⟩ := h.of_append
  generalize he : pre ++ [a] = l at h1
  cases h1 with
  | refl => simp at he
  | @tail evs t _ b hr hst =>
    obtain ⟨rfl, hb⟩ := List.append_inj' he rfl
    cases hb
    exact ⟨t, t', hr, hst, h2⟩

end Run

/-! ## Infinite runs -/

variable {step : σ → ε → σ → Prop} {s : σ}

def Forever (step : σ → ε → σ → Prop) (s : σ) : Prop :=
  ∃ p : Nat → σ, p 0 = s ∧ ∀ n, ∃ a, step (p n) a (p (n + 1))

/-- An infinite run has finite runs of every length. -/
theorem Forever.run (h : Forever step s) (n : Nat) :
    ∃ evs t, Run step s evs t ∧ evs.length = n := by
  obtain ⟨p, rfl, hp⟩ := h
  suffices h : ∃ evs, Run step (p 0) evs (p n) ∧ evs.length = n by
    obtain ⟨evs, hr, hl⟩ := h
    exact ⟨evs, p n, hr, hl⟩
  induction n with
  | zero => exact ⟨[], .refl, rfl⟩
  | succ n ih =>
    obtain ⟨evs, hr, hl⟩ := ih
    obtain ⟨a, ha⟩ := hp n
    exact ⟨evs ++ [a], hr.tail ha, by simp [hl]⟩

/-- **The coinduction rule**: a property that always allows a step to where it holds again. -/
theorem Forever.of_preserved {P : σ → Prop} (h : ∀ s, P s → ∃ a t, step s a t ∧ P t) (hs : P s) :
    Forever step s := by
  have hnext : ∀ x : {s // P s}, ∃ y : {s // P s}, ∃ a, step x.1 a y.1 := by
    rintro ⟨s, hs⟩
    obtain ⟨a, t, hst, ht⟩ := h s hs
    exact ⟨⟨t, ht⟩, a, hst⟩
  obtain ⟨g, hg⟩ := Classical.axiomOfChoice hnext
  let q : Nat → {s // P s} := fun n => Nat.rec ⟨s, hs⟩ (fun _ x => g x) n
  exact ⟨fun n => (q n).1, rfl, fun n => hg (q n)⟩

/-- Runs of bounded length come to an end. -/
theorem exists_stuck_of_bounded {n : Nat} (h : ∀ evs t, Run step s evs t → evs.length ≤ n) :
    ∃ evs t, Run step s evs t ∧ ∀ a u, ¬ step t a u := by
  induction n generalizing s with
  | zero =>
    refine ⟨[], s, .refl, fun a u hst => ?_⟩
    simpa using h [a] u (.single hst)
  | succ n ih =>
    by_cases hmax : ∀ a u, ¬ step s a u
    · exact ⟨[], s, .refl, hmax⟩
    · obtain ⟨a, u, hst⟩ : ∃ a u, step s a u := by simpa using hmax
      obtain ⟨evs, t, hr, hd⟩ := ih fun evs t hr => by simpa using h (a :: evs) t (.cons hst hr)
      exact ⟨a :: evs, t, .cons hst hr, hd⟩

/-! ## Simulation -/

section
variable {σ' ε' : Type} {step' : σ' → ε' → σ' → Prop} {vis : ε → Option ε'} {R : σ → σ' → Prop}

/-- Related states stay related: a step with a visible label is followed by one with that label,
and any other step by none. -/
structure Simulates (step : σ → ε → σ → Prop) (step' : σ' → ε' → σ' → Prop)
    (vis : ε → Option ε') (R : σ → σ' → Prop) : Prop where
  hidden : ∀ {s a t u}, R s u → step s a t → vis a = none → R t u
  visible : ∀ {s a t u b}, R s u → step s a t → vis a = some b → ∃ v, step' u b v ∧ R t v

/-- **The visible labels of a run** are the labels of a run of the other system. -/
theorem Simulates.run (h : Simulates step step' vis R) {t : σ} {u : σ'} {evs : List ε}
    (hr : Run step s evs t) (hu : R s u) : ∃ v, Run step' u (evs.filterMap vis) v ∧ R t v := by
  induction hr with
  | refl => exact ⟨u, .refl, hu⟩
  | @tail evs t t' a _ hst ih =>
    obtain ⟨v, hv, hR⟩ := ih
    rw [List.filterMap_append]
    cases hvis : vis a with
    | none =>
      refine ⟨v, ?_, h.hidden hR hst hvis⟩
      simpa [hvis] using hv
    | some b =>
      obtain ⟨w, hw, hR'⟩ := h.visible hR hst hvis
      refine ⟨w, ?_, hR'⟩
      simpa [hvis] using hv.tail hw

end

/-! ## Termination -/

/-- Where `I` holds every step keeps it and decreases `μ`, and a state without a step is `Done`. -/
structure Terminates (step : σ → ε → σ → Prop) (I : σ → Prop) (μ : σ → Nat) (Done : σ → Prop) :
    Prop where
  keeps : ∀ {s a t}, I s → step s a t → I t
  decreases : ∀ {s a t}, I s → step s a t → μ t < μ s
  progress : ∀ {s}, I s → (∀ a t, ¬ step s a t) → Done s

namespace Terminates

variable {I : σ → Prop} {μ : σ → Nat} {Done : σ → Prop} {t : σ} {evs : List ε}

theorem run_keeps (h : Terminates step I μ Done) (hs : I s) (hr : Run step s evs t) : I t := by
  induction hr with
  | refl => exact hs
  | tail _ hst ih => exact h.keeps ih hst

/-- **No run is longer** than the measure of its start. -/
theorem length_le (h : Terminates step I μ Done) (hs : I s) (hr : Run step s evs t) :
    evs.length + μ t ≤ μ s := by
  induction hr with
  | refl => simp
  | tail hr hst ih =>
    have := h.decreases (h.run_keeps hs hr) hst
    simp only [List.length_append, List.length_singleton]
    omega

/-- **A run that cannot go on** is done. -/
theorem done (h : Terminates step I μ Done) (hs : I s) (hr : Run step s evs t)
    (hmax : ∀ a u, ¬ step t a u) : Done t :=
  h.progress (h.run_keeps hs hr) hmax

/-- There is such a run. -/
theorem exists_stuck (h : Terminates step I μ Done) (hs : I s) :
    ∃ evs t, Run step s evs t ∧ ∀ a u, ¬ step t a u := by
  induction hn : μ s using Nat.strongRecOn generalizing s with
  | ind n ih =>
    by_cases hmax : ∀ a u, ¬ step s a u
    · exact ⟨[], s, .refl, hmax⟩
    · obtain ⟨a, u, hst⟩ : ∃ a u, step s a u := by simpa using hmax
      obtain ⟨evs, t, hr, hd⟩ := ih _ (hn ▸ h.decreases hs hst) (h.keeps hs hst) rfl
      exact ⟨a :: evs, t, .cons hst hr, hd⟩

end Terminates

end Transition
