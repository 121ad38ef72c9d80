import Mathlib.Data.List.Basic

/-!
# Readers

A reader takes a value off the front of a text; one that fails takes nothing, so an alternative
starts over. `StopsAt c`: the reader never looks past a `c`. What such a reader makes of the text up
to a `c` and what is read after it make up the whole (`StopsAt.whole_stop`).
-/

/-- A value and the rest of the text. -/
abbrev Reader (τ α : Type) : Type := StateT (List τ) Option α

namespace Reader

variable {τ α β : Type} {r : Reader τ α} {f : α → Reader τ β} {s t : List τ} {c d : τ}

/-- The token `c`. -/
def given [DecidableEq τ] (c : τ) : Reader τ Unit
  | [] => none
  | d :: ds => if d = c then some ((), ds) else none

/-- The longest front whose tokens satisfy `p`. -/
def span (p : τ → Bool) : Reader τ (List τ) := fun s => some (s.takeWhile p, s.dropWhile p)

def ofOption : Option α → Reader τ α
  | some a => pure a
  | none => failure

/-- Read all of a text. -/
def whole (r : Reader τ α) (s : List τ) : Option α :=
  match r s with
  | some (a, []) => some a
  | _ => none

theorem bind_apply : (r >>= f) s = (r s).bind fun x => f x.1 x.2 := rfl

theorem bind_eq_some {b : β} :
    (r >>= f) s = some (b, t) ↔ ∃ a u, r s = some (a, u) ∧ f a u = some (b, t) := by
  rw [bind_apply, Option.bind_eq_some_iff]
  exact Prod.exists

theorem orElse_apply {r' : Reader τ α} : (r <|> r') s = (r s).or (r' s) := by
  change ((r s) <|> (r' s)) = _
  cases r s <;> rfl

theorem whole_eq_some {a : α} : whole r s = some a ↔ r s = some (a, []) := by
  unfold whole
  split
  · rename_i b hr
    simp [hr]
  · rename_i hr
    simpa using hr a

theorem whole_congr {r' : Reader τ α} (h : r s = r' t) : whole r s = whole r' t := by
  rw [whole, whole, h]

theorem given_eq_some [DecidableEq τ] {x : Unit} (h : given c s = some (x, t)) : s = c :: t := by
  cases s with
  | nil => cases h
  | cons y s =>
    simp only [given, Option.ite_none_right_eq_some, Option.some.injEq, Prod.mk.injEq] at h
    obtain ⟨rfl, -, rfl⟩ := h
    rfl

/-! ## Stops -/

/-- What is left is an end of the text, and whether and what is read does not depend on anything
past a `c`. -/
structure StopsAt (c : τ) (r : Reader τ α) : Prop where
  front : ∀ s a u, r s = some (a, u) → u <:+ s
  stops : ∀ s t, r (s ++ c :: t) = (r s).map fun x => (x.1, x.2 ++ c :: t)

theorem stopsAt_pure (a : α) : StopsAt c (pure a : Reader τ α) where
  front := by
    rintro s _ _ h
    cases h
    exact List.suffix_refl s
  stops _ _ := rfl

theorem stopsAt_failure : StopsAt c (failure : Reader τ α) := ⟨nofun, fun _ _ => rfl⟩

theorem stopsAt_ofOption (x : Option α) : StopsAt c (ofOption x : Reader τ α) := by
  cases x with
  | none => exact stopsAt_failure
  | some a => exact stopsAt_pure a

theorem StopsAt.bind (h : StopsAt c r) (hf : ∀ a, StopsAt c (f a)) : StopsAt c (r >>= f) where
  front s b u hb := by
    obtain ⟨a, v, ha, hb⟩ := bind_eq_some.1 hb
    exact ((hf a).front v b u hb).trans (h.front s a v ha)
  stops s t := by
    rw [bind_apply, bind_apply, h.stops s t]
    cases r s with
    | none => rfl
    | some x => exact (hf x.1).stops x.2 t

theorem StopsAt.orElse {r' : Reader τ α} (h : StopsAt c r) (h' : StopsAt c r') :
    StopsAt c (r <|> r') where
  front s a u ha := by
    rw [orElse_apply, Option.or_eq_some_iff] at ha
    rcases ha with ha | ⟨-, ha⟩
    · exact h.front s a u ha
    · exact h'.front s a u ha
  stops s t := by
    rw [orElse_apply, orElse_apply, h.stops s t, h'.stops s t]
    cases r s <;> rfl

theorem stopsAt_given [DecidableEq τ] (h : c ≠ d) : StopsAt c (given d) where
  front s _ u hs := by
    rw [given_eq_some hs]
    exact List.suffix_cons d u
  stops s t := by
    cases s with
    | nil => simp [given, h]
    | cons x s =>
      by_cases hx : x = d <;> simp [given, hx]

theorem stopsAt_span {p : τ → Bool} (h : p c = false) : StopsAt c (span p) where
  front := by
    rintro s _ _ hs
    cases hs
    exact List.dropWhile_suffix p
  stops s t := by
    induction s with
    | nil => simp [span, h]
    | cons x s ih =>
      simp only [span, Option.map_some, Option.some.injEq, Prod.mk.injEq] at ih
      cases hx : p x <;> simp [span, hx, ih.1, ih.2]

/-! ## Whole texts -/

/-- A reader that stops at `c` does not read past it. -/
theorem StopsAt.whole_eq_none (h : StopsAt c r) (s t : List τ) : whole r (s ++ c :: t) = none := by
  rw [whole, h.stops s t]
  cases r s with
  | none => rfl
  | some x => simp

section
variable [DecidableEq τ]

theorem given_bind_cons (f : Reader τ β) (u : List τ) : (do given c; f) (c :: u) = f u := by
  rw [bind_apply, given, if_pos rfl]
  rfl

theorem given_bind_eq_none (f : Reader τ β) (hs : s.head? ≠ some c) : (do given c; f) s = none := by
  cases s with
  | nil => rfl
  | cons x s =>
    rw [bind_apply, given, if_neg fun hx => hs (congrArg some hx)]
    rfl

/-- **Up to a stop and after it.** -/
theorem StopsAt.whole_stop (h : StopsAt c r) (hf : ∀ a, StopsAt c (f a)) (s t : List τ) :
    whole (do let a ← r; given c; f a) (s ++ c :: t) =
      (whole r s).bind fun a => whole (f a) t := by
  rw [whole, bind_apply, h.stops s t, whole]
  rcases r s with _ | ⟨a, _ | ⟨x, u⟩⟩
  · rfl
  · rw [Option.map_some, Option.bind_some, List.nil_append, given_bind_cons]
    rfl
  · rw [Option.map_some, Option.bind_some, List.cons_append]
    by_cases hx : x = c
    · rw [hx, given_bind_cons]
      exact (hf a).whole_eq_none u t
    · rw [given_bind_eq_none _ (by simpa using hx)]
      rfl

/-- Without a stop nothing is read up to it. -/
theorem StopsAt.whole_not_mem (h : StopsAt c r) (hc : c ∉ s) :
    whole (do let a ← r; given c; f a) s = none := by
  rw [whole, bind_apply]
  rcases hr : r s with _ | ⟨a, u⟩
  · rfl
  · have hu : u.head? ≠ some c := fun hm =>
      hc ((h.front s a u hr).mem (List.mem_of_head? hm))
    rw [Option.bind_some, given_bind_eq_none _ hu]

end

end Reader
