import Mathlib.Order.Lattice.Nat

/-!
# Programs that call out

`Program ε ρ α`: a program that ends with a value, panics, or calls its environment with some
`c : ε` and goes on with the reply in `ρ c`. `exec` runs it against an environment with a state.
`Keeps`: an account of the calls and their replies that a program keeps whatever is replied, with
rules for its parts; `Keeps.exec` says what it means for a run, `Keeps.after` for what is left of a
program after some calls. `Along cs`: the calls are those of a list, in its order. `Sampled`: the
replies of an environment that changes between the calls. `Within n`: no run makes more than `n`
calls; every reply brings such a program nearer to its end (`rank_lt`).
-/

inductive Program (ε : Type) (ρ : ε → Type) (α : Type)
  | done (a : α)
  | panic (message : String)
  | call (c : ε) (k : ρ c → Program ε ρ α)

namespace Program

variable {ε : Type} {ρ : ε → Type} {α β σ : Type}

def andThen : Program ε ρ α → (α → Program ε ρ β) → Program ε ρ β
  | .done a, f => f a
  | .panic message, _ => .panic message
  | .call c k, f => .call c fun r => (k r).andThen f

instance : Monad (Program ε ρ) where
  pure := done
  bind := andThen

/-- Call out and return the reply. -/
def ask (c : ε) : Program ε ρ (ρ c) := .call c .done

/-- A result, or the panic that takes its place. -/
def ofExcept : Except String α → Program ε ρ α
  | .ok a => .done a
  | .error message => .panic message

/-- Run the program; `h` answers a call and changes the environment. -/
def exec (h : (c : ε) → σ → ρ c × σ) : Program ε ρ α → σ → Except String α × σ
  | .done a, s => (.ok a, s)
  | .panic message, s => (.error message, s)
  | .call c k, s => exec h (k (h c s).1) (h c s).2

/-- The calls of a run, in their order. -/
def calls (h : (c : ε) → σ → ρ c × σ) : Program ε ρ α → σ → List ε
  | .done _, _ => []
  | .panic _, _ => []
  | .call c k, s => c :: calls h (k (h c s).1) (h c s).2

/-- The calls with their replies. -/
def trace (h : (c : ε) → σ → ρ c × σ) : Program ε ρ α → σ → List ((c : ε) × ρ c)
  | .done _, _ => []
  | .panic _, _ => []
  | .call c k, s => ⟨c, (h c s).1⟩ :: trace h (k (h c s).1) (h c s).2

theorem exists_error_iff {x : Except String α} :
    (∃ message, x = .error message) ↔ ¬ ∃ a, x = .ok a := by
  cases x <;> simp

section
variable {h : (c : ε) → σ → ρ c × σ} {s : σ}

@[simp] theorem exec_pure (a : α) : exec h (pure a : Program ε ρ α) s = (.ok a, s) := rfl

@[simp] theorem ofExcept_ok_bind (a : α) (f : α → Program ε ρ β) :
    (ofExcept (.ok a) >>= f) = f a := rfl

theorem exec_ofExcept (x : Except String α) :
    exec h (ofExcept x : Program ε ρ α) s = (x, s) := by
  cases x <;> rfl

/-- One part after the other. -/
theorem exec_bind (x : Program ε ρ α) (f : α → Program ε ρ β) (s : σ) :
    exec h (x >>= f) s =
      match exec h x s with
      | (.ok a, t) => exec h (f a) t
      | (.error message, t) => (.error message, t) := by
  induction x generalizing s with
  | done a => rfl
  | panic message => rfl
  | call c k ih => exact ih _ _

/-- The first part's calls come first. -/
theorem prefix_calls_bind (x : Program ε ρ α) (f : α → Program ε ρ β) (s : σ) :
    calls h x s <+: calls h (x >>= f) s := by
  induction x generalizing s with
  | done a => exact List.nil_prefix
  | panic message => exact List.nil_prefix
  | call c k ih => exact (List.prefix_cons_inj c).2 (ih _ _)

end

/-! ## Accounts -/

/-- What may be called, and what a call and its reply add to the account. -/
structure Account (ε : Type) (ρ : ε → Type) (Q : Type) where
  allows : Q → ε → Prop
  enter : Q → (c : ε) → ρ c → Q

section
variable {Q : Type} {A : Account ε ρ Q} {q : Q}

/-- Whatever is replied, every call is allowed when it is made, and the program ends with a result
and an account as in `post`. -/
def Keeps (A : Account ε ρ Q) (post : Except String α → Q → Prop) : Program ε ρ α → Q → Prop
  | .done a, q => post (.ok a) q
  | .panic message, q => post (.error message) q
  | .call c k, q => A.allows q c ∧ ∀ r, Keeps A post (k r) (A.enter q c r)

/-- What the first part must leave for the second. -/
def Continues (A : Account ε ρ Q) (post : Except String β → Q → Prop) (f : α → Program ε ρ β) :
    Except String α → Q → Prop
  | .ok a, q => Keeps A post (f a) q
  | .error message, q => post (.error message) q

/-- **One part after the other.** -/
theorem Keeps.bind {post : Except String β → Q → Prop} {p : Program ε ρ α}
    {f : α → Program ε ρ β} (h : Keeps A (Continues A post f) p q) : Keeps A post (p >>= f) q := by
  induction p generalizing q with
  | done a => exact h
  | panic message => exact h
  | call c k ih => exact ⟨h.1, fun r => ih r (h.2 r)⟩

/-- **What a run keeps.** -/
theorem Keeps.exec {post : Except String α → Q → Prop} {p : Program ε ρ α}
    (h : Keeps A post p q) (env : (c : ε) → σ → ρ c × σ) (s : σ) :
    post (Program.exec env p s).1 ((trace env p s).foldl (fun q x => A.enter q x.1 x.2) q) := by
  induction p generalizing q s with
  | done a => exact h
  | panic message => exact h
  | call c k ih => exact ih _ (h.2 _) _

/-- **Every call of a run** is allowed after those before it. -/
theorem Keeps.allowed {post : Except String α → Q → Prop} {p : Program ε ρ α}
    (h : Keeps A post p q) (env : (c : ε) → σ → ρ c × σ) (s : σ)
    {pre rest : List ((c : ε) × ρ c)} {x : (c : ε) × ρ c}
    (ht : trace env p s = pre ++ x :: rest) :
    A.allows (pre.foldl (fun q x => A.enter q x.1 x.2) q) x.1 := by
  induction p generalizing q s pre with
  | done a => simp [trace] at ht
  | panic message => simp [trace] at ht
  | call c k ih =>
    cases pre with
    | nil =>
      obtain ⟨rfl, -⟩ := List.cons.inj ht
      exact h.1
    | cons y pre =>
      obtain ⟨rfl, hrest⟩ := List.cons.inj ht
      exact ih (env c s).1 (h.2 _) (env c s).2 hrest

end

/-! ## The trace as account -/

/-- Everything called and replied so far. -/
def Account.history (allows : List ((c : ε) × ρ c) → ε → Prop) :
    Account ε ρ (List ((c : ε) × ρ c)) where
  allows := allows
  enter tr c r := tr ++ [⟨c, r⟩]

section
variable {allows : List ((c : ε) × ρ c) → ε → Prop}
  {post : Except String α → List ((c : ε) × ρ c) → Prop} {p : Program ε ρ α}

end

/-! ## What is left -/

/-- A program and what is left of it after some calls. -/
inductive After (p : Program ε ρ α) : List ((c : ε) × ρ c) → Program ε ρ α → Prop
  | refl : After p [] p
  | tail {tr : List ((c : ε) × ρ c)} {c : ε} {k : ρ c → Program ε ρ α} (r : ρ c) :
      After p tr (.call c k) → After p (tr ++ [⟨c, r⟩]) (k r)

/-- Where a call of the past was made. -/
theorem After.cut {p p' : Program ε ρ α} {pre rest : List ((c : ε) × ρ c)} {x : (c : ε) × ρ c}
    (h : After p (pre ++ x :: rest) p') : ∃ k, After p pre (.call x.1 k) := by
  generalize ht : pre ++ x :: rest = tr at h
  induction h generalizing rest with
  | refl => simp at ht
  | @tail tr c k r h ih =>
    rcases List.eq_nil_or_concat rest with rfl | ⟨rest, y, rfl⟩
    · obtain ⟨rfl, hx⟩ := List.append_inj' ht rfl
      obtain ⟨rfl, -⟩ := List.cons.inj hx
      exact ⟨k, h⟩
    · rw [List.concat_eq_append, ← List.cons_append, ← List.append_assoc] at ht
      exact ih (List.append_inj' ht rfl).1

/-- What is left keeps the account. -/
theorem Keeps.after {allows : List ((c : ε) × ρ c) → ε → Prop}
    {post : Except String α → List ((c : ε) × ρ c) → Prop} {p p' : Program ε ρ α}
    {tr : List ((c : ε) × ρ c)} (h : Keeps (.history allows) post p [])
    (ha : After p tr p') : Keeps (.history allows) post p' tr := by
  induction ha with
  | refl => exact h
  | tail r _ ih => exact ih.2 r

/-- After replies that the environment `h` gives, what is left ends in `h` as the whole. -/
theorem After.exec {h : (c : ε) → ρ c} {p p' : Program ε ρ α} {tr : List ((c : ε) × ρ c)}
    (ha : After p tr p') (hr : ∀ x ∈ tr, x.2 = h x.1) :
    Program.exec (fun c (s : σ) => (h c, s)) p = Program.exec (fun c s => (h c, s)) p' := by
  induction ha with
  | refl => rfl
  | @tail tr c k r _ ih =>
    obtain rfl : r = h c := hr ⟨c, r⟩ (by simp)
    exact ih fun x hx => hr x (List.mem_append_left _ hx)

/-- What is left, run to its end. -/
theorem After.trace {p p' : Program ε ρ α} {tr : List ((c : ε) × ρ c)} (ha : After p tr p')
    (h : (c : ε) → σ → ρ c × σ) (s : σ) :
    After p (tr ++ Program.trace h p' s) (ofExcept (Program.exec h p' s).1) := by
  induction p' generalizing tr s with
  | done a =>
    rw [Program.trace, List.append_nil]
    exact ha
  | panic message =>
    rw [Program.trace, List.append_nil]
    exact ha
  | call c k ih =>
    rw [Program.trace, List.append_cons]
    exact ih _ (ha.tail _) _

/-! ## Replies over time -/

section
variable {ι : Type} {env : List ι → (c : ε) → ρ c} {q q' q'' : List ι}
  {tr : List ((c : ε) × ρ c)}

/-- The replies are those of an environment that depends on a log, each at its own time while the
log grows from `q` to `q'`. -/
def Sampled (env : List ι → (c : ε) → ρ c) :
    List ι → List ((c : ε) × ρ c) → List ι → Prop
  | q, [], q' => q <+: q'
  | q, x :: tr, q' => ∃ t, q <+: t ∧ x.2 = env t x.1 ∧ Sampled env t tr q'

theorem Sampled.mono (h : Sampled env q tr q') (hle : q' <+: q'') : Sampled env q tr q'' := by
  induction tr generalizing q with
  | nil => exact h.trans hle
  | cons x tr ih =>
    obtain ⟨t, ht, hx, h⟩ := h
    exact ⟨t, ht, hx, ih h⟩

/-- **One call more.** -/
theorem Sampled.concat (h : Sampled env q tr q') (c : ε) :
    Sampled env q (tr ++ [⟨c, env q' c⟩]) q' := by
  induction tr generalizing q with
  | nil => exact ⟨q', h, rfl, List.prefix_rfl⟩
  | cons x tr ih =>
    obtain ⟨t, ht, hx, h⟩ := h
    exact ⟨t, ht, hx, ih h⟩

end

/-! ## Order -/

/-- The calls are those of `cs`, in their order, as far as they are made. -/
def Along : List ε → Program ε ρ α → Prop
  | _, .done _ => True
  | _, .panic _ => True
  | [], .call _ _ => False
  | c :: cs, .call c' k => c' = c ∧ ∀ r, Along cs (k r)

section
variable {cs : List ε}

theorem along_done (a : α) : Along cs (.done a : Program ε ρ α) := by simp only [Along]

theorem along_ask {c : ε} {f : ρ c → Program ε ρ α} (h : ∀ r, Along cs (f r)) :
    Along (c :: cs) (ask c >>= f) := ⟨rfl, h⟩

/-- A second part without calls. -/
theorem Along.bind {p : Program ε ρ α} {f : α → Program ε ρ β} (h : Along cs p)
    (hf : ∀ a cs, Along cs (f a)) : Along cs (p >>= f) := by
  induction p generalizing cs with
  | done a => exact hf a cs
  | panic message =>
    change Along cs (.panic message)
    simp only [Along]
  | call c k ih =>
    cases cs with
    | nil => exact h.elim
    | cons c' cs => exact ⟨h.1, fun r => ih r (h.2 r)⟩

/-- **The calls made** are the first of the list, and what is left makes the others. -/
theorem Along.after {p p' : Program ε ρ α} {tr : List ((c : ε) × ρ c)} (h : Along cs p)
    (ha : After p tr p') : ∃ rest, cs = tr.map Sigma.fst ++ rest ∧ Along rest p' := by
  induction ha with
  | refl => exact ⟨cs, rfl, h⟩
  | @tail tr c k r _ ih =>
    obtain ⟨rest, rfl, hrest⟩ := ih
    cases rest with
    | nil => exact hrest.elim
    | cons c' rest =>
      obtain ⟨rfl, hk⟩ := hrest
      exact ⟨rest, by simp, hk r⟩

theorem Along.trace {p : Program ε ρ α} (h : Along cs p) (env : (c : ε) → σ → ρ c × σ) (s : σ) :
    (Program.trace env p s).map Sigma.fst <+: cs := by
  induction p generalizing cs s with
  | done a => exact List.nil_prefix
  | panic message => exact List.nil_prefix
  | call c k ih =>
    cases cs with
    | nil => exact h.elim
    | cons c' cs =>
      obtain ⟨rfl, hk⟩ := h
      exact (List.prefix_cons_inj c).2 (ih _ (hk _) _)

end

/-! ## Length -/

/-- At most `n` calls, whatever is replied. -/
def Within : Nat → Program ε ρ α → Prop
  | _, .done _ => True
  | _, .panic _ => True
  | 0, .call _ _ => False
  | n + 1, .call _ k => ∀ r, Within n (k r)

section
variable {n m : Nat}

theorem Within.mono {p : Program ε ρ α} (h : Within n p) (hle : n ≤ m) : Within m p := by
  induction p generalizing n m with
  | done a => simp only [Within]
  | panic message => simp only [Within]
  | call c k ih =>
    cases n with
    | zero => exact h.elim
    | succ n =>
      obtain ⟨m, rfl⟩ : ∃ m', m = m' + 1 := ⟨m - 1, by omega⟩
      exact fun r => ih r (h r) (by omega)

theorem within_ask {c : ε} {f : ρ c → Program ε ρ α} (h : ∀ r, Within n (f r)) :
    Within (n + 1) (ask c >>= f) := h

/-- **One part after the other.** -/
theorem Within.bind {p : Program ε ρ α} {f : α → Program ε ρ β} (h : Within n p)
    (hf : ∀ a, Within m (f a)) : Within (n + m) (p >>= f) := by
  induction p generalizing n with
  | done a => exact (hf a).mono (by omega)
  | panic message => exact (show Within 0 (.panic message : Program ε ρ β) by
      simp only [Within]).mono (Nat.zero_le _)
  | call c k ih =>
    cases n with
    | zero => exact h.elim
    | succ n =>
      rw [Nat.succ_add]
      exact fun r => ih r (h r)

theorem Within.length_le {p : Program ε ρ α} (h : Within n p) (env : (c : ε) → σ → ρ c × σ)
    (s : σ) : (trace env p s).length ≤ n := by
  induction p generalizing n s with
  | done a => exact Nat.zero_le n
  | panic message => exact Nat.zero_le n
  | call c k ih =>
    cases n with
    | zero => exact h.elim
    | succ n => exact Nat.succ_le_succ (ih _ (h _) _)

/-- The calls of the longest run. -/
noncomputable def rank (p : Program ε ρ α) : Nat := sInf {n | Within n p}

theorem Within.rank_le {p : Program ε ρ α} (h : Within n p) : rank p ≤ n := Nat.sInf_le h

theorem Within.rank {p : Program ε ρ α} (h : Within n p) : Within (rank p) p :=
  Nat.sInf_mem (s := {n | Within n p}) ⟨n, h⟩

theorem Within.reply {c : ε} {k : ρ c → Program ε ρ α} (h : Within n (.call c k)) (r : ρ c) :
    Within (n - 1) (k r) := by
  cases n with
  | zero => exact h.elim
  | succ n => exact h r

/-- **A reply** brings the end nearer. -/
theorem rank_lt {c : ε} {k : ρ c → Program ε ρ α} (h : Within n (.call c k)) (r : ρ c) :
    rank (k r) < rank (.call c k) := by
  have hw := h.rank
  have hle := (hw.reply r).rank_le
  have hpos : Program.rank (.call c k) ≠ 0 := by
    intro hz
    rw [hz] at hw
    exact hw
  omega

end

end Program
