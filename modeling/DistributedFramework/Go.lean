import Mathlib.Data.List.Basic

/-! The part of Go's runtime semantics that the modelled code relies on:
integer `%`, `make([]T, n)`, slice indexing, nil pointers and type
assertions, each of which panics on bad input instead of returning. A panic is an exception of a monad with
`MonadExceptOf GoPanic`; in `EStateM GoPanic σ` the heap writes made before a
panic survive it, as they do in Go. Variables of Go's `int64` that stay
non-negative on every path are `Nat` here. -/

namespace Go

/-- The runtime errors raised by the modelled code. -/
inductive GoPanic where
  /-- integer division or `%` by zero -/
  | divideByZero
  /-- `make([]T, n)` with `n < 0` -/
  | makeSliceLen
  /-- a slice read or write outside `[0, len)` -/
  | indexOutOfRange
  /-- a field read through a nil pointer -/
  | nilDereference
  /-- a type assertion `x.(T)` on a value of another type -/
  | typeAssertion
  deriving DecidableEq, Repr

section
variable {m : Type → Type} [Monad m] [MonadExceptOf GoPanic m] {α : Type}

/-- `a % b`, which panics when `b = 0`. -/
def goMod (a b : Nat) : m Nat :=
  if b = 0 then throw GoPanic.divideByZero else pure (a % b)

/-- `make([]T, n)`: `n` zero values of `T`. -/
def makeSlice [Inhabited α] (n : Int) : m (List α) :=
  if n < 0 then throw GoPanic.makeSliceLen else pure (List.replicate n.toNat default)

/-- The slice read `xs[i]`. -/
def index (xs : List α) (i : Nat) : m α :=
  match xs[i]? with
  | some x => pure x
  | none => throw GoPanic.indexOutOfRange

/-- `xs[i]` with a signed index such as an `int32`: a negative one panics too. -/
def indexInt (xs : List α) (i : Int) : m α :=
  if i < 0 then throw GoPanic.indexOutOfRange else index xs i.toNat

/-- The slice write `xs[i] = x`, giving the updated slice. -/
def store (xs : List α) (i : Nat) (x : α) : m (List α) :=
  if i < xs.length then pure (xs.set i x) else throw GoPanic.indexOutOfRange

@[simp] theorem goMod_of_pos {a b : Nat} (h : 0 < b) : (goMod a b : m Nat) = pure (a % b) := by
  simp [goMod, Nat.pos_iff_ne_zero.mp h]

@[simp] theorem makeSlice_ofNat [Inhabited α] (n : Nat) :
    (makeSlice (n : Int) : m (List α)) = pure (List.replicate n default) := by
  simp [makeSlice, Int.not_lt.mpr (Int.ofNat_nonneg n)]

@[simp] theorem index_of_lt {xs : List α} {i : Nat} (h : i < xs.length) :
    (index xs i : m α) = pure xs[i] := by
  simp [index, List.getElem?_eq_getElem h]

@[simp] theorem store_of_lt {xs : List α} {i : Nat} (x : α) (h : i < xs.length) :
    (store xs i x : m (List α)) = pure (xs.set i x) := by
  simp [store, h]

/-- A signed index inside `[0, len)` reads an element without a panic. -/
theorem indexInt_of_mem {xs : List α} {i : Int} (h0 : 0 ≤ i) (h : i < xs.length) :
    ∃ x, (indexInt xs i : m α) = pure x :=
  ⟨_, by simp only [indexInt, Int.not_lt.mpr h0, if_false]; exact index_of_lt (by omega)⟩

end

/-! ## Running `Except` code

Not simp lemmas: code in `EStateM` reaches `Except` through `liftExcept`, and its
proofs keep `pure` and `throw` as they are. -/

section
variable {ε ε' α β : Type}

theorem except_pure_eq_ok (a : α) : (pure a : Except ε α) = .ok a := rfl

theorem except_throw_eq_error (e : ε) : (throw e : Except ε α) = .error e := rfl

theorem ok_bind (a : α) (f : α → Except ε β) : (Except.ok a >>= f) = f a := rfl

theorem error_bind (e : ε) (f : α → Except ε β) : (Except.error e >>= f) = .error e := rfl

theorem mapError_ok (f : ε → ε') (a : α) : (Except.ok a : Except ε α).mapError f = .ok a :=
  rfl

theorem mapError_error (f : ε → ε') (e : ε) :
    (Except.error e : Except ε α).mapError f = .error (f e) := rfl

end

/-! ## Running `EStateM` code on a given state -/

section
variable {ε σ α β : Type}

@[simp] theorem get_bind_apply (f : σ → EStateM ε σ β) (s : σ) :
    ((get : EStateM ε σ σ) >>= f) s = f s s := rfl

@[simp] theorem set_bind_apply (f : PUnit → EStateM ε σ β) (s s' : σ) :
    ((set s' : EStateM ε σ PUnit) >>= f) s = f ⟨⟩ s' := rfl

@[simp] theorem pure_bind_apply (a : α) (f : α → EStateM ε σ β) (s : σ) :
    ((pure a : EStateM ε σ α) >>= f) s = f a s := rfl

@[simp] theorem throw_bind_apply (e : ε) (f : α → EStateM ε σ β) (s : σ) :
    ((throw e : EStateM ε σ α) >>= f) s = .error e s := rfl

@[simp] theorem set_apply (s s' : σ) : (set s' : EStateM ε σ PUnit) s = .ok ⟨⟩ s' := rfl

@[simp] theorem pure_apply (a : α) (s : σ) : (pure a : EStateM ε σ α) s = .ok a s := rfl

theorem bind_apply_of_ok {x : EStateM ε σ α} {s s' : σ} {a : α} (h : x s = .ok a s')
    (f : α → EStateM ε σ β) : (x >>= f) s = f a s' := by
  show (match x s with | .ok a s => f a s | .error e s => .error e s) = _
  rw [h]

@[simp] theorem map_set_apply (f : PUnit → α) (s s' : σ) :
    (f <$> (set s' : EStateM ε σ PUnit)) s = .ok (f ⟨⟩) s' := rfl

@[simp] theorem liftExcept_pure (a : α) : (liftExcept (pure a : Except ε α) : EStateM ε σ α) = pure a :=
  rfl

theorem bind_apply_of_error {x : EStateM ε σ α} {s s' : σ} {e : ε} (h : x s = .error e s')
    (f : α → EStateM ε σ β) : (x >>= f) s = .error e s' := by
  show (match x s with | .ok a s => f a s | .error e s => .error e s) = _
  rw [h]

@[simp] theorem modify_bind_apply (f : σ → σ) (g : PUnit → EStateM ε σ β) (s : σ) :
    ((modify f : EStateM ε σ PUnit) >>= g) s = g ⟨⟩ (f s) := rfl

@[simp] theorem modify_apply (f : σ → σ) (s : σ) : (modify f : EStateM ε σ PUnit) s = .ok ⟨⟩ (f s) :=
  rfl

theorem seqRight_apply (x : EStateM ε σ α) (y : EStateM ε σ β) (s : σ) :
    (x *> y) s = (x >>= fun _ => y) s := rfl

theorem bind_eq_ok {x : EStateM ε σ α} {f : α → EStateM ε σ β} {s s' : σ} {b : β} :
    (x >>= f) s = .ok b s' ↔ ∃ a s₁, x s = .ok a s₁ ∧ f a s₁ = .ok b s' := by
  constructor
  · intro h
    cases hx : x s with
    | ok a s₁ => exact ⟨a, s₁, rfl, by rwa [bind_apply_of_ok hx] at h⟩
    | error e s₁ => rw [bind_apply_of_error hx] at h; cases h
  · rintro ⟨a, s₁, hx, hf⟩
    rw [bind_apply_of_ok hx, hf]

/-- `tryCatch` keeps the state a failed computation left: nothing is rolled back. -/
theorem tryCatch_apply (x : EStateM ε σ α) (h : ε → EStateM ε σ α) (s : σ) :
    tryCatch x h s = match x s with | .ok a s => .ok a s | .error e s => h e s := by
  show EStateM.tryCatch x h s = _
  cases hx : x s <;> simp only [EStateM.tryCatch, hx]
  rfl

/-! ## Postconditions of normal returns -/

/-- Every normal return of `x` ends in a state satisfying `Q`; runs that panic
are not constrained. -/
def Returns (x : EStateM ε σ α) (Q : σ → Prop) : Prop :=
  ∀ s a s', x s = .ok a s' → Q s'

theorem Returns.bind {x : EStateM ε σ α} {f : α → EStateM ε σ β} {Q : σ → Prop}
    (hf : ∀ a, Returns (f a) Q) : Returns (x >>= f) Q := fun s _ s' h => by
  obtain ⟨a, s₁, -, h⟩ := bind_eq_ok.mp h
  exact hf a s₁ _ s' h

theorem returns_throw (e : ε) (Q : σ → Prop) : Returns (throw e : EStateM ε σ α) Q :=
  fun _ _ _ h => nomatch h

theorem returns_modify {f : σ → σ} {Q : σ → Prop} (h : ∀ s, Q (f s)) :
    Returns (modify f : EStateM ε σ PUnit) Q :=
  fun s _ _ hs => by cases hs; exact h s

/-- A computation that never returns normally satisfies every postcondition. -/
theorem returns_of_never {x : EStateM ε σ α} (h : ∀ s, ∃ e s', x s = .error e s') (Q : σ → Prop) :
    Returns x Q := fun s _ _ hs => by
  obtain ⟨e, s', he⟩ := h s
  rw [he] at hs; cases hs

/-! ## Invariants kept on every way out -/

/-- The state a run ends in, whether it returns or throws. -/
def finalState : EStateM.Result ε σ α → σ
  | .ok _ s => s
  | .error _ s => s

/-- `x` keeps `I`: from a state satisfying `I`, every run of `x` ends in one,
whether it returns normally or panics. -/
def Keeps (I : σ → Prop) (x : EStateM ε σ α) : Prop :=
  ∀ s, I s → I (finalState (x s))

section
variable {I : σ → Prop}

theorem Keeps.bind {x : EStateM ε σ α} {f : α → EStateM ε σ β} (hx : Keeps I x)
    (hf : ∀ a, Keeps I (f a)) : Keeps I (x >>= f) := fun s hs => by
  have h := hx s hs
  cases hr : x s with
  | ok a s' => rw [bind_apply_of_ok hr]; rw [hr] at h; exact hf a s' h
  | error e s' => rw [bind_apply_of_error hr]; rwa [hr] at h

theorem keeps_pure (a : α) : Keeps I (pure a : EStateM ε σ α) := fun _ hs => hs

theorem keeps_throw (e : ε) : Keeps I (throw e : EStateM ε σ α) := fun _ hs => hs

/-- What follows a `get` may use the invariant of the state it read. -/
theorem keeps_get_bind {f : σ → EStateM ε σ β} (hf : ∀ s, I s → Keeps I (f s)) :
    Keeps I ((get : EStateM ε σ σ) >>= f) := fun s hs => hf s hs s hs

theorem keeps_set {s' : σ} (h : I s') : Keeps I (set s' : EStateM ε σ PUnit) := fun _ _ => h

theorem keeps_modify {f : σ → σ} (h : ∀ s, I s → I (f s)) : Keeps I (modify f : EStateM ε σ PUnit) :=
  h

theorem Keeps.forM {f : α → EStateM ε σ PUnit} (hf : ∀ a, Keeps I (f a)) :
    ∀ l : List α, Keeps I (l.forM f)
  | [] => keeps_pure _
  | a :: l => (hf a).bind fun _ => Keeps.forM hf l

theorem Keeps.tryCatch {x : EStateM ε σ α} {h : ε → EStateM ε σ α} (hx : Keeps I x)
    (hh : ∀ e, Keeps I (h e)) : Keeps I (tryCatch x h) := fun s hs => by
  have hx' := hx s hs
  rw [tryCatch_apply]
  cases hr : x s with
  | ok a s' => rw [hr] at hx'; exact hx'
  | error e s' => rw [hr] at hx'; exact hh e s' hx'

end

end

/-! ## Pre- and postconditions

For code whose invariant changes on the way (a process that starts a new
receiver is not ready until it has handed it `Started`): from a state
satisfying `P`, a run returning `a` ends in `Q a`, a run that throws in `E`. -/

section
variable {ε σ α β : Type}

def Hoare (P : σ → Prop) (x : EStateM ε σ α) (Q : α → σ → Prop) (E : σ → Prop) : Prop :=
  ∀ s, P s → match x s with
    | .ok a s' => Q a s'
    | .error _ s' => E s'

variable {P P' : σ → Prop} {Q Q' : α → σ → Prop} {E E' : σ → Prop}

theorem Hoare.bind {x : EStateM ε σ α} {f : α → EStateM ε σ β} {R : β → σ → Prop}
    (hx : Hoare P x Q E) (hf : ∀ a, Hoare (Q a) (f a) R E) : Hoare P (x >>= f) R E := fun s hs => by
  have h := hx s hs
  cases hr : x s with
  | ok a s' => rw [bind_apply_of_ok hr]; rw [hr] at h; exact hf a s' h
  | error e s' => rw [bind_apply_of_error hr]; rwa [hr] at h

theorem Hoare.mono {x : EStateM ε σ α} (h : Hoare P x Q E) (hP : ∀ s, P' s → P s)
    (hQ : ∀ a s, Q a s → Q' a s) (hE : ∀ s, E s → E' s) : Hoare P' x Q' E' := fun s hs => by
  have h := h s (hP s hs)
  cases hr : x s with
  | ok a s' => rw [hr] at h; exact hQ a s' h
  | error e s' => rw [hr] at h; exact hE s' h

theorem Hoare.mono_error {x : EStateM ε σ α} (h : Hoare P x Q E) (hE : ∀ s, E s → E' s) :
    Hoare P x Q E' :=
  h.mono (fun _ h => h) (fun _ _ h => h) hE

theorem hoare_pure (a : α) (h : ∀ s, P s → Q a s) : Hoare P (pure a : EStateM ε σ α) Q E := h

theorem hoare_throw (e : ε) (h : ∀ s, P s → E s) : Hoare P (throw e : EStateM ε σ α) Q E := h

theorem hoare_get_bind {f : σ → EStateM ε σ α} (h : ∀ s, P s → Hoare (· = s) (f s) Q E) :
    Hoare P ((get : EStateM ε σ σ) >>= f) Q E := fun s hs => h s hs s rfl

theorem hoare_modify {f : σ → σ} {Q : PUnit → σ → Prop} (h : ∀ s, P s → Q ⟨⟩ (f s)) :
    Hoare P (modify f : EStateM ε σ PUnit) Q E := h

theorem hoare_set {s' : σ} {Q : PUnit → σ → Prop} (h : Q ⟨⟩ s') :
    Hoare P (set s' : EStateM ε σ PUnit) Q E := fun _ _ => h

theorem hoare_forM {I : σ → Prop} {f : α → EStateM ε σ PUnit} (hf : ∀ a, Hoare I (f a) (fun _ => I) I) :
    ∀ l : List α, Hoare I (l.forM f) (fun _ => I) I
  | [] => hoare_pure _ fun _ h => h
  | a :: l => (hf a).bind fun _ => hoare_forM hf l

theorem Hoare.tryCatch {x : EStateM ε σ α} {h : ε → EStateM ε σ α} (hx : Hoare P x Q E')
    (hh : ∀ e, Hoare E' (h e) Q E) : Hoare P (tryCatch x h) Q E := fun s hs => by
  have hx' := hx s hs
  rw [tryCatch_apply]
  cases hr : x s with
  | ok a s' => rw [hr] at hx'; exact hx'
  | error e s' => rw [hr] at hx'; exact hh e s' hx'

theorem Keeps.hoare {I : σ → Prop} {x : EStateM ε σ α} (h : Keeps I x) :
    Hoare I x (fun _ => I) I := fun s hs => by
  have h := h s hs
  cases hr : x s <;> rw [hr] at h <;> exact h

end

/-- `a % m` when `a` wraps around `m` at most once: the form in which every
index of the ring buffer is computed. -/
theorem mod_of_lt_two_mul {a m : Nat} (h : a < 2 * m) : a % m = if a < m then a else a - m := by
  split
  · exact Nat.mod_eq_of_lt ‹_›
  · rw [Nat.mod_eq_sub_mod (by omega), Nat.mod_eq_of_lt (by omega)]

end Go
