import Mathlib.Logic.Basic

/-!
# Python/Exception — raised exceptions, and statements that keep their effects when they raise

A Python statement either finishes with a value or raises, and either way the writes it made
before stopping stay made.  `PyM ρ σ α` is such a statement over a read-only environment `ρ` and
a state `σ`: its outcome `Res` carries the state in **both** cases, so an `except` block runs on
every effect that preceded the raise.

`tryExcept` is `try: … except Exception as e: …`.  It catches exactly the exceptions whose class
derives from `Exception`; a `BaseException` such as `asyncio.CancelledError` passes through with
the state it was raised in (`tryExcept_of_not_isException`).
-/

namespace HolonAdapter

/-! ## Exceptions -/

/-- The class of a raised exception, as far as an `except` clause tells classes apart. -/
inductive ExcClass where
  /-- A subclass of `Exception`, by name: `OSError`, `ValueError`, `UnicodeDecodeError`, … -/
  | exception (name : String)
  /-- `asyncio.CancelledError` — the cancellation of an awaited call. -/
  | cancelledError
  /-- `KeyboardInterrupt`. -/
  | keyboardInterrupt
  /-- `SystemExit`, raised by `sys.exit`. -/
  | systemExit
  deriving DecidableEq, Repr

/-- A raised exception: its class, and `str(e)`. -/
structure PyExc where
  cls : ExcClass
  text : String
  deriving DecidableEq, Repr

/-- **`except Exception` catches it** — the class derives from `Exception`, not only from
`BaseException`. -/
def PyExc.isException (e : PyExc) : Bool :=
  match e.cls with
  | .exception _ => true
  | _ => false

/-- **`except ValueError` catches it** — `ValueError` and, among the classes raised here, its
subclasses `UnicodeDecodeError` and `json.JSONDecodeError`. -/
def PyExc.isValueError (e : PyExc) : Bool :=
  match e.cls with
  | .exception n => n == "ValueError" || n == "UnicodeDecodeError" || n == "JSONDecodeError"
  | _ => false

/-- `sys.exit(code)`: a `SystemExit` whose text is the code. -/
def PyExc.sysExit (code : ℕ) : PyExc := ⟨.systemExit, toString code⟩

@[simp] theorem PyExc.isException_sysExit (code : ℕ) : (PyExc.sysExit code).isException = false :=
  rfl

/-! ## Statements

`Res` keeps the state on a raise; sequencing stops at the first raise and hands its state on. -/

/-- How a statement ends: with a value, or raising — in the state it reached, either way. -/
inductive Res (σ α : Type) where
  | ok (a : α) (s : σ)
  | raised (e : PyExc) (s : σ)

/-- The state a statement ends in, whether it returned or raised. -/
def Res.state {σ α : Type} : Res σ α → σ
  | .ok _ s => s
  | .raised _ s => s

@[simp] theorem Res.state_ok {σ α : Type} (a : α) (s : σ) : (Res.ok a s).state = s := rfl

@[simp] theorem Res.state_raised {σ α : Type} (e : PyExc) (s : σ) :
    (Res.raised e s : Res σ α).state = s := rfl

/-- A Python statement reading the environment `ρ` and changing the state `σ`. -/
def PyM (ρ σ α : Type) : Type := ρ → σ → Res σ α

namespace PyM

variable {ρ σ α β : Type}

/-- Sequencing: `f` runs in the state `x` leaves, unless `x` raised. -/
protected def bind (x : PyM ρ σ α) (f : α → PyM ρ σ β) : PyM ρ σ β := fun r s =>
  match x r s with
  | .ok a s' => f a r s'
  | .raised e s' => .raised e s'

instance : Monad (PyM ρ σ) where
  pure a := fun _ s => .ok a s
  bind := PyM.bind

/-- `raise e`. -/
def raise (e : PyExc) : PyM ρ σ α := fun _ s => .raised e s

/-- The environment. -/
def read : PyM ρ σ ρ := fun r s => .ok r s

/-- The state. -/
def get : PyM ρ σ σ := fun _ s => .ok s s

/-- Change the state. -/
def modify (f : σ → σ) : PyM ρ σ Unit := fun _ s => .ok () (f s)

/-- `try: body except C as e: handler(e)`, for a clause whose classes `C` match the exceptions
`catches` accepts: any other exception propagates unhandled, in the state it was raised in. -/
def tryCatch (catches : PyExc → Bool) (body : PyM ρ σ α) (handler : PyExc → PyM ρ σ α) :
    PyM ρ σ α := fun r s =>
  match body r s with
  | .ok a s' => .ok a s'
  | .raised e s' => if catches e then handler e r s' else .raised e s'

/-- `try: body except Exception as e: handler(e)`. -/
def tryExcept (body : PyM ρ σ α) (handler : PyExc → PyM ρ σ α) : PyM ρ σ α :=
  tryCatch PyExc.isException body handler

@[simp] theorem pure_apply (a : α) (r : ρ) (s : σ) : (pure a : PyM ρ σ α) r s = .ok a s := rfl

@[simp] theorem raise_apply (e : PyExc) (r : ρ) (s : σ) : (raise e : PyM ρ σ α) r s = .raised e s :=
  rfl

@[simp] theorem read_apply (r : ρ) (s : σ) : (read : PyM ρ σ ρ) r s = .ok r s := rfl

@[simp] theorem get_apply (r : ρ) (s : σ) : (get : PyM ρ σ σ) r s = .ok s s := rfl

@[simp] theorem modify_apply (f : σ → σ) (r : ρ) (s : σ) : modify f r s = .ok () (f s) := rfl

theorem bind_apply (x : PyM ρ σ α) (f : α → PyM ρ σ β) (r : ρ) (s : σ) :
    (x >>= f) r s = match x r s with
      | .ok a s' => f a r s'
      | .raised e s' => .raised e s' := rfl

theorem bind_of_ok {x : PyM ρ σ α} {f : α → PyM ρ σ β} {r : ρ} {s s' : σ} {a : α}
    (h : x r s = .ok a s') : (x >>= f) r s = f a r s' := by
  rw [bind_apply, h]

theorem bind_of_raised {x : PyM ρ σ α} {f : α → PyM ρ σ β} {r : ρ} {s s' : σ} {e : PyExc}
    (h : x r s = .raised e s') : (x >>= f) r s = .raised e s' := by
  rw [bind_apply, h]

/-- **A sequence returns only if both halves do.** -/
theorem bind_eq_ok {x : PyM ρ σ α} {f : α → PyM ρ σ β} {r : ρ} {s t : σ} {b : β} :
    (x >>= f) r s = .ok b t ↔ ∃ a s', x r s = .ok a s' ∧ f a r s' = .ok b t := by
  rw [bind_apply]
  cases h : x r s with
  | ok a s' => exact ⟨fun hf => ⟨a, s', rfl, hf⟩, fun ⟨_, _, he, hf⟩ => by cases he; exact hf⟩
  | raised e s' => simp

/-- **A sequence raises where its first half raises, or else where its second half does.** -/
theorem bind_eq_raised {x : PyM ρ σ α} {f : α → PyM ρ σ β} {r : ρ} {s t : σ} {e : PyExc} :
    (x >>= f) r s = .raised e t ↔
      x r s = .raised e t ∨ ∃ a s', x r s = .ok a s' ∧ f a r s' = .raised e t := by
  rw [bind_apply]
  cases h : x r s with
  | ok a s' =>
    exact ⟨fun hf => .inr ⟨a, s', rfl, hf⟩, fun
      | .inl h' => by cases h'
      | .inr ⟨_, _, he, hf⟩ => by cases he; exact hf⟩
  | raised e' s' => simp

theorem map_of_ok {f : α → β} {x : PyM ρ σ α} {r : ρ} {s s' : σ} {a : α} (h : x r s = .ok a s') :
    (f <$> x) r s = .ok (f a) s' :=
  bind_of_ok (f := pure ∘ f) h

theorem map_of_raised {f : α → β} {x : PyM ρ σ α} {r : ρ} {s s' : σ} {e : PyExc}
    (h : x r s = .raised e s') : (f <$> x) r s = .raised e s' :=
  bind_of_raised (f := pure ∘ f) h

theorem tryCatch_of_ok {catches : PyExc → Bool} {body : PyM ρ σ α} {handler : PyExc → PyM ρ σ α}
    {r : ρ} {s s' : σ} {a : α} (h : body r s = .ok a s') :
    tryCatch catches body handler r s = .ok a s' := by
  simp [tryCatch, h]

theorem tryCatch_of_caught {catches : PyExc → Bool} {body : PyM ρ σ α}
    {handler : PyExc → PyM ρ σ α} {r : ρ} {s s' : σ} {e : PyExc} (h : body r s = .raised e s')
    (he : catches e = true) : tryCatch catches body handler r s = handler e r s' := by
  simp [tryCatch, h, he]

/-- An exception the clause does not name propagates, in the state it was raised in. -/
theorem tryCatch_of_uncaught {catches : PyExc → Bool} {body : PyM ρ σ α}
    {handler : PyExc → PyM ρ σ α} {r : ρ} {s s' : σ} {e : PyExc} (h : body r s = .raised e s')
    (he : catches e = false) : tryCatch catches body handler r s = .raised e s' := by
  simp [tryCatch, h, he]

/-- **A `try` raises what its body raised and the clause does not name, or what its handler
raised.** -/
theorem tryCatch_eq_raised {catches : PyExc → Bool} {body : PyM ρ σ α}
    {handler : PyExc → PyM ρ σ α} {r : ρ} {s t : σ} {e : PyExc}
    (h : tryCatch catches body handler r s = .raised e t) :
    (body r s = .raised e t ∧ catches e = false) ∨
      ∃ e' s', body r s = .raised e' s' ∧ catches e' = true ∧ handler e' r s' = .raised e t := by
  unfold tryCatch at h
  cases hb : body r s with
  | ok a s' => rw [hb] at h; cases h
  | raised e' s' =>
    rw [hb] at h
    cases hc : catches e' <;> simp only [hc, Bool.false_eq_true, if_false, if_true] at h
    · cases h
      exact .inl ⟨rfl, hc⟩
    · exact .inr ⟨e', s', rfl, hc, h⟩

/-- A `try` whose handler does nothing ends in the state its body ends in. -/
theorem tryCatch_pure_state {catches : PyExc → Bool} (body : PyM ρ σ Unit) (r : ρ) (s : σ) :
    (tryCatch catches body (fun _ => pure ()) r s).state = (body r s).state := by
  unfold tryCatch
  cases body r s with
  | ok a s' => rfl
  | raised e s' => dsimp only; split <;> rfl

theorem tryExcept_of_ok {body : PyM ρ σ α} {handler : PyExc → PyM ρ σ α} {r : ρ}
    {s s' : σ} {a : α} (h : body r s = .ok a s') : tryExcept body handler r s = .ok a s' :=
  tryCatch_of_ok h

theorem tryExcept_of_isException {body : PyM ρ σ α} {handler : PyExc → PyM ρ σ α} {r : ρ}
    {s s' : σ} {e : PyExc} (h : body r s = .raised e s') (he : e.isException = true) :
    tryExcept body handler r s = handler e r s' :=
  tryCatch_of_caught h he

/-- A `try` whose first statement returns goes on as a `try` around the rest. -/
theorem tryExcept_bind_of_ok {x : PyM ρ σ β} {f : β → PyM ρ σ α} {handler : PyExc → PyM ρ σ α}
    {r : ρ} {s s' : σ} {b : β} (h : x r s = .ok b s') :
    tryExcept (x >>= f) handler r s = tryExcept (f b) handler r s' := by
  simp only [tryExcept, tryCatch, bind_of_ok h]

/-- **An exception outside `Exception` is not caught** — the boundary returns exactly what the
body returned. -/
theorem tryExcept_of_not_isException {body : PyM ρ σ α} {handler : PyExc → PyM ρ σ α} {r : ρ}
    {s s' : σ} {e : PyExc} (h : body r s = .raised e s') (he : e.isException = false) :
    tryExcept body handler r s = .raised e s' := by
  simp [tryExcept, tryCatch, h, he]

/-! ## Statements that keep a relation between the states they start and end in

`Keeps R x`: whether `x` returns or raises, the state it ends in is related by `R` to the one it
started in.  For a reflexive, transitive `R` — "changes nothing", "only appends writes to the
event log", "leaves the output files alone" — sequencing keeps it (`keeps_bind`), so a property of
a whole block follows from one lemma per statement. -/

/-- Whether the statement returns or raises, it ends in a state related by `R` to its start. -/
def Keeps (R : σ → σ → Prop) (x : PyM ρ σ α) : Prop := ∀ r s, R s (x r s).state

section Keeps

variable {R : σ → σ → Prop}

theorem keeps_pure (hR : ∀ s, R s s) (a : α) : Keeps R (pure a : PyM ρ σ α) := fun _ s => hR s

theorem keeps_read (hR : ∀ s, R s s) : Keeps R (read : PyM ρ σ ρ) := fun _ s => hR s

theorem keeps_modify {f : σ → σ} (hf : ∀ s, R s (f s)) : Keeps R (modify f : PyM ρ σ Unit) :=
  fun _ s => hf s

theorem Keeps.mono {R' : σ → σ → Prop} {x : PyM ρ σ α} (hx : Keeps R x)
    (h : ∀ s t, R s t → R' s t) : Keeps R' x :=
  fun r s => h _ _ (hx r s)

/-- `Keeps R x` at one environment `r`: for a relation that names what the statement reads. -/
def KeepsAt (r : ρ) (R : σ → σ → Prop) (x : PyM ρ σ α) : Prop := ∀ s, R s (x r s).state

/-- **Sequencing** at one environment: a statement that keeps `R`, then statements that keep `S`,
keep `S` — when an `R` step alone is an `S` step, and so is an `R` step followed by one. -/
theorem keepsAt_bind_of {S : σ → σ → Prop} (hRS : ∀ s t u, R s t → S t u → S s u)
    (hR : ∀ s t, R s t → S s t) {r : ρ} {x : PyM ρ σ α} {f : α → PyM ρ σ β} (hx : KeepsAt r R x)
    (hf : ∀ a, KeepsAt r S (f a)) : KeepsAt r S (x >>= f) := fun s => by
  have h1 := hx s
  rw [bind_apply]
  cases h : x r s with
  | ok a s' =>
    rw [h, Res.state_ok] at h1
    exact hRS _ _ _ h1 (hf a s')
  | raised e s' =>
    rw [h, Res.state_raised] at h1
    exact hR _ _ h1

/-- A block that starts by reading its environment keeps, at `r`, what its rest keeps at `r`
once it has read `r`. -/
theorem keepsAt_read_bind {r : ρ} {f : ρ → PyM ρ σ β} (hf : KeepsAt r R (f r)) :
    KeepsAt r R (read >>= f) := fun s => by
  rw [bind_of_ok (read_apply r s)]
  exact hf s

/-- **Sequencing**: as `keepsAt_bind_of`, at every environment. -/
theorem keeps_bind_of {S : σ → σ → Prop} (hRS : ∀ s t u, R s t → S t u → S s u)
    (hR : ∀ s t, R s t → S s t) {x : PyM ρ σ α} {f : α → PyM ρ σ β} (hx : Keeps R x)
    (hf : ∀ a, Keeps S (f a)) : Keeps S (x >>= f) := fun r =>
  keepsAt_bind_of hRS hR (hx r) fun a => hf a r

/-- **Sequencing keeps a transitive relation.** -/
theorem keeps_bind (hR : ∀ s t u, R s t → R t u → R s u) {x : PyM ρ σ α} {f : α → PyM ρ σ β}
    (hx : Keeps R x) (hf : ∀ a, Keeps R (f a)) : Keeps R (x >>= f) :=
  keeps_bind_of hR (fun _ _ h => h) hx hf

/-- **A `try` keeps a transitive relation** that its body and its handler keep. -/
theorem keeps_tryCatch (hR : ∀ s t u, R s t → R t u → R s u) {catches : PyExc → Bool}
    {body : PyM ρ σ α} {handler : PyExc → PyM ρ σ α} (hb : Keeps R body)
    (hh : ∀ e, Keeps R (handler e)) : Keeps R (tryCatch catches body handler) := fun r s => by
  have h1 := hb r s
  unfold tryCatch
  cases h : body r s with
  | ok a s' => simpa [h] using h1
  | raised e s' =>
    rw [h, Res.state_raised] at h1
    dsimp only
    split
    · exact hR _ _ _ h1 (hh e r s')
    · exact h1

end Keeps

/-! ## Statements that change nothing -/

/-- The statement leaves the state as it found it, whether it returns or raises. -/
def Stateless (x : PyM ρ σ α) : Prop := Keeps (fun s t => t = s) x

theorem stateless_pure (a : α) : Stateless (pure a : PyM ρ σ α) := fun _ _ => rfl

theorem stateless_raise (e : PyExc) : Stateless (raise e : PyM ρ σ α) := fun _ _ => rfl

theorem stateless_read : Stateless (read : PyM ρ σ ρ) := fun _ _ => rfl

theorem stateless_get : Stateless (get : PyM ρ σ σ) := fun _ _ => rfl

theorem stateless_bind {x : PyM ρ σ α} {f : α → PyM ρ σ β} (hx : Stateless x)
    (hf : ∀ a, Stateless (f a)) : Stateless (x >>= f) :=
  keeps_bind (fun _ _ _ h1 h2 => h2.trans h1) hx hf

/-- A statement that changes nothing returns or raises in the state it started in. -/
theorem Stateless.cases {x : PyM ρ σ α} (hx : Stateless x) (r : ρ) (s : σ) :
    (∃ a, x r s = .ok a s) ∨ ∃ e, x r s = .raised e s := by
  have h := hx r s
  revert h
  cases x r s <;> rintro rfl <;> simp

/-- A statement that changes nothing keeps every reflexive relation. -/
theorem Stateless.keeps {R : σ → σ → Prop} {x : PyM ρ σ α} (hx : Stateless x)
    (hR : ∀ s, R s s) : Keeps R x :=
  hx.mono fun s _ h => h ▸ hR s

/-- Run `x` on one part of the state, under the part of the environment it reads: how a
statement written for one file is run inside a whole process. -/
def embed {ρ' τ : Type} (env : ρ → ρ') (view : σ → τ) (update : τ → σ → σ) (x : PyM ρ' τ α) :
    PyM ρ σ α := fun r s =>
  match x (env r) (view s) with
  | .ok a t => .ok a (update t s)
  | .raised e t => .raised e (update t s)

theorem embed_of_ok {ρ' τ : Type} {env : ρ → ρ'} {view : σ → τ} {update : τ → σ → σ}
    {x : PyM ρ' τ α} {r : ρ} {s : σ} {a : α} {t : τ} (h : x (env r) (view s) = .ok a t) :
    embed env view update x r s = .ok a (update t s) := by
  simp [embed, h]

theorem embed_of_raised {ρ' τ : Type} {env : ρ → ρ'} {view : σ → τ} {update : τ → σ → σ}
    {x : PyM ρ' τ α} {r : ρ} {s : σ} {e : PyExc} {t : τ} (h : x (env r) (view s) = .raised e t) :
    embed env view update x r s = .raised e (update t s) := by
  simp [embed, h]

/-- A statement run on one part of the state keeps any relation its write-back keeps. -/
theorem keeps_embed {ρ' τ : Type} {R : σ → σ → Prop} {env : ρ → ρ'} {view : σ → τ}
    {update : τ → σ → σ} (hu : ∀ t s, R s (update t s)) (x : PyM ρ' τ α) :
    Keeps R (embed env view update x) := fun r s => by
  unfold embed
  split <;> exact hu _ s

end PyM

end HolonAdapter
