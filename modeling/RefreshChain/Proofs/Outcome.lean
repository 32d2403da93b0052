import RefreshChain.Service

/-!
# Outcomes of actions

What an action did, read off its outcome: a lemma for each way to build an action. A proof about an
operation peels it apart with them, from the first step to the last.
-/

namespace RefreshChain

theorem except_bind_error {ε α β : Type} {x : Except ε α} {f : α → Except ε β} {e : ε} :
    (x >>= f) = .error e ↔ x = .error e ∨ ∃ a, x = .ok a ∧ f a = .error e := by
  cases x <;> simp [bind, Except.bind]

theorem except_bind_ok {ε α β : Type} {x : Except ε α} {f : α → Except ε β} {b : β} :
    (x >>= f) = .ok b ↔ ∃ a, x = .ok a ∧ f a = .ok b := by
  cases x <;> simp [bind, Except.bind]

@[simp] theorem except_mapError_of_ok {ε ε' α : Type} {f : ε → ε'} {a : α} :
    (.ok a : Except ε α).mapError f = .ok a := rfl

theorem except_mapError_ok {ε ε' α : Type} {x : Except ε α} {f : ε → ε'} {a : α}
    (h : x.mapError f = .ok a) : x = .ok a := by
  cases x with
  | error e => cases h
  | ok b => cases h; rfl

theorem except_mapError_error {ε ε' α : Type} {x : Except ε α} {f : ε → ε'} {e : ε'}
    (h : x.mapError f = .error e) : ∃ r, x = .error r ∧ f r = e := by
  cases x with
  | error r => cases h; exact ⟨r, rfl, rfl⟩
  | ok b => cases h

theorem except_map_ok {ε α β : Type} {o : Except ε α} {f : α → β} {b : β}
    (h : o.map f = .ok b) : ∃ a, o = .ok a ∧ f a = b := by
  cases o with
  | error e => cases h
  | ok a => cases h; exact ⟨a, rfl, rfl⟩

namespace Action

variable {σ ε ε' α β : Type} {h h' : Host σ}

/-! ## Sequences -/

theorem bind_error {x : Action σ ε α} {f : α → Action σ ε β} {e : ε} :
    (x >>= f) h = (.error e, h') ↔
      x h = (.error e, h') ∨ ∃ a h₁, x h = (.ok a, h₁) ∧ f a h₁ = (.error e, h') := by
  rw [bind_apply]
  rcases x h with ⟨_ | a, h₁⟩ <;> simp [and_assoc]

theorem bind_ok {x : Action σ ε α} {f : α → Action σ ε β} {b : β} :
    (x >>= f) h = (.ok b, h') ↔ ∃ a h₁, x h = (.ok a, h₁) ∧ f a h₁ = (.ok b, h') := by
  rw [bind_apply]
  rcases x h with ⟨_ | a, h₁⟩ <;> simp [and_assoc]

theorem bind_of_ok {x : Action σ ε α} {f : α → Action σ ε β} {a : α} (hx : x h = (.ok a, h')) :
    (x >>= f) h = f a h' := by
  rw [bind_apply, hx]

theorem bind_of_error {x : Action σ ε α} {f : α → Action σ ε β} {e : ε}
    (hx : x h = (.error e, h')) : (x >>= f) h = (.error e, h') := by
  rw [bind_apply, hx]

/-- What turns a result into another leaves the host alone. -/
theorem map_outcome {x : Action σ ε α} {f : α → β} {o : Except ε β}
    (run : (x >>= fun a => pure (f a)) h = (o, h')) :
    ∃ o₁ : Except ε α, x h = (o₁, h') ∧ o = o₁.map f := by
  rw [bind_apply] at run
  rcases hr : x h with ⟨e | a, h₁⟩ <;> rw [hr] at run <;> cases run
  · exact ⟨_, rfl, rfl⟩
  · exact ⟨_, rfl, rfl⟩

/-! ## Failures -/

@[simp]
theorem fail_apply (e : ε) : (fail e : Action σ ε α) h = (.error e, h) := rfl

theorem attempt_apply (x : Action σ ε α) :
    (attempt x : Action σ ε' (Except ε α)) h = (.ok (x h).1, (x h).2) := rfl

theorem mapError_of {x : Action σ ε α} {f : ε → ε'} {o : Except ε α} (hx : x h = (o, h')) :
    x.mapError f h = (o.mapError f, h') := by
  rw [mapError, hx]
  cases o <;> rfl

theorem during_ok {context : String} {x : Action σ StoreError α} {a : α} :
    x.during context h = (.ok a, h') ↔ x h = (.ok a, h') := by
  unfold during mapError
  rcases x h with ⟨_ | _, _⟩ <;> simp

theorem during_error {context : String} {x : Action σ StoreError α} {e : Error} :
    x.during context h = (.error e, h') ↔
      ∃ source, x h = (.error source, h') ∧ .persistence context source = e := by
  unfold during mapError
  rcases x h with ⟨_ | _, _⟩ <;> simp [and_assoc, and_comm]

theorem during_of_error {context : String} {x : Action σ StoreError α} {source : StoreError}
    (hx : x h = (.error source, h')) :
    x.during context h = (.error (.persistence context source), h') :=
  during_error.mpr ⟨source, hx, rfl⟩

theorem during_outcome {context : String} {x : Action σ StoreError α} {o : Except Error α}
    (run : x.during context h = (o, h')) :
    ∃ o₁ : Except StoreError α, x h = (o₁, h') ∧ o = o₁.mapError (.persistence context) := by
  unfold during mapError at run
  rcases hr : x h with ⟨e | a, h₁⟩ <;> rw [hr] at run <;> cases run
  · exact ⟨_, rfl, rfl⟩
  · exact ⟨_, rfl, rfl⟩

theorem orFail_error {e e' : ε} {o : Option α} :
    (orFail e o : Action σ ε α) h = (.error e', h') ↔ o = none ∧ e = e' ∧ h = h' := by
  cases o <;> simp [orFail]

/-! ## The connection -/

theorem onConnection_apply {kind : Fault → StoreError}
    {step : Connection → Except Refusal α × Connection} (hc : h.connection.closed = false) :
    onConnection kind step h =
      ((step h.connection).1.mapError fun r => kind (.refused r),
        { h with connection := (step h.connection).2 }) := by
  rw [onConnection, hc]
  rcases step h.connection with ⟨_ | _, _⟩ <;> rfl

theorem onConnection_connection (kind : Fault → StoreError)
    (step : Connection → Except Refusal α × Connection) (h : Host σ) :
    (onConnection kind step h).2.connection =
      if h.connection.closed then h.connection else (step h.connection).2 := by
  cases hc : h.connection.closed with
  | true => rw [onConnection, hc]; rfl
  | false => rw [onConnection_apply hc]; rfl

theorem onConnection_ok {kind : Fault → StoreError}
    {step : Connection → Except Refusal α × Connection} {a : α} :
    onConnection kind step h = (.ok a, h') ↔ h.connection.closed = false ∧
      ∃ c, step h.connection = (.ok a, c) ∧ { h with connection := c } = h' := by
  unfold onConnection
  cases h.connection.closed <;> rcases step h.connection with ⟨_ | _, _⟩ <;> simp [and_assoc]

theorem onConnection_error {kind : Fault → StoreError}
    {step : Connection → Except Refusal α × Connection} {e : StoreError} :
    onConnection kind step h = (.error e, h') ↔
      (h.connection.closed = true ∧ e = .closed ∧ h = h') ∨
      (h.connection.closed = false ∧ ∃ r c, step h.connection = (.error r, c) ∧
        kind (.refused r) = e ∧ { h with connection := c } = h') := by
  unfold onConnection
  cases h.connection.closed <;> rcases step h.connection with ⟨_ | _, _⟩ <;>
    simp [eq_comm, and_assoc]

end Action

end RefreshChain
