import RefreshChain.Error
import RefreshChain.Store.Connection

/-!
# Actions

An action works on a connection and on what the collaborators keep for themselves. It may fail,
and what it did before it failed stays done; only transactions take changes back.

* `Action.write`, `Action.read`: one statement on the connection.
* `Action.attempt`: runs an action and hands out its outcome as a value.
* `Action.during`: tells during which step the store failed.
* `Action.transaction`: all or nothing.
-/

namespace RefreshChain

/-- A connection together with what the collaborators keep for themselves. -/
structure Host (σ : Type) where
  connection : Connection
  outside : σ

/-- A computation on a host that may fail with an error of type `ε`. -/
def Action (σ ε α : Type) : Type := Host σ → Except ε α × Host σ

namespace Action

variable {σ ε α β : Type}

protected def pure (a : α) : Action σ ε α := fun h => (.ok a, h)

protected def bind (x : Action σ ε α) (f : α → Action σ ε β) : Action σ ε β := fun h =>
  match x h with
  | (.ok a, h') => f a h'
  | (.error e, h') => (.error e, h')

instance : Monad (Action σ ε) where
  pure := Action.pure
  bind := Action.bind

@[simp]
theorem pure_apply (a : α) (h : Host σ) : (pure a : Action σ ε α) h = (.ok a, h) := rfl

/-- What comes after a failure is not carried out. -/
theorem bind_apply (x : Action σ ε α) (f : α → Action σ ε β) (h : Host σ) :
    (x >>= f) h =
      match x h with
      | (.ok a, h') => f a h'
      | (.error e, h') => (.error e, h') := rfl

instance : LawfulMonad (Action σ ε) := LawfulMonad.mk' (Action σ ε)
  (fun x => funext fun h => by
    show Action.bind x _ h = x h
    rw [Action.bind]
    rcases x h with ⟨_ | _, _⟩ <;> rfl)
  (fun _ _ => rfl)
  (fun x f g => funext fun h => by
    rw [bind_apply, bind_apply, bind_apply]
    rcases x h with ⟨_ | _, _⟩ <;> rfl)

def fail (e : ε) : Action σ ε α := fun h => (.error e, h)

/-- Runs an action to its end, good or bad, and goes on with its outcome. -/
def attempt {ε' : Type} (x : Action σ ε α) : Action σ ε' (Except ε α) := fun h =>
  let (r, h') := x h
  (.ok r, h')

/-- Replaces the error of an action that fails. -/
def mapError {ε' : Type} (f : ε → ε') (x : Action σ ε α) : Action σ ε' α := fun h =>
  match x h with
  | (.ok a, h') => (.ok a, h')
  | (.error e, h') => (.error (f e), h')

/-- Tells during which step the store failed. -/
def during (context : String) (x : Action σ StoreError α) : Action σ Error α :=
  x.mapError (.persistence context)

/-- The value, or the given error where there is none. -/
def orFail (e : ε) : Option α → Action σ ε α
  | some a => pure a
  | none => fail e

/-- Draws a value from a source that the collaborators keep. -/
def draw (f : σ → α × σ) : Action σ ε α := fun h =>
  let (a, s) := f h.outside
  (.ok a, { h with outside := s })

/-! ## The connection -/

/-- Carries out one step on the connection, which must not be closed. A refusal becomes the given
kind of error. -/
def onConnection (kind : Fault → StoreError)
    (step : Connection → Except Refusal α × Connection) : Action σ StoreError α := fun h =>
  if h.connection.closed then (.error .closed, h)
  else
    match step h.connection with
    | (.ok a, c) => (.ok a, { h with connection := c })
    | (.error r, c) => (.error (kind (.refused r)), { h with connection := c })

/-- A statement that changes the store. -/
def write (s : Statement α) : Action σ StoreError α := onConnection .execution (Connection.execute s)

/-- A look into the given tables, in their order. -/
def read (tables : List Table) (f : Database → α) : Action σ StoreError α :=
  onConnection .query (Connection.look tables f)

def begin : Action σ StoreError Unit := onConnection .query fun c => (.ok (), c.begin)

def commit : Action σ StoreError Unit := onConnection .query Connection.commit

def rollback : Action σ StoreError Unit := onConnection .query Connection.rollback

/-- A change of the connection itself. -/
def adjust (f : Connection → Connection) : Action σ StoreError Unit :=
  onConnection .execution fun c => (.ok (), f c)

/-! ## Transactions -/

/-- Ends a transaction as the outcome of its work demands: a success is committed, a failure rolled
back. The failure outweighs one of the rollback. -/
def finish : Except Error α → Action σ Error α
  | .ok a => do
    commit.during "error committing transaction"
    return a
  | .error e => do
    let _ ← attempt rollback
    fail e

/-- Carries out all of `x` or nothing of it. -/
def transaction (x : Action σ Error α) : Action σ Error α := do
  begin.during "error starting transaction"
  finish (← x.attempt)

end Action

end RefreshChain
