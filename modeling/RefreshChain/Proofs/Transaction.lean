import RefreshChain.Proofs.Outcome

/-!
# Transactions around actions

What becomes of a connection when an action runs inside a transaction of its own.

* `Connection.SameOpen`, `Connection.Ended`: a step leaves open what is open, or the store ends all
  of it at once. `execute_sameOpen_or_ended`: a statement does one of the two, the second only for
  want of ids.
* `Action.LeavesOpen`: the same of an action, kept by every way to build actions.
* `Connection.Tracked`: what holds of every connection, `Action.KeepsTrack`.
* `Action.commit_of_sameOpen`, `Action.rollback_of_sameOpen`, `Action.rollback_of_ended`: the end
  of a transaction whose work has left it open, or has lost it.
-/

namespace RefreshChain

namespace Connection

variable {c c' c₁ : Connection} {α : Type}

/-! ## What is open -/

/-- What is open on `c` is open on `c'`, and nothing else. -/
structure SameOpen (c c' : Connection) : Prop where
  checkpoints : c'.checkpoints = c.checkpoints
  depth : c'.depth = c.depth
  closed : c'.closed = c.closed

/-- The store has ended what was open on `c` and has dropped its changes. Those who opened the
transactions do not know. -/
structure Ended (c c' : Connection) : Prop where
  some_open : c.checkpoints ≠ []
  none_open : c'.checkpoints = []
  depth : c'.depth = c.depth
  closed : c'.closed = c.closed
  data : c'.data = c.committed

/-- Whatever is open is believed to be open. -/
def Tracked (c : Connection) : Prop := c.depth = 0 → c.checkpoints = []

/-- The store has ended all transactions, and those who opened them do not know. What is begun now
is the outermost transaction but is taken for a nested one. -/
def Adrift (c : Connection) : Prop := c.depth ≠ 0 ∧ c.checkpoints = []

theorem SameOpen.refl (c : Connection) : c.SameOpen c := ⟨rfl, rfl, rfl⟩

theorem SameOpen.trans (h : c.SameOpen c₁) (h' : c₁.SameOpen c') : c.SameOpen c' :=
  ⟨h'.checkpoints.trans h.checkpoints, h'.depth.trans h.depth, h'.closed.trans h.closed⟩

/-- Others see the same as long as something is open. -/
theorem SameOpen.committed (h : c.SameOpen c') (ho : c.checkpoints ≠ []) :
    c'.committed = c.committed := by
  unfold Connection.committed
  rw [h.checkpoints]
  cases hk : c.checkpoints.getLast? with
  | none => exact absurd (List.getLast?_eq_none_iff.mp hk) ho
  | some k => rfl

theorem SameOpen.ended (h : c.SameOpen c₁) (h' : c₁.Ended c') : c.Ended c' where
  some_open := h.checkpoints ▸ h'.some_open
  none_open := h'.none_open
  depth := h'.depth.trans h.depth
  closed := h'.closed.trans h.closed
  data := h'.data.trans (h.committed (h.checkpoints ▸ h'.some_open))

/-! ## Parts of a connection that a step leaves alone -/

@[simp] theorem lapse_data (c : Connection) : c.lapse.data = c.data := by
  unfold lapse; split <;> rfl

@[simp] theorem lapse_checkpoints (c : Connection) : c.lapse.checkpoints = c.checkpoints := by
  unfold lapse; split <;> rfl

@[simp] theorem lapse_depth (c : Connection) : c.lapse.depth = c.depth := by
  unfold lapse; split <;> rfl

@[simp] theorem lapse_closed (c : Connection) : c.lapse.closed = c.closed := by
  unfold lapse; split <;> rfl

@[simp] theorem lapse_readOnly (c : Connection) : c.lapse.readOnly = c.readOnly := by
  unfold lapse; split <;> rfl

theorem sameOpen_lapse (c : Connection) : c.SameOpen c.lapse := ⟨by simp, by simp, by simp⟩

theorem sameOpen_withData (c : Connection) (db : Database) : c.SameOpen (c.withData db) :=
  ⟨rfl, rfl, rfl⟩

theorem sameOpen_prepared (c : Connection) (p : Purpose) : c.SameOpen (c.prepared p) := by
  unfold prepared; split
  · split <;> exact ⟨rfl, rfl, rfl⟩
  · exact .refl c

/-! ## Statements -/

/-- Outside of transactions there is nothing to end. -/
theorem sameOpen_or_ended_abandoned (c : Connection) :
    c.SameOpen c.abandoned ∨ c.Ended c.abandoned := by
  unfold abandoned
  by_cases h : c.checkpoints = []
  · exact .inl ⟨by simp [h], by simp [withData], by simp [withData]⟩
  · exact .inr ⟨h, by simp, by simp [withData], by simp [withData], by simp [withData]⟩

theorem refuse_sameOpen_or_ended {p : Purpose} {r : Refusal} {o : Except Refusal α}
    (run : c.refuse p r = (o, c')) :
    c.SameOpen c' ∨ (o = .error (.full true) ∧ c.Ended c') := by
  simp only [refuse, Prod.mk.injEq] at run
  obtain ⟨rfl, rfl⟩ := run
  split
  · exact .inl (.refl c)
  · have hp := sameOpen_prepared c p
    split
    · rename_i hr
      subst hr
      rcases sameOpen_or_ended_abandoned (c.prepared p) with h | h
      · exact .inl (hp.trans h)
      · exact .inr ⟨rfl, hp.ended h⟩
    · exact .inl (hp.trans (sameOpen_lapse _))

theorem settle_sameOpen {p : Purpose} {a : α} {w : Work} {o : Except Refusal α}
    (run : c.settle p a w = (o, c')) : c.SameOpen c' := by
  have h : c.SameOpen ((c.prepared p).withData w.data) :=
    (sameOpen_prepared c p).trans (sameOpen_withData _ _)
  unfold settle at run
  dsimp only at run
  split at run
  · cases run; exact ⟨h.checkpoints, h.depth, h.closed⟩
  · split at run
    · cases run; exact h.trans (sameOpen_lapse _)
    · split at run
      · cases run; exact h
      · rcases refuse_sameOpen_or_ended run with h' | ⟨h', -⟩
        · exact h'
        · simp [refuse] at run; rw [← run.1] at h'; cases h'

/-- A statement leaves open what is open, unless no id is left for a new token. -/
theorem execute_sameOpen_or_ended {s : Statement α} {o : Except Refusal α}
    (run : c.execute s = (o, c')) :
    c.SameOpen c' ∨ (o = .error (.full true) ∧ c.Ended c') := by
  unfold execute at run
  split at run
  · exact refuse_sameOpen_or_ended run
  · split at run
    · exact refuse_sameOpen_or_ended run
    · exact .inl (settle_sameOpen run)

theorem look_sameOpen {tables : List Table} {f : Database → α} {o : Except Refusal α}
    (run : c.look tables f = (o, c')) : c.SameOpen c' := by
  unfold look at run
  split at run <;> cases run
  · exact .refl c
  · exact sameOpen_lapse c

/-! ## The end of a transaction -/

/-- What a transaction goes back to that is begun now. -/
def checkpoint (c : Connection) : Checkpoint := ⟨c.depth, c.data, c.violations⟩

/-- What a transaction goes back to is one of what is open, with what is outside of it. -/
theorem outTo_some {level : Nat} {ks outer : List Checkpoint} {k : Checkpoint}
    (h : outTo level ks = some (k, outer)) :
    (∃ newer, ks = newer ++ k :: outer) ∧ (level = 0 → outer = []) := by
  cases level with
  | zero =>
    simp only [outTo, Option.map_eq_some_iff, Prod.mk.injEq] at h
    obtain ⟨k', hk, rfl, rfl⟩ := h
    obtain ⟨newer, rfl⟩ := List.getLast?_eq_some_iff.mp hk
    exact ⟨⟨newer, rfl⟩, fun _ => rfl⟩
  | succ level =>
    refine ⟨?_, fun h0 => absurd h0 (Nat.succ_ne_zero _)⟩
    induction ks with
    | nil => cases h
    | cons k' ks ih =>
      rw [outTo] at h
      split at h
      · cases h; exact ⟨[], rfl⟩
      · obtain ⟨newer, rfl⟩ := ih h
        exact ⟨k' :: newer, rfl⟩

theorem outTo_begin (ht : c.Tracked) :
    outTo c.depth (c.checkpoint :: c.checkpoints) = some (c.checkpoint, c.checkpoints) := by
  rcases hd : c.depth with _ | level
  · simp [outTo, ht hd]
  · simp [outTo, checkpoint, hd]

section

variable (ht : c.Tracked) (hs : c.begin.SameOpen c₁)

include hs in
theorem SameOpen.begun : c₁.checkpoints = c.checkpoint :: c.checkpoints ∧ c₁.depth = c.depth + 1 :=
  ⟨hs.checkpoints, hs.depth⟩

include ht hs

/-- A transaction that its work has left open is committed, unless that is the outermost one and
references dangle: then it is rolled back. -/
theorem commit_of_sameOpen :
    c₁.commit =
      if c.checkpoints.isEmpty ∧ 0 < c₁.violations then
        (.error .foreignKey, c₁.undone c.depth c.checkpoint c.checkpoints)
      else (.ok (), { c₁ with checkpoints := c.checkpoints, depth := c.depth }.lapse) := by
  obtain ⟨hk, hd⟩ := hs.begun
  simp only [commit, hd, hk, outTo_begin ht]

/-- A transaction that its work has left open can be rolled back. -/
theorem rollback_of_sameOpen :
    c₁.rollback = (.ok (), c₁.undone c.depth c.checkpoint c.checkpoints) := by
  obtain ⟨hk, hd⟩ := hs.begun
  simp only [rollback, hd, hk, outTo_begin ht]

end

/-- What the store has ended cannot be rolled back. -/
theorem rollback_of_none_open {level : Nat} (hd : c₁.depth = level + 1) (hk : c₁.checkpoints = []) :
    c₁.rollback = (.error (lost level .nothingToRollBack), c₁.lapse) := by
  cases level <;> simp [rollback, hd, hk, outTo]

@[simp]
theorem undone_data (c : Connection) (level : Nat) (k : Checkpoint) (outer : List Checkpoint) :
    (c.undone level k outer).data = k.saved := by
  simp [undone, withData]

@[simp]
theorem undone_depth (c : Connection) (level : Nat) (k : Checkpoint) (outer : List Checkpoint) :
    (c.undone level k outer).depth = level := by
  simp [undone]

@[simp]
theorem undone_closed (c : Connection) (level : Nat) (k : Checkpoint) (outer : List Checkpoint) :
    (c.undone level k outer).closed = c.closed := by
  simp [undone, withData]

theorem undone_checkpoints (c : Connection) (level : Nat) (k : Checkpoint)
    (outer : List Checkpoint) :
    (c.undone level k outer).checkpoints = if level = 0 ∨ outer ≠ [] then outer else [k] := by
  simp [undone]

/-- A rollback leaves open what was open at the begin. Only where the store had ended all before
that, it leaves open the transaction itself. -/
theorem undone_open (c c₁ : Connection) :
    (c₁.undone c.depth c.checkpoint c.checkpoints).checkpoints = c.checkpoints ∨
      c.Adrift ∧ (c₁.undone c.depth c.checkpoint c.checkpoints).checkpoints = [c.checkpoint] := by
  rw [undone_checkpoints]
  split
  · exact .inl rfl
  · rename_i hlast
    obtain ⟨hd, hk⟩ := not_or.mp hlast
    exact .inr ⟨⟨hd, Decidable.not_not.mp hk⟩, rfl⟩

/-! ## Tracked connections

Every connection is tracked from its beginning on. -/

theorem tracked_connect (db : Database) : (connect db).Tracked := fun _ => rfl

theorem tracked_begin (c : Connection) : c.begin.Tracked := fun h => absurd h (Nat.succ_ne_zero _)

theorem SameOpen.tracked (h : c.SameOpen c') (ht : c.Tracked) : c'.Tracked := fun hd =>
  h.checkpoints.trans (ht (h.depth.symm.trans hd))

theorem tracked_undone {level : Nat} {k : Checkpoint} {ks outer : List Checkpoint}
    (ho : outTo level ks = some (k, outer)) : (c.undone level k outer).Tracked := by
  intro hd
  rw [undone_depth] at hd
  rw [undone_checkpoints, if_pos (.inl hd)]
  exact (outTo_some ho).2 hd

theorem Tracked.rollback (ht : c.Tracked) : c.rollback.2.Tracked := by
  unfold Connection.rollback
  split
  · exact ht
  · split
    · exact (sameOpen_lapse c).tracked ht
    · exact tracked_undone ‹_›

theorem Tracked.commit (ht : c.Tracked) : c.commit.2.Tracked := by
  unfold Connection.commit
  split
  · exact ht
  · rename_i level hd
    split
    · exact (sameOpen_lapse c).tracked ht
    · rename_i ho
      split
      · exact tracked_undone ho
      · exact (sameOpen_lapse _).tracked (outTo_some ho).2

theorem Tracked.execute (ht : c.Tracked) (s : Statement α) : (c.execute s).2.Tracked := by
  rcases execute_sameOpen_or_ended (c := c) (s := s) rfl with h | ⟨-, h⟩
  · exact h.tracked ht
  · exact fun _ => h.none_open

end Connection

/-! ## Actions -/

section

variable (reports : StoreError → Prop)

/-- The store ends all transactions as it fails so: no id is left for a new token. A collaborator
may also pass that on as one of what it `reports`. -/
def StoreError.EndsAll (e : StoreError) : Prop := e = .execution (.refused (.full true)) ∨ reports e

/-- The store has ended all transactions as it failed so. -/
def Error.EndsAll (e : Error) : Prop := ∃ source, e.source? = some source ∧ source.EndsAll reports

end

namespace Action

variable {σ ε ε' α β : Type} {ends : ε → Prop} {ends' : ε' → Prop} {reports : StoreError → Prop}

/-- `x` leaves open what is open, unless the store ends it, and then `x` fails with that. -/
def LeavesOpen (ends : ε → Prop) (x : Action σ ε α) : Prop :=
  ∀ ⦃h o h'⦄, x h = (o, h') →
    h.connection.SameOpen h'.connection ∨
      ((∃ e, o = .error e ∧ ends e) ∧ h.connection.Ended h'.connection)

namespace LeavesOpen

theorem of_ok {x : Action σ ε α} (hx : x.LeavesOpen ends) {h h' : Host σ} {a : α}
    (run : x h = (.ok a, h')) : h.connection.SameOpen h'.connection := by
  rcases hx run with hs | ⟨⟨e, he, -⟩, -⟩
  · exact hs
  · cases he

theorem pure (a : α) : LeavesOpen (σ := σ) ends (pure a) := by
  rintro h o h' ⟨⟩
  exact .inl (.refl _)

theorem fail (e : ε) : (fail e : Action σ ε α).LeavesOpen ends := by
  rintro h o h' ⟨⟩
  exact .inl (.refl _)

theorem orFail (e : ε) (o : Option α) : (orFail e o : Action σ ε α).LeavesOpen ends := by
  cases o
  · exact fail e
  · exact pure _

theorem draw (f : σ → α × σ) : (draw f : Action σ ε α).LeavesOpen ends := by
  rintro h o h' ⟨⟩
  exact .inl (.refl _)

theorem bind {x : Action σ ε α} {f : α → Action σ ε β} (hx : x.LeavesOpen ends)
    (hf : ∀ a, (f a).LeavesOpen ends) : (x >>= f).LeavesOpen ends := by
  intro h o h' run
  rw [bind_apply] at run
  rcases hr : x h with ⟨e | a, h₁⟩ <;> rw [hr] at run
  · obtain ⟨rfl, rfl⟩ := Prod.mk.inj run
    rcases hx hr with hs | ⟨⟨e', he, h'⟩, hk⟩
    · exact .inl hs
    · cases he; exact .inr ⟨⟨e, rfl, h'⟩, hk⟩
  · have hs := hx.of_ok hr
    rcases hf a run with hs' | ⟨he, hk⟩
    · exact .inl (hs.trans hs')
    · exact .inr ⟨he, hs.ended hk⟩

theorem during {x : Action σ StoreError α} (hx : x.LeavesOpen (StoreError.EndsAll reports))
    (context : String) : (x.during context).LeavesOpen (Error.EndsAll reports) := by
  intro h o h' run
  rcases o with e | a
  · obtain ⟨source, hr, rfl⟩ := during_error.mp run
    rcases hx hr with hs | ⟨⟨e, he, hf⟩, hk⟩
    · exact .inl hs
    · cases he; exact .inr ⟨⟨_, rfl, source, rfl, hf⟩, hk⟩
  · exact .inl (hx.of_ok (during_ok.mp run))

theorem write (s : Statement α) :
    (Action.write s : Action σ StoreError α).LeavesOpen (StoreError.EndsAll reports) := by
  intro h o h' run
  rcases o with e | a
  · rcases onConnection_error.mp run with ⟨-, -, rfl⟩ | ⟨-, r, c, hr, rfl, rfl⟩
    · exact .inl (.refl _)
    · rcases Connection.execute_sameOpen_or_ended hr with hs | ⟨he, hk⟩
      · exact .inl hs
      · cases he; exact .inr ⟨⟨_, rfl, .inl rfl⟩, hk⟩
  · obtain ⟨-, c, hr, rfl⟩ := onConnection_ok.mp run
    rcases Connection.execute_sameOpen_or_ended hr with hs | ⟨he, -⟩
    · exact .inl hs
    · cases he

theorem read (tables : List Table) (f : Database → α) :
    (Action.read tables f : Action σ StoreError α).LeavesOpen (StoreError.EndsAll reports) := by
  intro h o h' run
  rcases o with e | a
  · rcases onConnection_error.mp run with ⟨-, -, rfl⟩ | ⟨-, r, c, hr, -, rfl⟩
    · exact .inl (.refl _)
    · exact .inl (Connection.look_sameOpen hr)
  · obtain ⟨-, c, hr, rfl⟩ := onConnection_ok.mp run
    exact .inl (Connection.look_sameOpen hr)

end LeavesOpen

/-! ## The outcome of a transaction -/

theorem begin_apply {h : Host σ} (hc : h.connection.closed = false) :
    (begin : Action σ StoreError Unit) h = (.ok (), { h with connection := h.connection.begin }) :=
  onConnection_apply hc

theorem begin_closed {h : Host σ} (hc : h.connection.closed = true) :
    (begin : Action σ StoreError Unit) h = (.error .closed, h) :=
  onConnection_error.mpr (.inl ⟨hc, rfl, rfl⟩)

theorem commit_apply {h : Host σ} (hc : h.connection.closed = false) :
    (commit : Action σ StoreError Unit) h =
      ((h.connection.commit.1.mapError fun r => .query (.refused r)),
        { h with connection := h.connection.commit.2 }) :=
  onConnection_apply hc

theorem rollback_apply {h : Host σ} (hc : h.connection.closed = false) :
    (rollback : Action σ StoreError Unit) h =
      ((h.connection.rollback.1.mapError fun r => .query (.refused r)),
        { h with connection := h.connection.rollback.2 }) :=
  onConnection_apply hc

/-- A failure goes out as it is, whatever comes of the rollback. -/
theorem finish_error (e : Error) (h : Host σ) :
    (finish (.error e) : Action σ Error α) h = (.error e, (rollback h).2) := rfl

theorem transaction_closed (x : Action σ Error α) {h : Host σ} (hc : h.connection.closed = true) :
    transaction x h = (.error (.persistence "error starting transaction" .closed), h) :=
  bind_of_error (during_of_error (begin_closed hc))

/-- A transaction runs its work after a begin and then finishes. -/
theorem transaction_apply (x : Action σ Error α) {h : Host σ} (hc : h.connection.closed = false) :
    transaction x h =
      finish (x { h with connection := h.connection.begin }).1
        (x { h with connection := h.connection.begin }).2 := by
  rw [transaction, bind_of_ok (during_ok.mpr (begin_apply hc)), bind_of_ok (attempt_apply x)]

end Action

namespace Action

variable {σ α : Type} {h h₁ : Host σ}

section

variable (hc : h.connection.closed = false)

include hc

/-- Work that failed is undone. -/
theorem rollback_of_sameOpen (ht : h.connection.Tracked)
    (hs : h.connection.begin.SameOpen h₁.connection) :
    (rollback h₁ : Except StoreError Unit × Host σ) =
      (.ok (), { h₁ with
        connection := h₁.connection.undone h.connection.depth h.connection.checkpoint
          h.connection.checkpoints }) := by
  rw [rollback_apply (hs.closed.trans hc), Connection.rollback_of_sameOpen ht hs]
  rfl

/-- Where the store has ended all transactions, nothing is left to undo. -/
theorem rollback_of_ended (he : h.connection.begin.Ended h₁.connection) :
    (rollback h₁ : Except StoreError Unit × Host σ).2 =
      { h₁ with connection := h₁.connection.lapse } := by
  rw [rollback_apply (he.closed.trans hc), Connection.rollback_of_none_open he.depth he.none_open]

/-- Work that succeeded is committed, or references dangle and it is undone. -/
theorem commit_of_sameOpen (ht : h.connection.Tracked)
    (hs : h.connection.begin.SameOpen h₁.connection) :
    (commit h₁ : Except StoreError Unit × Host σ) =
      if h.connection.checkpoints.isEmpty ∧ 0 < h₁.connection.violations then
        (.error (.query (.refused .foreignKey)), { h₁ with
          connection := h₁.connection.undone h.connection.depth h.connection.checkpoint
            h.connection.checkpoints })
      else
        (.ok (), { h₁ with
          connection := { h₁.connection with
            checkpoints := h.connection.checkpoints, depth := h.connection.depth }.lapse }) := by
  rw [commit_apply (hs.closed.trans hc), Connection.commit_of_sameOpen ht hs]
  by_cases hv : h.connection.checkpoints.isEmpty ∧ 0 < h₁.connection.violations
  · simp only [if_pos hv]; rfl
  · simp only [if_neg hv]; rfl

end

end Action

/-! ## Connections stay tracked -/

namespace Action

/-- Tracked connections stay tracked, whatever is opened or ended. -/
def KeepsTrack {σ ε α : Type} (x : Action σ ε α) : Prop :=
  ∀ ⦃h⦄, h.connection.Tracked → (x h).2.connection.Tracked

namespace KeepsTrack

variable {σ ε α β : Type} {x : Action σ ε α}

theorem bind {f : α → Action σ ε β} (hx : x.KeepsTrack) (hf : ∀ a, (f a).KeepsTrack) :
    (x >>= f).KeepsTrack := by
  intro h ht
  have hx := hx ht
  rw [bind_apply]
  rcases hr : x h with ⟨e | a, h₁⟩ <;> rw [hr] at hx
  · exact hx
  · exact hf a hx

theorem attempt {ε' : Type} (hx : x.KeepsTrack) :
    (attempt x : Action σ ε' (Except ε α)).KeepsTrack :=
  fun _ ht => hx ht

theorem during {x : Action σ StoreError α} (hx : x.KeepsTrack) (context : String) :
    (x.during context).KeepsTrack := by
  intro h ht
  have hx := hx ht
  unfold Action.during mapError
  rcases hr : x h with ⟨_ | _, _⟩ <;> rw [hr] at hx <;> exact hx

theorem onConnection {kind : Fault → StoreError}
    {step : Connection → Except Refusal α × Connection}
    (hs : ∀ c, c.Tracked → (step c).2.Tracked) : (onConnection kind step).KeepsTrack (σ := σ) := by
  intro h ht
  cases hc : h.connection.closed with
  | true => rwa [Action.onConnection, hc]
  | false =>
    rw [onConnection_apply hc]
    exact hs _ ht

theorem begin : (begin : Action σ StoreError Unit).KeepsTrack :=
  onConnection fun c _ => c.tracked_begin

theorem commit : (commit : Action σ StoreError Unit).KeepsTrack :=
  onConnection fun _ ht => ht.commit

theorem rollback : (rollback : Action σ StoreError Unit).KeepsTrack :=
  onConnection fun _ ht => ht.rollback

theorem write (s : Statement α) : (Action.write s : Action σ StoreError α).KeepsTrack :=
  onConnection fun _ ht => ht.execute s

theorem finish (o : Except Error α) : (finish o : Action σ Error α).KeepsTrack := by
  cases o with
  | ok a => exact .bind (.during .commit _) fun _ => fun _ ht => ht
  | error e => exact .bind (.attempt .rollback) fun _ => fun _ ht => ht

theorem transaction {x : Action σ Error α} (hx : x.KeepsTrack) : (transaction x).KeepsTrack :=
  .bind (.during .begin _) fun _ => .bind (.attempt hx) fun _ => .finish _

end KeepsTrack

end Action

/-! ## Operations leave open what is open -/

/-- An audit log that leaves open what is open. -/
def AuditLog.LeavesOpen {σ : Type} (reports : StoreError → Prop) (audit : AuditLog σ) : Prop :=
  ∀ now instanceId user action detail,
    (audit now instanceId user action detail).LeavesOpen (StoreError.EndsAll reports)

/-- A user directory that leaves open what is open. -/
def UserDirectory.LeavesOpen {σ : Type} (reports : StoreError → Prop) (users : UserDirectory σ) :
    Prop :=
  ∀ now user, (users now user).LeavesOpen (StoreError.EndsAll reports)

section

open RefreshChain.Action (LeavesOpen)

variable {σ : Type} {reports : StoreError → Prop}

theorem AuditLog.table_leavesOpen : (AuditLog.table : AuditLog σ).LeavesOpen reports := by
  intro now instanceId user action detail
  refine .bind (.write _) fun kept => ?_
  split
  · exact .pure _
  · exact .fail _

theorem UserDirectory.table_leavesOpen :
    (UserDirectory.table : UserDirectory σ).LeavesOpen reports :=
  fun _ _ => .bind (.write _) fun _ => .pure _

theorem findToken_leavesOpen (token : String) :
    (findToken token : Action σ Error RefreshToken).LeavesOpen (Error.EndsAll reports) :=
  .bind (.during (.read _ _) _) fun _ => .orFail _ _

theorem findUserWithToken_leavesOpen (token : String) :
    (findUserWithToken token : Action σ Error (User × RefreshToken)).LeavesOpen
      (Error.EndsAll reports) :=
  .bind (findToken_leavesOpen token) fun _ => .bind (.during (.read _ _) _) fun _ =>
    .bind (.orFail _ _) fun _ => .pure _

theorem loadToken_leavesOpen (id : Int) :
    (loadToken id : Action σ Error RefreshToken).LeavesOpen (Error.EndsAll reports) :=
  .bind (.during (.read _ _) _) fun _ => .orFail _ _

theorem insertSession_leavesOpen (session : SsoSession) :
    (insertSession session : Action σ StoreError SsoSession).LeavesOpen
      (StoreError.EndsAll reports) :=
  .bind (.write _) fun _ => .bind (.read _ _) fun _ => .orFail _ _

theorem loadBinding_leavesOpen (id : Uuid) :
    (loadBinding id : Action σ Error SsoBinding).LeavesOpen (Error.EndsAll reports) :=
  .bind (.during (.read _ _) _) fun _ => .bind (.orFail _ _) fun _ => .bind (.orFail _ _) fun _ =>
    .pure _

namespace Service

variable (s : Service σ) (now : Instant) (user : User)

theorem sessionFor_leavesOpen (origin : Origin) :
    (s.sessionFor now user origin).LeavesOpen (Error.EndsAll reports) := by
  rcases origin with (_ | c) | old
  · exact .pure _
  · exact .bind (.bind (.draw _) fun _ => .during (insertSession_leavesOpen _) _) fun _ => .pure _
  · exact .pure _

theorem bindingOf_leavesOpen (t : RefreshToken) :
    (bindingOf t : Action σ Error (Option SsoBinding)).LeavesOpen (Error.EndsAll reports) := by
  unfold bindingOf
  split
  · exact .pure _
  · exact .bind (loadBinding_leavesOpen _) fun _ => .pure _

theorem exchange_closed {h : Host σ} (token : String) (hc : h.connection.closed = true) :
    s.exchange now token h = (.error (.persistence "error starting transaction" .closed), h) :=
  Action.bind_of_error (Action.during_of_error (Action.begin_closed hc))

/-- An exchange does its work after a begin and goes on as the work says. -/
theorem exchange_apply {h : Host σ} (token : String) (hc : h.connection.closed = false) :
    s.exchange now token h =
      match s.exchangeWork now token { h with connection := h.connection.begin } with
      | (.ok (.issued t), h₁) => Action.finish (.ok t) h₁
      | (.ok (.reused t), h₁) => s.punish now t h₁
      | (.error e, h₁) => Action.finish (.error e) h₁ := by
  rw [exchange, Action.bind_of_ok (Action.during_ok.mpr (Action.begin_apply hc)),
    Action.bind_of_ok (Action.attempt_apply _)]
  rcases s.exchangeWork now token { h with connection := h.connection.begin } with
    ⟨_ | _ | _, _⟩ <;> rfl

variable {s} (ha : s.audit.LeavesOpen reports) (hu : s.users.LeavesOpen reports)

include hu in
theorem issue_leavesOpen (origin : Origin) :
    (s.issue now user origin).LeavesOpen (Error.EndsAll reports) :=
  .bind (s.sessionFor_leavesOpen now user origin) fun _ => .bind (.draw _) fun _ =>
    .bind (.during (.write _) _) fun id => .bind (loadToken_leavesOpen id) fun stored =>
      .bind (bindingOf_leavesOpen stored) fun _ => .bind (.during (hu now user) _) fun _ => .pure _

include ha in
theorem recordRevocation_leavesOpen :
    (s.recordRevocation now user).LeavesOpen (Error.EndsAll reports) :=
  .during (ha now user.instanceId user .tokenRevoked none) _

include ha hu in
theorem swapWork_leavesOpen (old : RefreshToken) :
    (s.swapWork now user old).LeavesOpen (Error.EndsAll reports) := by
  refine .bind (recordRevocation_leavesOpen now user ha) fun _ =>
    .bind (.during (.write _) _) fun n => ?_
  split
  · exact .fail _
  · exact issue_leavesOpen now user hu _

include ha hu in
theorem exchangeWork_leavesOpen (token : String) :
    (s.exchangeWork now token).LeavesOpen (Error.EndsAll reports) := by
  refine .bind (findUserWithToken_leavesOpen token) fun (user, old) => ?_
  dsimp only
  split
  · exact .pure _
  · refine .bind (recordRevocation_leavesOpen now user ha) fun _ =>
      .bind (.during (.write _) _) fun n => ?_
    split
    · exact .bind (findToken_leavesOpen _) fun _ => .pure _
    · exact .bind (issue_leavesOpen now user hu _) fun _ => .pure _

end Service

end

end RefreshChain
