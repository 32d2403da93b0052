import RefreshChain.Proofs.Integrity
import RefreshChain.Proofs.Migrations

/-!
# Migrations keep in step

A store is migrated up and down, set up afresh and put to use in between, in any order.

* `MigrationCall.perform_at`: each migrate call leads from one stage to another.
* `Host.Evolved`: what runs of migrate calls and of other uses lead to.
* `Schema.layout`: what a store is made of, as far as it is the program's own.
* `migrations_stay_in_step`: in each state of each run the store is at a stage, the same whatever
  has led there, and the migrate calls go through.
-/

namespace RefreshChain

/-! ## Calls -/

/-- What may be asked for. -/
inductive MigrationCall where
  | up (steps : Option Nat)
  | down (steps : Option Nat)
  | fresh
  | refresh
  | reset
  | status
  deriving DecidableEq, Repr

namespace MigrationCall

def perform {σ : Type} : MigrationCall → Action σ StoreError Unit
  | .up steps => Migrations.up steps
  | .down steps => Migrations.down steps
  | .fresh => Migrations.fresh
  | .refresh => Migrations.refresh
  | .reset => Migrations.reset
  | .status => do let _ ← Migrations.status

/-- How many migrations are applied after the call, where it was `n` before. -/
def leaves (n : Nat) : MigrationCall → Nat
  | .up (some k) => min (n + k) Migration.all.length
  | .up none | .fresh | .refresh => Migration.all.length
  | .down (some k) => n - k
  | .down none | .reset => 0
  | .status => n

/-- The calls that go step by step. -/
inductive Stepwise : MigrationCall → Prop where
  | up (steps : Option Nat) : Stepwise (.up steps)
  | down (steps : Option Nat) : Stepwise (.down steps)

theorem leaves_up (n : Nat) (steps : Option Nat) :
    leaves n (.up steps) =
      min (n + steps.getD Migration.all.length) Migration.all.length := by
  cases steps with
  | none => exact (Nat.min_eq_right (Nat.le_add_left _ n)).symm
  | some k => rfl

theorem leaves_down {n : Nat} (hn : n ≤ Migration.all.length) (steps : Option Nat) :
    leaves n (.down steps) = n - steps.getD Migration.all.length := by
  cases steps with
  | none => exact (Nat.sub_eq_zero_of_le hn).symm
  | some k => rfl

variable {σ : Type} {h : Host σ} {n : Nat}

/-- A call goes through and leads from one stage to another. One that goes step by step leaves the
rows of the tables that stay. -/
theorem perform_at (ha : h.At n) (c : MigrationCall) :
    ∃ h', c.perform h = (.ok (), h') ∧ h'.At (c.leaves n) ∧ (c.Stepwise →
      ∀ t ∈ h'.connection.data.schema.tables, h.connection.data.SameRows h'.connection.data t) := by
  cases c with
  | up steps =>
    obtain ⟨h', run, hat, hrows⟩ := Migrations.up_at ha steps
    exact ⟨h', run, leaves_up n steps ▸ hat, fun _ t _ => hrows t⟩
  | down steps =>
    obtain ⟨h', run, hat, hrows⟩ := Migrations.down_at ha steps
    exact ⟨h', run, leaves_down ha.bound steps ▸ hat, fun _ => hrows⟩
  | fresh =>
    obtain ⟨h', run, hat⟩ := Migrations.fresh_at ha
    exact ⟨h', run, hat, nofun⟩
  | refresh =>
    obtain ⟨h', run, hat⟩ := Migrations.refresh_at ha
    exact ⟨h', run, hat, nofun⟩
  | reset =>
    obtain ⟨h', run, hat, -⟩ := Migrations.down_at ha none
    exact ⟨h', run, leaves_down ha.bound none ▸ hat, nofun⟩
  | status =>
    obtain ⟨h', run, hat⟩ := Migrations.status_at ha
    exact ⟨h', Action.bind_of_ok run, hat, nofun⟩

end MigrationCall

/-! ## Runs -/

/-- The hosts that a run leads to from a store without any table. -/
inductive Host.Evolved {σ : Type} : Host σ → Prop where
  | start (outside : σ) : Evolved ⟨.connect .empty, outside⟩
  /-- A migrate call, while no transaction is open. -/
  | migrate {h : Host σ} (before : Evolved h) (idle : h.connection.checkpoints = [])
      (c : MigrationCall) : Evolved (c.perform h).2
  /-- A call of the library. -/
  | call {h : Host σ} (before : Evolved h) {s : Service σ} (hs : s.MadeOf Statement.OfRows)
      (now : Instant) (c : Call) : Evolved (c.perform s now h).2
  /-- Anything else that is put together from statements that write rows, looks, and the begin and
  the end of transactions. -/
  | act {h : Host σ} (before : Evolved h) {ε α : Type} {x : Action σ ε α}
      (hx : x.MadeOf Statement.OfRows) : Evolved (x h).2

/-- What is written to the tables leaves the store at its stage. -/
theorem Connection.stage_stable (n : Nat) : Connection.Stable Statement.OfRows fun c =>
    c.Ordinary ∧ ∀ db, c.Reaches db → db.installed.AtStage n := by
  refine Ordinary.enduring.stable.and (stable_reaches fun α s hs w a w' hat run => ?_)
  have hsame := hs.sameBuild run
  have hinstalled : w'.data.installed.schema = w.data.installed.schema :=
    congrArg (Schema.addTable · Table.migrations.definition) hsame.schema
  exact ⟨hinstalled.trans hat.schema, hsame.migrations.trans hat.migrations⟩

/-- The invariant of the runs. -/
theorem Host.Evolved.sound {σ : Type} {h : Host σ} (hr : h.Evolved) :
    ∃ n ≤ Migration.all.length, h.connection.Ordinary ∧
      ∀ db, h.connection.Reaches db → db.installed.AtStage n := by
  induction hr with
  | start outside =>
    refine ⟨0, Nat.zero_le _, .connect .empty, ?_⟩
    rintro db (rfl | ⟨k, hk, -⟩)
    · exact ⟨rfl, rfl⟩
    · cases hk
  | migrate _ idle c ih =>
    obtain ⟨n, hn, ho, hreach⟩ := ih
    obtain ⟨h', run, hat, -⟩ := c.perform_at ⟨ho, idle, hn, hreach _ (.inl rfl)⟩
    rw [run]
    refine ⟨_, hat.bound, hat.ordinary, ?_⟩
    rintro db (rfl | ⟨k, hk, -⟩)
    · exact hat.stage
    · rw [hat.idle] at hk
      cases hk
  | call _ hs now c ih =>
    obtain ⟨n, hn, ih⟩ := ih
    have hmade := Call.madeOf Statement.serves_ofRows hs now c
    exact ⟨n, hn, hmade.keeps (Connection.stage_stable n) ih⟩
  | act _ hx ih =>
    obtain ⟨n, hn, ih⟩ := ih
    exact ⟨n, hn, hx.keeps (Connection.stage_stable n) ih⟩

/-! ## The layout of a store -/

/-- What a store is made of, but for the table of records: each table and index as the statement
that set it up declared it. -/
structure Schema.Layout where
  tables : List Table.Definition
  indexes : List Index
  deriving DecidableEq, Repr

def Schema.layout (s : Schema) : Schema.Layout where
  tables := s.definitions.filter (·.table ≠ .migrations)
  indexes := s.indexes

/-- What the given migrations set up. -/
def Migrations.layout (ms : List Migration) : Schema.Layout where
  tables := ms.map (·.table.definition)
  indexes := ms.flatMap Migration.indexes

theorem Database.layout_installed (db : Database) :
    db.installed.schema.layout = db.schema.layout := by
  unfold installed Schema.addTable
  split
  · rfl
  · simp [Schema.layout]

theorem Database.AtStage.layout {n : Nat} {db : Database} (hs : db.AtStage n) :
    db.schema.layout = Migrations.layout (Migration.all.take n) := by
  have hkept : ∀ ms : List Migration, (ms.map (·.table.definition)).filter
      (·.table ≠ .migrations) = ms.map (·.table.definition) := by
    refine fun ms => List.filter_eq_self.mpr fun d hd => ?_
    obtain ⟨m, -, rfl⟩ := List.mem_map.mp hd
    rw [Table.definition_table]
    exact decide_eq_true m.table_ne
  rw [hs.schema, Schema.layout, Migrations.layout, Migrations.built, Migrations.schemaOf,
    List.map_cons, List.map_map, List.filter_cons_of_neg (by simp)]
  exact congrArg (Schema.Layout.mk · _) (hkept _)

/-- In every state of every run, whatever the connection shows or may go back to has the first
migrations recorded, and consists of exactly what these set up. While no transaction is open each
migrate call succeeds, and leads to the number of migrations that it is to lead to. The calls that
go step by step leave the rows of the program's own tables that are there before and after. -/
theorem migrations_stay_in_step {σ : Type} {h : Host σ} (hr : h.Evolved) :
    ∃ n ≤ Migration.all.length,
      (∀ db, h.connection.Reaches db →
        db.migrations = (Migration.all.take n).map Migration.name ∧
        db.schema.layout = Migrations.layout (Migration.all.take n)) ∧
      (h.connection.checkpoints = [] → ∀ c : MigrationCall, ∃ h', c.perform h = (.ok (), h') ∧
        h'.connection.data.migrations = (Migration.all.take (c.leaves n)).map Migration.name ∧
        h'.connection.data.schema.layout = Migrations.layout (Migration.all.take (c.leaves n)) ∧
        (c.Stepwise → ∀ t, h.connection.data.hasTable t = true →
          h'.connection.data.hasTable t = true →
          h.connection.data.SameRows h'.connection.data t)) := by
  obtain ⟨n, hn, ho, hreach⟩ := hr.sound
  have hlayout : ∀ {m : Nat} {db : Database}, db.installed.AtStage m →
      db.schema.layout = Migrations.layout (Migration.all.take m) := fun {_ db} hs =>
    db.layout_installed.symm.trans hs.layout
  refine ⟨n, hn, fun db hdb => ⟨(hreach db hdb).migrations, hlayout (hreach db hdb)⟩,
    fun idle c => ?_⟩
  obtain ⟨h', run, hat, hrows⟩ := c.perform_at ⟨ho, idle, hn, hreach _ (.inl rfl)⟩
  refine ⟨h', run, hat.migrations, hlayout hat.stage, fun hc t _ ht => ?_⟩
  exact hrows hc t (Database.hasTable_iff.mp ht)

namespace Sample

/-- A store that was migrated up to the tokens, where Alice has signed in. -/
def granted : Host Nat :=
  let built := ((MigrationCall.up (some 4)).perform ⟨.connect .empty, 0⟩).2
  let joined := (Action.write (.insertUser alice) built).2
  ((Call.request (.grant alice none)).perform service time joined).2

theorem evolved_granted : granted.Evolved := by
  have built := Host.Evolved.migrate (.start 0) rfl (.up (some 4))
  have joined := Host.Evolved.act built (.write (.insertUser alice))
  exact .call joined service_madeOf_ofRows time (.request (.grant alice none))

end Sample

/-- The migration of the tokens is taken back: Alice is still there, her token is not. -/
theorem granted_migrations_stay_in_step :
    Sample.granted.connection.data.tokens.length = 1 ∧
    ∃ h', (MigrationCall.down (some 1)).perform Sample.granted = (.ok (), h') ∧
      h'.connection.data.users.map (·.id) = [Sample.alice.id] ∧ h'.connection.data.tokens = [] := by
  have idle : Sample.granted.connection.checkpoints = [] := by decide +kernel
  obtain ⟨n, -, -, hcalls⟩ := migrations_stay_in_step Sample.evolved_granted
  obtain ⟨h', run, -, -, hrows⟩ := hcalls idle (.down (some 1))
  have hh : ((MigrationCall.down (some 1)).perform Sample.granted).2 = h' := by rw [run]
  have hbefore : Sample.granted.connection.data.hasTable .users = true := by decide +kernel
  have hafter : h'.connection.data.hasTable .users = true := by
    rw [← hh]
    decide +kernel
  have husers : h'.connection.data.users = Sample.granted.connection.data.users :=
    hrows (.down (some 1)) .users hbefore hafter
  refine ⟨by decide +kernel, h', run, ?_, ?_⟩
  · rw [husers]
    decide +kernel
  · rw [← hh]
    decide +kernel

end RefreshChain
