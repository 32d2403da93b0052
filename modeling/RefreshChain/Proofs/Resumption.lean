import RefreshChain.Proofs.Evolution

/-!
# Migrations that are cut off

A call that migrates a store up may end after any of its statements: no transaction surrounds them.
What it leaves behind is a schema that is ahead of the records.

* `Migrations.upTo`: such a call. `Migrations.up_eq_upTo`: with the rest of its statements it is a
  whole one.
* `Migration.extend_begun`: a migration that has been begun comes out as if it had not.
* `Database.Resumable`: what is left to do leads to the full schema. `Migrations.upTo_apply`: a call
  that is cut off keeps this.
* `Host.LeadsTo`: the runs. `migrating_up_resumes`: however often calls were cut off, a whole one
  succeeds and comes to what it would have come to at once.
-/

namespace RefreshChain

/-! ## Calls that are cut off -/

namespace Migrations

variable {σ : Type}

/-- Begins to apply the migrations that are pending and ends after `k` statements. The answer is
what remains to be done. -/
def upTo (steps : Option Nat) (k : Nat) : Action σ StoreError (List (Statement Unit)) := do
  let pending := (← status).filterMap fun (m, applied) => if applied then none else some m
  let ss := (limit steps pending).flatMap Migration.upRecorded
  run (ss.take k)
  return ss.drop k

theorem run_append (ss ts : List (Statement Unit)) :
    (run (ss ++ ts) : Action σ StoreError Unit) = (do run ss; run ts) := by
  induction ss with
  | nil => rfl
  | cons s ss ih => simp [run, ih]

/-- A call that is cut off is the first part of a whole one. -/
theorem up_eq_upTo (steps : Option Nat) (k : Nat) :
    (up steps : Action σ StoreError Unit) = (do run (← upTo steps k)) := by
  simp only [up, upTo, bind_assoc, pure_bind, ← run_append, List.take_append_drop]

end Migrations

/-! ## Migrations that have been begun -/

namespace Schema

variable {s : Schema}

theorem mem_addIndex {i : Index} {v : String} :
    v ∈ (s.addIndex i).indexNames ↔ v ∈ s.indexNames ∨ v = i.name := by
  unfold addIndex
  split
  · constructor
    · exact .inl
    · rintro (hv | rfl) <;> assumption
  · simp [indexNames]

theorem mem_foldl_addIndex {is : List Index} {v : String} :
    v ∈ (is.foldl addIndex s).indexNames ↔ v ∈ s.indexNames ∨ v ∈ is.map (·.name) := by
  induction is generalizing s with
  | nil => simp
  | cons i is ih => rw [List.foldl_cons, ih, mem_addIndex, List.map_cons, List.mem_cons, or_assoc]

/-- Indexes whose names are there are not set up again. -/
theorem foldl_addIndex_of_subset {is : List Index} (h : ∀ i ∈ is, i.name ∈ s.indexNames) :
    is.foldl addIndex s = s := by
  induction is with
  | nil => rfl
  | cons i is ih =>
    have hi : s.addIndex i = s := if_pos (h i (.head _))
    rw [List.foldl_cons, hi]
    exact ih fun j hj => h j (.tail _ hj)

/-- If the first ones are there, setting up all comes to the same. -/
theorem foldl_addIndex_take (s : Schema) (is : List Index) (k : Nat) :
    is.foldl addIndex ((is.take k).foldl addIndex s) = is.foldl addIndex s := by
  have hsplit : ∀ s : Schema,
      is.foldl addIndex s = (is.drop k).foldl addIndex ((is.take k).foldl addIndex s) := fun s => by
    rw [← List.foldl_append, List.take_append_drop]
  have hthere : ∀ i ∈ is.take k, i.name ∈ ((is.take k).foldl addIndex s).indexNames :=
    fun _ hi => mem_foldl_addIndex.mpr (.inr (List.mem_map_of_mem hi))
  rw [hsplit, foldl_addIndex_of_subset hthere, ← hsplit]

end Schema

namespace Migration

open Statement (TurnAll)

variable {checks : Bool} {db : Database}

/-- The schema after the first `k` statements of the migration. -/
def begun (m : Migration) (s : Schema) : Nat → Schema
  | 0 => s
  | k + 1 => (m.indexes.take k).foldl Schema.addIndex (s.addTable m.table.definition)

/-- What a migration has already set up makes no difference to what it leads to. -/
theorem extend_begun (m : Migration) (s : Schema) (k : Nat) :
    m.extend (m.begun s k) = m.extend s := by
  cases k with
  | zero => rfl
  | succ k =>
    have htable : m.table.definition.table ∈ (m.begun s (k + 1)).tables := by
      rw [begun, Schema.foldl_addIndex_tables, Schema.mem_addTable]
      exact .inr rfl
    rw [extend, Schema.addTable_of_mem htable]
    exact Schema.foldl_addIndex_take _ _ _

theorem begun_triggers (m : Migration) (s : Schema) (k : Nat) :
    (m.begun s k).triggers = s.triggers := by
  cases k with
  | zero => rfl
  | succ k => rw [begun, Schema.foldl_addIndex_triggers, Schema.addTable_triggers]

theorem mem_begun {m : Migration} {s : Schema} {t : Table} (h : t ∈ s.tables) (k : Nat) :
    t ∈ (m.begun s k).tables := by
  cases k with
  | zero => exact h
  | succ k =>
    rw [begun, Schema.foldl_addIndex_tables, Schema.mem_addTable]
    exact .inl h

theorem begun_turns (m : Migration) (k : Nat) :
    TurnAll checks (m.up.take k) db { db with schema := m.begun db.schema k } := by
  cases k with
  | zero => exact .nil db
  | succ k =>
    rw [up_eq, List.take_succ_cons, ← List.map_take]
    refine .cons (Statement.createTable_turns m.table.definition db)
      (Statement.createIndexes_turn _ ?_)
    intro i hi
    rw [table_of_mem_indexes (List.mem_of_mem_take hi), Database.hasTable_iff, Schema.mem_addTable]
    exact .inr m.table.definition_table.symm

theorem extendAll_append (ms ms' : List Migration) (s : Schema) :
    extendAll (ms ++ ms') s = extendAll ms' (extendAll ms s) :=
  List.foldl_append

/-- What the first statements of several migrations lead to: some of these are recorded, and the
rest leads from the schema that is left to the one that all would have led to. -/
structure Partly (ms : List Migration) (j : Nat) (s s' : Schema) : Prop where
  bound : j ≤ ms.length
  completes : extendAll (ms.drop j) s' = extendAll ms s
  triggers : s'.triggers = s.triggers
  tables : s.tables ⊆ s'.tables

theorem upAll_take_turns (checks : Bool) (ms : List Migration)
    (htable : db.hasTable .migrations = true)
    (htriggers : db.schema.triggers = []) (hnew : (db.migrations ++ ms.map name).Nodup) (k : Nat) :
    ∃ j s, Partly ms j db.schema s ∧ TurnAll checks ((ms.flatMap upRecorded).take k) db
      { db with schema := s, migrations := db.migrations ++ (ms.take j).map name } := by
  induction ms generalizing db k with
  | nil =>
    refine ⟨0, db.schema, ⟨Nat.le_refl 0, rfl, rfl, fun _ h => h⟩, ?_⟩
    simpa using TurnAll.nil db
  | cons m ms ih =>
    rw [List.flatMap_cons]
    by_cases hk : k ≤ m.up.length
    · -- The migration is not recorded.
      have htake : (m.upRecorded ++ ms.flatMap upRecorded).take k = m.up.take k := by
        rw [upRecorded, List.append_assoc, List.take_append_of_le_length hk]
      refine ⟨0, m.begun db.schema k, ⟨Nat.zero_le _, ?_, m.begun_triggers _ k,
        fun t ht => mem_begun ht k⟩, ?_⟩
      · exact congrArg (extendAll ms) (m.extend_begun db.schema k)
      · rw [htake]
        have hbegun : TurnAll checks (m.up.take k) db _ := m.begun_turns k
        simpa using hbegun
    · have hm : m.name ∉ db.migrations := fun hmem =>
        (List.nodup_append.mp hnew).2.2 _ hmem _ (.head _) rfl
      have hlength : m.upRecorded.length ≤ k := by
        simp only [upRecorded, List.length_append, List.length_singleton]
        omega
      have happlied : (m.applied db).hasTable .migrations = true :=
        Database.hasTable_iff.mpr (mem_extend.mpr (.inl (Database.hasTable_iff.mp htable)))
      obtain ⟨j, s, hpartly, hturns⟩ := ih happlied ((extend_triggers m _).trans htriggers)
        (by simpa [applied] using hnew) (k - m.upRecorded.length)
      refine ⟨j + 1, s, ⟨Nat.succ_le_succ hpartly.bound, hpartly.completes,
        hpartly.triggers.trans (extend_triggers m _),
        fun t ht => hpartly.tables (mem_extend.mpr (.inl ht))⟩, ?_⟩
      rw [List.take_append, List.take_of_length_le hlength]
      have hfirst : TurnAll checks m.upRecorded db (m.applied db) :=
        m.upRecorded_turns htable htriggers hm
      simpa [applied] using hfirst.append hturns

end Migration

/-! ## Stores that can be migrated further -/

/-- The first `n` migrations are recorded, and the others lead to the full schema, whatever of them
is there. -/
structure Database.Resumable (n : Nat) (db : Database) : Prop where
  bound : n ≤ Migration.all.length
  migrations : db.migrations = Migrations.names n
  triggers : db.schema.triggers = []
  completes : Migration.extendAll (Migration.all.drop n) db.installed.schema =
    Migrations.built Migration.all.length

namespace Database

variable {db db' : Database} {n : Nat}

theorem AtStage.resumable (hn : n ≤ Migration.all.length) (hs : db.installed.AtStage n) :
    db.Resumable n where
  bound := hn
  migrations := hs.migrations
  triggers := by
    rw [← Schema.addTable_triggers _ Table.migrations.definition]
    exact congrArg Schema.triggers hs.schema
  completes := by
    have hall := Migrations.extendAll_built hn Migration.all.length
    rwa [List.take_of_length_le (by simp), Nat.min_eq_right (by omega), ← hs.schema] at hall

theorem Resumable.of_sameBuild (h : db.Resumable n) (hs : db.SameBuild db') : db'.Resumable n where
  bound := h.bound
  migrations := hs.migrations.trans h.migrations
  triggers := hs.schema ▸ h.triggers
  completes := by
    have hinstalled : db'.installed.schema = db.installed.schema :=
      congrArg (Schema.addTable · Table.migrations.definition) hs.schema
    rw [hinstalled]
    exact h.completes

/-- What is left when some of the next migrations have been carried out in part. -/
theorem Resumable.advance (hr : db.Resumable n) {ms later : List Migration}
    (hnext : Migration.all.drop n = ms ++ later) {j : Nat} {s : Schema}
    (hp : Migration.Partly ms j db.installed.schema s) :
    ({ db with
      schema := s
      migrations := db.migrations ++ (ms.take j).map Migration.name } : Database).Resumable
        (n + j) where
  bound := by
    have hlength := congrArg List.length hnext
    rw [List.length_drop, List.length_append] at hlength
    have := hr.bound
    have := hp.bound
    omega
  migrations := by
    show db.migrations ++ _ = Migrations.names (n + j)
    rw [hr.migrations, Migrations.names, Migrations.names, List.take_add, hnext,
      List.take_append_of_le_length hp.bound, List.map_append]
  triggers := (hp.triggers.trans (Schema.addTable_triggers _ _)).trans hr.triggers
  completes := by
    have hrecords : .migrations ∈ s.tables := hp.tables (Schema.mem_addTable.mpr (.inr rfl))
    show Migration.extendAll _ (s.addTable Table.migrations.definition) = _
    rw [Schema.addTable_of_mem hrecords, ← List.drop_drop, hnext,
      List.drop_append_of_le_length hp.bound, Migration.extendAll_append, hp.completes,
      ← Migration.extendAll_append, ← hnext]
    exact hr.completes

end Database

namespace Migrations

open Migration (all)
open Statement (TurnAll)

variable {σ : Type} {h : Host σ} {n : Nat}

/-- What is asked for of the pending migrations comes before the others. -/
theorem limit_prefix {α : Type} (steps : Option Nat) (xs : List α) : limit steps xs <+: xs := by
  cases steps with
  | none => exact List.prefix_refl xs
  | some k => exact List.take_prefix k xs

/-- A call that is cut off succeeds so far, keeps all rows, and leaves a store that can be migrated
further. -/
theorem upTo_apply (ho : h.connection.Ordinary) (hr : h.connection.data.Resumable n)
    (steps : Option Nat) (k : Nat) :
    ∃ rest db m, (upTo steps k : Action σ StoreError (List (Statement Unit))) h =
        (.ok rest, { h with connection := h.connection.showing db }) ∧
      db.Resumable m ∧ ∀ t, h.connection.data.SameRows db t := by
  obtain ⟨later, hnext⟩ := limit_prefix steps (all.drop n)
  have hstatus := status_apply ho hr.migrations
  have hpending := (applied_pending n).2
  generalize hms : limit steps (all.drop n) = ms at hnext
  have hnew : (h.connection.data.installed.migrations ++ ms.map Migration.name).Nodup := by
    have hall : (names n ++ (all.drop n).map Migration.name).Nodup := by
      rw [names, ← List.map_append, List.take_append_drop]
      exact nodup_names
    rw [← hnext, List.map_append, ← List.append_assoc, ← hr.migrations] at hall
    exact hall.sublist (List.sublist_append_left _ _)
  obtain ⟨j, s, hpartly, hturns⟩ := Migration.upAll_take_turns h.connection.enforced ms
    h.connection.data.hasTable_installed ((Schema.addTable_triggers _ _).trans hr.triggers) hnew k
  refine ⟨(ms.flatMap Migration.upRecorded).drop k, _, n + j, ?_, hr.advance hnext.symm hpartly,
    fun t => ?_⟩
  · rw [upTo, Action.bind_of_ok hstatus, hpending, hms]
    exact Action.bind_of_ok (run_apply (ho.showing h.connection.data.installed) hturns)
  · cases t <;> first | exact Eq.refl _ | trivial

/-- All that is missing is set up. -/
theorem up_resumable (ho : h.connection.Ordinary) (hr : h.connection.data.Resumable n) :
    ∃ db, (up none : Action σ StoreError Unit) h =
        (.ok (), { h with connection := h.connection.showing db }) ∧
      db.AtStage all.length ∧ ∀ t, h.connection.data.SameRows db t := by
  refine ⟨_, up_apply ho hr.migrations hr.triggers none, ⟨hr.completes, ?_⟩, fun t => ?_⟩
  · show h.connection.data.migrations ++ (all.drop n).map Migration.name = names all.length
    rw [hr.migrations, names, ← List.map_append, List.take_append_drop]
    rfl
  · cases t <;> first | exact Eq.refl _ | trivial

/-- Where all is recorded, nothing is done. -/
theorem up_complete (ho : h.connection.Ordinary) (hs : h.connection.data.AtStage all.length) :
    (up none : Action σ StoreError Unit) h = (.ok (), h) := by
  have hrun := up_apply ho hs.migrations (congrArg Schema.triggers hs.schema) none
  have hsame : Migration.appliedAll (limit none (all.drop all.length)) h.connection.data.installed =
      h.connection.data := by
    rw [hs.installed_eq]
    show ({ h.connection.data with
      migrations := h.connection.data.migrations ++ [] } : Database) = _
    rw [List.append_nil]
  rw [hrun, hsame]
  rfl

end Migrations

/-! ## Runs -/

/-- The hosts that a run leads to in which no call that migrates up need come to its end. -/
inductive Host.LeadsTo {σ : Type} (start : Host σ) : Host σ → Prop where
  | start : LeadsTo start start
  /-- A call that ends after some of its statements. -/
  | cut {h : Host σ} (before : LeadsTo start h) (steps : Option Nat) (k : Nat) :
      LeadsTo start (Migrations.upTo steps k h).2
  /-- Writes to the tables that are there, the calls of the library among them. -/
  | act {h : Host σ} (before : LeadsTo start h) {ε α : Type} {x : Action σ ε α}
      (hx : x.MadeOf Statement.OfRows) : LeadsTo start (x h).2
  /-- The program was ended, and is started once more. -/
  | reconnect {h : Host σ} (before : LeadsTo start h) :
      LeadsTo start ⟨.connect h.connection.committed, h.outside⟩

/-- What is written to the tables leaves a store that can be migrated further. -/
theorem Connection.resumable_stable : Connection.Stable Statement.OfRows fun c =>
    c.Ordinary ∧ ∀ db, c.Reaches db → ∃ n, db.Resumable n :=
  Ordinary.enduring.stable.and (stable_reaches fun _ _ hs _ _ _ ⟨n, hr⟩ run =>
    ⟨n, hr.of_sameBuild (hs.sameBuild run)⟩)

/-- The invariant of the runs. -/
theorem Host.LeadsTo.sound {σ : Type} {start h : Host σ} {n : Nat} (ha : start.At n)
    (hr : start.LeadsTo h) :
    h.connection.Ordinary ∧ ∀ db, h.connection.Reaches db → ∃ n, db.Resumable n := by
  induction hr with
  | start =>
    refine ⟨ha.ordinary, ?_⟩
    rintro db (rfl | ⟨k, hk, -⟩)
    · exact ⟨n, ha.stage.resumable ha.bound⟩
    · rw [ha.idle] at hk
      cases hk
  | cut _ steps k ih =>
    obtain ⟨ho, hreach⟩ := ih
    obtain ⟨m, hm⟩ := hreach _ (.inl rfl)
    obtain ⟨rest, db, m', run, hdb, -⟩ := Migrations.upTo_apply ho hm steps k
    rw [run]
    refine ⟨ho.showing db, ?_⟩
    rintro db' (rfl | hk)
    · exact ⟨m', hdb⟩
    · exact hreach db' (.inr hk)
  | act _ hx ih => exact hx.keeps Connection.resumable_stable ih
  | @reconnect h _ ih =>
    refine ⟨.connect _, ?_⟩
    rintro db (rfl | ⟨k, hk, -⟩)
    · exact ih.2 _ h.connection.reaches_committed
    · cases hk

/-- A store to which the first migrations have been applied is migrated up, in calls that end after
any of their statements, with any writes to its tables in between. Each call goes as far as it is
let, keeps all rows, and would have come to its end with the statements that remain. In the end a
call that is not cut off succeeds, keeps all rows and leaves exactly the schema and the records that
one such call would have left at the start; and another one changes nothing. -/
theorem migrating_up_resumes {σ : Type} {start h : Host σ} {n : Nat} (ha : start.At n)
    (hr : start.LeadsTo h) :
    (∀ steps k, ∃ rest h', Migrations.upTo steps k h = (.ok rest, h') ∧
      (∀ t, h.connection.data.SameRows h'.connection.data t) ∧
      Migrations.run rest h' = Migrations.up steps h) ∧
    ∃ whole last, Migrations.up none start = (.ok (), whole) ∧
      Migrations.up none h = (.ok (), last) ∧
      last.connection.data.schema = whole.connection.data.schema ∧
      last.connection.data.migrations = whole.connection.data.migrations ∧
      (∀ t, h.connection.data.SameRows last.connection.data t) ∧
      Migrations.up none last = (.ok (), last) := by
  obtain ⟨ho, hreach⟩ := hr.sound ha
  obtain ⟨m, hm⟩ := hreach _ (.inl rfl)
  refine ⟨fun steps k => ?_, ?_⟩
  · obtain ⟨rest, db, m', run, -, hrows⟩ := Migrations.upTo_apply ho hm steps k
    refine ⟨rest, _, run, hrows, ?_⟩
    rw [Migrations.up_eq_upTo steps k, Action.bind_of_ok run]
  · obtain ⟨db, hup, hstage, hrows⟩ := Migrations.up_resumable ho hm
    obtain ⟨db₀, hup₀, hstage₀, -⟩ :=
      Migrations.up_resumable ha.ordinary (ha.stage.resumable ha.bound)
    exact ⟨_, _, hup₀, hup, hstage.schema.trans hstage₀.schema.symm,
      hstage.migrations.trans hstage₀.migrations.symm, hrows,
      Migrations.up_complete (ho.showing db) hstage⟩

namespace Sample

/-- The first migration is cut off before it is recorded, and Alice joins. The next call is cut off
before it records the third one, and the program is ended. -/
def halted : Host Nat :=
  let begun := (Migrations.upTo none 2 ⟨.connect .empty, 0⟩).2
  let joined := (Action.write (.insertUser alice) begun).2
  let further := (Migrations.upTo none 7 joined).2
  ⟨.connect further.connection.committed, further.outside⟩

theorem leadsTo_halted : Host.LeadsTo ⟨.connect .empty, 0⟩ halted :=
  .reconnect (.cut (.act (.cut .start none 2) (.write (.insertUser alice))) none 7)

end Sample

/-- Two migrations are recorded and the tables of three are there; Alice is kept. -/
theorem halted_migrating_up_resumes :
    Sample.halted.connection.data.migrations = Migrations.names 2 ∧
    Sample.halted.connection.data.schema = Migrations.built 3 ∧
    ∃ last, Migrations.up none Sample.halted = (.ok (), last) ∧
      last.connection.data.schema = Migrations.built 5 ∧
      last.connection.data.users.map (·.id) = [Sample.alice.id] := by
  have hat : (⟨.connect .empty, 0⟩ : Host Nat).At 0 :=
    Migrations.at_zero (.connect .empty) rfl rfl rfl 0
  obtain ⟨-, whole, last, hwhole, hlast, hschema, -, hrows, -⟩ :=
    migrating_up_resumes hat Sample.leadsTo_halted
  have husers : last.connection.data.users = Sample.halted.connection.data.users := hrows .users
  have hw : (Migrations.up none (⟨.connect .empty, 0⟩ : Host Nat)).2 = whole := by rw [hwhole]
  refine ⟨by decide +kernel, by decide +kernel, last, hlast, ?_, ?_⟩
  · rw [hschema, ← hw]
    decide +kernel
  · rw [husers]
    decide +kernel

end RefreshChain
