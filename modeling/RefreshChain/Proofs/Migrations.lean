import RefreshChain.Proofs.Store.Building

/-!
# Migrations

What the migrations do to a store, one by one and together, on an ordinary connection.

* `Migration.upRecorded_turns`, `Migration.downRecorded_turns`: what a single migration does.
* `Migrations.up_apply`: all that is pending is applied, on any store without triggers where the
  first migrations are recorded.
* `Database.AtStage`: what the first migrations lead to. `Migrations.up_at`, `Migrations.down_at`,
  `Migrations.fresh_at`, `Migrations.refresh_at`: from one stage to another.

A migration can only be taken back because no table refers to its own any more, so the last one is
always the first to go.
-/

namespace RefreshChain

/-! ## Single migrations -/

namespace Schema

variable {s : Schema}

theorem addTable_tables (s : Schema) (d : Table.Definition) :
    (s.addTable d).tables = if d.table ∈ s.tables then s.tables else s.tables ++ [d.table] := by
  unfold addTable
  split <;> simp [tables]

@[simp] theorem addTable_triggers (s : Schema) (d : Table.Definition) :
    (s.addTable d).triggers = s.triggers := by
  unfold addTable
  split <;> rfl

@[simp] theorem addIndex_tables (s : Schema) (i : Index) : (s.addIndex i).tables = s.tables := by
  unfold addIndex
  split <;> rfl

@[simp] theorem addIndex_triggers (s : Schema) (i : Index) :
    (s.addIndex i).triggers = s.triggers := by
  unfold addIndex
  split <;> rfl

theorem foldl_addIndex_tables (is : List Index) (s : Schema) :
    (is.foldl addIndex s).tables = s.tables := by
  induction is generalizing s with
  | nil => rfl
  | cons i is ih => exact (ih _).trans (s.addIndex_tables i)

theorem foldl_addIndex_triggers (is : List Index) (s : Schema) :
    (is.foldl addIndex s).triggers = s.triggers := by
  induction is generalizing s with
  | nil => rfl
  | cons i is ih => exact (ih _).trans (s.addIndex_triggers i)

/-- Indexes whose names are not there yet are all set up. -/
theorem foldl_addIndex_of_new {is : List Index} (hnd : (is.map (·.name)).Nodup)
    (hnew : ∀ i ∈ is, i.name ∉ s.indexNames) :
    is.foldl addIndex s = { s with indexes := s.indexes ++ is } := by
  induction is generalizing s with
  | nil => simp
  | cons i is ih =>
    obtain ⟨hi, hnd⟩ := List.nodup_cons.mp hnd
    have hadd : s.addIndex i = { s with indexes := s.indexes ++ [i] } := if_neg (hnew i (.head _))
    rw [List.foldl_cons, hadd, ih hnd]
    · simp
    · intro j hj hmem
      rw [indexNames, List.map_append] at hmem
      rcases List.mem_append.mp hmem with hmem | hmem
      · exact hnew j (.tail _ hj) hmem
      · exact hi (List.mem_singleton.mp hmem ▸ List.mem_map_of_mem hj)

theorem addTable_of_mem {d : Table.Definition} (h : d.table ∈ s.tables) : s.addTable d = s :=
  if_pos h

theorem mem_addTable {d : Table.Definition} {u : Table} :
    u ∈ (s.addTable d).tables ↔ u ∈ s.tables ∨ u = d.table := by
  rw [addTable_tables]
  split
  · rename_i h
    constructor
    · exact .inl
    · rintro (hu | rfl)
      · exact hu
      · exact h
  · simp

theorem mem_dropTable {t u : Table} : u ∈ (s.dropTable t).tables ↔ u ∈ s.tables ∧ u ≠ t := by
  simp only [tables, dropTable, List.mem_map, List.mem_filter, decide_eq_true_eq]
  constructor
  · rintro ⟨d, ⟨hd, hne⟩, rfl⟩
    exact ⟨⟨d, hd, rfl⟩, hne⟩
  · rintro ⟨⟨d, hd, rfl⟩, hne⟩
    exact ⟨d, ⟨hd, hne⟩, rfl⟩

/-- What is left when several tables have been dropped. -/
theorem foldl_dropTable (ts : List Table) (s : Schema) :
    ts.foldl dropTable s =
      ⟨s.definitions.filter (·.table ∉ ts), s.indexes.filter (·.table ∉ ts),
        s.triggers.filter (·.table ∉ ts)⟩ := by
  induction ts generalizing s with
  | nil => simp
  | cons t ts ih => simp [ih, dropTable, List.filter_filter, Bool.and_comm]

/-- An index goes with its table anyway. -/
theorem dropIndex_dropTable {name : String} {t : Table}
    (h : ∀ i ∈ s.indexes, i.name = name → i.table = t) :
    (s.dropIndex name).dropTable t = s.dropTable t := by
  have hindexes : (s.indexes.filter (·.name ≠ name)).filter (·.table ≠ t) =
      s.indexes.filter (·.table ≠ t) := by
    rw [List.filter_filter]
    refine List.filter_congr fun i hi => ?_
    by_cases hname : i.name = name
    · simp [hname, h i hi hname]
    · simp [hname]
  simp only [dropTable, dropIndex, hindexes]

end Schema

/-- The program's indexes are known by their names. -/
theorem Index.eq_of_name : ∀ i ∈ Index.all, ∀ j ∈ Index.all, i.name = j.name → i = j := by decide

theorem Database.hasTable_iff {db : Database} {t : Table} :
    db.hasTable t = true ↔ t ∈ db.schema.tables := by
  simp [hasTable]

namespace Migration

/-- The table that the migration sets up. -/
def table : Migration → Table
  | .createUsers => .users
  | .createSsoProviders => .ssoProviders
  | .createSsoSessions => .ssoSessions
  | .createRefreshTokens => .refreshTokens
  | .createAuditLogEntries => .auditLogEntries

/-- The indexes that the migration sets up, all of them on its table. -/
def indexes : Migration → List Index
  | .createUsers => [.usersByInstance]
  | .createSsoProviders => []
  | .createSsoSessions => [.sessionsByUser]
  | .createRefreshTokens => [.tokensByParent, .tokensByInstanceUser]
  | .createAuditLogEntries => [.auditByInstance]

/-- The schema after the migration. -/
def extend (m : Migration) (s : Schema) : Schema :=
  m.indexes.foldl Schema.addIndex (s.addTable m.table.definition)

/-- The contents after the migration has been applied and recorded. -/
def applied (m : Migration) (db : Database) : Database :=
  { db with schema := m.extend db.schema, migrations := db.migrations ++ [m.name] }

/-- The contents after the migration has been taken back and its record deleted. -/
def takenBack (m : Migration) (db : Database) : Database :=
  { db.withoutTable m.table with migrations := db.migrations.filter (· ≠ m.name) }

theorem up_eq (m : Migration) :
    m.up = .createTable m.table.definition :: m.indexes.map Statement.createIndex := by
  cases m <;> rfl

theorem table_of_mem_indexes {m : Migration} {i : Index} (h : i ∈ m.indexes) :
    i.table = m.table := by
  cases m <;> simp_all [indexes, table] <;> rcases h with rfl | rfl <;> rfl

theorem table_ne (m : Migration) : m.table ≠ .migrations := by cases m <;> decide

/-- Each migration sets up a table of its own. -/
theorem eq_of_table {m m' : Migration} (h : m.table = m'.table) : m = m' := by
  revert h
  cases m <;> cases m' <;> decide

theorem eq_of_name {m m' : Migration} (h : m.name = m'.name) : m = m' := by
  revert h
  cases m <;> cases m' <;> decide

theorem nodup_indexes (m : Migration) : (m.indexes.map (·.name)).Nodup := by cases m <;> decide

theorem index_mem_all (m : Migration) : ∀ i ∈ m.indexes, i ∈ Index.all := by cases m <;> decide

theorem mem_extend {m : Migration} {s : Schema} {t : Table} :
    t ∈ (m.extend s).tables ↔ t ∈ s.tables ∨ t = m.table := by
  rw [extend, Schema.foldl_addIndex_tables, Schema.mem_addTable, Table.definition_table]

theorem extend_triggers (m : Migration) (s : Schema) : (m.extend s).triggers = s.triggers := by
  rw [extend, Schema.foldl_addIndex_triggers, Schema.addTable_triggers]

end Migration

namespace Statement

variable {checks : Bool} {db : Database}

theorem createIndexes_turn (is : List Index) (h : ∀ i ∈ is, db.hasTable i.table = true) :
    TurnAll checks (is.map createIndex) db
      { db with schema := is.foldl Schema.addIndex db.schema } := by
  induction is generalizing db with
  | nil => exact .nil db
  | cons i is ih =>
    refine .cons (createIndex_turns (h i (.head _))) (ih fun j hj => ?_)
    have hj := h j (.tail _ hj)
    rw [Database.hasTable_iff] at hj ⊢
    rwa [Schema.addIndex_tables]

end Statement

namespace Migration

variable {checks : Bool} {db : Database} (m : Migration)

open Statement (TurnAll)

/-- A migration is applied and recorded, whether its table is there or not. -/
theorem upRecorded_turns (htable : db.hasTable .migrations = true)
    (htriggers : db.schema.triggers = []) (hnew : m.name ∉ db.migrations) :
    TurnAll checks m.upRecorded db (m.applied db) := by
  have hcreated : TurnAll checks m.up db { db with schema := m.extend db.schema } := by
    rw [up_eq]
    refine .cons (Statement.createTable_turns m.table.definition db)
      (Statement.createIndexes_turn _ ?_)
    intro i hi
    rw [table_of_mem_indexes hi, Database.hasTable_iff, Schema.mem_addTable]
    exact .inr m.table.definition_table.symm
  refine hcreated.append (.single (Statement.recordMigration_turns ?_ ?_ hnew))
  · rw [Database.hasTable_iff] at htable ⊢
    exact mem_extend.mpr (.inl htable)
  · rw [extend_triggers, htriggers]

/-- The indexes on the tokens are dropped by themselves first. -/
theorem dropTokens_turns (htable : db.hasTable .refreshTokens = true)
    (hparent : .tokensByParent ∈ db.schema.indexes)
    (howner : .tokensByInstanceUser ∈ db.schema.indexes)
    (hown : ∀ i ∈ db.schema.indexes, i ∈ Index.all)
    (halone : db.schema.childrenOf .refreshTokens = []) :
    TurnAll checks (down .createRefreshTokens) db (db.withoutTable .refreshTokens) := by
  let s₁ := db.schema.dropIndex Index.tokensByInstanceUser.name
  let s := s₁.dropIndex Index.tokensByParent.name
  have hparent' : Index.tokensByParent.name ∈ s₁.indexNames :=
    List.mem_map_of_mem (List.mem_filter.mpr ⟨hparent, by decide⟩)
  have hfirst : s₁.dropTable .refreshTokens = db.schema.dropTable .refreshTokens :=
    Schema.dropIndex_dropTable fun i hi hname =>
      congrArg Index.table (Index.eq_of_name i (hown i hi) .tokensByInstanceUser (by decide) hname)
  have hsecond : s.dropTable .refreshTokens = s₁.dropTable .refreshTokens :=
    Schema.dropIndex_dropTable fun i hi hname =>
      congrArg Index.table (Index.eq_of_name i (hown i (List.mem_filter.mp hi).1) .tokensByParent
        (by decide) hname)
  have hsame : ({ db with schema := s } : Database).withoutTable .refreshTokens =
      db.withoutTable .refreshTokens :=
    congrArg (fun s => { db with schema := s, tokens := [], lastTokenId := 0 })
      (hsecond.trans hfirst)
  have hdrop : (Statement.dropTable .refreshTokens).Turns checks { db with schema := s }
      (db.withoutTable .refreshTokens) := hsame ▸ Statement.dropTable_turns htable (.inr halone)
  exact .cons (Statement.dropIndex_turns (List.mem_map_of_mem howner))
    (.cons (Statement.dropIndex_turns hparent') (.single hdrop))

/-- A migration whose table no other refers to is taken back, and its record is deleted. -/
theorem downRecorded_turns (hm : db.hasTable m.table = true)
    (hindexes : ∀ i ∈ m.indexes, i ∈ db.schema.indexes)
    (hown : ∀ i ∈ db.schema.indexes, i ∈ Index.all)
    (halone : db.schema.childrenOf m.table = []) (htable : db.hasTable .migrations = true)
    (htriggers : db.schema.triggers = []) : TurnAll checks m.downRecorded db (m.takenBack db) := by
  have hdropped : TurnAll checks m.down db (db.withoutTable m.table) := by
    have hdrop : (Statement.dropTable m.table).Turns checks db (db.withoutTable m.table) :=
      Statement.dropTable_turns hm (.inr halone)
    cases m with
    | createRefreshTokens =>
      have hparent := hindexes .tokensByParent (by simp [indexes])
      have howner := hindexes .tokensByInstanceUser (by simp [indexes])
      exact dropTokens_turns hm hparent howner hown halone
    | _ => exact .single hdrop
  have htable' : (db.withoutTable m.table).hasTable .migrations = true := by
    rw [Database.hasTable_iff] at htable ⊢
    exact Schema.mem_dropTable.mpr ⟨htable, m.table_ne.symm⟩
  have htriggers' : (db.withoutTable m.table).schema.triggers = [] := by
    show db.schema.triggers.filter _ = []
    rw [htriggers]
    rfl
  have hsame : m.takenBack db = { db.withoutTable m.table with
      migrations :=
        (db.withoutTable m.table).migrations.filter fun v => !decide (v = m.name) } := by
    have hrecords : (db.withoutTable m.table).migrations = db.migrations := by cases m <;> rfl
    simp only [takenBack, hrecords, decide_not]
  rw [hsame]
  exact hdropped.append (.single (Statement.deleteMigrations_turns htable' htriggers' _))

/-- The schema after all of the given migrations, one after the other. -/
def extendAll (ms : List Migration) (s : Schema) : Schema := ms.foldl (fun s m => m.extend s) s

theorem mem_extendAll {ms : List Migration} {s : Schema} {t : Table} (ht : t ∈ s.tables) :
    t ∈ (extendAll ms s).tables := by
  induction ms generalizing s with
  | nil => exact ht
  | cons m ms ih => exact ih (mem_extend.mpr (.inl ht))

/-- The contents after all of the given migrations have been applied and recorded. -/
def appliedAll (ms : List Migration) (db : Database) : Database :=
  { db with schema := extendAll ms db.schema, migrations := db.migrations ++ ms.map name }

theorem appliedAll_cons (ms : List Migration) (db : Database) :
    appliedAll (m :: ms) db = appliedAll ms (m.applied db) := by
  simp [appliedAll, extendAll, applied]

theorem upAll_turns (ms : List Migration) (htable : db.hasTable .migrations = true)
    (htriggers : db.schema.triggers = []) (hnew : (db.migrations ++ ms.map name).Nodup) :
    TurnAll checks (ms.flatMap upRecorded) db (appliedAll ms db) := by
  induction ms generalizing db with
  | nil =>
    have hsame : appliedAll [] db = db := by simp [appliedAll, extendAll]
    rw [hsame]
    exact .nil db
  | cons m ms ih =>
    rw [appliedAll_cons]
    have hm : m.name ∉ db.migrations := fun hmem =>
      (List.nodup_append.mp hnew).2.2 _ hmem _ (.head _) rfl
    refine (m.upRecorded_turns htable htriggers hm).append (ih ?_ ?_ ?_)
    · rw [Database.hasTable_iff] at htable ⊢
      exact mem_extend.mpr (.inl htable)
    · exact (extend_triggers m _).trans htriggers
    · simpa [applied] using hnew

end Migration

/-! ## Stages -/

namespace Migrations

open Migration (all)
open Statement (TurnAll)

/-- What the given migrations set up, and the table of records. -/
def schemaOf (ms : List Migration) : Schema where
  definitions := (.migrations :: ms.map Migration.table).map Table.definition
  indexes := ms.flatMap Migration.indexes

/-- The schema that the first `n` migrations lead to. -/
def built (n : Nat) : Schema := schemaOf (all.take n)

/-- The records of the first `n` migrations. -/
def names (n : Nat) : List String := (all.take n).map Migration.name

theorem nodup_all : all.Nodup := by decide

/-! ### One migration more -/

theorem tables_schemaOf (ms : List Migration) :
    (schemaOf ms).tables = .migrations :: ms.map Migration.table := by
  simp [schemaOf, Schema.tables, Function.comp_def]

/-- An index is on a table that is there. -/
theorem table_mem_schemaOf {ms : List Migration} {i : Index} (hi : i ∈ (schemaOf ms).indexes) :
    i.table ∈ (schemaOf ms).tables := by
  obtain ⟨m, hm, hi⟩ := List.mem_flatMap.mp hi
  rw [tables_schemaOf, Migration.table_of_mem_indexes hi]
  exact .tail _ (List.mem_map_of_mem hm)

theorem index_mem_all {ms : List Migration} {i : Index} (hi : i ∈ (schemaOf ms).indexes) :
    i ∈ Index.all := by
  obtain ⟨m, -, hi⟩ := List.mem_flatMap.mp hi
  exact m.index_mem_all i hi

section

variable {ms : List Migration} {m : Migration} (hm : m ∉ ms)

include hm

theorem table_not_mem_schemaOf : m.table ∉ (schemaOf ms).tables := by
  rw [tables_schemaOf, List.mem_cons, List.mem_map]
  rintro (h | ⟨m', hm', h⟩)
  · exact m.table_ne h
  · exact hm (Migration.eq_of_table h ▸ hm')

theorem extend_schemaOf : m.extend (schemaOf ms) = schemaOf (ms ++ [m]) := by
  have htable := table_not_mem_schemaOf hm
  have hadd : (schemaOf ms).addTable m.table.definition =
      ⟨(schemaOf ms).definitions ++ [m.table.definition], (schemaOf ms).indexes, []⟩ :=
    if_neg (by rwa [Table.definition_table])
  rw [Migration.extend, hadd, Schema.foldl_addIndex_of_new m.nodup_indexes]
  · simp [schemaOf]
  · intro i hi hmem
    obtain ⟨j, hj, hname⟩ := List.mem_map.mp hmem
    have hsame : j = i := Index.eq_of_name j (index_mem_all hj) i (m.index_mem_all i hi) hname
    exact htable (Migration.table_of_mem_indexes hi ▸ hsame ▸ table_mem_schemaOf hj)

/-- The last one can be taken back. -/
theorem dropTable_schemaOf : (schemaOf (ms ++ [m])).dropTable m.table = schemaOf ms := by
  have htable := table_not_mem_schemaOf hm
  have hdefinitions : (schemaOf ms).definitions.filter (·.table ≠ m.table) =
      (schemaOf ms).definitions :=
    List.filter_eq_self.mpr fun d hd => decide_eq_true fun he =>
      htable (he ▸ List.mem_map_of_mem hd)
  have hindexes : (schemaOf ms).indexes.filter (·.table ≠ m.table) = (schemaOf ms).indexes :=
    List.filter_eq_self.mpr fun i hi => decide_eq_true fun he =>
      htable (he ▸ table_mem_schemaOf hi)
  have hlast : m.indexes.filter (·.table ≠ m.table) = [] :=
    List.filter_eq_nil_iff.mpr fun i hi => by simp [Migration.table_of_mem_indexes hi]
  have hsplit : schemaOf (ms ++ [m]) = ⟨(schemaOf ms).definitions ++ [m.table.definition],
      (schemaOf ms).indexes ++ m.indexes, []⟩ := by
    simp [schemaOf]
  rw [hsplit, Schema.dropTable, List.filter_append, List.filter_append, hdefinitions, hindexes,
    hlast]
  simp [schemaOf]

end

/-- The tables refer to those that are set up earlier only. -/
theorem refers_back : all.Pairwise fun m m' => ∀ k ∈ m.table.foreignKeys, k.parent ≠ m'.table := by
  decide

theorem parent_ne_table (m : Migration) : ∀ k ∈ m.table.foreignKeys, k.parent ≠ m.table := by
  cases m <;> decide

/-- The migration that comes after the first `n`. -/
theorem exists_next {n : Nat} (hn : n < all.length) : ∃ m, m ∉ all.take n ∧
    all.drop n = m :: all.drop (n + 1) ∧ all.take (n + 1) = all.take n ++ [m] := by
  have hdrop : all.drop n = all[n] :: all.drop (n + 1) := List.drop_eq_getElem_cons hn
  have hall : all.take n ++ all[n] :: all.drop (n + 1) = all := by
    rw [← hdrop, List.take_append_drop]
  refine ⟨all[n], fun hmem => ?_, hdrop, List.take_succ_eq_append_getElem hn⟩
  have hnd := nodup_all
  rw [← hall] at hnd
  exact (List.nodup_append.mp hnd).2.2 _ hmem _ (.head _) rfl

theorem extend_built {n : Nat} (hn : n < all.length) :
    ∃ m, all.drop n = m :: all.drop (n + 1) ∧ m.extend (built n) = built (n + 1) := by
  obtain ⟨m, hm, hdrop, htake⟩ := exists_next hn
  refine ⟨m, hdrop, ?_⟩
  rw [built, built, htake]
  exact extend_schemaOf hm

theorem extendAll_built {n : Nat} (hn : n ≤ all.length) (k : Nat) :
    Migration.extendAll ((all.drop n).take k) (built n) = built (min (n + k) all.length) := by
  induction k generalizing n with
  | zero =>
    rw [List.take_zero, Nat.add_zero, Nat.min_eq_left hn]
    rfl
  | succ k ih =>
    by_cases hlast : n = all.length
    · subst hlast
      rw [Nat.min_eq_right (by omega)]
      rfl
    · have hlt : n < all.length := by omega
      obtain ⟨m, hdrop, hextend⟩ := extend_built hlt
      have hrest := ih (n := n + 1) hlt
      rw [Nat.add_right_comm, Nat.add_assoc] at hrest
      rw [hdrop, List.take_succ_cons, Migration.extendAll, List.foldl_cons, hextend]
      exact hrest

theorem names_append (n k : Nat) :
    names n ++ ((all.drop n).take k).map Migration.name = names (min (n + k) all.length) := by
  have hall : all.take (n + k) = all.take (min (n + k) all.length) := List.take_eq_take_min
  rw [names, names, ← hall, List.take_add, List.map_append]

/-- The last migration that was applied can be taken back: no other table refers to its own. -/
theorem exists_last {n : Nat} (hn : n < all.length) :
    ∃ m, (all.take (n + 1)).reverse = m :: (all.take n).reverse ∧
      m.table ∈ (built (n + 1)).tables ∧ (∀ i ∈ m.indexes, i ∈ (built (n + 1)).indexes) ∧
      (built (n + 1)).childrenOf m.table = [] ∧ (built (n + 1)).dropTable m.table = built n ∧
      (names (n + 1)).filter (· ≠ m.name) = names n := by
  obtain ⟨m, hm, hdrop, htake⟩ := exists_next hn
  have hbuilt : built (n + 1) = schemaOf (all.take n ++ [m]) := congrArg schemaOf htake
  have hlast : m ∈ all.take n ++ [m] := List.mem_append_right _ (List.mem_singleton_self m)
  have hback : ∀ m' ∈ all.take n ++ [m], ∀ k ∈ m'.table.foreignKeys, k.parent ≠ m.table := by
    intro m' hm'
    rcases List.mem_append.mp hm' with hm' | hm'
    · have hpairs := refers_back
      rw [← List.take_append_drop n all, hdrop] at hpairs
      exact (List.pairwise_append.mp hpairs).2.2 m' hm' m (.head _)
    · exact List.mem_singleton.mp hm' ▸ parent_ne_table m
  refine ⟨m, by simp [htake], ?_, fun i hi => ?_, ?_, ?_, ?_⟩
  · rw [hbuilt, tables_schemaOf]
    exact .tail _ (List.mem_map_of_mem hlast)
  · rw [hbuilt]
    exact List.mem_flatMap.mpr ⟨m, hlast, hi⟩
  · rw [hbuilt, Schema.childrenOf, tables_schemaOf, List.filter_eq_nil_iff]
    intro t ht
    rw [List.mem_reverse, List.mem_cons, List.mem_map] at ht
    rcases ht with rfl | ⟨m', hm', rfl⟩
    · exact Bool.false_ne_true
    · simpa using hback m' hm'
  · rw [hbuilt]
    exact dropTable_schemaOf hm
  · have hnames : (names n).filter (· ≠ m.name) = names n := by
      refine List.filter_eq_self.mpr fun v hv => decide_eq_true ?_
      rintro rfl
      obtain ⟨m', hm', he⟩ := List.mem_map.mp hv
      exact hm (Migration.eq_of_name he ▸ hm')
    rw [names, htake, List.map_append, List.filter_append, ← names, hnames]
    simp

theorem built_subset {n m : Nat} (h : n ≤ m) : (built n).tables ⊆ (built m).tables := by
  rw [built, built, tables_schemaOf, tables_schemaOf]
  exact List.cons_subset_cons _ (List.map_subset _ (List.take_subset_take_left _ h))

theorem nodup_built (n : Nat) : (built n).tables.Nodup := by
  have hall : (Table.migrations :: all.map Migration.table).Nodup := by decide
  rw [built, tables_schemaOf]
  exact hall.sublist (((List.take_sublist n all).map _).cons_cons _)

theorem nodup_names : (all.map Migration.name).Nodup := by decide

end Migrations

/-- The table of records has been set up, if it was not there. -/
def Database.installed (db : Database) : Database :=
  { db with schema := db.schema.addTable Table.migrations.definition }

theorem Database.hasTable_installed (db : Database) : db.installed.hasTable .migrations = true :=
  hasTable_iff.mpr (Schema.mem_addTable.mpr (.inr rfl))

/-! ## The calls on an ordinary connection -/

namespace Migrations

open Migration (all)
open Statement (TurnAll)

variable {σ : Type} {h : Host σ} {db : Database}

theorem write_apply (ho : h.connection.Ordinary) {s : Statement Unit}
    (hs : s.Turns h.connection.enforced h.connection.data db) :
    (Action.write s : Action σ StoreError Unit) h =
      (.ok (), { h with connection := h.connection.showing db }) := by
  have hwork : h.connection.work s.purpose =
      ⟨h.connection.data, h.connection.enforced, false, false, 0⟩ := by
    simp [Connection.work, ho.deferred, ho.tolerant, ho.violations]
  have hx := ho.execute_ok.mpr ⟨_, (congrArg s.run hwork).trans hs, Int.le_refl 0, rfl⟩
  exact Action.onConnection_ok.mpr ⟨ho.closed, _, hx, rfl⟩

theorem run_apply (ho : h.connection.Ordinary) {ss : List (Statement Unit)}
    (hs : TurnAll h.connection.enforced ss h.connection.data db) :
    (run ss : Action σ StoreError Unit) h =
      (.ok (), { h with connection := h.connection.showing db }) := by
  generalize hc : h.connection.enforced = checks at hs
  generalize hd : h.connection.data = db₀ at hs
  induction hs generalizing h with
  | nil =>
    subst hd
    rfl
  | @cons s ss _ db₁ _ first rest ih =>
    subst hc hd
    rw [run, Action.bind_of_ok (write_apply ho first)]
    exact ih (h := ⟨h.connection.showing db₁, h.outside⟩) (ho.showing db₁) rfl rfl

/-- The first migrations are recorded, so no record is unknown. -/
theorem status_of_install {h₁ : Host σ} {n : Nat} (hc : h₁.connection.closed = false)
    (hinstall : (install : Action σ StoreError Unit) h = (.ok (), h₁))
    (hlook : h₁.connection.look [.migrations] (·.migrations) = (.ok (names n), h₁.connection)) :
    (status : Action σ StoreError (List (Migration × Bool))) h =
      (.ok (all.map fun m => (m, (names n).contains m.name)), h₁) := by
  have hread : (Action.read [.migrations] (·.migrations) : Action σ StoreError (List String)) h₁ =
      (.ok (names n), h₁) := Action.onConnection_ok.mpr ⟨hc, _, hlook, rfl⟩
  have hknown : (names n).filter (fun v => all.all (·.name ≠ v)) = [] := by
    refine List.filter_eq_nil_iff.mpr fun v hv => ?_
    obtain ⟨m, hm, rfl⟩ := List.mem_map.mp hv
    simpa using ⟨m, List.mem_of_mem_take hm, rfl⟩
  rw [status, Action.bind_of_ok hinstall, Action.bind_of_ok hread, hknown]
  rfl

theorem status_apply (ho : h.connection.Ordinary) {n : Nat}
    (hrec : h.connection.data.migrations = names n) :
    (status : Action σ StoreError (List (Migration × Bool))) h =
      (.ok (all.map fun m => (m, (names n).contains m.name)),
        { h with connection := h.connection.showing h.connection.data.installed }) := by
  have hthere : ∀ t ∈ [Table.migrations], h.connection.data.installed.hasTable t = true := by
    simpa using h.connection.data.hasTable_installed
  refine status_of_install ho.closed
    (write_apply ho (Statement.createTable_turns Table.migrations.definition _)) ?_
  rw [← hrec]
  exact (ho.showing h.connection.data.installed).look (·.migrations) hthere

/-- What is recorded are the first `n`. -/
theorem contains_names (n : Nat) (m : Migration) :
    (names n).contains m.name = decide (m ∈ all.take n) := by
  rw [Bool.eq_iff_iff, List.contains_iff_mem, decide_eq_true_eq, names, List.mem_map]
  constructor
  · rintro ⟨m', hm', he⟩
    exact Migration.eq_of_name he ▸ hm'
  · exact fun hm => ⟨m, hm, rfl⟩

/-- The first `n` migrations come before the others, and none of them is among these. -/
theorem all_split (n : Nat) :
    all.take n ++ all.drop n = all ∧ ∀ m ∈ all.drop n, m ∉ all.take n := by
  have hsplit := List.take_append_drop n all
  have hnd := nodup_all
  rw [← hsplit] at hnd
  exact ⟨hsplit, fun m hm hmem => (List.nodup_append.mp hnd).2.2 m hmem m hm rfl⟩

/-- Where exactly the first of two parts of a list passes a test, the parts are told apart by it. -/
theorem filterMap_append {before after : List Migration} {p : Migration → Bool}
    (hbefore : ∀ m ∈ before, p m = true) (hafter : ∀ m ∈ after, p m = false) :
    ((before ++ after).map fun m => (m, p m)).filterMap
        (fun (m, b) => if b then some m else none) = before ∧
      ((before ++ after).map fun m => (m, p m)).filterMap
        (fun (m, b) => if b then none else some m) = after := by
  simp only [List.filterMap_append, List.filterMap_map, Function.comp_def]
  constructor
  · have hnone : after.filterMap (fun m => if p m = true then some m else none) = [] :=
      List.filterMap_eq_nil_iff.mpr fun m hm => by simp [hafter m hm]
    rw [hnone, List.append_nil, List.filterMap_congr fun m hm => if_pos (hbefore m hm)]
    exact List.filterMap_some
  · have hnone : before.filterMap (fun m => if p m = true then none else some m) = [] :=
      List.filterMap_eq_nil_iff.mpr fun m hm => by simp [hbefore m hm]
    rw [hnone, List.nil_append, List.filterMap_congr fun m hm => if_neg (by simp [hafter m hm])]
    exact List.filterMap_some

/-- The first `n` migrations are applied, and those after them are pending. -/
theorem applied_pending (n : Nat) :
    (all.map fun m => (m, (names n).contains m.name)).filterMap
        (fun (m, applied) => if applied then some m else none) = all.take n ∧
      (all.map fun m => (m, (names n).contains m.name)).filterMap
        (fun (m, applied) => if applied then none else some m) = all.drop n := by
  obtain ⟨hsplit, hapart⟩ := all_split n
  have htold := filterMap_append (p := fun m => (names n).contains m.name)
    (fun m hm => (contains_names n m).trans (decide_eq_true hm))
    (fun m hm => (contains_names n m).trans (decide_eq_false (hapart m hm)))
  rwa [hsplit] at htold

/-- As many of the pending migrations are applied as were asked for, whatever tables there are. -/
theorem up_apply (ho : h.connection.Ordinary) {n : Nat}
    (hrec : h.connection.data.migrations = names n)
    (htriggers : h.connection.data.schema.triggers = []) (steps : Option Nat) :
    (up steps : Action σ StoreError Unit) h = (.ok (), { h with
      connection := h.connection.showing
        (Migration.appliedAll (limit steps (all.drop n)) h.connection.data.installed) }) := by
  have hpending : (limit steps (all.drop n)).Sublist (all.drop n) := by
    cases steps with
    | none => exact .refl _
    | some k => exact List.take_sublist _ _
  have hnew : (h.connection.data.installed.migrations ++
      (limit steps (all.drop n)).map Migration.name).Nodup := by
    refine nodup_names.sublist ?_
    show (h.connection.data.migrations ++ _).Sublist _
    rw [hrec, names, ← List.map_append]
    refine List.Sublist.map _ ?_
    have hsplit := hpending.append_left (all.take n)
    rwa [List.take_append_drop] at hsplit
  have hturns : TurnAll h.connection.enforced ((limit steps (all.drop n)).flatMap
      Migration.upRecorded) h.connection.data.installed _ :=
    Migration.upAll_turns _ h.connection.data.hasTable_installed
      ((Schema.addTable_triggers _ _).trans htriggers) hnew
  rw [up, Action.bind_of_ok (status_apply ho hrec), (applied_pending n).2]
  exact run_apply (ho.showing h.connection.data.installed) hturns

end Migrations

/-! ## From stage to stage -/

/-- The first `n` migrations are applied and recorded, and nothing else is there. -/
structure Database.AtStage (n : Nat) (db : Database) : Prop where
  schema : db.schema = Migrations.built n
  migrations : db.migrations = Migrations.names n

/-- The rows of one of the program's own tables are the same. -/
def Database.SameRows (db db' : Database) : Table → Prop
  | .users => db'.users = db.users
  | .ssoProviders => db'.providers = db.providers
  | .ssoSessions => db'.sessions = db.sessions
  | .refreshTokens => db'.tokens = db.tokens
  | .auditLogEntries => db'.audit = db.audit
  | .migrations => True

namespace Database

variable {db db₁ db' : Database} {t u : Table}

theorem SameRows.refl (db : Database) (t : Table) : db.SameRows db t := by
  cases t with
  | migrations => trivial
  | _ => exact Eq.refl _

theorem SameRows.trans (h : db.SameRows db₁ t) (h' : db₁.SameRows db' t) : db.SameRows db' t := by
  cases t with
  | migrations => trivial
  | _ => exact Eq.trans h' h

theorem sameRows_withoutTable (db : Database) (h : t ≠ u) : db.SameRows (db.withoutTable u) t := by
  cases t <;> cases u <;> first | exact absurd rfl h | exact rfl | exact trivial

theorem SameRows.takenBack {m : Migration} (h : db.SameRows (db.withoutTable m.table) t) :
    db.SameRows (m.takenBack db) t := by
  cases t <;> exact h

end Database

namespace Migrations

open Migration (all)
open Statement (TurnAll)

variable {db : Database}

/-- Taking back the last `k` migrations leaves the rows of the tables that stay. -/
theorem downAll_turns (checks : Bool) {n : Nat} (hn : n ≤ all.length) (hs : db.AtStage n)
    (k : Nat) : ∃ db',
    TurnAll checks (((all.take n).reverse.take k).flatMap Migration.downRecorded) db db' ∧
      db'.AtStage (n - k) ∧ ∀ t ∈ (built (n - k)).tables, db.SameRows db' t := by
  induction k generalizing n db with
  | zero => exact ⟨db, .nil db, hs, fun t _ => .refl db t⟩
  | succ k ih =>
    cases n with
    | zero => exact ⟨db, .nil db, by rwa [Nat.zero_sub], fun t _ => .refl db t⟩
    | succ n =>
      obtain ⟨m, hlast, htable, hindexes, halone, hbuilt, hnames⟩ := exists_last hn
      rw [← hs.schema] at htable hindexes halone hbuilt
      have hrecords : .migrations ∈ db.schema.tables := by
        rw [hs.schema]
        exact .head _
      have htriggers : db.schema.triggers = [] := by
        rw [hs.schema]
        rfl
      have hown : ∀ i ∈ db.schema.indexes, i ∈ Index.all := fun i hi =>
        index_mem_all (hs.schema ▸ hi)
      have hback : TurnAll checks m.downRecorded db (m.takenBack db) :=
        m.downRecorded_turns (Database.hasTable_iff.mpr htable) hindexes hown halone
          (Database.hasTable_iff.mpr hrecords) htriggers
      have hstage : (m.takenBack db).AtStage n := ⟨hbuilt, by rw [← hnames, ← hs.migrations]; rfl⟩
      obtain ⟨db', hrest, hstage', hrows⟩ := ih (Nat.le_of_succ_le hn) hstage
      rw [Nat.succ_sub_succ]
      refine ⟨db', ?_, hstage', fun t ht => ?_⟩
      · rw [hlast, List.take_succ_cons, List.flatMap_cons]
        exact hback.append hrest
      · -- The table that goes is none of those that stay.
        have hne : t ≠ m.table := by
          rintro rfl
          have hstays := built_subset (Nat.sub_le n k) ht
          rw [← hbuilt] at hstays
          exact (Schema.mem_dropTable.mp hstays).2 rfl
        exact (Database.sameRows_withoutTable db hne).takenBack.trans (hrows t ht)

/-- Where references are not checked, tables are dropped in any order. -/
theorem dropAll_turns (ts : List Table) (hts : ∀ t ∈ ts, db.hasTable t = true) (hnd : ts.Nodup) :
    TurnAll false (ts.map Statement.dropTable) db (ts.foldl Database.withoutTable db) := by
  induction ts generalizing db with
  | nil => exact .nil db
  | cons t ts ih =>
    obtain ⟨hnew, hnd⟩ := List.nodup_cons.mp hnd
    refine .cons (Statement.dropTable_turns (hts t (.head _)) (.inl rfl)) (ih (fun u hu => ?_) hnd)
    have hu' := hts u (.tail _ hu)
    rw [Database.hasTable_iff] at hu' ⊢
    refine Schema.mem_dropTable.mpr ⟨hu', ?_⟩
    rintro rfl
    exact hnew hu

/-- Nothing remains of a stage when all tables are dropped. -/
theorem dropped_stage {n : Nat} (hs : db.AtStage n) :
    let db' := (built n).tables.foldl Database.withoutTable db
    db'.schema = {} ∧ db'.migrations = [] := by
  have hschema : ∀ (ts : List Table) (db : Database),
      (ts.foldl Database.withoutTable db).schema = ts.foldl Schema.dropTable db.schema := by
    intro ts
    induction ts with
    | nil => exact fun _ => rfl
    | cons t ts ih => exact fun db => ih _
  have hrecords : ∀ (ts : List Table) (db : Database), db.migrations = [] →
      (ts.foldl Database.withoutTable db).migrations = [] := by
    intro ts
    induction ts with
    | nil => exact fun _ h => h
    | cons t ts ih => exact fun db h => ih _ (by cases t <;> first | exact h | rfl)
  -- The table of records is the first to go.
  refine ⟨?_, hrecords _ (db.withoutTable .migrations) rfl⟩
  have hdefinitions : (built n).definitions.filter (·.table ∉ (built n).tables) = [] :=
    List.filter_eq_nil_iff.mpr fun d hd => by
      have hmem : d.table ∈ (built n).tables := List.mem_map_of_mem hd
      simpa using hmem
  have hindexes : (built n).indexes.filter (·.table ∉ (built n).tables) = [] :=
    List.filter_eq_nil_iff.mpr fun i hi => by
      have hmem : i.table ∈ (built n).tables := table_mem_schemaOf hi
      simpa using hmem
  rw [hschema, hs.schema, Schema.foldl_dropTable, hdefinitions, hindexes]
  rfl

end Migrations

/-- Nothing is open on the connection, and the store is at a stage, but for the table of records
which may still be missing before the first call. -/
structure Host.At {σ : Type} (n : Nat) (h : Host σ) : Prop where
  ordinary : h.connection.Ordinary
  idle : h.connection.checkpoints = []
  bound : n ≤ Migration.all.length
  stage : h.connection.data.installed.AtStage n

/-- A store with the table of records needs no other. -/
theorem Database.AtStage.installed_eq {n : Nat} {db : Database} (hs : db.AtStage n) :
    db.installed = db := by
  have hmem : .migrations ∈ db.schema.tables := by
    rw [hs.schema]
    exact .head _
  rw [Database.installed, Schema.addTable_of_mem hmem]

namespace Host.At

variable {σ : Type} {h : Host σ} {n m : Nat} {db : Database}

theorem showing (ha : h.At n) (hm : m ≤ Migration.all.length) (hs : db.AtStage m) :
    ({ h with connection := h.connection.showing db } : Host σ).At m :=
  ⟨ha.ordinary.showing db, ha.idle, hm, by
    show db.installed.AtStage m
    rwa [hs.installed_eq]⟩

theorem migrations (ha : h.At n) : h.connection.data.migrations = Migrations.names n :=
  ha.stage.migrations

theorem triggers (ha : h.At n) : h.connection.data.schema.triggers = [] := by
  rw [← Schema.addTable_triggers _ Table.migrations.definition]
  exact congrArg Schema.triggers ha.stage.schema

end Host.At

namespace Migrations

open Migration (all)
open Statement (TurnAll)

variable {σ : Type} {h : Host σ} {n : Nat}

theorem limit_eq_take {α : Type} (steps : Option Nat) {xs : List α}
    (hxs : xs.length ≤ all.length) : limit steps xs = xs.take (steps.getD all.length) := by
  cases steps with
  | none => exact (List.take_of_length_le hxs).symm
  | some k => rfl

theorem up_at (ha : h.At n) (steps : Option Nat) :
    ∃ h', (up steps : Action σ StoreError Unit) h = (.ok (), h') ∧
      h'.At (min (n + steps.getD all.length) all.length) ∧
      ∀ t, h.connection.data.SameRows h'.connection.data t := by
  have hlimit : limit steps (all.drop n) = (all.drop n).take (steps.getD all.length) :=
    limit_eq_take steps (by simp)
  refine ⟨_, up_apply ha.ordinary ha.migrations ha.triggers steps,
    ha.showing (Nat.min_le_right _ _) ⟨?_, ?_⟩, fun t => ?_⟩
  · rw [hlimit, Migration.appliedAll, ← extendAll_built ha.bound, ← ha.stage.schema]
  · rw [hlimit, Migration.appliedAll, ← names_append, ← ha.stage.migrations]
  · cases t <;> first | exact Eq.refl _ | trivial

theorem down_at (ha : h.At n) (steps : Option Nat) :
    ∃ h', (down steps : Action σ StoreError Unit) h = (.ok (), h') ∧
      h'.At (n - steps.getD all.length) ∧
      ∀ t ∈ h'.connection.data.schema.tables, h.connection.data.SameRows h'.connection.data t := by
  have hlimit : limit steps (all.take n).reverse =
      (all.take n).reverse.take (steps.getD all.length) := by
    refine limit_eq_take steps ?_
    rw [List.length_reverse, List.length_take]
    exact Nat.min_le_right _ _
  obtain ⟨db', hturns, hstage, hrows⟩ :=
    downAll_turns h.connection.enforced ha.bound ha.stage (steps.getD all.length)
  rw [← hlimit] at hturns
  have hrun : (down steps : Action σ StoreError Unit) h =
      (.ok (), { h with connection := h.connection.showing db' }) := by
    rw [down, Action.bind_of_ok (status_apply ha.ordinary ha.migrations), (applied_pending n).1]
    exact run_apply (ha.ordinary.showing h.connection.data.installed) hturns
  refine ⟨_, hrun, ha.showing (Nat.le_trans (Nat.sub_le _ _) ha.bound) hstage, fun t ht => ?_⟩
  exact hrows t (hstage.schema ▸ ht)

theorem status_at (ha : h.At n) :
    ∃ h', (status : Action σ StoreError (List (Migration × Bool))) h =
      (.ok (all.map fun m => (m, (names n).contains m.name)), h') ∧ h'.At n :=
  ⟨_, status_apply ha.ordinary ha.migrations, ha.showing ha.bound ha.stage⟩

theorem adjust_apply (hc : h.connection.closed = false) (f : Connection → Connection) :
    (Action.adjust f : Action σ StoreError Unit) h =
      (.ok (), { h with connection := f h.connection }) :=
  Action.onConnection_ok.mpr ⟨hc, _, rfl, rfl⟩

/-- A store without any table is at the first stage. -/
theorem at_zero {c : Connection} (ho : c.Ordinary) (hidle : c.checkpoints = [])
    (hschema : c.data.schema = {}) (hrecords : c.data.migrations = []) (outside : σ) :
    (⟨c, outside⟩ : Host σ).At 0 where
  ordinary := ho
  idle := hidle
  bound := Nat.zero_le _
  stage := by
    refine ⟨?_, hrecords⟩
    show c.data.schema.addTable Table.migrations.definition = built 0
    rw [hschema]
    rfl

/-- Whatever stage the store was at, it is built anew. -/
theorem fresh_at (ha : h.At n) :
    ∃ h', (fresh : Action σ StoreError Unit) h = (.ok (), h') ∧ h'.At all.length := by
  let installed := h.connection.showing h.connection.data.installed
  have hinstalled : installed.Ordinary := ha.ordinary.showing _
  have htables : installed.data.schema.tables = (built n).tables :=
    congrArg Schema.tables ha.stage.schema
  let unchecked := installed.enforce false
  have hunchecked : unchecked.Ordinary := hinstalled.enforce false
  have hoff : unchecked.enforced = false := by
    simp [unchecked, installed, Connection.enforce, Connection.inTransaction, Connection.showing,
      ha.idle]
  let dropped := unchecked.showing ((built n).tables.foldl Database.withoutTable installed.data)
  have hthere : ∀ t ∈ (built n).tables, installed.data.hasTable t = true := fun t ht =>
    Database.hasTable_iff.mpr (htables ▸ ht)
  have hturns := dropAll_turns (built n).tables hthere (nodup_built n)
  obtain ⟨hschema, hrecords⟩ := dropped_stage ha.stage
  have hzero := at_zero (c := dropped.enforce true) ((hunchecked.showing _).enforce true) ha.idle
    hschema hrecords h.outside
  obtain ⟨h', hup, hat, -⟩ := up_at hzero none
  refine ⟨h', ?_, hat⟩
  have hinstall : (install : Action σ StoreError Unit) h = (.ok (), ⟨installed, h.outside⟩) :=
    write_apply ha.ordinary (Statement.createTable_turns Table.migrations.definition _)
  have huncheck := adjust_apply (h := ⟨installed, h.outside⟩) hinstalled.closed (·.enforce false)
  have hread : (Action.read [] (·.schema.tables) : Action σ StoreError (List Table))
      ⟨unchecked, h.outside⟩ = (.ok (built n).tables, ⟨unchecked, h.outside⟩) := by
    rw [← htables]
    exact Action.onConnection_ok.mpr ⟨hunchecked.closed, _, hunchecked.look _ (by simp), rfl⟩
  have hdrops := run_apply (h := ⟨unchecked, h.outside⟩) hunchecked (hoff ▸ hturns)
  have hcheck := adjust_apply (h := ⟨dropped, h.outside⟩) hunchecked.closed (·.enforce true)
  rw [fresh, Action.bind_of_ok hinstall, Action.bind_of_ok huncheck, Action.bind_of_ok hread,
    Action.bind_of_ok hdrops, Action.bind_of_ok hcheck]
  exact hup

theorem refresh_at (ha : h.At n) :
    ∃ h', (refresh : Action σ StoreError Unit) h = (.ok (), h') ∧ h'.At all.length := by
  obtain ⟨h₁, hdown, hat₁, -⟩ := down_at ha none
  obtain ⟨h', hup, hat, -⟩ := up_at hat₁ none
  have hall : min (n - all.length + all.length) all.length = all.length :=
    Nat.min_eq_right (Nat.le_add_left _ _)
  refine ⟨h', ?_, hall ▸ hat⟩
  rw [refresh, Action.bind_of_ok hdown]
  exact hup

end Migrations

end RefreshChain
