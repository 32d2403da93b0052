import RefreshChain.Proofs.Store.Integral

/-!
# The schema under statements

* `Statement.OfRows.sameBuild`: a statement that writes rows changes neither the schema nor the
  records of migrations, whatever the store consists of.
* `Statement.createTable_run` and its kin: what the statements of migrations do to the contents.
* `Statement.dropTable_run`: a table that no other refers to goes with its rows, and nothing else.
-/

namespace RefreshChain

/-! ## Row statements -/

/-- The same tables, indexes and triggers, and the same migrations are recorded. -/
structure Database.SameBuild (db db' : Database) : Prop where
  schema : db'.schema = db.schema
  migrations : db'.migrations = db.migrations

namespace Database.SameBuild

theorem refl (db : Database) : db.SameBuild db := ⟨rfl, rfl⟩

theorem trans {db db₁ db' : Database} (h : db.SameBuild db₁) (h' : db₁.SameBuild db') :
    db.SameBuild db' :=
  ⟨h'.schema.trans h.schema, h'.migrations.trans h.migrations⟩

theorem thinnable (db : Database) : Thinnable db.SameBuild where
  users _ _ h := ⟨h.schema, h.migrations⟩
  providers _ _ h := ⟨h.schema, h.migrations⟩
  sessions _ _ h := ⟨h.schema, h.migrations⟩
  tokens _ _ h := ⟨h.schema, h.migrations⟩

end Database.SameBuild

namespace Work

variable {w w' : Work}

theorem keepOr_keeps {P : Database → Prop} {t : Table} {remove : Work → Except Refusal Work}
    (hr : remove w = .ok w' → P w'.data) (hp : P w.data) (h : w.keepOr t remove = .ok w') :
    P w'.data := by
  unfold keepOr at h
  split at h
  · exact hr h
  · cases h
    exact hp

theorem orphan_data (w : Work) (named : Option Reference) : (w.orphan named).data = w.data := by
  cases named with
  | none => rfl
  | some r => exact (owed_same r _ w).1

theorem adopt_data (w : Work) (named : Option Reference) : (w.adopt named).data = w.data := by
  cases named with
  | none => rfl
  | some r => exact offsets_data r _ w

/-- A row that is changed clashes with none of the others and comes in its own place. -/
theorem changeRow_ok {α : Type} {k : Kind α} {old new : α} {before after : List α}
    (h : w.changeRow k old new before after = .ok w') :
    k.clash? new (before ++ after) = none ∧
      w'.data = k.put (before ++ new :: after) (k.put (before ++ after) w.data) := by
  unfold changeRow at h
  split at h <;> cases h
  refine ⟨by assumption, ?_⟩
  unfold putIn takeOut
  simp only [adopt_data, owe_data, orphan_data, (forget_same w _).1]

/-- What holds however the rows of a kind are replaced holds after a change of them. -/
theorem changeRows_keeps {α : Type} {k : Kind α} {P : Database → Prop}
    (hk : ∀ (rows : List α) (db : Database), P db → P (k.put rows db)) {p : α → Bool}
    {f : α → α} {before after : List α} (hp : P w.data)
    (h : changeRows k p f before after w = .ok w') : P w'.data := by
  induction after generalizing before w with
  | nil =>
    cases h
    exact hp
  | cons row after ih =>
    unfold changeRows at h
    split at h
    · obtain ⟨w₁, hrow, h⟩ := except_bind_ok.mp h
      refine ih ?_ h
      rw [(changeRow_ok hrow).2]
      exact hk _ _ (hk _ _ hp)
    · exact ih hp h

end Work

namespace Statement

section

variable {P : Database → Prop} (hP : Database.Thinnable P) {w w' : Work}

include hP

/-- A user comes in under an id that no other has. Only triggers may take rows out again. -/
theorem insertUser_keeps {u : User} (run : (insertUser u).run w = .ok ((), w'))
    (hp : w.data.user? u.id = none → P { w.data with users := w.data.users ++ [u] }) :
    P w'.data := by
  obtain ⟨_, -, run⟩ := except_bind_ok.mp run
  split at run
  · cases run
  rename_i hnew
  obtain ⟨w₁, hkeep, run⟩ := except_bind_ok.mp run
  cases run
  have hp : P { (w.welcome ⟨.users, u.id⟩).data with
      users := (w.welcome ⟨.users, u.id⟩).data.users ++ [u] } := by
    rw [Work.welcome_data]
    exact hp (by simpa using hnew)
  exact Work.keepOr_keeps (Work.removeUsers_keeps hP hp) hp hkeep

theorem insertProvider_keeps {p : SsoProvider} (run : (insertProvider p).run w = .ok ((), w'))
    (hp : w.data.provider? p.id = none → P { w.data with providers := w.data.providers ++ [p] }) :
    P w'.data := by
  obtain ⟨_, -, run⟩ := except_bind_ok.mp run
  split at run
  · cases run
  rename_i hnew
  obtain ⟨w₁, hkeep, run⟩ := except_bind_ok.mp run
  cases run
  have hp : P { (w.welcome ⟨.ssoProviders, p.id⟩).data with
      providers := (w.welcome ⟨.ssoProviders, p.id⟩).data.providers ++ [p] } := by
    rw [Work.welcome_data]
    exact hp (by simpa using hnew)
  exact Work.keepOr_keeps (Work.removeProviders_keeps hP hp) hp hkeep

theorem insertSession_keeps {session : SsoSession}
    (run : (insertSession session).run w = .ok ((), w'))
    (hp : w.data.session? session.id = none →
      P { w.data with sessions := w.data.sessions ++ [session] }) : P w'.data := by
  obtain ⟨_, -, run⟩ := except_bind_ok.mp run
  split at run
  · cases run
  rename_i hnew
  obtain ⟨w₁, haccept, run⟩ := except_bind_ok.mp run
  obtain ⟨w₂, hkeep, run⟩ := except_bind_ok.mp run
  cases run
  have hp : P { (w₁.welcome ⟨.ssoSessions, session.id⟩).data with
      sessions := (w₁.welcome ⟨.ssoSessions, session.id⟩).data.sessions ++ [session] } := by
    rw [Work.welcome_data, Work.accept_data haccept]
    exact hp (by simpa using hnew)
  exact Work.keepOr_keeps (Work.removeSessions_keeps hP hp) hp hkeep

theorem insertToken_keeps {t : RefreshToken} {id? : Option Int} {id : Int}
    (run : (insertToken t id?).run w = .ok (id, w'))
    (hp : w.data.tokenById? id = none → w.data.token? t.token = none →
      P { w.data with
        tokens := Database.insertById { t with id } w.data.tokens
        lastTokenId := max w.data.lastTokenId id }) : P w'.data := by
  obtain ⟨hid, hstring, -, hstays, hvanishes⟩ := insertToken_ok run
  cases hv : w.data.schema.vanishes .refreshTokens with
  | false => rw [hstays hv]; exact hp hid hstring
  | true => rw [hvanishes hv]; exact hP.tokens _ _ (hp hid hstring)

end

theorem updateTokens_sameBuild {touched : List ForeignKey} {p : RefreshToken → Bool}
    {f : RefreshToken → RefreshToken} {w w' : Work} {n : Nat}
    (run : (updateTokens touched p f).run w = .ok (n, w')) : w.data.SameBuild w'.data := by
  rw [(updateTokens_ok run).2]
  exact ⟨rfl, rfl⟩

theorem change_keeps {α : Type} {k : Kind α} {P : Database → Prop}
    (hk : ∀ (rows : List α) (db : Database), P db → P (k.put rows db)) {p : α → Bool}
    {f : α → α} {w w' : Work} {n : Nat} (hp : P w.data)
    (run : (change k p f).run w = .ok (n, w')) : P w'.data := by
  obtain ⟨_, -, run⟩ := except_bind_ok.mp run
  obtain ⟨_, -, run⟩ := except_bind_ok.mp run
  obtain ⟨_, -, run⟩ := except_bind_ok.mp run
  obtain ⟨w₁, hrows, run⟩ := except_bind_ok.mp run
  cases run
  exact Work.changeRows_keeps hk hp hrows

/-- A statement that writes rows leaves the schema and the records of migrations alone. -/
theorem OfRows.sameBuild {α : Type} {s : Statement α} (hs : s.OfRows) {w w' : Work} {a : α}
    (run : s.run w = .ok (a, w')) : w.data.SameBuild w'.data := by
  have hthin := Database.SameBuild.thinnable w.data
  have hremoved := Database.SameBuild.refl w.data
  cases hs with
  | insertUser u => exact insertUser_keeps hthin run fun _ => ⟨rfl, rfl⟩
  | insertProvider p => exact insertProvider_keeps hthin run fun _ => ⟨rfl, rfl⟩
  | insertSession session => exact insertSession_keeps hthin run fun _ => ⟨rfl, rfl⟩
  | insertToken t id? => exact insertToken_keeps hthin run fun _ _ => ⟨rfl, rfl⟩
  | insertAuditEntry e =>
    obtain ⟨_, -, run⟩ := except_bind_ok.mp run
    split at run
    · obtain ⟨_, -, run⟩ := except_bind_ok.mp run
      cases run
      exact .refl _
    · cases run
      exact ⟨rfl, rfl⟩
  | updateUsers p hf =>
    rw [updateUsers_ok run]
    exact ⟨rfl, rfl⟩
  | updateTokens p hf => exact updateTokens_sameBuild run
  | revokeFamily now start => exact updateTokens_sameBuild run
  | changeUsers p f => exact change_keeps (fun _ _ h => h.trans ⟨rfl, rfl⟩) hremoved run
  | changeProviders p f => exact change_keeps (fun _ _ h => h.trans ⟨rfl, rfl⟩) hremoved run
  | changeSessions p f => exact change_keeps (fun _ _ h => h.trans ⟨rfl, rfl⟩) hremoved run
  | changeTokens p f => exact change_keeps (fun _ _ h => h.trans ⟨rfl, rfl⟩) hremoved run
  | changeAuditEntries p f => exact change_keeps (fun _ _ h => h.trans ⟨rfl, rfl⟩) hremoved run
  | deleteUsers p => exact Work.removeUsers_keeps hthin hremoved (deletion_ok run)
  | deleteProviders p => exact Work.removeProviders_keeps hthin hremoved (deletion_ok run)
  | deleteSessions p => exact Work.removeSessions_keeps hthin hremoved (deletion_ok run)
  | deleteTokens p => exact Work.removeTokens_keeps hthin hremoved (deletion_ok run)
  | deleteAuditEntries p =>
    obtain ⟨_, -, run⟩ := except_bind_ok.mp run
    obtain ⟨_, -, run⟩ := except_bind_ok.mp run
    cases run
    exact ⟨rfl, rfl⟩

end Statement

/-! ## Statements of migrations -/

/-- The contents without a table and its rows. -/
def Database.withoutTable (db : Database) (t : Table) : Database :=
  { ((Work.start db).clear t).data with schema := db.schema.dropTable t }

namespace Statement

variable {checks : Bool} {db db₁ db' : Database}

/-- The statement turns the contents `db` into `db'` where nothing is counted, and counts nothing
itself. -/
def Turns (checks : Bool) (s : Statement Unit) (db db' : Database) : Prop :=
  s.run ⟨db, checks, false, false, 0⟩ = .ok ((), ⟨db', checks, false, false, 0⟩)

/-- The statements, one after the other, turn the contents `db` into `db'`. -/
inductive TurnAll (checks : Bool) : List (Statement Unit) → Database → Database → Prop where
  | nil (db : Database) : TurnAll checks [] db db
  | cons {s : Statement Unit} {ss : List (Statement Unit)} {db db₁ db' : Database}
      (first : s.Turns checks db db₁) (rest : TurnAll checks ss db₁ db') :
      TurnAll checks (s :: ss) db db'

namespace TurnAll

theorem single {s : Statement Unit} (h : s.Turns checks db db') : TurnAll checks [s] db db' :=
  .cons h (.nil db')

theorem append {ss ts : List (Statement Unit)} (hs : TurnAll checks ss db db₁)
    (ht : TurnAll checks ts db₁ db') : TurnAll checks (ss ++ ts) db db' := by
  induction hs with
  | nil => exact ht
  | cons first _ ih => exact .cons first (ih ht)

end TurnAll

theorem createTable_turns (d : Table.Definition) (db : Database) :
    (createTable d).Turns checks db { db with schema := db.schema.addTable d } := rfl

theorem createIndex_turns {i : Index} (h : db.hasTable i.table = true) :
    (createIndex i).Turns checks db { db with schema := db.schema.addIndex i } := by
  simp only [Turns, createIndex, h]
  rfl

theorem dropIndex_turns {name : String} (h : name ∈ db.schema.indexNames) :
    (dropIndex name).Turns checks db { db with schema := db.schema.dropIndex name } := by
  simp only [Turns, dropIndex, h]
  rfl

/-- Only the rows of the table itself go, if none refers to them or that does not matter. -/
theorem dropTable_turns {t : Table} (h : db.hasTable t = true)
    (halone : checks = false ∨ db.schema.childrenOf t = []) :
    (dropTable t).Turns checks db (db.withoutTable t) := by
  have hrows : Work.mustEmpty ⟨db, checks, false, false, 0⟩ t = false := by
    rcases halone with rfl | hnone
    · rfl
    · simp [Work.mustEmpty, hnone]
  simp only [Turns, dropTable, Work.needTable, h, hrows]
  cases t <;> rfl

section

variable (htable : db.hasTable .migrations = true) (htriggers : db.schema.triggers = [])

include htable htriggers

theorem recordMigration_turns {version : String} (hnew : version ∉ db.migrations) :
    (recordMigration version).Turns checks db
      { db with migrations := db.migrations ++ [version] } := by
  have hrefuse := Work.refuseOn_of_no_triggers (w := ⟨db, checks, false, false, 0⟩) htriggers
  have hvanish : db.schema.vanishes .migrations = false := by
    rw [Schema.vanishes, htriggers]
    rfl
  simp only [Turns, recordMigration, Work.prepareInsert, Work.needTable, htable, hvanish, hrefuse,
    hnew]
  rfl

theorem deleteMigrations_turns (p : String → Bool) :
    (deleteMigrations p).Turns checks db
      { db with migrations := db.migrations.filter (!p ·) } := by
  have hrefuse := Work.refuseOn_of_no_triggers (w := ⟨db, checks, false, false, 0⟩) htriggers
  simp only [Turns, deleteMigrations, Work.needTable, htable, hrefuse]
  rfl

end

end Statement

end RefreshChain
