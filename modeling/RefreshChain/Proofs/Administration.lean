import Mathlib
import RefreshChain.Admin.Run
import RefreshChain.Proofs.Evolution

/-!
# Administration

The administration program does what the library does, on a store that is migrated first.

* `Migrations.up_writable`, `Migrations.up_current`: all pending migrations are applied; where none
  are, the store is left as it is, even if it may only be read.
* `Connection.fixed_stable`: a store that may only be read stays as it is, whatever is done.
* `Command.Calls`: the calls of the library that a command stands for. `Command.Calls.idle`: they
  leave no transaction open.
* `administration_calls_library`: what the program answers and what it keeps.
-/

namespace RefreshChain

/-! ## The migrations at the start -/

/-- The contents once all pending migrations have been applied. -/
def Database.upgraded (db : Database) : Database :=
  Migration.appliedAll (Migration.all.drop db.migrations.length) db.installed

/-- All migrations are recorded. -/
structure Database.Current (db : Database) : Prop where
  table : db.hasTable .migrations = true
  migrations : db.migrations = Migration.all.map Migration.name

namespace Migrations

open Migration (all)

variable {σ : Type} {db : Database}

theorem records_eq_names (hrecords : db.migrations <+: all.map Migration.name) :
    db.migrations = names db.migrations.length :=
  (List.prefix_iff_eq_take.mp hrecords).trans (List.map_take ..).symm

theorem upgraded_current (hrecords : db.migrations <+: all.map Migration.name) :
    db.upgraded.Current where
  table := by
    rw [Database.hasTable_iff]
    exact Migration.mem_extendAll (Database.hasTable_iff.mp db.hasTable_installed)
  migrations := by
    show db.migrations ++ (all.drop db.migrations.length).map Migration.name = _
    rw [List.map_drop]
    nth_rewrite 1 [List.prefix_iff_eq_take.mp hrecords]
    exact List.take_append_drop ..

/-- On a store that may be written, all that is pending is applied. -/
theorem up_writable (hrecords : db.migrations <+: all.map Migration.name)
    (htriggers : db.schema.triggers = []) (outside : σ) :
    (up none : Action σ StoreError Unit) ⟨.connect db, outside⟩ =
      (.ok (), ⟨.connect db.upgraded, outside⟩) :=
  up_apply (h := ⟨.connect db, outside⟩) (.connect db) (records_eq_names hrecords) htriggers none

/-- Where nothing is pending the store is left as it is, even if it may only be read. -/
theorem up_current (hdb : db.Current) (readOnly : Bool) (outside : σ) :
    (up none : Action σ StoreError Unit) ⟨{ data := db, readOnly }, outside⟩ =
      (.ok (), ⟨{ data := db, readOnly }, outside⟩) := by
  let h : Host σ := ⟨{ data := db, readOnly }, outside⟩
  have hsame : db.schema.addTable Table.migrations.definition = db.schema :=
    Schema.addTable_of_mem (Database.hasTable_iff.mp hdb.table)
  have hexecute : h.connection.execute (.createTable Table.migrations.definition) =
      (.ok (), h.connection) := by
    simp [Connection.execute, Statement.createTable, Connection.work, Connection.settle,
      Connection.prepared, Connection.withData, Connection.lapse, Connection.inTransaction, h,
      hsame]
  have hlook : h.connection.look [.migrations] (·.migrations) =
      (.ok (names all.length), h.connection) := by
    simp [Connection.look, Connection.lapse, Connection.inTransaction, h, hdb.table, hdb.migrations]
    rfl
  have hinstall : (install : Action σ StoreError Unit) h = (.ok (), h) :=
    Action.onConnection_ok.mpr ⟨rfl, _, hexecute, rfl⟩
  rw [up, Action.bind_of_ok (status_of_install rfl hinstall hlook), (applied_pending all.length).2]
  rfl

theorem status_leavesOpen {reports : StoreError → Prop} :
    (status : Action σ StoreError (List (Migration × Bool))).LeavesOpen
      (StoreError.EndsAll reports) := by
  refine .bind (.write _) fun _ => .bind (.read _ _) fun _ => ?_
  split
  · exact .pure _
  · exact .fail _

theorem run_leavesOpen {reports : StoreError → Prop} (ss : List (Statement Unit)) :
    (run ss : Action σ StoreError Unit).LeavesOpen (StoreError.EndsAll reports) := by
  induction ss with
  | nil => exact .pure ()
  | cons s ss ih => exact .bind (.write s) fun _ => ih

theorem up_leavesOpen {reports : StoreError → Prop} (steps : Option Nat) :
    (up steps : Action σ StoreError Unit).LeavesOpen (StoreError.EndsAll reports) :=
  .bind status_leavesOpen fun _ => run_leavesOpen _

end Migrations

/-! ## Nothing stays open -/

/-- No transaction is open, and none is believed to be. -/
structure Connection.Idle (c : Connection) : Prop where
  checkpoints : c.checkpoints = []
  depth : c.depth = 0
  closed : c.closed = false

namespace Connection.Idle

variable {c c₁ : Connection}

theorem tracked (hi : c.Idle) : c.Tracked := fun _ => hi.checkpoints

/-- What is rolled back was the only transaction. -/
theorem undone (hi : c.Idle) (hs : c.begin.SameOpen c₁) :
    (c₁.undone c.depth c.checkpoint c.checkpoints).Idle where
  checkpoints := by rw [Connection.undone_checkpoints, if_pos (.inl hi.depth), hi.checkpoints]
  depth := (Connection.undone_depth ..).trans hi.depth
  closed := (Connection.undone_closed ..).trans (hs.closed.trans hi.closed)

end Connection.Idle

theorem Connection.committed_eq {c : Connection} (hk : c.checkpoints = []) :
    c.committed = c.data := by
  rw [committed, hk]
  rfl

namespace Action

variable {σ ε α : Type} {ends : ε → Prop} {h h₁ h' : Host σ}

/-- Where nothing is open there is nothing that the store could end. -/
theorem LeavesOpen.idle {x : Action σ ε α} (hx : x.LeavesOpen ends) (hi : h.connection.Idle)
    {o : Except ε α} (run : x h = (o, h')) : h'.connection.Idle := by
  rcases hx run with hs | ⟨-, he⟩
  · exact ⟨hs.checkpoints.trans hi.checkpoints, hs.depth.trans hi.depth, hs.closed.trans hi.closed⟩
  · exact absurd hi.checkpoints he.some_open

theorem rollback_idle (hi : h.connection.Idle)
    (hs : h.connection.begin.SameOpen h₁.connection ∨ h.connection.begin.Ended h₁.connection) :
    (rollback h₁ : Except StoreError Unit × Host σ).2.connection.checkpoints = [] := by
  rcases hs with hs | he
  · rw [rollback_of_sameOpen hi.closed hi.tracked hs]
    exact (hi.undone hs).checkpoints
  · rw [rollback_of_ended hi.closed he]
    exact (Connection.lapse_checkpoints _).trans he.none_open

theorem finish_idle (hi : h.connection.Idle) (hs : h.connection.begin.SameOpen h₁.connection)
    (a : α) : (finish (.ok a) h₁ : Except Error α × Host σ).2.connection.checkpoints = [] := by
  have hcommit : (commit h₁ : Except StoreError Unit × Host σ).2.connection.checkpoints = [] := by
    rw [commit_of_sameOpen hi.closed hi.tracked hs]
    split
    · exact (hi.undone hs).checkpoints
    · exact (Connection.lapse_checkpoints _).trans hi.checkpoints
  rcases hf : (finish (.ok a) h₁ : Except Error α × Host σ) with ⟨o, h'⟩
  obtain ⟨_, hduring, -⟩ := map_outcome hf
  obtain ⟨_, hc, -⟩ := during_outcome hduring
  rwa [hc] at hcommit

end Action

section

variable {σ : Type} {reports : StoreError → Prop} {s : Service σ} {now : Instant} {h h₁ : Host σ}

theorem revokeFamily_leavesOpen (now : Instant) (t : RefreshToken) :
    (revokeFamily now t : Action σ Error Unit).LeavesOpen (Error.EndsAll reports) :=
  .bind (.during (.write _) _) fun _ => .pure _

theorem logout_leavesOpen (instanceId userId : Uuid) :
    (logout instanceId userId : Action σ Error Unit).LeavesOpen (Error.EndsAll reports) :=
  .bind (.during (.write _) _) fun _ => .pure _

theorem Service.punish_idle (hi : h.connection.Idle)
    (hs : h.connection.begin.SameOpen h₁.connection) (t : RefreshToken) :
    (s.punish now t h₁).2.connection.checkpoints = [] := by
  have hrest : (do
      if s.config.rotationEnabled then revokeFamily now t
      Action.fail .tokenReused : Action σ Error IssuedToken).LeavesOpen
        (Error.EndsAll fun _ => False) := by
    split
    · exact .bind (revokeFamily_leavesOpen now t) fun _ => .fail _
    · exact .fail _
  have hback := Action.rollback_of_sameOpen hi.closed hi.tracked hs
  rw [punish, Action.bind_of_ok (Action.during_ok.mpr hback)]
  exact (hrest.idle (hi.undone hs) rfl).checkpoints

/-- However an exchange ends, its transaction is not left open. -/
theorem Service.exchange_idle (ha : s.audit.LeavesOpen reports) (hu : s.users.LeavesOpen reports)
    (now : Instant) (token : String) (hi : h.connection.Idle) :
    (s.exchange now token h).2.connection.checkpoints = [] := by
  have hwork := Service.exchangeWork_leavesOpen now ha hu token
  rw [Service.exchange_apply s now token hi.closed]
  rcases hr : s.exchangeWork now token { h with connection := h.connection.begin } with
    ⟨e | t | t, h₁⟩
  · exact Action.rollback_idle hi ((hwork hr).imp_right fun he => he.2)
  · exact Action.finish_idle hi (hwork.of_ok hr) t
  · exact Service.punish_idle hi (hwork.of_ok hr) t

end

/-! ## Stores that may only be read -/

/-- All statements. -/
def Statement.Any : ∀ ⦃α : Type⦄, Statement α → Prop := fun _ _ => True

namespace Connection

variable {c : Connection}

theorem Reaches.of_execute_readOnly {α : Type} {s : Statement α} {db : Database}
    (hr : c.readOnly = true) (h : (c.execute s).2.Reaches db) : c.Reaches db := by
  unfold execute at h
  split at h
  · exact h.of_refuse
  · rename_i a w hw
    split at h
    · exact h.of_refuse
    · rename_i hsame
      simp only [hr, Bool.true_and, Bool.or_eq_true, decide_eq_true_eq, not_or,
        Decidable.not_not] at hsame
      rcases h.of_settle with h | rfl
      · exact h
      · exact .inl hsame.2

theorem readOnly_stable : Stable Statement.Any fun c => c.readOnly = true :=
  (Enduring.of_setting (·.readOnly) (fun _ _ _ _ _ _ _ => rfl) true).stable

/-- What may only be read stays as it is, whatever the statements are. -/
theorem fixed_stable (db : Database) : Stable Statement.Any fun c =>
    c.readOnly = true ∧ ∀ db', c.Reaches db' → db' = db where
  begin _ h := ⟨readOnly_stable.begin h.1, fun _ hd => h.2 _ hd.of_begin⟩
  commit _ h := ⟨readOnly_stable.commit h.1, fun _ hd => h.2 _ hd.of_commit⟩
  rollback _ h := ⟨readOnly_stable.rollback h.1, fun _ hd => h.2 _ hd.of_rollback⟩
  look _ _ tables f h := ⟨readOnly_stable.look tables f h.1, fun _ hd => h.2 _ hd.of_look⟩
  execute _ _ _ hs h := ⟨readOnly_stable.execute hs h.1, fun _ hd =>
    h.2 _ (hd.of_execute_readOnly h.1)⟩

end Connection

/-! ## Commands -/

section

variable {σ : Type} {s : Service σ} {now : Instant} {h h' : Host σ}

/-- The calls of the library that a command stands for, with what is to be printed in the end, or
the error of the call that failed. -/
inductive Command.Calls (s : Service σ) (now : Instant) :
    Command → Host σ → Except Error (Option String) → Host σ → Prop where
  | migrate (h : Host σ) : Calls s now .migrate h (.ok none) h
  | exchange {h h' : Host σ} {token : String} {o : Except Error IssuedToken}
      (run : s.exchange now token h = (o, h')) :
      Calls s now (.exchange token) h (o.map fun issued => some issued.token.token) h'
  | unknown {h h' : Host σ} {token : String} {e : Error}
      (find : findToken token h = (.error e, h')) :
      Calls s now (.revokeFamily token) h (.error e) h'
  | revokeFamily {h h₁ h' : Host σ} {token : String} {row : RefreshToken} {o : Except Error Unit}
      (find : findToken token h = (.ok row, h₁))
      (run : RefreshChain.revokeFamily now row h₁ = (o, h')) :
      Calls s now (.revokeFamily token) h (o.map fun _ => none) h'
  | logout {h h' : Host σ} {instanceId userId : Uuid} {o : Except Error Unit}
      (run : RefreshChain.logout instanceId userId h = (o, h')) :
      Calls s now (.logout instanceId userId) h (o.map fun _ => none) h'

namespace Command

theorem work_calls {c : Command} {o : Except Error (Option String)}
    (run : c.work s now h = (o, h')) : c.Calls s now h o h' := by
  cases c with
  | migrate =>
    obtain ⟨rfl, rfl⟩ := Prod.mk.inj run
    exact .migrate h
  | exchange token =>
    obtain ⟨o₁, hx, rfl⟩ := Action.map_outcome run
    exact .exchange hx
  | revokeFamily token =>
    rcases hf : (findToken token h : Except Error RefreshToken × Host σ) with ⟨e | row, h₁⟩
    · rw [work, Action.bind_of_error hf] at run
      obtain ⟨rfl, rfl⟩ := Prod.mk.inj run
      exact .unknown hf
    · rw [work, Action.bind_of_ok hf] at run
      obtain ⟨o₁, hx, rfl⟩ := Action.map_outcome run
      exact .revokeFamily hf hx
  | logout instanceId userId =>
    obtain ⟨o₁, hx, rfl⟩ := Action.map_outcome run
    exact .logout hx

/-- The calls leave no transaction open, however they end. -/
theorem Calls.idle {reports : StoreError → Prop} (ha : s.audit.LeavesOpen reports)
    (hu : s.users.LeavesOpen reports) {c : Command} {o : Except Error (Option String)}
    (hc : c.Calls s now h o h') (hi : h.connection.Idle) : h'.connection.checkpoints = [] := by
  have hfind : ∀ token, (findToken token : Action σ Error RefreshToken).LeavesOpen
      (Error.EndsAll reports) := findToken_leavesOpen
  have hrevoke : ∀ row, (RefreshChain.revokeFamily now row : Action σ Error Unit).LeavesOpen
      (Error.EndsAll reports) := revokeFamily_leavesOpen now
  have hlogout : ∀ i u, (RefreshChain.logout i u : Action σ Error Unit).LeavesOpen
      (Error.EndsAll reports) := logout_leavesOpen
  cases hc with
  | migrate => exact hi.checkpoints
  | @exchange _ _ token _ run =>
    have hx := Service.exchange_idle ha hu now token hi
    rwa [run] at hx
  | unknown find => exact ((hfind _).idle hi find).checkpoints
  | revokeFamily find run => exact ((hrevoke _).idle ((hfind _).idle hi find) run).checkpoints
  | logout run => exact ((hlogout _ _).idle hi run).checkpoints

end Command

/-- The statements of the library are among all statements. -/
theorem Statement.serves_any : Statement.Serves Any :=
  ⟨fun _ => trivial, fun _ => trivial, fun _ _ => trivial, fun _ _ => trivial, fun _ => trivial⟩

theorem Migrations.up_madeOf (steps : Option Nat) :
    (up steps : Action σ StoreError Unit).MadeOf Statement.Any := by
  have hrun : ∀ ss, (run ss : Action σ StoreError Unit).MadeOf Statement.Any := by
    intro ss
    induction ss with
    | nil => exact .pure ()
    | cons s ss ih => exact .bind (.write trivial) fun _ => ih
  refine .bind (.bind (.write trivial) fun _ => .bind (.read _ _) fun _ => ?_) fun _ => hrun _
  split
  · exact .pure _
  · exact .fail _

theorem Command.perform_madeOf (hs : s.MadeOf Statement.Any) (now : Instant) (c : Command) :
    (c.perform s now).MadeOf Statement.Any := by
  refine .bind (.mapError _ (Migrations.up_madeOf none)) fun _ => .mapError _ ?_
  cases c with
  | migrate => exact .pure _
  | exchange token =>
    exact .bind (Service.exchange_madeOf Statement.serves_any hs now token) fun _ => .pure _
  | revokeFamily token =>
    exact .bind (findToken_madeOf token) fun row =>
      .bind (revokeFamily_madeOf Statement.serves_any now row) fun _ => .pure _
  | logout instanceId userId =>
    exact .bind (logout_madeOf Statement.serves_any instanceId userId) fun _ => .pure _

namespace Command

/-- Where the migrations are applied, the calls decide on the rest. -/
theorem perform_of_up_ok {reports : StoreError → Prop} (ha : s.audit.LeavesOpen reports)
    (hu : s.users.LeavesOpen reports) (now : Instant) (c : Command) {h₁ : Host σ}
    (hi : h.connection.Idle)
    (hup : (Migrations.up none : Action σ StoreError Unit) h = (.ok (), h₁)) :
    ∃ o h', c.Calls s now h₁ o h' ∧ c.perform s now h = (o.mapError .operation, h') ∧
      h'.connection.checkpoints = [] := by
  have hleaves : (Migrations.up none : Action σ StoreError Unit).LeavesOpen
      (StoreError.EndsAll reports) := Migrations.up_leavesOpen none
  rcases hwork : c.work s now h₁ with ⟨o, h'⟩
  have hcalls := work_calls hwork
  refine ⟨o, h', hcalls, ?_, hcalls.idle ha hu (hleaves.idle hi hup)⟩
  rw [perform, Action.bind_of_ok (Action.mapError_of hup)]
  exact Action.mapError_of hwork

/-- Where the migrations cannot be applied, nothing else is done. -/
theorem perform_of_up_error (s : Service σ) (now : Instant) (c : Command) {h₁ : Host σ}
    {e : StoreError} (hi : h.connection.Idle)
    (hup : (Migrations.up none : Action σ StoreError Unit) h = (.error e, h₁)) :
    c.perform s now h = (.error (.store e), h₁) ∧ h₁.connection.checkpoints = [] := by
  have hleaves : (Migrations.up none : Action σ StoreError Unit).LeavesOpen
      (StoreError.EndsAll fun _ => False) := Migrations.up_leavesOpen none
  exact ⟨Action.bind_of_error (Action.mapError_of hup), (hleaves.idle hi hup).checkpoints⟩

end Command

/-- A store that may only be read is kept as it is, whatever was asked for. -/
theorem Command.perform_readOnly (hs : s.MadeOf Statement.Any) (now : Instant) (c : Command)
    (hi : h.connection.Idle) (hread : h.connection.readOnly = true) :
    (c.perform s now h).2.connection.committed = h.connection.data := by
  have hfixed : ∀ db, h.connection.Reaches db → db = h.connection.data := by
    rintro db (rfl | ⟨k, hk, -⟩)
    · rfl
    · rw [hi.checkpoints] at hk
      cases hk
  have hkept := (c.perform_madeOf hs now).keeps (Connection.fixed_stable h.connection.data)
    ⟨hread, hfixed⟩
  exact hkept.2 _ (Connection.reaches_committed _)

end

/-! ## The program -/

namespace Admin

variable {σ : Type} {log : Option String → Log} {contents : Target → Except StoreError Database}
  {service : Config → Service σ} {now : Instant} {environment : Environment} {args : List String}
  {outside : σ} {invocation : Invocation} {target : Target} {db : Database}

theorem locate_eq_ok {url : String} : locate contents url = .ok (target, db) ↔
    Target.ofUrl url = .ok target ∧ contents target = .ok db := by
  unfold locate
  constructor
  · intro h
    obtain ⟨t, ht, h⟩ := except_bind_ok.mp h
    obtain ⟨d, hd, h⟩ := except_bind_ok.mp h
    cases h
    exact ⟨ht, hd⟩
  · rintro ⟨ht, hd⟩
    exact except_bind_ok.mpr ⟨target, ht, except_bind_ok.mpr ⟨db, hd, rfl⟩⟩

theorem run_apply (environment : Environment)
    (hparse : CommandLine.parse environment.databaseUrl args = .ok invocation)
    (hlocate : locate contents invocation.databaseUrl = .ok (target, db))
    {o : Except CommandError (Option String)} {h : Host σ}
    (hperform : invocation.command.perform
      (service (.ofVariables environment.rotation environment.tokenBytes)) now
        ⟨{ data := db, readOnly := target.readOnly }, outside⟩ = (o, h)) :
    run log contents service now environment args outside =
      ((Outcome.ofResult o).logging (log environment.logFilter),
        some (target, h.connection.committed), h.outside) := by
  simp only [run, hparse, hlocate, hperform]

/-- Without a database nothing is done. -/
theorem run_lost (environment : Environment)
    (hparse : CommandLine.parse environment.databaseUrl args = .ok invocation)
    {e : StoreError} (hlocate : locate contents invocation.databaseUrl = .error e) :
    run log contents service now environment args outside =
      ((Outcome.failure e.message).logging (log environment.logFilter), none, outside) := by
  simp only [run, hparse, hlocate]

/-- A command that is understood is logged. -/
theorem run_log (hparse : CommandLine.parse environment.databaseUrl args = .ok invocation) :
    (run log contents service now environment args outside).1.log = log environment.logFilter := by
  unfold run
  simp only [hparse]
  split <;> rfl

end Admin

/-- The program does what the library does, for every command that its arguments ask for.

Without a database at the address it ends with 1 and prints the error. Else, on every store without
triggers where the first migrations are recorded, all pending migrations are applied to a store that
may be written, and one where none are pending is not touched. After that the command comes down to
its calls: the program keeps the store that they leave, ends with 0 and prints what they give if
they succeed, and else ends with 1 and prints the error. A store that may only be read is kept as it
is; where it lacks migrations, their failure is what is reported.

Besides, there are the lines of the log, on standard output as well as on standard error. -/
theorem administration_calls_library {σ : Type} (log : Option String → Admin.Log)
    (contents : Target → Except StoreError Database) (service : Config → Service σ) (now : Instant)
    (environment : Admin.Environment) (args : List String) (outside : σ) {invocation : Invocation}
    (hservice : ∀ config, (service config).audit = .table ∧ (service config).users = .table)
    (hparse : CommandLine.parse environment.databaseUrl args = .ok invocation) :
    let s := service (.ofVariables environment.rotation environment.tokenBytes)
    let lines := log environment.logFilter
    let ran := Admin.run log contents service now environment args outside
    (ran.1.stdout = lines.before ++ ran.1.out.toList ++ lines.after ∧
      ran.1.stderr = lines.complaints ++ ran.1.err.toList) ∧
    (∀ e, Admin.locate contents invocation.databaseUrl = .error e →
      ran = ({ exitCode := 1, err := "Error: " ++ e.message, log := lines }, none, outside)) ∧
    ∀ target db, Admin.locate contents invocation.databaseUrl = .ok (target, db) →
      db.migrations <+: Migration.all.map Migration.name → db.schema.triggers = [] →
      let start : Host σ := ⟨{ data := db, readOnly := target.readOnly }, outside⟩
      (target.readOnly = false → db.upgraded.Current ∧
        Migrations.up none start = (.ok (), ⟨.connect db.upgraded, outside⟩)) ∧
      (db.Current → Migrations.up none start = (.ok (), start)) ∧
      (∀ h, Migrations.up none start = (.ok (), h) →
        ∃ result h', invocation.command.Calls s now h result h' ∧
          ran.2 = (some (target, h'.connection.data), h'.outside) ∧
          ran.1 = match result with
            | .ok out => { exitCode := 0, out, log := lines }
            | .error e => { exitCode := 1, err := "Error: " ++ e.message, log := lines }) ∧
      (∀ e h, Migrations.up none start = (.error e, h) →
        ran = ({ exitCode := 1, err := "Error: " ++ e.message, log := lines },
          some (target, h.connection.data), h.outside)) ∧
      (target.readOnly = true → ran.2.1 = some (target, db)) := by
  intro s lines ran
  obtain ⟨haudit, husers⟩ := hservice (.ofVariables environment.rotation environment.tokenBytes)
  have ha : s.audit.LeavesOpen fun _ => False := haudit ▸ AuditLog.table_leavesOpen
  have hu : s.users.LeavesOpen fun _ => False := husers ▸ UserDirectory.table_leavesOpen
  have hlog : ran.1.log = lines := Admin.run_log hparse
  refine ⟨by rw [Admin.Outcome.stdout, Admin.Outcome.stderr, hlog]; exact ⟨rfl, rfl⟩,
    fun e he => Admin.run_lost environment hparse he, ?_⟩
  intro target db hlocate hrecords htriggers start
  have hidle : start.connection.Idle := ⟨rfl, rfl, rfl⟩
  have hran : ∀ {o h}, invocation.command.perform s now start = (o, h) →
      ran = ((Admin.Outcome.ofResult o).logging lines, some (target, h.connection.committed),
        h.outside) :=
    Admin.run_apply environment hparse hlocate
  refine ⟨fun hwrite => ?_, fun hcurrent => Migrations.up_current hcurrent _ _, fun h hup => ?_,
    fun e h hup => ?_, fun hread => ?_⟩
  · have hconnect : start = ⟨.connect db, outside⟩ := by simp [start, Connection.connect, hwrite]
    rw [hconnect]
    exact ⟨Migrations.upgraded_current hrecords, Migrations.up_writable hrecords htriggers outside⟩
  · obtain ⟨result, h', hcalls, hperform, hopen⟩ :=
      invocation.command.perform_of_up_ok ha hu now hidle hup
    rw [hran hperform, Connection.committed_eq hopen]
    refine ⟨result, h', hcalls, rfl, ?_⟩
    cases result <;> rfl
  · obtain ⟨hperform, hopen⟩ := invocation.command.perform_of_up_error s now hidle hup
    rw [hran hperform, Connection.committed_eq hopen]
    rfl
  · have hs : s.MadeOf Statement.Any :=
      Service.madeOf_table haudit husers (fun _ => trivial) fun _ _ => trivial
    rcases hperform : invocation.command.perform s now start with ⟨o, h⟩
    have hkept := invocation.command.perform_readOnly hs now hidle hread
    rw [hperform] at hkept
    rw [hran hperform, hkept]

/-- A store where the last migration is pending is migrated, and Alice's token is exchanged. -/
theorem granted_administration_calls_library :
    let ran := Admin.run (fun _ => {}) (fun _ => .ok Sample.granted.connection.data)
      (fun config => { Sample.service with config }) Sample.time
      { databaseUrl := "sqlite:chain.db" } ["exchange", "t"] Sample.granted.outside
    Sample.granted.connection.data.migrations.length = 4 ∧
    ran.1.exitCode = 0 ∧ ran.1.stdout = ["tt"] ∧ ran.1.stderr = [] ∧
    ran.2.1.map (fun kept => (kept.1.path, kept.2.tokens.map (·.token), kept.2.migrations.length)) =
      some (some "chain.db", ["t", "tt"], 5) := by
  have hparse : CommandLine.parse (some "sqlite:chain.db") ["exchange", "t"] =
      .ok ⟨"sqlite:chain.db", .exchange "t"⟩ := by decide +kernel
  have htarget : Target.ofUrl "sqlite:chain.db" = .ok { path := "chain.db" } := by cbv
  obtain ⟨hplain, -, hfound⟩ := administration_calls_library (fun _ => {})
    (fun _ => .ok Sample.granted.connection.data) (fun config => { Sample.service with config })
    Sample.time { databaseUrl := "sqlite:chain.db" } ["exchange", "t"] Sample.granted.outside
    (fun _ => ⟨rfl, rfl⟩) hparse
  obtain ⟨hup, -, hcalls, -⟩ := hfound { path := "chain.db" } _
    (Admin.locate_eq_ok.mpr ⟨htarget, rfl⟩) (by decide +kernel) (by decide +kernel)
  obtain ⟨hout, herr⟩ := hplain
  obtain ⟨result, h', hexchange, hkept, hanswer⟩ := hcalls _ (hup rfl).2
  cases hexchange with
  | @exchange _ _ _ o run =>
    obtain ⟨ho, hh⟩ := Prod.ext_iff.mp run
    dsimp only at ho hh
    subst ho hh
    refine ⟨by decide +kernel, ?_, hout.trans ?_, herr.trans ?_, ?_⟩
    · rw [hanswer]
      decide +kernel
    · rw [hanswer]
      decide +kernel
    · rw [hanswer]
      decide +kernel
    · rw [hkept]
      decide +kernel

namespace Sample

/-- A log that tells of rotations, of tokens used again, and of nothing else. -/
def log : Option String → Admin.Log
  | some "info" => { before := [" INFO lineage_admin: refresh token rotated"] }
  | some "warn" =>
    { before := [" WARN lineage_core::rotation: revoked refresh token presented again"] }
  | _ => {}

end Sample

/-- With a filter in the environment there is more on standard output than the new token, and there
is something where the exchange fails. And an address in the environment that leads to no database
keeps the program from its command. -/
theorem logged_or_lost_administration :
    let ran db environment args := Admin.run Sample.log (fun _ => .ok db)
      (fun config => { Sample.service with config }) Sample.time environment args
      Sample.granted.outside
    let rotated := ran Sample.granted.connection.data
      { databaseUrl := "sqlite:chain.db", logFilter := "info" } ["exchange", "t"]
    let reused := ran Sample.rotated.connection.data
      { databaseUrl := "sqlite:chain.db", logFilter := "warn" } ["exchange", "t"]
    let lost := ran Sample.granted.connection.data { databaseUrl := "foo://bar" }
      ["logout", toString Sample.alice.instanceId, toString Sample.alice.id]
    (rotated.1.exitCode = 0 ∧
      rotated.1.stdout = [" INFO lineage_admin: refresh token rotated", "tt"]) ∧
    (reused.1.exitCode = 1 ∧
      reused.1.stdout =
        [" WARN lineage_core::rotation: revoked refresh token presented again"]) ∧
    (logout Sample.alice.instanceId Sample.alice.id Sample.granted).1 = .ok () ∧
      lost.1.exitCode = 1 ∧ lost.2.1 = none := by
  intro ran rotated reused lost
  have hparse : CommandLine.parse (some "sqlite:chain.db") ["exchange", "t"] =
      .ok ⟨"sqlite:chain.db", .exchange "t"⟩ := by decide +kernel
  have hlocate (db : Database) : Admin.locate (fun _ => .ok db) "sqlite:chain.db" =
      .ok ({ path := "chain.db" }, db) := Admin.locate_eq_ok.mpr ⟨by cbv, rfl⟩
  have hrotated : rotated = _ := Admin.run_apply
    { databaseUrl := "sqlite:chain.db", logFilter := "info" } hparse (hlocate _) Prod.mk.eta.symm
  have hreused : reused = _ := Admin.run_apply
    { databaseUrl := "sqlite:chain.db", logFilter := "warn" } hparse (hlocate _) Prod.mk.eta.symm
  have hparse' : CommandLine.parse (some "foo://bar")
      ["logout", toString Sample.alice.instanceId, toString Sample.alice.id] =
      .ok ⟨"foo://bar", .logout Sample.alice.instanceId Sample.alice.id⟩ := by decide +kernel
  have hunknown : Admin.locate (fun _ => .ok Sample.granted.connection.data) "foo://bar" =
      .error (.connection "The connection string 'foo://bar' has no supporting driver.") := by cbv
  have hlost : lost = _ := Admin.run_lost { databaseUrl := "foo://bar" } hparse' hunknown
  rw [hrotated, hreused, hlost]
  refine ⟨by decide +kernel, by decide +kernel, by decide +kernel, rfl, rfl⟩

end RefreshChain
