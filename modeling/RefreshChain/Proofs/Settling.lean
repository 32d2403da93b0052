import RefreshChain.Proofs.Run
import RefreshChain.Proofs.Upholding

/-!
# What requests leave as it was once they are through

The work of a rotation breaks what holds of tokens and notes, and mends it: it makes a note, revokes
the old token and inserts a new one. It may fail at any step in between, and is undone then.

* `Settling`: a property of the contents for each stage of the work, and what leads from one stage
  to the next.
* `Service.issue_settles`, `Service.swapWork_settles`, `Service.exchangeWork_settles`: the works.
* `Settling.reached_upholds`: outside of requests, the property of the first stage always holds.
-/

namespace RefreshChain

/-! ## Deletions -/

/-- The statement finds no tokens to delete, and none goes with the rows that it deletes. -/
def Statement.DeletesNoToken {α : Type} (st : Statement α) (db : Database) : Prop :=
  ∀ w a w', w.data = db → st.run w = .ok (a, w') → w'.data.tokens = db.tokens

/-- The event deletes no token from the given contents. A rollback takes tokens back, but deletes
none. -/
def Event.DeletesNoToken : Event → Database → Prop
  | .logout instanceId userId, db =>
    (Statement.deleteTokens fun t =>
      t.instanceId = instanceId && t.userId = userId).DeletesNoToken db
  | .removeUsers p, db => (Statement.deleteUsers p).DeletesNoToken db
  | .removeProviders p, db => (Statement.deleteProviders p).DeletesNoToken db
  | .removeSessions p, db => (Statement.deleteSessions p).DeletesNoToken db
  | _, _ => True

/-! ## Stages -/

variable {σ : Type}

/-- What holds of the tokens and notes in all that the connection of a fully migrated store shows or
may go back to goes on holding when a sign-in is noted, whether that succeeds or fails. -/
def UserDirectory.LeavesRecords (users : UserDirectory σ) : Prop :=
  ∀ now user (R : List RefreshToken → List AuditEntry → Prop),
    (users now user).Upholds fun db => db.schema = .migrated ∧ R db.tokens db.audit

/-- `P none` holds between requests. `P (some (user, origin))` holds where all is done for a token
of that origin to be issued to the user. -/
structure Settling (s : Service σ) (fits : Event → Database → Prop)
    (P : Option (User × Origin) → Database → Prop) : Prop where
  migrated : ∀ stage db, P stage db → db.schema = .migrated
  same : ∀ stage db db', P stage db → db'.schema = db.schema → db'.tokens = db.tokens →
    db'.audit = db.audit → P stage db'
  revoking : ∀ stage db now q, P stage db → P stage (db.revoking now q)
  thinned : ∀ e db db', fits e db → P none db → db.Thinned db' →
    (e.DeletesNoToken db → db'.tokens = db.tokens) → P none db'
  signIn : ∀ user conditions db, P none db → P (some (user, .signIn conditions)) db
  /-- The old token is one of the store, or was handed in. -/
  noted : ∀ now user old db, P none db →
    old ∈ db.tokens ∨ fits (.request (.swap user old)) db →
    P (some (user, .rotation old)) (db.recording now user)
  minted : ∀ now user origin sid x id db, P (some (user, origin)) db →
    P none (db.withToken { user.newToken now origin sid (s.generate x).1 with id })

section

open RefreshChain.Action (Makes Settles Upholds)

variable {s : Service σ} {fits : Event → Database → Prop}
  {P : Option (User × Origin) → Database → Prop} {h : Host σ}

theorem UserDirectory.table_leavesRecords : (table : UserDirectory σ).LeavesRecords := by
  intro now user R
  refine .bind (.write (Statement.updateUsers_makes _ _) (fun _ hp => hp.1) ?_) fun _ => .pure _
  rintro db n db' hp rfl
  exact hp

theorem UserDirectory.LeavesRecords.upholds {users : UserDirectory σ} (hu : users.LeavesRecords)
    (hs : Settling s fits P) (now : Instant) (user : User) :
    (users now user).Upholds (P none) := by
  let R (ts : List RefreshToken) (as : List AuditEntry) : Prop :=
    ∃ db, P none db ∧ db.tokens = ts ∧ db.audit = as
  refine (hu now user R).of_iff fun db => ⟨?_, fun h => ⟨hs.migrated _ db h, db, h, rfl, rfl⟩⟩
  rintro ⟨hm, db₀, h, ht, ha⟩
  exact hs.same _ _ _ h (hm.trans (hs.migrated _ _ h).symm) ht.symm ha.symm

/-! ## Requests -/

namespace Service

theorem issue_settles (hs : Settling s fits P) (hu : s.users.LeavesRecords) (now : Instant)
    (user : User) (origin : Origin) :
    (s.issue now user origin).Settles (P none) (P (some (user, origin))) := by
  refine .bind (R := fun _ => P (some (user, origin))) (sessionFor_makes now user origin)
    (s.sessionFor_leavesOpen now user origin) (hs.migrated _) ?_ fun sid => ?_
  · rintro db _ _ h ⟨opened, -, rfl⟩
    exact hs.same _ _ _ h rfl rfl rfl
  refine .bind (R := fun string db => P (some (user, origin)) db ∧ ∃ x, string = (s.generate x).1)
    (Makes.draw s.generate) (.draw _) (hs.migrated _) ?_ fun string => ?_
  · rintro db string _ h ⟨rfl, hx⟩
    exact ⟨h, hx⟩
  refine .bind (R := fun _ => P none) (createToken_makes _) (.during (.write _) _)
    (fun _ h => hs.migrated _ _ h.1) ?_ fun id => ?_
  · rintro db id _ ⟨h, x, rfl⟩ ⟨-, rfl, -⟩
    exact hs.minted now user origin sid x id db h
  refine .look (loadToken_looks id) (loadToken_leavesOpen id) (hs.migrated _) fun stored => ?_
  refine .look (bindingOf_looks stored) (bindingOf_leavesOpen stored) (hs.migrated _) fun sso => ?_
  exact .of_upholds (.bind (.during (hu.upholds hs now user) _) fun _ => .pure _) fun _ h => h

variable (hs : Settling s fits P) (ha : s.audit = .table) (hu : s.users.LeavesRecords)

include hs ha hu

theorem swapWork_settles (now : Instant) (user : User) (old : RefreshToken) :
    (s.swapWork now user old).Settles (P none)
      fun db => P none db ∧ fits (.request (.swap user old)) db := by
  refine .bind (R := fun _ => P (some (user, .rotation old))) (recordRevocation_makes now user ha)
    (recordRevocation_leavesOpen now user (ha ▸ AuditLog.table_leavesOpen))
    (fun _ h => hs.migrated _ _ h.1) ?_ fun _ => ?_
  · rintro db _ _ ⟨h, hfit⟩ rfl
    exact hs.noted now user old db h (.inr hfit)
  refine .bind (R := fun _ => P (some (user, .rotation old)))
    (.during (.write (Statement.revocation_makes now _)) _) (.during (.write _) _)
    (hs.migrated _) (fun db _ _ h hd => hd.2 ▸ hs.revoking _ db now _ h) fun n => ?_
  split
  · exact .fail _
  · exact issue_settles hs hu now user (.rotation old)

/-- A token that is found and valid is revoked, so the note does not stay alone. -/
theorem exchangeWork_settles (now : Instant) (token : String) :
    (s.exchangeWork now token).Settles (P none) (P none) := by
  refine .bind (R := fun found db => P none db ∧ found.2 ∈ db.tokens)
    (findUserWithToken_makes token) (findUserWithToken_leavesOpen token) (hs.migrated _) ?_
    fun (user, old) => ?_
  · rintro db found _ h ⟨rfl, hfound⟩
    exact ⟨h, (Database.mem_of_token? hfound).1⟩
  dsimp only
  split
  · exact .of_upholds (.pure _) fun _ h => h.1
  rename_i hvalid
  refine .bind (R := fun _ db => P (some (user, .rotation old)) db ∧ old ∈ db.tokens)
    (recordRevocation_makes now user ha)
    (recordRevocation_leavesOpen now user (ha ▸ AuditLog.table_leavesOpen))
    (fun _ h => hs.migrated _ _ h.1) ?_ fun _ => ?_
  · rintro db _ _ ⟨h, hmem⟩ rfl
    exact ⟨hs.noted now user old db h (.inl hmem), hmem⟩
  refine .bind (R := fun n db => P (some (user, .rotation old)) db ∧ n ≠ 0)
    (.during (.write (Statement.revocation_makes now _)) _) (.during (.write _) _)
    (fun _ h => hs.migrated _ _ h.1) ?_ fun n => ?_
  · rintro db n _ ⟨h, hmem⟩ ⟨rfl, rfl⟩
    refine ⟨hs.revoking _ db now _ h, fun hn => ?_⟩
    simpa [hvalid] using List.countP_eq_zero.mp hn old hmem
  split
  · rename_i hn
    exact .of_never fun _ h => h.2 hn
  · refine .followed ?_ fun _ => .pure _
    exact (issue_settles hs hu now user (.rotation old)).of_imp fun _ h => h.1

end Service

/-! ## Runs -/

namespace Settling

variable (hs : Settling s fits P)

include hs

theorem revokeFamily_upholds (now : Instant) (start : RefreshToken) :
    (revokeFamily now start : Action σ Error Unit).Upholds (P none) := by
  refine .bind (.during (.write (Statement.revokeFamily_makes now start) (hs.migrated _) ?_) _)
    fun _ => .pure _
  rintro db n _ h rfl
  exact hs.revoking _ db now _ h

theorem punish_upholds (now : Instant) (token : RefreshToken) :
    (s.punish now token).Upholds (P none) := by
  refine .bind (.during .rollback _) fun _ => ?_
  split
  · exact .bind (hs.revokeFamily_upholds now token) fun _ => .fail _
  · exact .fail _

theorem serve_upholds (ha : s.audit = .table) (hu : s.users.LeavesRecords) (now : Instant)
    {r : Request} (hp : h.Upholds (P none)) (fit : fits (.request r) h.connection.data) :
    (s.serve now r h).2.Upholds (P none) := by
  have hnow : P none h.connection.data := hp.all _ (.inl rfl)
  cases r with
  | grant user conditions =>
    have hw := Service.issue_settles hs hu now user (.signIn conditions)
    exact hw.transaction hp (hs.signIn user conditions _ hnow)
  | swap user old =>
    exact (Service.swapWork_settles hs ha hu now user old).transaction hp ⟨hnow, fit⟩
  | exchange token =>
    have hw := Service.exchangeWork_settles hs ha hu now token
    refine hw.opened (fun o => ?_) (fun _ => rfl) hp hnow
    rcases o with e | t | t
    · exact .finish _
    · exact .finish _
    · exact hs.punish_upholds now t

/-- A statement that touches neither tokens nor notes. -/
theorem change_upholds {α : Type} {st : Statement α} {E : Database → α → Database → Prop}
    (hst : st.Makes E)
    (hE : ∀ db a db', E db a db' →
      db'.schema = db.schema ∧ db'.tokens = db.tokens ∧ db'.audit = db.audit) :
    (Action.write st : Action σ StoreError α).Upholds (P none) :=
  .write hst (hs.migrated _) fun _ _ _ h hd =>
    have hsame := hE _ _ _ hd
    hs.same _ _ _ h hsame.1 hsame.2.1 hsame.2.2

theorem deletion_upholds (e : Event) {st : Statement Nat}
    (hst : st.Makes fun db _ db' => db.Thinned db')
    (he : ∀ db, e.DeletesNoToken db → st.DeletesNoToken db) (hp : h.Upholds (P none))
    (fit : fits e h.connection.data) : (Action.write st h).2.Upholds (P none) := by
  have hst' : st.Makes fun db _ db' =>
      db.Thinned db' ∧ (st.DeletesNoToken db → db'.tokens = db.tokens) :=
    fun w n w' hm run => ⟨(hst hm run).1, (hst hm run).2, fun hd => hd w n w' rfl run⟩
  have hnow : P none h.connection.data := hp.all _ (.inl rfl)
  exact hp.write hst' (hs.migrated _ _ hnow) fun _ _ hd =>
    hs.thinned e _ _ fit hnow hd.1 fun hno => hd.2 (he _ hno)

theorem logout_upholds {instanceId userId : Uuid} (hp : h.Upholds (P none))
    (fit : fits (.logout instanceId userId) h.connection.data) :
    (logout instanceId userId h).2.Upholds (P none) := by
  let st := Statement.deleteTokens fun t => t.instanceId = instanceId && t.userId = userId
  have hst : st.Makes fun db _ db' => db.Thinned db' := by
    intro w n w' hm run
    obtain ⟨hm', hd⟩ := Statement.deleteTokens_makes _ hm run
    rw [hd]
    exact ⟨hm, rfl, List.filter_sublist, rfl⟩
  have hdeleted := hs.deletion_upholds (.logout instanceId userId) hst (fun _ hno => hno) hp fit
  rcases run : logout instanceId userId h with ⟨o, h'⟩
  obtain ⟨o₁, hduring, -⟩ := Action.map_outcome run
  obtain ⟨o₂, hw, -⟩ := Action.during_outcome hduring
  rwa [show Action.write st h = (o₂, h') from hw] at hdeleted

/-- One event, whatever its outcome. -/
theorem perform_upholds (ha : s.audit = .table) (hu : s.users.LeavesRecords) (now : Instant)
    {e : Event} (hp : h.Upholds (P none)) (fit : fits e h.connection.data) :
    (e.perform s now h).Upholds (P none) := by
  cases e with
  | request r => exact hs.serve_upholds ha hu now hp fit
  | revokeFamily t => exact hs.revokeFamily_upholds now t hp
  | logout instanceId userId => exact hs.logout_upholds hp fit
  | begin => exact Upholds.begin hp
  | commit => exact Upholds.commit hp
  | rollback => exact Upholds.rollback hp
  | addUser u =>
    exact hs.change_upholds (Statement.insertUser_makes u) (by rintro db _ _ rfl; simp) hp
  | changeUser id c =>
    exact hs.change_upholds (Statement.updateUsers_makes _ _) (by rintro db _ _ rfl; simp) hp
  | addProvider p =>
    exact hs.change_upholds (Statement.insertProvider_makes p) (by rintro db _ _ rfl; simp) hp
  | removeUsers p =>
    exact hs.deletion_upholds (.removeUsers p) (Statement.deleteUsers_makes p)
      (fun _ hno => hno) hp fit
  | removeProviders p =>
    exact hs.deletion_upholds (.removeProviders p) (Statement.deleteProviders_makes p)
      (fun _ hno => hno) hp fit
  | removeSessions p =>
    exact hs.deletion_upholds (.removeSessions p) (Statement.deleteSessions_makes p)
      (fun _ hno => hno) hp fit

/-- What a run from an empty store leads to, and all that may be gone back to from there. -/
theorem reached_upholds (ha : s.audit = .table) (hu : s.users.LeavesRecords) (hp : P none .migrated)
    (hr : Reached s fits h) : h.Upholds (P none) := by
  induction hr with
  | start outside =>
    refine ⟨Connection.tracked_connect _, ?_⟩
    rintro db (rfl | ⟨k, hk, -⟩)
    · exact hp
    · cases hk
  | step now e _ fit ih => exact hs.perform_upholds ha hu now ih fit

end Settling

end

end RefreshChain
