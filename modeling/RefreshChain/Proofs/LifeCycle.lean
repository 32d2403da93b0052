import RefreshChain.Proofs.Atomicity
import RefreshChain.Proofs.Calls
import RefreshChain.Proofs.Success

/-!
# The life of rows

What a call may do to the rows of a fully migrated store, whatever they are and however it ends.

* `Footprint`, `Footprint.apply`: the changes of a call, and the contents after them.
* `Footprint.Fits`: what changes there may be, by the call and by whether it succeeds.
* `call_footprint`: each call has such a footprint. `exhausted_call_takes_row_back`: the exception,
  where no id is left for a new token.
-/

namespace RefreshChain

/-! ## Footprints -/

/-- Which tokens are deleted and which are revoked, what is added, and whose sign-in is noted. -/
structure Footprint where
  removes : RefreshToken → Bool := fun _ => false
  revokes : RefreshToken → Bool := fun _ => false
  mints : List RefreshToken := []
  opens : List SsoSession := []
  signsIn : User → Bool := fun _ => false
  notes : List AuditEntry := []

/-- The contents after a call with this footprint. Whatever is not named stays as it is. -/
def Footprint.apply (f : Footprint) (now : Instant) (db : Database) : Database :=
  { db with
    users := db.users.map fun u => if f.signsIn u then u.signedInAt now else u
    sessions := db.sessions ++ f.opens
    tokens := ((db.tokens.filter (!f.removes ·)).map fun t =>
      if f.revokes t then t.revokedAt now else t) ++ f.mints
    audit := db.audit ++ f.notes
    lastTokenId := f.mints.foldl (fun _ t => t.id) db.lastTokenId }

theorem Footprint.apply_none (now : Instant) (db : Database) :
    ({} : Footprint).apply now db = db := by
  have hall : db.tokens.filter (fun _ => true) = db.tokens := List.filter_eq_self.mpr (by simp)
  simp [apply, hall]

namespace Call

/-- Whether the call issues a token if it succeeds. -/
def issues : Call → Bool
  | .request _ => true
  | _ => false

/-- Whether the call issues a token for another one. -/
def rotates : Call → Bool
  | .request (.grant _ _) => false
  | .request _ => true
  | _ => false

def opensSession : Call → Bool
  | .request r => r.opensSession
  | _ => false

/-- Whether the call may revoke tokens. -/
def revokes : Call → Bool
  | .revokeFamily _ => true
  | c => c.rotates

end Call

/-- What a call may do to the rows if it succeeds, and if not. -/
structure Footprint.Fits (call : Call) (ok : Bool) (f : Footprint) : Prop where
  removes : ∀ t, f.removes t = true → ok = true ∧ call = .logout t.instanceId t.userId
  revokes : ∀ t, f.revokes t = true → call.revokes = true
  mints : f.mints.length = if ok && call.issues then 1 else 0
  valid : ∀ t ∈ f.mints, t.revoked = false
  opens : f.opens.length = if ok && call.opensSession then 1 else 0
  signsIn : ∃ id, ∀ u, f.signsIn u = true → u.id = id ∧ ok = true ∧ call.issues = true
  notes : f.notes.length = if ok && call.rotates then 1 else 0
  words : ∀ e ∈ f.notes, e.action = AuditAction.tokenRevoked.word

/-- What issues no token opens no session and notes nothing. -/
theorem Footprint.Fits.of_no_token {call : Call} {ok : Bool} {p q : RefreshToken → Bool}
    (hn : (ok && call.issues) = false)
    (hp : ∀ t, p t = true → ok = true ∧ call = .logout t.instanceId t.userId)
    (hq : ∀ t, q t = true → call.revokes = true) :
    Fits call ok { removes := p, revokes := q } := by
  have hopens : (ok && call.opensSession) = false := by
    cases ok <;> cases call <;> simp_all [Call.issues, Call.opensSession]
  have hrotates : (ok && call.rotates) = false := by
    cases ok <;> cases call <;> simp_all [Call.issues, Call.rotates]
  exact
    { removes := hp
      revokes := hq
      mints := by rw [hn]; rfl
      valid := by simp
      opens := by rw [hopens]; rfl
      signsIn := ⟨.nil, by simp⟩
      notes := by rw [hrotates]; rfl
      words := by simp }

theorem Footprint.Fits.none {call : Call} {ok : Bool} (hn : (ok && call.issues) = false) :
    Fits call ok {} :=
  of_no_token hn (by simp) (by simp)

/-! ## Requests that succeed -/

section

variable {σ α : Type} {h h₁ h' : Host σ}

namespace Service

variable {s : Service σ} {now : Instant}

/-- The footprint of the issue of a token, once some tokens have been revoked and that is noted. -/
theorem Issues.footprint {now : Instant} {user : User} {origin : Origin} {db db' : Database}
    {i : IssuedToken} {q : RefreshToken → Bool} {notes : List AuditEntry}
    (hi : Issues now user origin
      (({ db with audit := db.audit ++ notes } : Database).revoking now q) i db') :
    ∃ opened, origin.Opens now user opened ∧ db' = Footprint.apply
      { revokes := q, mints := [i.token], opens := opened, signsIn := (·.id = user.id), notes }
      now db := by
  obtain ⟨opened, hopened, rfl⟩ := hi.contents
  refine ⟨opened, hopened, ?_⟩
  have hall : db.tokens.filter (fun _ => true) = db.tokens := List.filter_eq_self.mpr (by simp)
  simp [Footprint.apply, Database.signingIn, Database.withToken, Database.revoking, hall]

/-- A new token is valid. -/
theorem Issues.valid {now : Instant} {user : User} {origin : Origin} {db db' : Database}
    {i : IssuedToken} (hi : Issues now user origin db i db') : i.token.revoked = false := by
  obtain ⟨sid, string, ht⟩ := hi.token
  rw [ht]
  rfl

variable (ha : s.audit = .table) (hu : s.users = .table)
  (hm : h.connection.data.schema = .migrated)

include ha hu hm

theorem serve_footprint {r : Request} {i : IssuedToken} (run : s.serve now r h = (.ok i, h')) :
    ∃ f : Footprint, f.Fits (.request r) true ∧
      h'.connection.data = f.apply now h.connection.data := by
  -- Both kinds of rotation revoke some token of a user and note it.
  have rotation : ∀ user old q, (Call.request r).rotates = true → r.opensSession = false →
      Issues now user (.rotation old) ((h.connection.data.recording now user).revoking now q) i
        h'.connection.data →
      ∃ f : Footprint, f.Fits (.request r) true ∧
        h'.connection.data = f.apply now h.connection.data := by
    intro user old q hrot hsession hi
    obtain ⟨opened, hopened, hd⟩ := hi.footprint
    cases hopened
    refine ⟨_, ?_, hd⟩
    exact
      { removes := by simp
        revokes := fun _ _ => hrot
        mints := rfl
        valid := by simpa using hi.valid
        opens := by simp [Call.opensSession, hsession]
        signsIn := ⟨user.id, by simp [Call.issues]⟩
        notes := by simp [hrot]
        words := by simp }
  cases r with
  | grant user conditions =>
    have hi := Action.transaction_makes (issue_makes now user hu (.signIn conditions)) hm run
    have hbase : ({ h.connection.data with audit := h.connection.data.audit ++ [] } :
        Database).revoking now (fun _ => false) = h.connection.data := by
      simp [Database.revoking]
    rw [← hbase] at hi
    obtain ⟨opened, hopened, hd⟩ := hi.footprint
    refine ⟨_, ?_, hd⟩
    exact
      { removes := by simp
        revokes := by simp
        mints := rfl
        valid := by simpa using hi.valid
        opens := by
          cases conditions with
          | none => cases hopened; rfl
          | some c => obtain ⟨id, rfl⟩ := hopened; rfl
        signsIn := ⟨user.id, by simp [Call.issues]⟩
        notes := rfl
        words := by simp }
  | swap user old =>
    obtain ⟨q, hi⟩ := Action.transaction_makes (swapWork_makes now user ha hu old) hm run
    exact rotation user old q rfl rfl hi
  | exchange token =>
    obtain ⟨user, old, q, -, hi⟩ := exchange_makes ha hu hm run
    exact rotation user old q rfl rfl hi

end Service

/-! ## Requests that fail -/

namespace Service

variable {s : Service σ} {now : Instant} {reports : StoreError → Prop}

/-- A token that was used before costs its family at most. -/
theorem exchange_reused_data (ha : s.audit.LeavesOpen reports) (hu : s.users.LeavesOpen reports)
    {token : String} (ht : h.connection.Tracked) (hm : h.connection.data.schema = .migrated)
    (run : s.exchange now token h = (.error .tokenReused, h')) :
    h'.connection.data = h.connection.data ∨
      ∃ t, h'.connection.data = h.connection.data.revokingFamily now t := by
  have hl := exchangeWork_leavesOpen now ha hu token
  cases hc : h.connection.closed with
  | true =>
    rw [exchange_closed s now token hc] at run
    cases run
  | false =>
    rw [exchange_apply s now token hc] at run
    rcases hr : s.exchangeWork now token { h with connection := h.connection.begin } with
      ⟨e | i | t, h₁⟩ <;> rw [hr] at run
    · -- The work itself never fails so, but if it did, it would be undone.
      replace run : (Action.finish (.error e) : Action σ Error IssuedToken) h₁ =
        (.error .tokenReused, h') := run
      rw [Action.finish_error] at run
      obtain ⟨hreused, rfl⟩ := Prod.mk.inj run
      cases hreused
      rcases hl hr with hs | ⟨⟨e, he, source, hsource, -⟩, -⟩
      · left
        rw [Action.rollback_of_sameOpen hc ht hs]
        exact Connection.undone_data _ _ _ _
      · cases he
        cases hsource
    · rcases Action.bind_error.mp run with hf | ⟨_, _, -, hf⟩
      · obtain ⟨_, -, he⟩ := Action.during_error.mp hf
        cases he
      · cases hf
    · have hback := Action.rollback_of_sameOpen hc ht (hl.of_ok hr)
      replace run : s.punish now t h₁ = (.error .tokenReused, h') := run
      rw [punish, Action.bind_of_ok (Action.during_ok.mpr hback)] at run
      have hd := Connection.undone_data h₁.connection h.connection.depth h.connection.checkpoint
        h.connection.checkpoints
      cases hrot : s.config.rotationEnabled with
      | false =>
        rw [hrot] at run
        cases run
        exact .inl hd
      | true =>
        rw [hrot, if_pos rfl] at run
        rcases Action.bind_error.mp run with hf | ⟨_, h₂, hrevoke, hf⟩
        · rcases Action.bind_error.mp hf with hf | ⟨_, _, -, hf⟩
          · obtain ⟨_, -, he⟩ := Action.during_error.mp hf
            cases he
          · cases hf
        · cases hf
          obtain ⟨n, _, hw, hf⟩ := Action.bind_ok.mp hrevoke
          cases hf
          obtain ⟨-, hmade⟩ := Action.Makes.write (Statement.revokeFamily_makes now t)
            (by rw [hd]; exact hm) (Action.during_ok.mp hw)
          rw [hd] at hmade
          exact .inr ⟨t, hmade⟩

/-- A request that fails leaves the contents, or revokes the family of a token that was used
before. -/
theorem serve_failed (ha : s.audit.LeavesOpen reports) (hu : s.users.LeavesOpen reports)
    {r : Request} {e : Error} (ht : h.connection.Tracked)
    (hm : h.connection.data.schema = .migrated) (run : s.serve now r h = (.error e, h'))
    (enough : h.connection.inTransaction → ¬ e.EndsAll reports) :
    h'.connection.data = h.connection.data ∨ (Call.request r).revokes = true ∧
      ∃ t, h'.connection.data = h.connection.data.revokingFamily now t := by
  have restored : ∀ {stop}, LeavesNoTrace reports h stop h' e →
      h'.connection.data = h.connection.data := fun hl =>
    (hl.restored fun ho => Decidable.not_not.mp fun hn => enough ho (hl.ended ho hn)).data
  cases r with
  | grant user conditions =>
    have hp := issue_leavesOpen now user hu (.signIn conditions)
    rw [← issueSteps_run] at hp
    obtain ⟨_, -, hl⟩ := transaction_fails hp ht (by rw [issueSteps_run]; exact run)
    exact .inl (restored hl)
  | swap user old =>
    have hp := swapWork_leavesOpen now user ha hu old
    rw [← swapSteps_run] at hp
    obtain ⟨_, -, hl⟩ := transaction_fails hp ht (by rw [swapSteps_run]; exact run)
    exact .inl (restored hl)
  | exchange token =>
    by_cases hreused : e = .tokenReused
    · cases hreused
      exact (exchange_reused_data ha hu ht hm run).imp_right fun hd => ⟨rfl, hd⟩
    · obtain ⟨_, -, hl⟩ := exchange_fails ha hu ht run hreused
      exact .inl (restored hl)

end Service

end

/-! ## Calls -/

/-- Logouts and the like are one statement, and if that is refused nothing happens. -/
theorem Connection.execute_deleteTokens_refused {c c' : Connection} {p : RefreshToken → Bool}
    {r : Refusal} (hm : c.data.schema = .migrated)
    (run : c.execute (.deleteTokens p) = (.error r, c')) : c'.data = c.data := by
  obtain ⟨hr, rfl⟩ := execute_change_error rfl run
  refine refuse_data ?_
  rintro rfl
  rcases hr with hr | hr | hr
  · have hw : (c.work .change).data.schema = .migrated := hm
    rw [Statement.deleteTokens] at hr
    dsimp only at hr
    rw [Work.needTable_migrated hw, Work.needForDeletion_migrated hw, Work.removeTokens,
      Work.refuseOn_migrated hw] at hr
    cases hr
  · cases hr
  · cases hr

section

variable {σ : Type} {h h' : Host σ}

/-- What a statement makes of the contents, if it leaves them when it is refused. -/
theorem Action.write_data {α : Type} {st : Statement α} {change : Database → Database}
    {o : Except StoreError α} (hm : h.connection.data.schema = .migrated)
    (hs : st.Makes fun db _ db' => db' = change db)
    (hr : ∀ {r c'}, h.connection.execute st = (.error r, c') → c'.data = h.connection.data)
    (run : Action.write st h = (o, h')) :
    h'.connection.data = if o.isOk then change h.connection.data else h.connection.data := by
  rcases o with e | a
  · rcases onConnection_error.mp run with ⟨-, -, rfl⟩ | ⟨-, r, c, hx, -, rfl⟩
    · rfl
    · exact hr hx
  · exact (Makes.write hs hm run).2

theorem revokeFamily_data {now : Instant} {start : RefreshToken} {o : Except Error Unit}
    (hm : h.connection.data.schema = .migrated) (run : revokeFamily now start h = (o, h')) :
    h'.connection.data = h.connection.data ∨
      h'.connection.data = h.connection.data.revokingFamily now start := by
  obtain ⟨o₁, hduring, -⟩ := Action.map_outcome run
  obtain ⟨o₂, hw, -⟩ := Action.during_outcome hduring
  have hd := Action.write_data hm (Statement.revokeFamily_makes now start)
    (fun hx => (Connection.execute_revokeFamily_refused hx).2) hw
  split at hd
  · exact .inr hd
  · exact .inl hd

theorem logout_data {instanceId userId : Uuid} {o : Except Error Unit}
    (hm : h.connection.data.schema = .migrated) (run : logout instanceId userId h = (o, h')) :
    h'.connection.data =
      if o.isOk then h.connection.data.loggedOut instanceId userId else h.connection.data := by
  obtain ⟨o₁, hduring, rfl⟩ := Action.map_outcome run
  obtain ⟨o₂, hw, rfl⟩ := Action.during_outcome hduring
  have hd := Action.write_data hm (Statement.deleteTokens_makes _)
    (Connection.execute_deleteTokens_refused hm) hw
  rcases o₂ with e | n <;> exact hd

/-- Where tokens are revoked, and no more. -/
theorem Database.revoking_eq_apply (db : Database) (now : Instant) (q : RefreshToken → Bool) :
    db.revoking now q = Footprint.apply { revokes := q } now db := by
  have hall : db.tokens.filter (fun _ => true) = db.tokens := List.filter_eq_self.mpr (by simp)
  simp [Footprint.apply, Database.revoking, hall]

theorem Database.loggedOut_eq_apply (db : Database) (now : Instant) (instanceId userId : Uuid) :
    db.loggedOut instanceId userId =
      Footprint.apply { removes := fun t => t.instanceId = instanceId && t.userId = userId } now db
    := by
  simp [Footprint.apply, Database.loggedOut]

variable {s : Service σ} (ha : s.audit = .table) (hu : s.users = .table)

include ha hu

/-- Whatever the store holds and however a call ends, it deletes tokens only as a logout, of whom it
names, changes others only by their revocation, adds at most one, which is valid, and leaves
sessions, providers, users and notes but for what `Footprint.Fits` says. Left out is the case that
the store has ended a transaction of the caller, for want of an id for a new token. -/
theorem call_footprint {now : Instant} {call : Call} {o : Except Error Reply}
    (ht : h.connection.Tracked) (hm : h.connection.data.schema = .migrated)
    (run : call.perform s now h = (o, h'))
    (enough : h.connection.inTransaction → ∀ e, o = .error e → ¬ e.EndsAll fun _ => False) :
    ∃ f : Footprint, f.Fits call o.isOk ∧ h'.connection.data = f.apply now h.connection.data := by
  have unchanged : (o.isOk && call.issues) = false → h'.connection.data = h.connection.data →
      ∃ f : Footprint, f.Fits call o.isOk ∧ h'.connection.data = f.apply now h.connection.data :=
    fun hn hd => ⟨{}, .none hn, hd.trans (Footprint.apply_none now _).symm⟩
  have looks : ∀ {x : Action σ Error Reply}, x.Looks → x h = (o, h') →
      h'.connection.data = h.connection.data := by
    intro x hx hr
    have hd := hx h
    rwa [hr] at hd
  cases call with
  | request r =>
    obtain ⟨o₁, hserve, rfl⟩ := Action.map_outcome run
    rcases o₁ with e | i
    · rcases Service.serve_failed (ha ▸ AuditLog.table_leavesOpen)
        (hu ▸ UserDirectory.table_leavesOpen) ht hm hserve (fun ho => enough ho e rfl) with
        hd | ⟨hrev, t, hd⟩
      · exact unchanged rfl hd
      · exact ⟨_, .of_no_token rfl (by simp) fun _ _ => hrev,
          hd.trans (Database.revoking_eq_apply _ now _)⟩
    · exact Service.serve_footprint ha hu hm hserve
  | revokeFamily start =>
    obtain ⟨o₁, hrevoke, rfl⟩ := Action.map_outcome run
    rcases revokeFamily_data hm hrevoke with hd | hd
    · exact unchanged (Bool.and_false _) hd
    · exact ⟨_, .of_no_token (Bool.and_false _) (by simp) fun _ _ => rfl,
        hd.trans (Database.revoking_eq_apply _ now _)⟩
  | logout instanceId userId =>
    obtain ⟨o₁, hlogout, rfl⟩ := Action.map_outcome run
    have hd := logout_data hm hlogout
    rcases o₁ with e | ⟨⟩
    · exact unchanged rfl hd
    · refine ⟨_, .of_no_token rfl (fun t hp => ⟨rfl, ?_⟩) (by simp),
        hd.trans (Database.loggedOut_eq_apply _ now _ _)⟩
      obtain ⟨hi, hu⟩ : t.instanceId = instanceId ∧ t.userId = userId := by simpa using hp
      rw [hi, hu]
  | find token =>
    exact unchanged (Bool.and_false _)
      (looks (.bind (findToken_looks token) fun _ => .pure _) run)
  | findOwner token =>
    exact unchanged (Bool.and_false _)
      (looks (.bind (findUserWithToken_looks token) fun _ => .pure _) run)
  | findValidChild start =>
    exact unchanged (Bool.and_false _)
      (looks (.bind (findValidChild_looks start) fun _ => .pure _) run)
  | getValidChild start =>
    exact unchanged (Bool.and_false _)
      (looks (.bind (getValidChild_looks start) fun _ => .pure _) run)

end

/-- An exchange of Alice's first token, within a transaction. -/
theorem exchange_footprint :
    let granted := Sample.after [.addUser Sample.alice, .request (.grant Sample.alice none), .begin]
    let call := Call.request (.exchange "t")
    let served := call.perform Sample.service Sample.time granted
    served.1 = .ok (.issued ⟨Sample.second Sample.alice.instanceId, none⟩) ∧
      ∃ f : Footprint, f.Fits call true ∧
        served.2.connection.data = f.apply Sample.time granted.connection.data := by
  intro granted call served
  have answer : served.1 = .ok (.issued ⟨Sample.second Sample.alice.instanceId, none⟩) := by rfl
  have run : call.perform Sample.service Sample.time granted =
      (.ok (.issued ⟨Sample.second Sample.alice.instanceId, none⟩), served.2) := by rw [← answer]
  exact ⟨answer, call_footprint rfl rfl (Connection.tracked_begin _) rfl run nofun⟩

namespace Sample

/-- A host where a transaction is open in which a token has got the last id there is. -/
def exhausted : Host Nat :=
  let begun := after [.addUser alice, .begin]
  (Action.write (.insertToken { first with revoked := false } (some Work.maxId)) begun).2

end Sample

/-- With no id left, a sign-in takes back the token that was inserted before it, so the call has no
footprint. -/
theorem exhausted_call_takes_row_back :
    let call := Call.request (.grant Sample.alice none)
    let served := call.perform Sample.service Sample.time Sample.exhausted
    Sample.exhausted.connection.Tracked ∧
      Sample.exhausted.connection.data.schema = .migrated ∧
      Sample.exhausted.connection.data.tokens =
        [{ Sample.first with id := Work.maxId, revoked := false }] ∧
      served.1 = .error (.refused "error creating refresh token" (.full true)) ∧
      ¬ ∃ f : Footprint, f.Fits call false ∧
        served.2.connection.data = f.apply Sample.time Sample.exhausted.connection.data := by
  intro call served
  have row : Sample.exhausted.connection.data.tokens =
      [{ Sample.first with id := Work.maxId, revoked := false }] := by rfl
  have gone : served.2.connection.data.tokens = [] := by rfl
  refine ⟨fun h0 => absurd h0 (by decide), by rfl, row, by rfl, ?_⟩
  rintro ⟨f, hf, hd⟩
  have hkeeps : ∀ t, f.removes t = false := by
    intro t
    cases ht : f.removes t with
    | false => rfl
    | true => exact absurd (hf.removes t ht).1 (by decide)
  have htokens := congrArg Database.tokens hd
  rw [gone, Footprint.apply] at htokens
  simp [row, hkeeps] at htokens

end RefreshChain
