import RefreshChain.Proofs.Contents

/-!
# What the work of requests does

On a steady connection, with the store's own tables for the audit log and the users, the work of a
request does what the steps of `Database.serve` say.

* `Action.Yields`: an action ends with a given outcome and leaves given contents, with a rule for
  each way to build an action.
* `Service.issue_yields`, `Service.swapWork_yields`, `Service.exchangeWork_yields`: the works.
* `logout_apply`: a logout, which is one statement.
-/

namespace RefreshChain

/-! ## Steps on a steady connection -/

namespace Action

variable {σ ε α β : Type} {h : Host σ} {outside : σ}

/-- At `h`, `x` ends with the given outcome. A success leaves the contents that the outcome gives
and `outside`, and nothing else on the connection changes. -/
structure Yields (x : Action σ ε α) (h : Host σ) (o : Except ε (α × Database)) (outside : σ) :
    Prop where
  ok : ∀ a db, o = .ok (a, db) →
    db.schema = .migrated ∧ x h = (.ok a, ⟨h.connection.showing db, outside⟩)
  error : ∀ e, o = .error e → (x h).1 = .error e

namespace Yields

theorem of_ok {x : Action σ ε α} {a : α} {db : Database} (hm : db.schema = .migrated)
    (run : x h = (.ok a, ⟨h.connection.showing db, outside⟩)) : x.Yields h (.ok (a, db)) outside :=
  ⟨fun _ _ he => by cases he; exact ⟨hm, run⟩, nofun⟩

theorem of_error {x : Action σ ε α} {e : ε} (run : (x h).1 = .error e) :
    x.Yields h (.error e) outside :=
  ⟨nofun, fun _ he => by cases he; exact run⟩

theorem bind {x : Action σ ε α} {f : α → Action σ ε β} {o : Except ε (α × Database)}
    {g : α × Database → Except ε (β × Database)} {between : σ} (hx : x.Yields h o between)
    (hf : ∀ a db, o = .ok (a, db) → db.schema = .migrated →
      (f a).Yields ⟨h.connection.showing db, between⟩ (g (a, db)) outside) :
    (x >>= f).Yields h (o >>= g) outside := by
  rcases o with e | ⟨a, db⟩
  · have he := hx.error e rfl
    refine of_error ?_
    rcases hr : x h with ⟨e' | a, h₁⟩ <;> rw [hr] at he
    · cases he
      rw [bind_of_error hr]
    · cases he
  · obtain ⟨hm, run⟩ := hx.ok a db rfl
    have hy := hf a db rfl hm
    refine ⟨fun b db' hb => ?_, fun e he => ?_⟩
    · obtain ⟨hm', run'⟩ := hy.ok b db' hb
      exact ⟨hm', (bind_of_ok run).trans run'⟩
    · rw [bind_of_ok run]
      exact hy.error e he

/-- Where `x` comes down to `y` once the contents have changed. -/
theorem comesTo {x y : Action σ ε α} {db : Database} {between : σ} {o : Except ε (α × Database)}
    (run : x h = y ⟨h.connection.showing db, between⟩)
    (hy : y.Yields ⟨h.connection.showing db, between⟩ o outside) : x.Yields h o outside := by
  refine ⟨fun a db' ho => ?_, fun e he => ?_⟩
  · obtain ⟨hm, run'⟩ := hy.ok a db' ho
    exact ⟨hm, run.trans run'⟩
  · rw [run]
    exact hy.error e he

/-- What comes after a success. -/
theorem after {x : Action σ ε α} {f : α → Action σ ε β} {a : α} {db : Database} {between : σ}
    {o : Except ε (β × Database)} (run : x h = (.ok a, ⟨h.connection.showing db, between⟩))
    (hf : (f a).Yields ⟨h.connection.showing db, between⟩ o outside) :
    (x >>= f).Yields h o outside :=
  .comesTo (bind_of_ok run) hf

/-- What comes after a step that changes nothing. -/
theorem looking {x : Action σ ε α} {f : α → Action σ ε β} {o : Except ε α}
    {g : α → Except ε (β × Database)} (run : x h = (o, h))
    (hf : ∀ a, o = .ok a → (f a).Yields h (g a) outside) :
    (x >>= f).Yields h (o >>= g) outside := by
  rcases o with e | a
  · exact of_error (by rw [bind_of_error run])
  · exact after run (hf a rfl)

theorem map {x : Action σ ε α} {o : Except ε (α × Database)} (hx : x.Yields h o outside)
    (f : α → β) :
    (do return f (← x)).Yields h (o.map fun (a, db) => (f a, db)) outside := by
  rcases o with e | ⟨a, db⟩
  · have he := hx.error e rfl
    exact of_error (by rw [bind_of_error (Prod.ext he rfl)])
  · obtain ⟨hm, run⟩ := hx.ok a db rfl
    exact of_ok hm (bind_of_ok run)

theorem during {x : Action σ StoreError α} {o : Except StoreError (α × Database)}
    (hx : x.Yields h o outside) (context : String) :
    (x.during context).Yields h (o.mapError (.persistence context)) outside := by
  rcases o with e | ⟨a, db⟩
  · have he := hx.error e rfl
    refine of_error ?_
    rw [during_of_error (Prod.ext he rfl)]
  · obtain ⟨hm, run⟩ := hx.ok a db rfl
    exact of_ok hm (during_ok.mpr run)

theorem draw (hm : h.connection.data.schema = .migrated) (f : σ → α × σ) :
    (Action.draw f : Action σ ε α).Yields h (.ok ((f h.outside).1, h.connection.data))
      (f h.outside).2 :=
  of_ok hm rfl

variable (hst : h.connection.Steady)

include hst

theorem pure (a : α) :
    (pure a : Action σ ε α).Yields h (.ok (a, h.connection.data)) h.outside :=
  of_ok hst.schema rfl

theorem read (tables : List Table) (f : Database → α) :
    (Action.read tables f).Yields h (.ok (f h.connection.data, h.connection.data)) h.outside :=
  of_ok hst.schema (read_apply hst tables f)

theorem write {s : Statement α} {r : Except Refusal (α × Database)}
    (hs : s.run (.start h.connection.data) = r.map fun (a, db) => (a, .start db))
    (hm : ∀ a db, r = .ok (a, db) → db.schema = .migrated) :
    (Action.write s).Yields h (r.mapError fun r => .execution (.refused r)) h.outside := by
  rcases r with r | ⟨a, db⟩
  · refine of_error ?_
    have hx : (h.connection.execute s).1 = .error r := by
      rw [Connection.execute, hst.work, hs]
      simp [Except.map, Connection.refuse, hst.readOnly]
    rw [Action.write, onConnection_apply hst.closed, hx]
    rfl
  · exact of_ok (hm a db rfl) (write_apply hst hs)

end Yields

end Action

theorem mapError_refused {α : Type} (r : Except Refusal α) (context : String) :
    (r.mapError fun r => StoreError.execution (.refused r)).mapError (Error.persistence context) =
      r.mapError (Error.refused context) := by
  cases r <;> rfl

section

variable {σ : Type} {h : Host σ} (hst : h.connection.Steady)

include hst

open RefreshChain.Action (Yields)

/-- A session that is inserted is read back. -/
theorem insertSession_yields (session : SsoSession) :
    (insertSession session).Yields h
      (((h.connection.data.openSession session).map (session, ·)).mapError
        fun r => .execution (.refused r)) h.outside := by
  have hw := Yields.write hst (s := .insertSession session)
    (r := (h.connection.data.openSession session).map ((), ·)) (by
      rw [Statement.insertSession_start hst.schema]
      cases h.connection.data.openSession session <;> rfl) (by
      intro _ db he
      obtain ⟨db', ho, he⟩ := except_map_ok he
      cases he
      rw [Database.openSession_schema ho]
      exact hst.schema)
  rcases ho : h.connection.data.openSession session with r | db
  · rw [ho] at hw
    exact hw.bind (g := fun _ => .error insertedMissing) fun _ _ he => by cases he
  · rw [ho] at hw
    refine hw.bind (g := fun p => .ok (session, p.2)) ?_
    rintro ⟨⟩ db' he hm
    cases he
    have hst' := hst.showing hm
    refine (Yields.read (h := ⟨h.connection.showing db, h.outside⟩) hst' [.ssoSessions]
      (·.session? session.id)).bind (g := fun p => .ok (session, p.2)) ?_
    rintro found db' he -
    cases he
    have hfound : db.session? session.id = some session := by
      obtain ⟨hnew, -, rfl⟩ := Database.openSession_ok ho
      exact Database.session?_append_self hnew
    rw [Connection.showing_data, hfound]
    exact .pure hst' session

theorem createSession_yields (freshId : σ → Uuid × σ) (now : Instant) (user : User)
    (c : Conditions) :
    let session := c.session (freshId h.outside).1 user now
    (createSession freshId now user c).Yields h
      (((h.connection.data.openSession session).map (session, ·)).mapError
        (Error.refused "error creating SSO session for refresh token"))
      (freshId h.outside).2 := by
  refine (Yields.draw hst.schema freshId).bind
    (g := fun p => ((p.2.openSession _).map _).mapError _) ?_
  rintro id db he -
  cases he
  rw [← mapError_refused]
  exact (insertSession_yields (h := ⟨h.connection, (freshId h.outside).2⟩) hst _).during _

/-- A token that is inserted is loaded under its new id. -/
theorem createToken_yields (t : RefreshToken) :
    (createToken t >>= loadToken).Yields h
      ((h.connection.data.mint t).mapError (Error.refused "error creating refresh token"))
      h.outside := by
  have hw := (Yields.write hst (s := .insertToken t none)
    (r := (h.connection.data.mint t).map fun p => (p.1.id, p.2)) (by
      rw [Statement.insertToken_start hst.schema]
      cases h.connection.data.mint t <;> rfl) (by
      intro _ db he
      obtain ⟨⟨t', db'⟩, hmint, he⟩ := except_map_ok he
      obtain ⟨-, -, -, hd⟩ := Database.mint_ok hmint
      cases he
      rw [hd]
      exact hst.schema)).during "error creating refresh token"
  rcases hmint : h.connection.data.mint t with r | ⟨t', db⟩
  · rw [hmint] at hw
    exact hw.bind (g := fun _ => .error .tokenNotFound) fun _ _ he => by cases he
  · rw [hmint] at hw
    obtain ⟨-, -, ht', hdb⟩ := Database.mint_ok hmint
    refine hw.bind (g := fun p => .ok (t', p.2)) ?_
    rintro id db' he hm
    cases he
    have hst' := hst.showing hm
    refine ((Yields.read (h := ⟨h.connection.showing db, h.outside⟩) hst' [.refreshTokens]
      (·.tokenById? t'.id)).during _).bind (g := fun p => .ok (t', p.2)) ?_
    rintro found db' he -
    cases he
    have hid : db.tokenById? t'.id = some t' := by
      rw [hdb]
      exact Database.tokenById?_withToken (by rw [ht'])
    rw [Connection.showing_data, hid]
    exact .pure hst' t'

theorem loadBinding_apply (id : Uuid) :
    (loadBinding id : Action σ Error SsoBinding) h = (h.connection.data.binding id, h) := by
  have hr := Action.read_apply hst [.ssoSessions, .ssoProviders] fun db =>
    (db.session? id).map fun s => (s, db.provider? s.providerId)
  rw [loadBinding, Action.bind_of_ok (Action.during_ok.mpr hr), Database.binding]
  cases h.connection.data.session? id with
  | none => rfl
  | some session =>
    dsimp only [Option.map_some]
    cases h.connection.data.provider? session.providerId <;> rfl

theorem Service.bindingOf_apply (t : RefreshToken) :
    (Service.bindingOf t : Action σ Error (Option SsoBinding)) h =
      (h.connection.data.bindingOf t, h) := by
  unfold Service.bindingOf Database.bindingOf
  cases t.ssoSessionId with
  | none => rfl
  | some id =>
    have hl := loadBinding_apply hst id
    dsimp only
    cases hb : h.connection.data.binding id with
    | error e =>
      rw [hb] at hl
      exact Action.bind_of_error hl
    | ok b =>
      rw [hb] at hl
      exact Action.bind_of_ok hl

end

namespace Service

variable {σ : Type} {s : Service σ} {h : Host σ} (hst : h.connection.Steady)

/-- The id for a session that is opened, and what becomes of its source. -/
def sessionId (s : Service σ) (x : σ) : Bool → Uuid × σ
  | true => s.freshId x
  | false => (.nil, x)

/-- What a new token takes from the sources, and what becomes of them. -/
def supply (s : Service σ) (x : σ) (opensSession : Bool) : Supply × σ :=
  let (sessionId, x) := s.sessionId x opensSession
  let (string, x) := s.generate x
  (⟨sessionId, string⟩, x)

include hst

open RefreshChain.Action (Yields)

theorem sessionFor_yields (now : Instant) (user : User) (origin : Origin) :
    (s.sessionFor now user origin).Yields h
      (h.connection.data.sessionFor now user (s.sessionId h.outside origin.opensSession).1 origin)
      (s.sessionId h.outside origin.opensSession).2 := by
  rcases origin with (_ | c) | old
  · exact .pure hst none
  · have he : h.connection.data.sessionFor now user (s.freshId h.outside).1 (.signIn (some c)) =
        (((h.connection.data.openSession (c.session (s.freshId h.outside).1 user now)).map
          (c.session (s.freshId h.outside).1 user now, ·)).mapError
            (Error.refused "error creating SSO session for refresh token")) >>=
          fun p => .ok (some p.1.id, p.2) := by
      rw [Database.sessionFor]
      cases h.connection.data.openSession _ <;> rfl
    show Yields _ h (h.connection.data.sessionFor now user (s.freshId h.outside).1 _) _
    rw [he]
    refine (createSession_yields hst s.freshId now user c).bind ?_
    intro session db _ hm
    exact .pure (h := ⟨h.connection.showing db, _⟩) (hst.showing hm) (some session.id)
  · exact .pure hst old.ssoSessionId

theorem issue_yields (hu : s.users = .table) {db : Database} (hm : db.schema = .migrated)
    (now : Instant) (user : User) (origin : Origin) :
    (s.issue now user origin).Yields ⟨h.connection.showing db, h.outside⟩
      (db.issue now user origin (s.supply h.outside origin.opensSession).1)
      (s.supply h.outside origin.opensSession).2 := by
  have hst₁ := hst.showing hm
  refine (sessionFor_yields (h := ⟨h.connection.showing db, _⟩) hst₁ now user origin).bind
    fun sid db _ hm => ?_
  have hst₂ := hst₁.showing hm
  refine .after (a := (s.supply h.outside origin.opensSession).1.string) rfl ?_
  rw [← bind_assoc]
  refine (createToken_yields (h := ⟨h.connection.showing db, _⟩) hst₂ _).bind fun t db _ hm => ?_
  have hst₃ := hst₂.showing hm
  refine .looking (bindingOf_apply (h := ⟨h.connection.showing db, _⟩) hst₃ t) fun sso _ => ?_
  rw [hu]
  refine .after (Action.during_ok.mpr (UserDirectory.table_apply
    (h := ⟨h.connection.showing db, _⟩) hst₃ now user)) ?_
  exact .of_ok hm rfl

/-- A rotation goes on after it has noted and done the revocation, with how many tokens fit. -/
theorem revocation_apply {α : Type} (ha : s.audit = .table) (now : Instant) (user : User)
    (q : RefreshToken → Bool) (context : String) (f : Nat → Action σ Error α) :
    (s.recordRevocation now user >>= fun _ =>
      ((Action.write (.updateTokens [] q (·.revokedAt now))).during context) >>= f) h =
      f (h.connection.data.tokens.countP q)
        ⟨h.connection.showing ((h.connection.data.recording now user).revoking now q),
          h.outside⟩ := by
  have hst₁ : (h.connection.showing (h.connection.data.recording now user)).Steady :=
    hst.showing hst.schema
  have hw := Action.write_apply (h := ⟨h.connection.showing _, h.outside⟩) hst₁
    (Statement.updateTokens_start hst₁.schema q (·.revokedAt now))
  rw [recordRevocation, ha,
    Action.bind_of_ok (Action.during_ok.mpr (AuditLog.table_apply hst now _ user _ _))]
  exact Action.bind_of_ok (Action.during_ok.mpr hw)

variable (ha : s.audit = .table) (hu : s.users = .table)

include ha hu

theorem swapWork_yields (now : Instant) (user : User) (old : RefreshToken) :
    (s.swapWork now user old).Yields h
      (h.connection.data.swap now user old (s.supply h.outside false).1)
      (s.supply h.outside false).2 := by
  refine .comesTo (revocation_apply hst ha now user (·.id = old.id) _ _) ?_
  have hcount : h.connection.data.tokens.countP (·.id = old.id) = 0 ↔
      ¬ h.connection.data.tokens.any (·.id = old.id) := by
    simp [List.countP_eq_zero]
  unfold Database.swap
  by_cases hany : h.connection.data.tokens.any (·.id = old.id)
  · rw [if_neg fun hz => hcount.mp hz hany, if_pos hany]
    exact issue_yields hst hu (by exact hst.schema) now user (.rotation old)
  · rw [if_pos (hcount.mpr hany), if_neg hany]
    exact .of_error rfl

omit ha hu in
theorem findUserWithToken_eq (token : String) :
    (findUserWithToken token : Action σ Error (User × RefreshToken)) h =
      (h.connection.data.presented token, h) := by
  rw [findUserWithToken, findToken, bind_assoc,
    Action.bind_of_ok (Action.during_ok.mpr (Action.read_apply hst _ _)), Database.presented]
  cases h.connection.data.token? token with
  | none => rfl
  | some t =>
    dsimp only [Action.orFail]
    rw [pure_bind, Action.bind_of_ok (Action.during_ok.mpr (Action.read_apply hst _ _))]
    cases h.connection.data.user? t.userId <;> rfl

theorem exchangeWork_yields (now : Instant) (token : String) :
    ∃ outside, (s.exchangeWork now token).Yields h
        (h.connection.data.exchange now token (s.supply h.outside false).1) outside ∧
      ∀ i db, h.connection.data.exchange now token (s.supply h.outside false).1 =
        .ok (.issued i, db) → outside = (s.supply h.outside false).2 := by
  have hfind := findUserWithToken_eq hst token
  rw [Database.exchange]
  rcases hp : h.connection.data.presented token with e | ⟨user, old⟩ <;> rw [hp] at hfind <;>
    dsimp only
  · refine ⟨h.outside, .of_error ?_, fun i db he => by cases he⟩
    rw [exchangeWork, Action.bind_of_error hfind]
  by_cases hold : old.revoked = true
  · rw [if_pos hold]
    refine ⟨h.outside, .after hfind ?_, fun i db he => by cases he⟩
    dsimp only
    rw [if_pos hold]
    exact .pure hst _
  · rw [if_neg hold]
    refine ⟨(s.supply h.outside false).2, .after hfind ?_, fun _ _ _ => rfl⟩
    dsimp only
    rw [if_neg hold]
    refine .comesTo (revocation_apply hst ha now user (stillValid old) _ _) ?_
    -- The row that was found is still there and not revoked, so it is counted.
    obtain ⟨hmem, -⟩ := Database.presented_ok hp
    have hpos : h.connection.data.tokens.countP (stillValid old) ≠ 0 :=
      Nat.ne_of_gt (List.countP_pos_iff.mpr ⟨old, hmem, by simpa [stillValid] using hold⟩)
    rw [if_neg hpos]
    refine Yields.map (f := Presented.issued) ?_
    exact issue_yields hst hu (by exact hst.schema) now user (.rotation old)

end Service

theorem findToken_apply {σ : Type} {h : Host σ} (hst : h.connection.Steady) (token : String) :
    (findToken token : Action σ Error RefreshToken) h =
      (match h.connection.data.token? token with
        | some t => .ok t
        | none => .error .tokenNotFound, h) := by
  rw [findToken, Action.bind_of_ok (Action.during_ok.mpr (Action.read_apply hst _ _))]
  cases h.connection.data.token? token <;> rfl

/-- A logout goes through and deletes the tokens that it names. -/
theorem logout_apply {σ : Type} {h : Host σ} (hst : h.connection.Steady)
    (instanceId userId : Uuid) :
    logout instanceId userId h = (.ok (), { h with
      connection := h.connection.showing (h.connection.data.loggedOut instanceId userId) }) := by
  have hw := Action.write_apply hst (Statement.deleteTokens_start hst.schema fun t =>
    t.instanceId = instanceId && t.userId = userId)
  rw [logout, Action.bind_of_ok (Action.during_ok.mpr hw)]
  rfl

end RefreshChain
