import RefreshChain.Proofs.Success

/-!
# Lookups on any store

What the lookups of tokens and their owners give, on a store that need not have all tables.

* `Connection.Quiet`: nothing is left on a connection that a lookup would end.
* `Database.lookUp`: the token with a given string and its owner, or why they are not found.
* `findUserWithToken_quiet`: a lookup gives this and leaves all as it is.
* `Service.Noted`: what an audit log does at a revocation. `Service.exchangeWork_of_lookUp`: the
  work of an exchange that has found a valid token.
-/

namespace RefreshChain

/-- The connection is open, and nothing is tolerated on it outside of transactions. -/
structure Connection.Quiet (c : Connection) : Prop where
  closed : c.closed = false
  lapse : c.lapse = c

theorem Connection.Quiet.begin {c : Connection} (h : c.Quiet) : c.begin.Quiet :=
  ⟨h.closed, by simp [Connection.lapse, Connection.inTransaction, Connection.begin]⟩

theorem Connection.Ordinary.quiet {c : Connection} (h : c.Ordinary) : c.Quiet :=
  ⟨h.closed, Connection.lapse_eq h.deferred h.violations⟩

namespace Database

variable {db : Database}

/-- The outcome of a look into the given tables that shows `a`. -/
def looking {α : Type} (db : Database) (context : String) (tables : List Table) (a : α) :
    Except Error α :=
  match tables.find? fun t => !db.hasTable t with
  | some t => .error (.persistence context (.query (.refused (.noSuchTable t))))
  | none => .ok a

/-- The token with the given string, or why it is not found. -/
def findToken (db : Database) (token : String) : Except Error RefreshToken := do
  match ← db.looking "error finding refresh token" [.refreshTokens] (db.token? token) with
  | some t => .ok t
  | none => .error .tokenNotFound

/-- The owner of the token with the given string, and the token, or why they are not found. -/
def lookUp (db : Database) (token : String) : Except Error (User × RefreshToken) := do
  let t ← db.findToken token
  match ← db.looking "error finding user for refresh token" [.users] (db.user? t.userId) with
  | some user => .ok (user, t)
  | none => .error .tokenNotFound

theorem looking_ok {α : Type} {context : String} {tables : List Table} {a b : α}
    (h : db.looking context tables a = .ok b) : b = a := by
  unfold looking at h
  split at h <;> cases h
  rfl

theorem looking_of_hasTable {α : Type} (context : String) {tables : List Table} (a : α)
    (h : ∀ t ∈ tables, db.hasTable t = true) : db.looking context tables a = .ok a := by
  have hnone : tables.find? (fun t => !db.hasTable t) = none := by simpa using h
  rw [looking, hnone]

theorem findToken_ok {token : String} {t : RefreshToken} (h : db.findToken token = .ok t) :
    db.token? token = some t := by
  obtain ⟨found, hlook, h⟩ := except_bind_ok.mp h
  rw [← looking_ok hlook]
  cases found <;> cases h
  rfl

/-- What is found is there. -/
theorem lookUp_ok {token : String} {user : User} {t : RefreshToken}
    (h : db.lookUp token = .ok (user, t)) : db.presented token = .ok (user, t) := by
  obtain ⟨t', hfind, h⟩ := except_bind_ok.mp h
  obtain ⟨found, hlook, h⟩ := except_bind_ok.mp h
  have howner := looking_ok hlook
  cases found <;> cases h
  rw [presented, findToken_ok hfind]
  dsimp only
  rw [← howner]

/-- Where the tables are there, what is there is found. -/
theorem findToken_of_hasTable (htokens : db.hasTable .refreshTokens = true) (token : String) :
    db.findToken token = match db.token? token with
      | some t => .ok t
      | none => .error .tokenNotFound := by
  rw [findToken, looking_of_hasTable _ _ (by simpa using htokens)]
  rfl

theorem lookUp_of_hasTable (htokens : db.hasTable .refreshTokens = true)
    (husers : db.hasTable .users = true) (token : String) :
    db.lookUp token = db.presented token := by
  rw [lookUp, findToken_of_hasTable htokens, presented]
  cases db.token? token with
  | none => rfl
  | some t =>
    change (db.looking _ [.users] (db.user? t.userId) >>= _) = _
    dsimp only
    rw [looking_of_hasTable _ _ (by simpa using husers)]
    cases db.user? t.userId <;> rfl

end Database

/-! ## Lookups -/

section

variable {σ α : Type} {h : Host σ} (hq : h.connection.Quiet)

include hq

theorem Action.read_quiet (context : String) (tables : List Table) (f : Database → α) :
    (Action.read tables f : Action σ StoreError α).during context h =
      (h.connection.data.looking context tables (f h.connection.data), h) := by
  rw [Action.read, Action.during, Action.mapError_of (Action.onConnection_apply hq.closed)]
  unfold Connection.look Database.looking
  cases tables.find? fun t => !h.connection.data.hasTable t with
  | none => simp [hq.lapse]
  | some t => rfl

theorem findToken_quiet (token : String) :
    findToken token h = (h.connection.data.findToken token, h) := by
  rw [findToken, Action.bind_apply, Action.read_quiet hq, Database.findToken]
  cases h.connection.data.looking _ _ (h.connection.data.token? token) with
  | error e => rfl
  | ok found => cases found <;> rfl

theorem findUserWithToken_quiet (token : String) :
    findUserWithToken token h = (h.connection.data.lookUp token, h) := by
  rw [findUserWithToken, Action.bind_apply, findToken_quiet hq, Database.lookUp]
  cases h.connection.data.findToken token with
  | error e => rfl
  | ok t =>
    dsimp only
    rw [Action.bind_apply, Action.read_quiet hq]
    change _ = ((h.connection.data.looking _ [.users] (h.connection.data.user? t.userId) >>= _), h)
    cases h.connection.data.looking _ [.users] (h.connection.data.user? t.userId) with
    | error e => rfl
    | ok owner => cases owner <;> rfl

/-- At the begin of a transaction the lookup is what it was before. -/
theorem findUserWithToken_begin (token : String) :
    findUserWithToken token { h with connection := h.connection.begin } =
      (h.connection.data.lookUp token, { h with connection := h.connection.begin }) :=
  findUserWithToken_quiet hq.begin token

end

/-! ## Exchanges -/

namespace Service

variable {σ : Type} {s : Service σ} {now : Instant}

/-- At the begin of a transaction, the audit log notes that a token of the user is revoked, and
leaves `h₁`. -/
def Noted (s : Service σ) (now : Instant) (user : User) (h h₁ : Host σ) : Prop :=
  s.audit now user.instanceId user .tokenRevoked none
    { h with connection := h.connection.begin } = (.ok (), h₁)

theorem Noted.recordRevocation {user : User} {h h₁ : Host σ} (noted : s.Noted now user h h₁) :
    s.recordRevocation now user { h with connection := h.connection.begin } = (.ok (), h₁) :=
  Action.during_ok.mpr noted

theorem Noted.unique {user : User} {h h₁ h₂ : Host σ} (h₁n : s.Noted now user h h₁)
    (h₂n : s.Noted now user h h₂) : h₁ = h₂ :=
  congrArg Prod.snd (h₁n.symm.trans h₂n)

/-- The work of an exchange, once a valid token has been found. -/
theorem exchangeWork_of_lookUp {token : String} {user : User} {old : RefreshToken} {h : Host σ}
    (hq : h.connection.Quiet) (hfound : h.connection.data.lookUp token = .ok (user, old))
    (hvalid : old.revoked = false) :
    s.exchangeWork now token { h with connection := h.connection.begin } =
      (do
        s.recordRevocation now user
        if (← revokeIfValid now old) = 0 then return .reused (← findToken old.token)
        else return .issued (← s.issue now user (.rotation old)) : Action σ Error Presented)
        { h with connection := h.connection.begin } := by
  have hfind : findUserWithToken token { h with connection := h.connection.begin } =
      (.ok (user, old), { h with connection := h.connection.begin }) := by
    rw [findUserWithToken_begin hq, hfound]
  rw [exchangeWork, Action.bind_of_ok hfind]
  dsimp only
  rw [if_neg (by simp [hvalid])]

/-- The steps of an exchange that succeeds. -/
theorem exchange_ok {token : String} {i : IssuedToken} {h h' : Host σ} (hq : h.connection.Quiet)
    (run : s.exchange now token h = (.ok i, h')) :
    ∃ user old h₁ n h₂ h₃, h.connection.data.lookUp token = .ok (user, old) ∧
      old.revoked = false ∧ s.Noted now user h h₁ ∧ revokeIfValid now old h₁ = (.ok n, h₂) ∧
      n ≠ 0 ∧ s.issue now user (.rotation old) h₂ = (.ok i, h₃) ∧
      Action.finish (.ok i) h₃ = (.ok i, h') := by
  rw [exchange_apply s now token hq.closed] at run
  rcases hw : s.exchangeWork now token { h with connection := h.connection.begin } with
    ⟨e | j | t, h₃⟩ <;> rw [hw] at run
  · cases run
  · obtain ⟨⟨user, old⟩, h₀, hfind, hw⟩ := Action.bind_ok.mp hw
    rw [findUserWithToken_begin hq] at hfind
    obtain ⟨hfound, rfl⟩ := Prod.mk.inj hfind
    dsimp only at hw
    split at hw
    · cases hw
    rename_i hvalid
    obtain ⟨_, h₁, hnote, hw⟩ := Action.bind_ok.mp hw
    obtain ⟨n, h₂, hrevoke, hw⟩ := Action.bind_ok.mp hw
    split at hw
    · obtain ⟨_, _, -, hw⟩ := Action.bind_ok.mp hw
      cases hw
    rename_i hn
    obtain ⟨i', h₃', hissue, hw⟩ := Action.bind_ok.mp hw
    cases hw
    obtain ⟨_, _, hcommit, hfinish⟩ := Action.bind_ok.mp run
    cases hfinish
    exact ⟨user, old, h₁, n, h₂, h₃, hfound, by simpa using hvalid, Action.during_ok.mp hnote,
      hrevoke, hn, hissue, run⟩
  · exact absurd run punish_ne_ok

end Service

end RefreshChain
