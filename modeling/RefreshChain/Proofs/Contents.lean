import RefreshChain.Proofs.Operations
import RefreshChain.Proofs.Script

/-!
# What requests make of the contents

With the store's own tables for the audit log and the users, what a request does to the contents of
a fully migrated store is a function of these, and of what the sources of strings and ids give.

* `Database.issue`, `Database.swap`, `Database.exchange`: the outcome of the work of a request.
* `Database.serve`: the answer to a request, and the contents after it.
* `Database.serve_ok`, `Database.serve_error`: all that a request may do to the tokens. It issues
  one, `Database.Grown`, in one of the ways of `Request.Issues`, or it revokes a family.
-/

namespace RefreshChain

/-- What a request takes from its sources: the id of a new session, if it opens one, and the string
of a new token. -/
structure Supply where
  sessionId : Uuid := .nil
  string : String
  deriving DecidableEq, Repr

/-- Whether a new token comes with a new session. -/
def Origin.opensSession : Origin → Bool
  | .signIn (some _) => true
  | _ => false

/-- Whether a request may open a session. -/
def Request.opensSession : Request → Bool
  | .grant _ conditions => (Origin.signIn conditions).opensSession
  | _ => false

/-- A write was refused during the step that `context` describes. -/
def Error.refused (context : String) (r : Refusal) : Error :=
  .persistence context (.execution (.refused r))

/-- The token that a user gets, before the store gives it an id. -/
def User.newToken (user : User) (now : Instant) (origin : Origin) (ssoSessionId : Option Uuid)
    (string : String) : RefreshToken where
  instanceId := user.instanceId
  id := 0
  token := string
  parent := origin.parent?
  userId := user.id
  ssoSessionId := ssoSessionId
  createdAt := now
  updatedAt := now

namespace Database

/-! ## Steps -/

/-- The contents with a note that a token of the user is revoked. -/
def recording (db : Database) (now : Instant) (user : User) : Database :=
  { db with audit := db.audit ++ [⟨user.instanceId, some user.id, some user.email,
      AuditAction.tokenRevoked.word, none, now⟩] }

/-- The contents after a sign-in of the user has been noted. -/
def signingIn (db : Database) (now : Instant) (user : User) : Database :=
  { db with users := db.users.map fun u => if u.id = user.id then u.signedInAt now else u }

/-- The session of a new token: a sign-in with conditions opens one. -/
def sessionFor (db : Database) (now : Instant) (user : User) (id : Uuid) :
    Origin → Except Error (Option Uuid × Database)
  | .rotation old => .ok (old.ssoSessionId, db)
  | .signIn none => .ok (none, db)
  | .signIn (some c) =>
    ((db.openSession (c.session id user now)).mapError
      (Error.refused "error creating SSO session for refresh token")).map (some id, ·)

/-- The session with the given id, and its provider. -/
def binding (db : Database) (id : Uuid) : Except Error SsoBinding :=
  match db.session? id with
  | none => .error (.missingRow "error loading SSO session for refresh token after create"
      ("sso session " ++ toString id))
  | some session =>
    match db.provider? session.providerId with
    | none => .error (.missingRow "error loading SSO provider for refresh token after create"
        ("sso provider " ++ toString session.providerId))
    | some provider => .ok ⟨session, provider⟩

/-- The session that a token is bound to, if it is. -/
def bindingOf (db : Database) (t : RefreshToken) : Except Error (Option SsoBinding) :=
  match t.ssoSessionId with
  | none => .ok none
  | some id => (db.binding id).map some

/-! ## Requests -/

/-- The outcome of the issue of a token. -/
def issue (db : Database) (now : Instant) (user : User) (origin : Origin) (given : Supply) :
    Except Error (IssuedToken × Database) := do
  let (ssoSessionId, db) ← db.sessionFor now user given.sessionId origin
  let (t, db) ← (db.mint (user.newToken now origin ssoSessionId given.string)).mapError
    (Error.refused "error creating refresh token")
  let sso ← db.bindingOf t
  return (⟨t, sso⟩, db.signingIn now user)

/-- The outcome of the work of a swap. -/
def swap (db : Database) (now : Instant) (user : User) (old : RefreshToken) (given : Supply) :
    Except Error (IssuedToken × Database) :=
  if db.tokens.any (·.id = old.id) then
    ((db.recording now user).revoking now (·.id = old.id)).issue now user (.rotation old) given
  else .error .tokenNotFound

/-- The owner of the token with the given string, and the token. -/
def presented (db : Database) (token : String) : Except Error (User × RefreshToken) :=
  match db.token? token with
  | none => .error .tokenNotFound
  | some t =>
    match db.user? t.userId with
    | none => .error .tokenNotFound
    | some user => .ok (user, t)

/-- The outcome of the work of an exchange. -/
def exchange (db : Database) (now : Instant) (token : String) (given : Supply) :
    Except Error (Presented × Database) :=
  match db.presented token with
  | .error e => .error e
  | .ok (user, old) =>
    if old.revoked then .ok (.reused old, db)
    else
      (((db.recording now user).revoking now (Service.stillValid old)).issue now user
        (.rotation old) given).map fun (i, db) => (.issued i, db)

/-- The answer of a transaction, and the contents after it: those before it if its work fails. -/
def settled {α : Type} (db : Database) : Except Error (α × Database) → Except Error α × Database
  | .ok (a, db') => (.ok a, db')
  | .error e => (.error e, db)

/-- The answer to a request that is given `given`, and the contents after it. -/
def serve (db : Database) (rotationEnabled : Bool) (now : Instant) (given : Supply) :
    Request → Except Error IssuedToken × Database
  | .grant user conditions => db.settled (db.issue now user (.signIn conditions) given)
  | .swap user old => db.settled (db.swap now user old given)
  | .exchange token =>
    match db.exchange now token given with
    | .ok (.issued i, db') => (.ok i, db')
    | .ok (.reused t, _) =>
      (.error .tokenReused, if rotationEnabled then db.revokingFamily now t else db)
    | .error e => (.error e, db)

end Database

/-! ## What succeeded -/

namespace Database

variable {db db' : Database}

theorem presented_ok {token : String} {user : User} {t : RefreshToken}
    (h : db.presented token = .ok (user, t)) :
    t ∈ db.tokens ∧ db.token? token = some t ∧ db.user? t.userId = some user := by
  unfold presented at h
  split at h
  · cases h
  · rename_i ht
    split at h
    · cases h
    · rename_i hu
      cases h
      exact ⟨(mem_of_token? ht).1, ht, hu⟩

/-- A session is opened for a new token, or none is. -/
theorem sessionFor_ok {now : Instant} {user : User} {id : Uuid} {origin : Origin}
    {sid : Option Uuid} (h : db.sessionFor now user id origin = .ok (sid, db')) :
    (db' = db ∨ ∃ c, origin = .signIn (some c) ∧
      db.openSession (c.session id user now) = .ok db') ∧
      ∀ old, origin = .rotation old → sid = old.ssoSessionId := by
  rcases origin with (_ | c) | old
  · cases h
    exact ⟨.inl rfl, nofun⟩
  · obtain ⟨db₁, ho, he⟩ := except_map_ok h
    cases he
    exact ⟨.inr ⟨c, rfl, except_mapError_ok ho⟩, nofun⟩
  · cases h
    exact ⟨.inl rfl, fun _ ho => by cases ho; rfl⟩

/-- A session that is opened does not matter to tokens. -/
theorem sessionFor_sessions {now : Instant} {user : User} {id : Uuid} {origin : Origin}
    {sid : Option Uuid} (h : db.sessionFor now user id origin = .ok (sid, db')) :
    ∃ opened, db' = { db with sessions := db.sessions ++ opened } := by
  rcases (sessionFor_ok h).1 with rfl | ⟨c, -, ho⟩
  · exact ⟨[], by simp⟩
  · exact ⟨_, (openSession_ok ho).2.2⟩

theorem sessionFor_error {now : Instant} {user : User} {id : Uuid} {origin : Origin} {e : Error}
    (h : db.sessionFor now user id origin = .error e) :
    ∃ context source, e = .persistence context source := by
  rcases origin with (_ | c) | old
  · cases h
  · unfold sessionFor at h
    dsimp only at h
    cases ho : db.openSession (c.session id user now) <;> rw [ho] at h <;> cases h
    exact ⟨_, _, rfl⟩
  · cases h

/-- The steps of the issue of a token. -/
theorem issue_ok {now : Instant} {user : User} {origin : Origin} {given : Supply} {i : IssuedToken}
    (h : db.issue now user origin given = .ok (i, db')) :
    ∃ sid db₁ db₂, db.sessionFor now user given.sessionId origin = .ok (sid, db₁) ∧
      db₁.mint (user.newToken now origin sid given.string) = .ok (i.token, db₂) ∧
      db₂.bindingOf i.token = .ok i.sso ∧ db' = db₂.signingIn now user := by
  obtain ⟨⟨sid, db₁⟩, hs, h⟩ := except_bind_ok.mp h
  obtain ⟨⟨t, db₂⟩, hm, h⟩ := except_bind_ok.mp h
  obtain ⟨sso, hb, h⟩ := except_bind_ok.mp h
  cases h
  exact ⟨sid, db₁, db₂, hs, except_mapError_ok hm, hb, rfl⟩

theorem bindingOf_error {t : RefreshToken} {e : Error} (h : db.bindingOf t = .error e) :
    ∃ context source, e = .persistence context source := by
  unfold bindingOf at h
  cases ht : t.ssoSessionId with
  | none => rw [ht] at h; cases h
  | some id =>
    rw [ht] at h
    cases hb : db.binding id <;> simp only [hb, Except.map] at h <;> cases h
    unfold binding at hb
    split at hb
    · cases hb
      exact ⟨_, _, rfl⟩
    · split at hb <;> cases hb
      exact ⟨_, _, rfl⟩

/-- The issue of a token fails at the store alone. -/
theorem issue_error {now : Instant} {user : User} {origin : Origin} {given : Supply} {e : Error}
    (h : db.issue now user origin given = .error e) :
    ∃ context source, e = .persistence context source := by
  rcases except_bind_error.mp h with hs | ⟨⟨sid, db₁⟩, -, h⟩
  · exact sessionFor_error hs
  rcases except_bind_error.mp h with hm | ⟨⟨t, db₂⟩, -, h⟩
  · obtain ⟨r, -, rfl⟩ := except_mapError_error hm
    exact ⟨_, _, rfl⟩
  rcases except_bind_error.mp h with hb | ⟨sso, -, h⟩
  · exact bindingOf_error hb
  · cases h

end Database

/-- `db'` has one more token than `db`, that of `i`. Nothing else about tokens and their owners is
different. -/
structure Database.Grown (db : Database) (user : User) (origin : Origin) (given : Supply)
    (i : IssuedToken) (db' : Database) : Prop where
  issued : Issued db user origin i.token
  string : i.token.token = given.string
  rest : (db.withToken i.token).Spared db'

/-- The request has a token of the given origin issued to the user, once the tokens that fit have
been revoked. -/
inductive Request.Issues (db : Database) :
    Request → User → Origin → (RefreshToken → Bool) → Prop where
  | grant {user : User} {conditions : Option Conditions} :
      Issues db (.grant user conditions) user (.signIn conditions) fun _ => false
  | swap {user : User} {old : RefreshToken} (there : ∃ r ∈ db.tokens, r.id = old.id) :
      Issues db (.swap user old) user (.rotation old) (·.id = old.id)
  | exchange {token : String} {user : User} {old : RefreshToken}
      (found : db.presented token = .ok (user, old)) (valid : old.revoked = false) :
      Issues db (.exchange token) user (.rotation old) (Service.stillValid old)

namespace Database

variable {db db' : Database} {now : Instant} {given : Supply} {i : IssuedToken}

theorem spared_signingIn (db : Database) (now : Instant) (user : User) :
    db.Spared (db.signingIn now user) := by
  refine spared_map_users _ (fun u => ?_) fun u => ?_
  · split <;> rfl
  · split <;> rfl

theorem issue_grown {user : User} {origin : Origin}
    (h : db.issue now user origin given = .ok (i, db')) : db.Grown user origin given i db' := by
  obtain ⟨sid, db₁, db₂, hs, hm, -, rfl⟩ := issue_ok h
  obtain ⟨-, hsid⟩ := sessionFor_ok hs
  obtain ⟨opened, rfl⟩ := sessionFor_sessions hs
  obtain ⟨hnew, hsup, ht, rfl⟩ := mint_ok hm
  have howner := supports_user hsup
  refine ⟨⟨?_, ?_, ?_, ?_, ?_, ?_, ?_, ?_⟩, ?_, ?_⟩
  · rw [ht]; rfl
  · rw [ht]; exact hnew
  · rw [ht]; rfl
  · rw [ht]; rfl
  · rw [ht]; rfl
  · rw [ht]; exact hsid
  · rw [ht]; rfl
  · exact howner
  · rw [ht]; rfl
  · have hopened : (db.withToken i.token).Spared
        (withToken { db with sessions := db.sessions ++ opened } i.token) :=
      ⟨rfl, rfl, fun _ _ u hu => ⟨u, hu, rfl⟩⟩
    exact hopened.trans (spared_signingIn _ now user)

theorem revoking_none (db : Database) (now : Instant) : db.revoking now (fun _ => false) = db := by
  simp [revoking]

/-- A note in the audit log does not matter to tokens. -/
theorem Grown.of_recording {user user' : User} {origin : Origin} {q : RefreshToken → Bool}
    (h : ((db.recording now user').revoking now q).Grown user origin given i db') :
    (db.revoking now q).Grown user origin given i db' :=
  ⟨⟨h.issued.id, h.issued.fresh, h.issued.parent, h.issued.instanceId, h.issued.userId,
    h.issued.session, h.issued.valid, h.issued.owner⟩, h.string,
    ⟨h.rest.tokens, h.rest.lastTokenId, h.rest.owners⟩⟩

theorem settled_ok {α : Type} {o : Except Error (α × Database)} {a : α}
    (h : db.settled o = (.ok a, db')) : o = .ok (a, db') := by
  rcases o with e | ⟨b, db₁⟩ <;> cases h
  rfl

/-- A request that succeeds issues a token. -/
theorem serve_ok {rotationEnabled : Bool} {r : Request}
    (h : db.serve rotationEnabled now given r = (.ok i, db')) :
    ∃ user origin q, r.Issues db user origin q ∧
      (db.revoking now q).Grown user origin given i db' := by
  cases r with
  | grant user conditions =>
    refine ⟨user, _, _, .grant, ?_⟩
    rw [revoking_none]
    exact issue_grown (settled_ok h)
  | swap user old =>
    have hw := settled_ok h
    unfold swap at hw
    split at hw
    · rename_i hany
      refine ⟨user, _, _, .swap ?_, (issue_grown hw).of_recording⟩
      simpa using hany
    · cases hw
  | exchange token =>
    rw [serve] at h
    rcases hw : db.exchange now token given with e | ⟨i' | t, db₁⟩ <;> rw [hw] at h <;> cases h
    unfold exchange at hw
    rcases hp : db.presented token with e | ⟨user, old⟩ <;> rw [hp] at hw
    · cases hw
    · dsimp only at hw
      split at hw
      · cases hw
      · rename_i hold
        obtain ⟨⟨i', db₁⟩, hi, he⟩ := except_map_ok hw
        cases he
        exact ⟨user, _, _, .exchange hp (by simpa using hold), (issue_grown hi).of_recording⟩

/-- A request that fails changes nothing, unless a token was used before. -/
theorem serve_error {rotationEnabled : Bool} {r : Request} {e : Error}
    (h : db.serve rotationEnabled now given r = (.error e, db')) :
    db' = db ∨ ∃ t, db' = db.revokingFamily now t := by
  have hsettled : ∀ o : Except Error (IssuedToken × Database),
      db.settled o = (.error e, db') → db' = db := by
    intro o ho
    rcases o with e' | ⟨i, db₁⟩ <;> cases ho
    rfl
  cases r with
  | grant user conditions => exact .inl (hsettled _ h)
  | swap user old => exact .inl (hsettled _ h)
  | exchange token =>
    rw [serve] at h
    rcases hw : db.exchange now token given with e' | ⟨i | t, db₁⟩ <;> rw [hw] at h <;> cases h
    · exact .inl rfl
    · split
      · exact .inr ⟨t, rfl⟩
      · exact .inl rfl

end Database

end RefreshChain
