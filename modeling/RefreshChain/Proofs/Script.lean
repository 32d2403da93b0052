import RefreshChain.Proofs.Outcome

/-!
# Operations step by step

The steps of the operations of a service, in their order, each with the context that a failure of it
is reported under.

* `Script`: steps, where each may depend on what those before it gave; `Script.run` carries them
  out.
* `Script.StopsAt`: the first step that fails, and with what. `Script.run_error`: that is how a run
  ends that fails.
* `Service.steps`: the steps of a request, the begin and the end of its transaction among them.
-/

namespace RefreshChain

/-- Steps at the store, each of which may use the results of those before it. -/
inductive Script (σ α : Type) : Type 1 where
  /-- No step is left, and this is the outcome. -/
  | done (outcome : Except Error α)
  | step {β : Type} (context : String) (act : Action σ StoreError β) (next : β → Script σ α)

namespace Script

variable {σ α β : Type}

protected def bind : Script σ α → (α → Script σ β) → Script σ β
  | .done (.ok a), f => f a
  | .done (.error e), _ => .done (.error e)
  | .step context act next, f => .step context act fun b => (next b).bind f

instance : Monad (Script σ) where
  pure a := .done (.ok a)
  bind := Script.bind

/-- A single step. -/
def call (context : String) (act : Action σ StoreError α) : Script σ α :=
  .step context act fun a => .done (.ok a)

def refuse (e : Error) : Script σ α := .done (.error e)

/-- The value, or the given error where there is none. -/
def orRefuse (e : Error) : Option α → Script σ α
  | some a => pure a
  | none => refuse e

/-- Carries out the steps one after the other. -/
def run : Script σ α → Action σ Error α
  | .done outcome => fun h => (outcome, h)
  | .step context act next => act.during context >>= fun b => (next b).run

/-- From `h` on, the steps succeed up to one that fails, or up to the decision to refuse. `e` is the
error that this is reported as, and `h'` the host right after it. -/
inductive StopsAt : Script σ α → Host σ → Error → Host σ → Prop where
  | refused {h : Host σ} {e : Error} : StopsAt (.done (.error e)) h e h
  | failed {β : Type} {context : String} {act : Action σ StoreError β} {next : β → Script σ α}
      {h h' : Host σ} {source : StoreError} (fails : act h = (.error source, h')) :
      StopsAt (.step context act next) h (.persistence context source) h'
  | later {β : Type} {context : String} {act : Action σ StoreError β} {next : β → Script σ α}
      {h h₁ h' : Host σ} {b : β} {e : Error} (succeeds : act h = (.ok b, h₁))
      (rest : StopsAt (next b) h₁ e h') : StopsAt (.step context act next) h e h'

/-! ## Running -/

@[simp] theorem run_pure (a : α) : (pure a : Script σ α).run = pure a := rfl

@[simp] theorem run_refuse (e : Error) : (refuse e : Script σ α).run = Action.fail e := rfl

@[simp]
theorem run_call (context : String) (act : Action σ StoreError α) :
    (call context act).run = act.during context :=
  bind_pure (act.during context)

@[simp]
theorem run_orRefuse (e : Error) (o : Option α) :
    (orRefuse e o : Script σ α).run = Action.orFail e o := by
  cases o <;> rfl

@[simp]
theorem run_bind (p : Script σ α) (f : α → Script σ β) :
    (p >>= f).run = p.run >>= fun a => (f a).run := by
  induction p with
  | done o => cases o <;> rfl
  | step context act next ih =>
    show act.during context >>= (fun b => (next b >>= f).run) = _
    simp only [run, ih, bind_assoc]

@[simp]
theorem run_ite (c : Prop) [Decidable c] (p q : Script σ α) :
    (if c then p else q).run = if c then p.run else q.run := by
  split <;> rfl

/-- A run fails exactly as its first failing step says. -/
theorem run_error {p : Script σ α} {h h' : Host σ} {e : Error} :
    p.run h = (.error e, h') ↔ p.StopsAt h e h' := by
  constructor
  · induction p generalizing h with
    | done o =>
      intro hr
      obtain ⟨rfl, rfl⟩ := Prod.mk.inj hr
      exact .refused
    | step context act next ih =>
      intro hr
      rcases Action.bind_error.mp hr with hr | ⟨b, h₁, hr, hn⟩
      · obtain ⟨source, hf, rfl⟩ := Action.during_error.mp hr
        exact .failed hf
      · exact .later (Action.during_ok.mp hr) (ih b hn)
  · intro hs
    induction hs with
    | refused => rfl
    | failed hr => exact Action.bind_error.mpr (.inl (Action.during_error.mpr ⟨_, hr, rfl⟩))
    | later hr _ ih => exact Action.bind_error.mpr (.inr ⟨_, _, Action.during_ok.mpr hr, ih⟩)

theorem StopsAt.call {context : String} {act : Action σ StoreError α} {f : α → Script σ β}
    {h h' : Host σ} {source : StoreError} (hr : act h = (.error source, h')) :
    (call context act >>= f).StopsAt h (.persistence context source) h' :=
  .failed hr

theorem StopsAt.after_call {context : String} {act : Action σ StoreError α} {f : α → Script σ β}
    {h h₁ h' : Host σ} {a : α} {e : Error} (hr : act h = (.ok a, h₁)) (hs : (f a).StopsAt h₁ e h') :
    (Script.call context act >>= f).StopsAt h e h' :=
  .later hr hs

theorem StopsAt.bind {p : Script σ α} {f : α → Script σ β} {h h' : Host σ} {e : Error}
    (hs : p.StopsAt h e h') : (p >>= f).StopsAt h e h' := by
  rw [← run_error, run_bind]
  exact Action.bind_error.mpr (.inl (run_error.mpr hs))

theorem StopsAt.after {p : Script σ α} {f : α → Script σ β} {h h₁ h' : Host σ} {a : α} {e : Error}
    (hr : p.run h = (.ok a, h₁)) (hs : (f a).StopsAt h₁ e h') : (p >>= f).StopsAt h e h' := by
  rw [← run_error, run_bind]
  exact Action.bind_error.mpr (.inr ⟨_, _, hr, run_error.mpr hs⟩)

end Script

/-! ## The steps of the operations -/

section

variable {σ : Type}

def findTokenSteps (token : String) : Script σ RefreshToken := do
  let found ← .call "error finding refresh token" (Action.read [.refreshTokens] (·.token? token))
  .orRefuse .tokenNotFound found

def findUserWithTokenSteps (token : String) : Script σ (User × RefreshToken) := do
  let t ← findTokenSteps token
  let owner ← .call "error finding user for refresh token"
    (Action.read [.users] (·.user? t.userId))
  return (← .orRefuse .tokenNotFound owner, t)

/-- The token that has just been inserted is read back. -/
def loadTokenSteps (id : Int) : Script σ RefreshToken := do
  let found ← .call "error loading refresh token after create"
    (Action.read [.refreshTokens] (·.tokenById? id))
  .orRefuse (.missingRow "error loading refresh token after create"
    ("refresh token " ++ toString id)) found

/-- The session of a new token, if it has one, is read with its provider. -/
def bindingSteps (t : RefreshToken) : Script σ (Option SsoBinding) :=
  match t.ssoSessionId with
  | none => pure none
  | some id => do
    let found ← .call "error loading SSO session for refresh token after create"
      (Action.read [.ssoSessions, .ssoProviders] fun db =>
        (db.session? id).map fun s => (s, db.provider? s.providerId))
    let (session, provider?) ←
      .orRefuse (.missingRow "error loading SSO session for refresh token after create"
        ("sso session " ++ toString id)) found
    let provider ← .orRefuse
      (.missingRow "error loading SSO provider for refresh token after create"
        ("sso provider " ++ toString session.providerId)) provider?
    return some ⟨session, provider⟩

namespace Service

def sessionSteps (s : Service σ) (now : Instant) (user : User) :
    Origin → Script σ (Option Uuid)
  | .rotation old => pure old.ssoSessionId
  | .signIn none => pure none
  | .signIn (some c) => do
    let session ← .call "error creating SSO session for refresh token"
      (Action.draw s.freshId >>= fun id => insertSession (c.session id user now))
    return some session.id

/-- The steps in which a new token is stored: its session, the token, both read back, and the note
of the sign-in. -/
def issueSteps (s : Service σ) (now : Instant) (user : User) (origin : Origin) :
    Script σ IssuedToken := do
  let ssoSessionId ← s.sessionSteps now user origin
  let id ← .call "error creating refresh token" (Action.draw s.generate >>= fun token =>
    Action.write (.insertToken
      { instanceId := user.instanceId, id := 0, token, parent := origin.parent?, userId := user.id,
        ssoSessionId, createdAt := now, updatedAt := now } none))
  let stored ← loadTokenSteps id
  let sso ← bindingSteps stored
  .call "error updating user's last_sign_in_at" (s.users now user)
  return ⟨stored, sso⟩

def recordSteps (s : Service σ) (now : Instant) (user : User) : Script σ Unit :=
  .call "error creating audit log entry" (s.audit now user.instanceId user .tokenRevoked none)

def swapSteps (s : Service σ) (now : Instant) (user : User) (old : RefreshToken) :
    Script σ IssuedToken := do
  s.recordSteps now user
  let n ← .call "error revoking refresh token"
    (Action.write (.updateTokens [] (·.id = old.id) (·.revokedAt now)))
  if n = 0 then .refuse .tokenNotFound else s.issueSteps now user (.rotation old)

def presentedSteps (s : Service σ) (now : Instant) (token : String) : Script σ Presented := do
  let (user, old) ← findUserWithTokenSteps token
  if old.revoked then return .reused old
  else
    s.recordSteps now user
    let n ← .call "error revoking refresh token"
      (Action.write (.updateTokens [] (fun r => r.id = old.id && !r.revoked) (·.revokedAt now)))
    if n = 0 then return .reused (← findTokenSteps old.token)
    else return .issued (← s.issueSteps now user (.rotation old))

end Service

/-- A call that issues a token or refuses to. -/
inductive Request where
  | grant (user : User) (conditions : Option Conditions)
  | swap (user : User) (old : RefreshToken)
  | exchange (token : String)
  deriving DecidableEq, Repr

/-! ## Running the steps is what the operations do -/

@[simp]
theorem findTokenSteps_run (token : String) :
    (findTokenSteps token : Script σ RefreshToken).run = findToken token := by
  simp [findTokenSteps, findToken]

@[simp]
theorem findUserWithTokenSteps_run (token : String) :
    (findUserWithTokenSteps token : Script σ (User × RefreshToken)).run =
      findUserWithToken token := by
  simp [findUserWithTokenSteps, findUserWithToken]

@[simp]
theorem loadTokenSteps_run (id : Int) :
    (loadTokenSteps id : Script σ RefreshToken).run = loadToken id := by
  simp [loadTokenSteps, loadToken]

@[simp]
theorem bindingSteps_run (t : RefreshToken) :
    (bindingSteps t : Script σ (Option SsoBinding)).run = Service.bindingOf t := by
  unfold bindingSteps Service.bindingOf
  cases t.ssoSessionId <;> simp [loadBinding]

namespace Service

variable (s : Service σ) (now : Instant) (user : User)

@[simp]
theorem sessionSteps_run (origin : Origin) :
    (s.sessionSteps now user origin).run = s.sessionFor now user origin := by
  rcases origin with (_ | c) | old
  · rfl
  · simp [sessionSteps, sessionFor, createSession]
    rfl
  · rfl

@[simp]
theorem issueSteps_run (origin : Origin) :
    (s.issueSteps now user origin).run = s.issue now user origin := by
  simp [issueSteps, issue, createToken]
  rfl

@[simp]
theorem recordSteps_run : (s.recordSteps now user).run = s.recordRevocation now user := by
  simp [recordSteps, recordRevocation]

@[simp]
theorem swapSteps_run (old : RefreshToken) :
    (s.swapSteps now user old).run = s.swapWork now user old := by
  simp [swapSteps, swapWork, markRevoked]

@[simp]
theorem presentedSteps_run (token : String) :
    (s.presentedSteps now token).run = s.exchangeWork now token := by
  simp [presentedSteps, exchangeWork, revokeIfValid]

end Service

namespace Service

/-- The answer of the service to a request. -/
def serve (s : Service σ) (now : Instant) : Request → Action σ Error IssuedToken
  | .grant user conditions => s.grant now user conditions
  | .swap user old => s.swap now user old
  | .exchange token => s.exchange now token

/-- The steps of a transaction that succeeds in its work. -/
def withinTransaction {α : Type} (work : Script σ α) : Script σ α := do
  .call "error starting transaction" Action.begin
  let a ← work
  .call "error committing transaction" Action.commit
  return a

/-- The steps that follow the work of an exchange. -/
def answerSteps (s : Service σ) (now : Instant) : Presented → Script σ IssuedToken
  | .issued t => do
    .call "error committing transaction" Action.commit
    return t
  | .reused t => do
    .call "error rolling back transaction" Action.rollback
    if s.config.rotationEnabled then
      let _ ← .call familyContext (Action.write (.revokeFamily now t))
    .refuse .tokenReused

/-- All steps of a request but the rollback after a failure. -/
def steps (s : Service σ) (now : Instant) : Request → Script σ IssuedToken
  | .grant user conditions => withinTransaction (s.issueSteps now user (.signIn conditions))
  | .swap user old => withinTransaction (s.swapSteps now user old)
  | .exchange token => do
    .call "error starting transaction" Action.begin
    let presented ← s.presentedSteps now token
    s.answerSteps now presented

end Service

end

end RefreshChain
