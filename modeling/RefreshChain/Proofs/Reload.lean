import RefreshChain.Proofs.Integrity
import RefreshChain.Proofs.Issuance
import RefreshChain.Proofs.Lookups

/-!
# A new token is read back

A token that has just been inserted is read back, with its session and the provider of that. On a
store that is integral, nothing of this can be missing.

* `Connection.Intact`: a steady connection to integral contents.
* `Service.insertion_readsBack`: after an insertion on such a connection the token is read back as
  it was inserted, with its session and provider if it is bound to one.
* `Error.AtReload`: what is said where such a row is missing. `Action.NeverMisses`: what never fails
  so. There is a rule for each way to build an action.
* `Service.ComesToIssue`: how a request gets to the issue of a token.
* `reload_finds_inserted`: no request fails for a row that is missing when it is read back, and the
  token that is read back is the one that was inserted.
-/

namespace RefreshChain

variable {σ : Type}

/-! ## Intact connections -/

/-- A steady connection whose contents are integral, and would be after any rollback. -/
def Connection.Intact (c : Connection) : Prop := c.Steady ∧ c.Since 0 Database.Integral

namespace Connection.Intact

variable {h : Host σ}

theorem begin {c : Connection} (hc : c.Intact) : c.begin.Intact := integral_stable.begin hc

/-- Rows may be written in any way. -/
theorem after {ε α : Type} {x : Action σ ε α} (hx : x.MadeOf Statement.OfRows)
    (hh : h.connection.Intact) : (x h).2.connection.Intact :=
  hx.keeps integral_stable hh

theorem of_ran {ε α : Type} {x : Action σ ε α} (hx : x.MadeOf Statement.OfRows)
    (hh : h.connection.Intact) {o : Except ε α} {h' : Host σ} (run : x h = (o, h')) :
    h'.connection.Intact := by
  have hh' := hh.after hx
  rwa [run] at hh'

end Connection.Intact

/-! ## Insertion and reload -/

/-- The token is read back as it is, with the session that it is bound to and the provider of that,
which are both in the store. -/
structure Host.ReadsBack (h : Host σ) (t : RefreshToken) (sso : Option SsoBinding) : Prop where
  token : loadToken t.id h = (.ok t, h)
  binding : Service.bindingOf t h = (.ok sso, h)
  binds : h.connection.data.Binds t.ssoSessionId sso

namespace Service

variable (s : Service σ) (now : Instant) (user : User) (origin : Origin)

/-- The steps of an issue up to the insertion of the token. The answer is the token under the id
that it was given. -/
def insertion : Action σ Error RefreshToken := do
  let sid ← s.sessionFor now user origin
  let string ← Action.draw s.generate
  let id ← createToken (user.newToken now origin sid string)
  return { user.newToken now origin sid string with id }

/-- What follows the insertion: the token is read back, and the sign-in is noted. -/
def reload (id : Int) : Action σ Error IssuedToken := do
  let stored ← loadToken id
  let sso ← bindingOf stored
  (s.users now user).during "error updating user's last_sign_in_at"
  return ⟨stored, sso⟩

theorem issue_eq :
    s.issue now user origin = s.insertion now user origin >>= fun t => s.reload now user t.id := by
  simp only [issue, insertion, reload, bind_assoc, pure_bind]
  rfl

variable {s now user origin} {h h₁ : Host σ}

theorem insertion_madeOf : (s.insertion now user origin).MadeOf Statement.OfRows :=
  .bind (sessionFor_madeOf Statement.serves_ofRows now user origin) fun _ =>
    .bind (.draw _) fun _ =>
      .bind (.during (.write (Statement.serves_ofRows.token _)) _) fun _ => .pure _

/-- A token whose insertion succeeds stands at the end and is found under its id. -/
theorem insertion_makes : (s.insertion now user origin).Makes fun db t db' =>
    db'.tokens = db.tokens ++ [t] ∧ db'.tokenById? t.id = some t := by
  intro h t h₁ hm run
  obtain ⟨sid, h₂, hsession, run⟩ := Action.bind_ok.mp run
  obtain ⟨string, h₃, hdraw, run⟩ := Action.bind_ok.mp run
  cases hdraw
  obtain ⟨id, h₄, hcreate, run⟩ := Action.bind_ok.mp run
  cases run
  obtain ⟨hm₂, opened, -, hd₂⟩ := sessionFor_makes now user origin hm hsession
  obtain ⟨hm₁, -, hd₁, hfound⟩ := createToken_makes _ (by exact hm₂) hcreate
  refine ⟨hm₁, ?_, hfound⟩
  rw [hd₁, hd₂]
  rfl

/-- After an insertion the token is read back as it was inserted. Its session is there, as the store
took the token, and so is the provider of the session, as the store took that. -/
theorem insertion_readsBack (hh : h.connection.Intact) {t : RefreshToken}
    (run : s.insertion now user origin h = (.ok t, h₁)) :
    h₁.connection.Intact ∧ h₁.connection.data.tokens = h.connection.data.tokens ++ [t] ∧
      ∃ sso, h₁.ReadsBack t sso := by
  obtain ⟨-, htokens, hfound⟩ := insertion_makes hh.1.schema run
  have hh₁ := hh.of_ran insertion_madeOf run
  have hst := hh₁.1
  have hi := hh₁.2.now
  obtain ⟨sso, hsso, hbinds⟩ := Database.bindingOf_of_mem hi.sessionProvider
    (hi.tokenSession t (List.mem_of_find?_eq_some hfound))
  refine ⟨hh₁, htokens, sso, ?_, ?_, hbinds⟩
  · rw [loadToken, Action.bind_of_ok (Action.during_ok.mpr (Action.read_apply hst _ _)), hfound]
    rfl
  · rw [bindingOf_apply hst, hsso]

end Service

/-- Of what follows an insertion, only the note of the sign-in may fail. -/
theorem Host.ReadsBack.reload_eq {h : Host σ} {t : RefreshToken} {sso : Option SsoBinding}
    (hr : h.ReadsBack t sso) (s : Service σ) (now : Instant) (user : User) :
    s.reload now user t.id h =
      ((s.users now user).during "error updating user's last_sign_in_at" >>= fun _ =>
        pure ⟨t, sso⟩ : Action σ Error IssuedToken) h := by
  rw [Service.reload, Action.bind_of_ok hr.token, Action.bind_of_ok hr.binding]

/-! ## Rows that are missing -/

/-- The steps in which a new token, its session and the provider of that are read back. -/
def reloadContexts : List String :=
  ["error loading refresh token after create",
    "error loading SSO session for refresh token after create",
    "error loading SSO provider for refresh token after create"]

@[simp]
theorem mem_reloadContexts {context : String} : context ∈ reloadContexts ↔
    context = "error loading refresh token after create" ∨
      context = "error loading SSO session for refresh token after create" ∨
        context = "error loading SSO provider for refresh token after create" := by
  simp [reloadContexts]

/-- The failure of such a step, for a row that is missing or for anything else. -/
def Error.AtReload : Error → Prop
  | .persistence context _ => context ∈ reloadContexts
  | _ => False

namespace Action

variable {α β : Type}

/-- `x` writes rows and, on an intact connection, does not fail in a step of a reload. -/
structure NeverMisses (x : Action σ Error α) : Prop where
  rows : x.MadeOf Statement.OfRows
  found : ∀ ⦃h e h'⦄, h.connection.Intact → x h = (.error e, h') → ¬ e.AtReload

namespace NeverMisses

theorem pure (a : α) : (pure a : Action σ Error α).NeverMisses := ⟨.pure a, by simp⟩

theorem draw (f : σ → α × σ) : (draw f : Action σ Error α).NeverMisses :=
  ⟨.draw f, by simp [Action.draw]⟩

theorem fail {e : Error} (he : ¬ e.AtReload) : (fail e : Action σ Error α).NeverMisses :=
  ⟨.fail e, fun _ _ _ _ run => by cases run; exact he⟩

theorem orNotFound (o : Option α) :
    (Action.orFail .tokenNotFound o : Action σ Error α).NeverMisses := by
  cases o with
  | none => exact fail (e := .tokenNotFound) id
  | some a => exact pure a

/-- A failure at the store is reported for the step that it happened in. -/
theorem during {context : String} {x : Action σ StoreError α} (hx : x.MadeOf Statement.OfRows)
    (hc : context ∉ reloadContexts) : (x.during context).NeverMisses where
  rows := .during hx context
  found h e h' _ run := by
    obtain ⟨source, -, rfl⟩ := during_error.mp run
    exact hc

theorem bind {x : Action σ Error α} {f : α → Action σ Error β} (hx : x.NeverMisses)
    (hf : ∀ a, (f a).NeverMisses) : (x >>= f).NeverMisses where
  rows := .bind hx.rows fun a => (hf a).rows
  found h e h' hh run := by
    rcases bind_error.mp run with run | ⟨a, h₁, hr, run⟩
    · exact hx.found hh run
    · exact (hf a).found (hh.of_ran hx.rows hr) run

/-- What runs in a transaction, where a failure of its work is the answer. -/
theorem begun {x : Action σ Error α} {k : Except Error α → Action σ Error β}
    (hx : x.NeverMisses) (hk : ∀ a, (k (.ok a)).NeverMisses)
    (he : ∀ e, k (.error e) = Action.finish (.error e)) :
    (begin.during "error starting transaction" >>= fun _ => attempt x >>= k).NeverMisses := by
  refine .bind (.during .begin (by simp)) fun _ => ⟨?_, ?_⟩
  · refine .bind (.attempt hx.rows) fun o => ?_
    cases o with
    | ok a => exact (hk a).rows
    | error e => rw [he]; exact .finish _
  · intro h e h' hh run
    rw [bind_of_ok (attempt_apply x)] at run
    rcases hr : x h with ⟨e₁ | a, h₁⟩ <;> rw [hr] at run
    · rw [he, finish_error] at run
      cases run
      exact hx.found hh hr
    · exact (hk a).found (hh.of_ran hx.rows hr) run

theorem finish_ok (a : α) : (finish (.ok a) : Action σ Error α).NeverMisses :=
  .bind (.during .commit (by simp)) fun _ => .pure a

theorem transaction {x : Action σ Error α} (hx : x.NeverMisses) :
    (Action.transaction x).NeverMisses :=
  .begun hx finish_ok fun _ => rfl

end NeverMisses

end Action

open RefreshChain.Action (NeverMisses)

theorem findToken_neverMisses (token : String) :
    (findToken token : Action σ Error RefreshToken).NeverMisses :=
  .bind (.during (.read _ _) (by simp)) fun _ => .orNotFound _

theorem findUserWithToken_neverMisses (token : String) :
    (findUserWithToken token : Action σ Error (User × RefreshToken)).NeverMisses :=
  .bind (findToken_neverMisses token) fun _ =>
    .bind (.during (.read _ _) (by simp)) fun _ => .bind (.orNotFound _) fun _ => .pure _

namespace Service

variable {s : Service σ} (now : Instant) (user : User)

theorem insertion_neverMisses (origin : Origin) : (s.insertion now user origin).NeverMisses := by
  have hsession : (s.sessionFor now user origin).NeverMisses := by
    rcases origin with (_ | c) | old
    · exact .pure _
    · exact .bind (.bind (.draw _) fun _ => .during
        (.bind (.write (.insertSession _)) fun _ => .bind (.read _ _) fun _ => .orFail _ _)
        (by simp)) fun _ => .pure _
    · exact .pure _
  exact .bind hsession fun _ => .bind (.draw _) fun _ =>
    .bind (.during (.write (.insertToken _ _)) (by simp)) fun _ => .pure _

variable (hs : s.MadeOf Statement.OfRows)

include hs

theorem issue_neverMisses (origin : Origin) : (s.issue now user origin).NeverMisses where
  rows := issue_madeOf Statement.serves_ofRows hs now user origin
  found h e h' hh run := by
    have hnote : ∀ i : IssuedToken, ((s.users now user).during
        "error updating user's last_sign_in_at" >>= fun _ => pure i).NeverMisses := fun i =>
      .bind (.during (hs.users now user) (by simp)) fun _ => .pure i
    rw [issue_eq] at run
    rcases Action.bind_error.mp run with run | ⟨t, h₁, hinsert, run⟩
    · exact (insertion_neverMisses now user origin).found hh run
    · obtain ⟨hh₁, -, sso, hback⟩ := insertion_readsBack hh hinsert
      rw [hback.reload_eq] at run
      exact (hnote _).found hh₁ run

theorem recordRevocation_neverMisses : (s.recordRevocation now user).NeverMisses :=
  .during (hs.audit now user.instanceId user .tokenRevoked none) (by simp)

theorem swapWork_neverMisses (old : RefreshToken) : (s.swapWork now user old).NeverMisses := by
  refine .bind (recordRevocation_neverMisses now user hs) fun _ =>
    .bind (.during (.write (Statement.serves_ofRows.revocation now _)) (by simp)) fun n => ?_
  split
  · exact .fail id
  · exact issue_neverMisses now user hs _

theorem exchangeWork_neverMisses (token : String) : (s.exchangeWork now token).NeverMisses := by
  refine .bind (findUserWithToken_neverMisses token) fun (user, old) => ?_
  dsimp only
  split
  · exact .pure _
  · refine .bind (recordRevocation_neverMisses now user hs) fun _ =>
      .bind (.during (.write (Statement.serves_ofRows.revocation now _)) (by simp)) fun n => ?_
    split
    · exact .bind (findToken_neverMisses _) fun _ => .pure _
    · exact .bind (issue_neverMisses now user hs _) fun _ => .pure _

omit hs in
theorem punish_neverMisses (t : RefreshToken) : (s.punish now t).NeverMisses := by
  refine .bind (.during .rollback (by simp)) fun _ => ?_
  split
  · exact .bind (.bind (.during (.write (.revokeFamily now t)) (by simp [familyContext]))
      fun _ => .pure _) fun _ => .fail id
  · exact .fail id

theorem serve_neverMisses (r : Request) : (s.serve now r).NeverMisses := by
  cases r with
  | grant user conditions => exact .transaction (issue_neverMisses now user hs _)
  | swap user old => exact .transaction (swapWork_neverMisses now user hs old)
  | exchange token =>
    refine .begun (exchangeWork_neverMisses now hs token) (fun p => ?_) fun _ => rfl
    cases p with
    | issued t => exact .finish_ok t
    | reused t => exact punish_neverMisses now t

end Service

/-! ## Requests -/

/-- From `h`, a request gets to the issue of a token to a user, on the host `h₀`. -/
inductive Service.ComesToIssue (s : Service σ) (now : Instant) (h : Host σ) :
    Request → User → Origin → Host σ → Prop where
  | grant (user : User) (conditions : Option Conditions) :
      ComesToIssue s now h (.grant user conditions) user (.signIn conditions)
        { h with connection := h.connection.begin }
  | swap {user : User} {old : RefreshToken} {h₁ h₀ : Host σ} {n : Nat}
      (noted : s.Noted now user h h₁) (revoked : markRevoked now old h₁ = (.ok n, h₀))
      (some_revoked : n ≠ 0) : ComesToIssue s now h (.swap user old) user (.rotation old) h₀
  | exchange {token : String} {user : User} {old : RefreshToken} {h₁ h₀ : Host σ} {n : Nat}
      (found : h.connection.data.lookUp token = .ok (user, old)) (valid : old.revoked = false)
      (noted : s.Noted now user h h₁) (revoked : revokeIfValid now old h₁ = (.ok n, h₀))
      (some_revoked : n ≠ 0) : ComesToIssue s now h (.exchange token) user (.rotation old) h₀

namespace Service.ComesToIssue

variable {s : Service σ} {now : Instant} {h h₀ : Host σ} {r : Request} {user : User}
  {origin : Origin}

/-- Whatever comes before the issue leaves the connection intact. -/
theorem intact (hc : s.ComesToIssue now h r user origin h₀) (hs : s.MadeOf Statement.OfRows)
    (hh : h.connection.Intact) : h₀.connection.Intact := by
  have noting : ∀ {user h₁}, s.Noted now user h h₁ → h₁.connection.Intact := fun noted =>
    hh.begin.of_ran (recordRevocation_madeOf hs now _) noted.recordRevocation
  have revoking : ∀ p, (Action.write (.updateTokens [] p (·.revokedAt now)) :
      Action σ StoreError Nat).MadeOf Statement.OfRows := fun p =>
    .write (Statement.serves_ofRows.revocation now p)
  cases hc with
  | grant => exact hh.begin
  | swap noted revoked => exact (noting noted).of_ran (.during (revoking _) _) revoked
  | exchange _ _ noted revoked => exact (noting noted).of_ran (.during (revoking _) _) revoked

/-- The answer to the request is the outcome of the issue, once the transaction has been ended. -/
theorem serve_eq (hc : s.ComesToIssue now h r user origin h₀) (hq : h.connection.Quiet) :
    s.serve now r h =
      Action.finish (s.issue now user origin h₀).1 (s.issue now user origin h₀).2 := by
  cases hc with
  | grant => exact Action.transaction_apply _ hq.closed
  | @swap _ old _ _ _ noted revoked some_revoked =>
    have hwork : s.swapWork now user old { h with connection := h.connection.begin } =
        s.issue now user (.rotation old) h₀ := by
      rw [swapWork, Action.bind_of_ok noted.recordRevocation, Action.bind_of_ok revoked,
        if_neg some_revoked]
    exact (Action.transaction_apply _ hq.closed).trans (by rw [hwork])
  | exchange found valid noted revoked some_revoked =>
    change s.exchange now _ h = _
    rw [exchange_apply s now _ hq.closed, exchangeWork_of_lookUp hq found valid,
      Action.bind_of_ok noted.recordRevocation, Action.bind_of_ok revoked, if_neg some_revoked,
      Action.bind_apply]
    rcases s.issue now user _ h₀ with ⟨_ | _, _⟩ <;> rfl

/-- A request that succeeds has come to the issue of its token. -/
theorem of_ok {i : IssuedToken} {h' : Host σ} (hq : h.connection.Quiet)
    (run : s.serve now r h = (.ok i, h')) : ∃ user origin h₀ h₁,
      s.ComesToIssue now h r user origin h₀ ∧ s.issue now user origin h₀ = (.ok i, h₁) := by
  cases r with
  | grant user conditions =>
    obtain ⟨h₁, hissue, -⟩ := Action.transaction_ok run
    exact ⟨user, _, _, h₁, .grant user conditions, hissue⟩
  | swap user old =>
    obtain ⟨h₃, hwork, -⟩ := Action.transaction_ok run
    obtain ⟨⟨⟩, h₁, hrecord, hwork⟩ := Action.bind_ok.mp hwork
    obtain ⟨n, h₂, hrevoke, hwork⟩ := Action.bind_ok.mp hwork
    split at hwork
    · cases hwork
    · rename_i hn
      exact ⟨user, _, h₂, h₃, .swap (Action.during_ok.mp hrecord) hrevoke hn, hwork⟩
  | exchange token =>
    obtain ⟨user, old, h₁, n, h₂, h₃, hfound, hvalid, hnote, hrevoke, hn, hissue, -⟩ :=
      exchange_ok hq run
    exact ⟨user, _, h₂, h₃, .exchange hfound hvalid hnote hrevoke hn, hissue⟩

end Service.ComesToIssue

/-- No request is refused because a token that it has just inserted, the session of that or the
provider of the session would be missing. Contents are integral that come about where references are
checked, see `Host.InUse.sound`; the collaborators may write rows in any way and may fail.

Where a request comes to the issue of a token, the issue is what is answered, and if the insertion
succeeds, the token that has been added is the one that is read back, with its session and provider
from the store if it is bound to one. A request that succeeds answers such a token. -/
theorem reload_finds_inserted {s : Service σ} {h : Host σ} (hs : s.MadeOf Statement.OfRows)
    (hst : h.connection.Steady) (hi : h.connection.Since 0 Database.Integral) (now : Instant)
    (r : Request) :
    (∀ e, (s.serve now r h).1 = .error e → ¬ e.AtReload) ∧
      (∀ user origin h₀, s.ComesToIssue now h r user origin h₀ →
        s.serve now r h =
            Action.finish (s.issue now user origin h₀).1 (s.issue now user origin h₀).2 ∧
          ∀ t h₁, s.insertion now user origin h₀ = (.ok t, h₁) →
            h₁.connection.data.tokens = h₀.connection.data.tokens ++ [t] ∧
              ∃ sso, h₁.ReadsBack t sso ∧ s.issue now user origin h₀ =
                ((s.users now user).during "error updating user's last_sign_in_at" >>= fun _ =>
                  pure ⟨t, sso⟩ : Action σ Error IssuedToken) h₁) ∧
      ∀ i, (s.serve now r h).1 = .ok i → ∃ user origin h₀ h₁,
        s.ComesToIssue now h r user origin h₀ ∧
          s.insertion now user origin h₀ = (.ok i.token, h₁) ∧ h₁.ReadsBack i.token i.sso := by
  have hh : h.connection.Intact := ⟨hst, hi⟩
  have hq := hst.ordinary.quiet
  refine ⟨fun e he => ?_, fun user origin h₀ hc => ⟨hc.serve_eq hq, fun t h₁ hinsert => ?_⟩,
    fun i hok => ?_⟩
  · exact (Service.serve_neverMisses now hs r).found hh (Prod.ext he rfl)
  · obtain ⟨-, htokens, sso, hback⟩ := Service.insertion_readsBack (hc.intact hs hh) hinsert
    refine ⟨htokens, sso, hback, ?_⟩
    rw [Service.issue_eq, Action.bind_of_ok hinsert, hback.reload_eq]
  · have hrun : s.serve now r h = (.ok i, (s.serve now r h).2) := Prod.ext hok rfl
    obtain ⟨user, origin, h₀, h₂, hc, hissue⟩ := Service.ComesToIssue.of_ok hq hrun
    rw [Service.issue_eq] at hissue
    obtain ⟨t, h₁, hinsert, hreload⟩ := Action.bind_ok.mp hissue
    obtain ⟨-, -, sso, hback⟩ := Service.insertion_readsBack (hc.intact hs hh) hinsert
    rw [hback.reload_eq] at hreload
    obtain ⟨_, _, -, hpure⟩ := Action.bind_ok.mp hreload
    cases hpure
    exact ⟨user, origin, h₀, h₁, hc, hinsert, hback⟩

/-- Alice's bound token is exchanged, and the new one is read back with her session. A made-up copy
of it that names a session which is not there is refused by the store, and not at the reload. -/
theorem bound_reload_finds_inserted :
    let h := Sample.bound
    let made : RefreshToken := { Sample.first with ssoSessionId := some (.ofNat 7) }
    let refused := Error.refused "error creating refresh token" .foreignKey
    (∃ i user origin h₀ h₁, (Sample.service.serve Sample.time (.exchange "tt") h).1 = .ok i ∧
      Sample.service.insertion Sample.time user origin h₀ = (.ok i.token, h₁) ∧
        h₁.ReadsBack i.token i.sso ∧ i.token.ssoSessionId = some (.ofNat 0)) ∧
      (Sample.service.serve Sample.time (.swap Sample.alice made) h).1 = .error refused ∧
        ¬ refused.AtReload := by
  intro h made refused
  obtain ⟨hst, hi⟩ := Sample.inUse_bound.sound
  obtain ⟨-, -, hok⟩ := reload_finds_inserted Sample.service_madeOf_ofRows hst hi Sample.time
    (.exchange "tt")
  obtain ⟨hfound, -⟩ := reload_finds_inserted Sample.service_madeOf_ofRows hst hi Sample.time
    (.swap Sample.alice made)
  have hissued : (Sample.service.serve Sample.time (.exchange "tt") h).1.toOption.map
      (·.token.ssoSessionId) = some (some (.ofNat 0)) := by decide +kernel
  have hrefused : (Sample.service.serve Sample.time (.swap Sample.alice made) h).1 =
      .error refused := by rfl
  rcases ho : (Sample.service.serve Sample.time (.exchange "tt") h).1 with e | i
  · rw [ho] at hissued
    cases hissued
  · rw [ho] at hissued
    obtain ⟨user, origin, h₀, h₁, -, hinsert, hback⟩ := hok i ho
    exact ⟨⟨i, user, origin, h₀, h₁, rfl, hinsert, hback, Option.some.inj hissued⟩, hrefused,
      hfound _ hrefused⟩

end RefreshChain
