import RefreshChain.Proofs.Keeping
import RefreshChain.Proofs.Lineage

/-!
# What operations do to the tokens

What the operations of a service keep, on sound hosts, with collaborators that write no tokens.

* `Action.SparesTokens`: what is asked of a collaborator. It may fail, write other tables, and even
  begin transactions or commit them. `Service.Careful`: it may not if something depends on them.
* `Service.issue_keeps`, `Service.swapWork_keeps`, `Service.exchangeWork_keeps`: a property is kept
  if it survives what is done to the tokens: the revocation of the old token, and a new one with
  `Issued`.
* `Service.exchange_keeps` and its kin: the same of whole requests.
-/

namespace RefreshChain

variable {σ : Type}

/-! ## Collaborators -/

/-- `x` leaves the store in ordinary use, writes no tokens and takes none of their owners away. No
transaction that it begins goes back to other tokens. -/
def Action.SparesTokens {ε α : Type} (x : Action σ ε α) : Prop :=
  ∀ ⦃h o h'⦄, h.connection.Steady → x h = (o, h') →
    h'.connection.Steady ∧ h.connection.data.Spared h'.connection.data ∧
      ∀ k ∈ h'.connection.checkpoints,
        k ∈ h.connection.checkpoints ∨ h.connection.data.Spared k.saved

def AuditLog.SparesTokens (audit : AuditLog σ) : Prop :=
  ∀ now instanceId user action detail, (audit now instanceId user action detail).SparesTokens

def UserDirectory.SparesTokens (users : UserDirectory σ) : Prop :=
  ∀ now user, (users now user).SparesTokens

/-- `P` survives what leaves the tokens and their owners alone. -/
def SparedClosed (P : Database → Prop) : Prop := ∀ ⦃db db'⦄, db.Spared db' → P db → P db'

/-- `P` survives the insertion of a session. -/
def SessionClosed (P : Database → Prop) : Prop :=
  ∀ db session, P db → P { db with sessions := db.sessions ++ [session] }

theorem SparedClosed.sessionClosed {P : Database → Prop} (h : SparedClosed P) : SessionClosed P :=
  fun _ _ => h ⟨rfl, rfl, fun _ _ u hu => ⟨u, hu, rfl⟩⟩

/-- `P` survives all that is done to the tokens but the insertion of one. -/
structure Lasting (P : Database → Prop) : Prop where
  spared : SparedClosed P
  revoking : ∀ db now q, P db → P (db.revoking now q)
  pruned : ∀ db db', db.Pruned db' → P db → P db'

theorem true_lasting : Lasting fun _ => True :=
  ⟨fun _ _ _ _ => trivial, fun _ _ _ _ => trivial, fun _ _ _ _ => trivial⟩

theorem numbered_lasting : Lasting Database.Numbered :=
  ⟨fun _ _ hs h => h.spared hs, fun _ now q h => h.revoking now q, fun _ _ hp h => h.pruned hp⟩

theorem lineal_lasting : Lasting Database.Lineal :=
  ⟨fun _ _ hs h => h.spared hs, fun _ now q h => h.revoking now q, fun _ _ hp h => h.pruned hp⟩

namespace Action

variable {ε α : Type} {n : Nat} {P Q : Database → Prop}

theorem Keeps.spares {x : Action σ ε α} {ends : ε → Prop} (hx : x.SparesTokens)
    (hl : n = 0 ∨ x.LeavesOpen ends) (hP : SparedClosed P) (hQ : SparedClosed Q) :
    x.Keeps n P Q fun _ => Q := by
  intro h o h' hh hq run
  obtain ⟨hst, hs, hk⟩ := hx hh.steady run
  have hp : P h'.connection.data := hP hs hh.since.now
  rcases hl with rfl | hl
  · refine ⟨⟨hst, fun _ => ⟨hp, fun newer k outer he _ => ?_⟩⟩, fun _ _ =>
      ⟨Nat.zero_le _, hQ hs hq⟩⟩
    rcases hk k (by simp [he]) with hk | hk
    · exact hh.since.saved_of_mem hk
    · exact hP hk hh.since.now
  · rcases hl run with hso | ⟨⟨e, rfl, -⟩, hended⟩
    · have hsuf : h'.connection.checkpoints <:+ h.connection.checkpoints :=
        hso.checkpoints ▸ List.suffix_refl _
      refine ⟨⟨hst, fun _ => hh.since.of_suffix hsuf hp⟩, fun _ _ => ⟨?_, hQ hs hq⟩⟩
      rw [hso.checkpoints]
      exact hh.enough
    · refine ⟨⟨hst, fun _ => hh.since.of_suffix ?_ hp⟩, by simp⟩
      rw [hended.none_open]
      exact List.nil_suffix

end Action

theorem AuditLog.table_apply {h : Host σ} (hst : h.connection.Steady) (now : Instant)
    (instanceId : Uuid) (user : User) (action : AuditAction) (detail : Option String) :
    AuditLog.table now instanceId user action detail h =
      (.ok (), { h with connection := h.connection.showing { h.connection.data with
        audit := h.connection.data.audit ++
          [⟨instanceId, some user.id, some user.email, action.word, detail, now⟩] } }) := by
  have hw := Action.write_apply hst (Statement.insertAuditEntry_start hst.schema (e :=
    ⟨instanceId, some user.id, some user.email, action.word, detail, now⟩))
  rw [AuditLog.table, Action.bind_of_ok hw]
  rfl

theorem UserDirectory.table_apply {h : Host σ} (hst : h.connection.Steady) (now : Instant)
    (user : User) :
    UserDirectory.table now user h =
      (.ok (), { h with connection := h.connection.showing { h.connection.data with
        users := h.connection.data.users.map fun u =>
          if u.id = user.id then u.signedInAt now else u } }) := by
  have hw := Action.write_apply hst
    (Statement.updateUsers_start hst.schema (·.id = user.id) (·.signedInAt now))
  rw [UserDirectory.table, Action.bind_of_ok hw]
  simp

/-- Users change but keep their ids and instances. -/
theorem Database.spared_map_users (db : Database) {f : User → User}
    (hid : ∀ u, (f u).id = u.id) (hi : ∀ u, (f u).instanceId = u.instanceId) :
    db.Spared { db with users := db.users.map f } where
  tokens := rfl
  lastTokenId := rfl
  owners t _ u hu := by
    refine ⟨f u, ?_, hi u⟩
    have hp : ((fun v : User => decide (v.id = t.userId)) ∘ f) =
        fun v => decide (v.id = t.userId) :=
      funext fun v => by simp [hid]
    rw [user?, List.find?_map, hp]
    exact congrArg (Option.map f) hu

theorem AuditLog.table_sparesTokens : (AuditLog.table : AuditLog σ).SparesTokens := by
  intro now instanceId user action detail h o h' hst run
  rw [AuditLog.table_apply hst] at run
  cases run
  exact ⟨hst.showing hst.schema, ⟨rfl, rfl, fun _ _ u hu => ⟨u, hu, rfl⟩⟩, fun _ => .inl⟩

theorem UserDirectory.table_sparesTokens :
    (UserDirectory.table : UserDirectory σ).SparesTokens := by
  intro now user h o h' hst run
  rw [UserDirectory.table_apply hst] at run
  cases run
  refine ⟨hst.showing hst.schema,
    Database.spared_map_users _ (fun u => ?_) fun u => ?_, fun _ => .inl⟩
  · split <;> rfl
  · split <;> rfl

/-! ## New tokens -/

/-- `t` is a token that a store with these contents lets in, for a user and of the given origin. -/
structure Issued (db : Database) (user : User) (origin : Origin) (t : RefreshToken) : Prop where
  id : t.id = db.nextTokenId
  fresh : db.token? t.token = none
  parent : t.parent = origin.parent?
  instanceId : t.instanceId = user.instanceId
  userId : t.userId = user.id
  session : ∀ old, origin = .rotation old → t.ssoSessionId = old.ssoSessionId
  valid : t.revoked = false
  owner : (db.user? user.id).isSome

/-- The collaborators write no tokens, and if any transactions are to be relied on, they leave open
what is open. -/
structure Service.Careful (n : Nat) (s : Service σ) : Prop where
  audit : s.audit.SparesTokens
  users : s.users.SparesTokens
  leavesOpen : n = 0 ∨ (s.audit.LeavesOpen fun _ => True) ∧ s.users.LeavesOpen fun _ => True

theorem Service.careful_table {s : Service σ} (ha : s.audit = .table) (hu : s.users = .table)
    (n : Nat) : s.Careful n where
  audit := ha ▸ AuditLog.table_sparesTokens
  users := hu ▸ UserDirectory.table_sparesTokens
  leavesOpen := .inr ⟨ha ▸ AuditLog.table_leavesOpen, hu ▸ UserDirectory.table_leavesOpen⟩

namespace Service

open RefreshChain.Action (Keeps)

variable {s : Service σ} {n : Nat} {now : Instant} {P Q : Database → Prop}

theorem Careful.audit_keeps (hs : s.Careful n) (hP : SparedClosed P) (hQ : SparedClosed Q)
    (user : User) : (s.recordRevocation now user).Keeps n P Q fun _ => Q :=
  (Keeps.spares (hs.audit _ _ _ _ _) (hs.leavesOpen.imp_right fun h => h.1 _ _ _ _ _) hP
    hQ).during _

theorem Careful.users_keeps (hs : s.Careful n) (hP : SparedClosed P) (hQ : SparedClosed Q)
    (user : User) : (s.users now user).Keeps n P Q fun _ => Q :=
  Keeps.spares (hs.users _ _) (hs.leavesOpen.imp_right fun h => h.2 _ _) hP hQ

theorem sessionFor_keeps (user : User) (origin : Origin)
    (hP : SessionClosed P) (hQ : ∀ c, origin = .signIn (some c) → SessionClosed Q) :
    (s.sessionFor now user origin).Keeps n P Q fun id db =>
      Q db ∧ ∀ old, origin = .rotation old → id = old.ssoSessionId := by
  rcases origin with (_ | c) | old
  · exact .pure fun db hq => ⟨hq, by simp⟩
  · have hins : ∀ session : SsoSession,
        (insertSession session : Action σ StoreError SsoSession).Keeps n P Q fun _ => Q := by
      intro session
      refine .bind (R := fun _ => Q) (.write fun db a w hm hp hq hw => ?_) fun _ =>
        .bind (.read _ _) fun found => .orFail fun _ _ _ hq => hq.1
      rw [Statement.insertSession_start hm] at hw
      obtain ⟨db', ho, he⟩ := except_map_ok hw
      cases he
      obtain ⟨-, -, rfl⟩ := Database.openSession_ok ho
      exact ⟨hm, hP db session hp, hQ c rfl db session hq⟩
    refine .bind (R := fun _ => Q) (.bind (R := fun _ => Q) (.draw fun _ _ hq => hq) fun id =>
      (hins _).during _) fun _ => .pure fun db hq => ⟨hq, by simp⟩
  · exact .pure fun db hq => ⟨hq, fun old' ho => by cases ho; rfl⟩

/-- The session of a token is only read. -/
theorem bindingOf_keeps {R : Database → Prop} (t : RefreshToken) :
    (bindingOf t : Action σ Error (Option SsoBinding)).Keeps n P R fun _ => R := by
  unfold bindingOf
  split
  · exact .pure fun _ hr => hr
  · refine .bind (R := fun _ => R) ?_ fun _ => .pure fun _ hr => hr
    refine .bind ((Keeps.read _ _).during _) fun found => ?_
    refine .bind (R := fun _ => R) (.orFail fun _ _ _ hr => hr.1) fun p => ?_
    exact .bind (R := fun _ => R) (.orFail fun _ _ _ hr => hr) fun _ => .pure fun _ hr => hr

/-- A new token gets the next id. Its string is new, and its owner is there. -/
theorem createToken_keeps {R : RefreshToken → Database → Prop} (t : RefreshToken)
    (hnew : ∀ db, P db → Q db → db.token? t.token = none → (db.user? t.userId).isSome →
      P (db.withToken { t with id := db.nextTokenId }) ∧
        R { t with id := db.nextTokenId } (db.withToken { t with id := db.nextTokenId })) :
    (createToken t : Action σ Error Int).Keeps n P Q fun id db =>
      R { t with id } db ∧ db.tokenById? id = some { t with id } := by
  refine (Keeps.write fun db id w hm hp hq hw => ?_).during _
  rw [Statement.insertToken_start hm] at hw
  obtain ⟨⟨t', db'⟩, hmint, he⟩ := except_map_ok hw
  cases he
  obtain ⟨hfresh, hsup, rfl, rfl⟩ := Database.mint_ok hmint
  obtain ⟨hp', hr'⟩ := hnew db hp hq hfresh (Database.supports_user hsup)
  exact ⟨hm, hp', hr', Database.tokenById?_withToken rfl⟩

/-- The token that has been inserted is the one that is loaded. -/
theorem loadToken_keeps {R : RefreshToken → Database → Prop} (id : Int) (t : RefreshToken) :
    (loadToken id : Action σ Error RefreshToken).Keeps n P
      (fun db => R t db ∧ db.tokenById? id = some t) R := by
  refine .bind ((Keeps.read _ _).during _) fun found => .orFail fun stored hs db hr => ?_
  obtain ⟨⟨hr, hid⟩, hf⟩ := hr
  rw [hid, hs] at hf
  cases hf
  exact hr

/-- A property is kept by the issue of a token if it survives the insertion. -/
theorem issue_keeps {R : RefreshToken → Database → Prop} (hs : s.Careful n)
    (hP : SparedClosed P) (hR : ∀ t, SparedClosed (R t)) (user : User) (origin : Origin)
    (hQ : ∀ c, origin = .signIn (some c) → SessionClosed Q)
    (hnew : ∀ db t, P db → Q db → Issued db user origin t →
      P (db.withToken t) ∧ R t (db.withToken t)) :
    (s.issue now user origin).Keeps n P Q fun i => R i.token := by
  refine .bind (sessionFor_keeps user origin hP.sessionClosed hQ) fun sid => ?_
  refine .bind (.draw fun _ _ hq => hq) fun token => ?_
  refine .bind (createToken_keeps (R := R) _ fun db hp hq hfresh howner => ?_) fun id => ?_
  · exact hnew db _ hp hq.1 ⟨rfl, hfresh, rfl, rfl, rfl, hq.2, rfl, howner⟩
  · refine .bind (loadToken_keeps id _) fun stored => .bind (bindingOf_keeps stored) fun _ => ?_
    exact .bind ((hs.users_keeps hP (hR stored) user).during _) fun _ => .pure fun _ hr => hr

/-! ## The work of a rotation -/

/-- The revocation of some tokens, as a step of an operation. -/
theorem revocation_keeps (hP : Lasting P) (q : RefreshToken → Bool) :
    (Action.write (.updateTokens [] q (·.revokedAt now)) : Action σ StoreError Nat).Keeps n P Q
      fun n db' => ∃ db, P db ∧ Q db ∧ db.tokens.countP q = n ∧ db.revoking now q = db' := by
  refine .write fun db n w hm hp hq hw => ?_
  rw [Statement.updateTokens_start hm] at hw
  cases hw
  exact ⟨hm, hP.revoking db now q hp, db, hp, hq, rfl, rfl⟩

variable (hs : s.Careful n) (hP : Lasting P) (hQ : SparedClosed Q)
  {R : RefreshToken → Database → Prop} (hR : ∀ t, SparedClosed (R t))

include hs hP hQ hR

/-- A property is kept by the work of a swap if it survives the insertion of the new token, once the
old one is revoked. -/
theorem swapWork_keeps (user : User) (old : RefreshToken)
    (hnew : ∀ db t, P db → Q db → (∃ r ∈ db.tokens, r.id = old.id) →
      Issued (db.revoking now (·.id = old.id)) user (.rotation old) t →
        P ((db.revoking now (·.id = old.id)).withToken t) ∧
          R t ((db.revoking now (·.id = old.id)).withToken t)) :
    (s.swapWork now user old).Keeps n P Q fun i => R i.token := by
  refine .bind (hs.audit_keeps hP.spared hQ user) fun _ => ?_
  refine .bind ((revocation_keeps hP _).during _) fun n => ?_
  split
  · exact .fail _
  · rename_i hn
    refine issue_keeps hs hP.spared hR user (.rotation old) nofun ?_
    rintro _ t - ⟨db, hp, hq, hc, rfl⟩ hi
    refine hnew db t hp hq ?_ hi
    obtain ⟨r, hr, he⟩ := List.countP_pos_iff.mp (Nat.pos_of_ne_zero (hc ▸ hn))
    exact ⟨r, hr, by simpa using he⟩

omit hs hP hQ hR in
theorem findToken_keeps (token : String) :
    (findToken token : Action σ Error RefreshToken).Keeps n P Q fun t db =>
      Q db ∧ db.token? token = some t := by
  refine .bind ((Keeps.read _ _).during _) fun found => .orFail fun t ht db hq => ?_
  exact ⟨hq.1, hq.2.trans ht⟩

omit hs hP hQ hR in
theorem findUserWithToken_keeps (token : String) :
    (findUserWithToken token : Action σ Error (User × RefreshToken)).Keeps n P Q fun found db =>
      Q db ∧ db.token? token = some found.2 ∧ db.user? found.2.userId = some found.1 := by
  refine .bind (findToken_keeps token) fun t => .bind ((Keeps.read _ _).during _) fun owner => ?_
  refine .bind (R := fun u db => Q db ∧ db.token? token = some t ∧ db.user? t.userId = some u)
    (.orFail fun u hu db hq => ?_) fun u => .pure fun _ hq => hq
  exact ⟨hq.1.1, hq.1.2, hq.2.trans hu⟩

/-- What an exchange revokes: the presented token, unless that has happened already. -/
abbrev stillValid (old r : RefreshToken) : Bool := r.id = old.id && !r.revoked

/-- `old` has been found for a presented string, and `user` as its owner. The user's row may have
changed since then, but not its instance. -/
structure Presents (Q : Database → Prop) (token : String) (user : User) (old : RefreshToken)
    (db : Database) : Prop where
  rest : Q db
  found : db.token? token = some old
  userId : user.id = old.userId
  owner : ∃ u, db.user? old.userId = some u ∧ u.instanceId = user.instanceId

omit hs hP hR in
theorem presents_spared (token : String) (user : User) (old : RefreshToken) :
    SparedClosed (Presents Q token user old) := by
  rintro db db' hs ⟨hq, ht, hid, u, hu, hi⟩
  obtain ⟨u', hu', hi'⟩ := hs.owners old (Database.mem_of_token? ht).1 u hu
  refine ⟨hQ hs hq, ?_, hid, u', hu', hi'.trans hi⟩
  rw [Database.token?, hs.tokens]
  exact ht

/-- What holds after the work of an exchange: `R` of the new token, or else the presented one was
found revoked. -/
def Worked (R : RefreshToken → Database → Prop) (Q : Database → Prop) (token : String) :
    Presented → Database → Prop
  | .issued i, db => R i.token db
  | .reused t, db => Q db ∧ db.token? token = some t ∧ t.revoked = true

/-- A property is kept by the work of an exchange if it survives the insertion of the new token,
once the presented one is revoked. -/
theorem exchangeWork_keeps (token : String)
    (hnew : ∀ db t user old, P db → Presents Q token user old db → old.revoked = false →
      Issued (db.revoking now (stillValid old)) user (.rotation old) t →
        P ((db.revoking now (stillValid old)).withToken t) ∧
          R t ((db.revoking now (stillValid old)).withToken t)) :
    (s.exchangeWork now token).Keeps n P Q (Worked R Q token) := by
  refine .bind (findUserWithToken_keeps token) fun (user, old) => ?_
  dsimp only
  by_cases hold : old.revoked = true
  · rw [if_pos hold]
    exact .pure fun db hq => ⟨hq.1, hq.2.1, hold⟩
  rw [if_neg hold]
  have hp := presents_spared hQ token user old
  refine .bind ((hs.audit_keeps hP.spared hp user).weaken (fun db _ hq => ?_) fun _ _ hq => hq)
    fun _ => ?_
  · exact ⟨hq.1, hq.2.1, Database.id_of_user? hq.2.2, user, hq.2.2, rfl⟩
  refine .bind ((revocation_keeps hP _).during _) fun n => ?_
  split
  · rename_i hn
    refine .bind (findToken_keeps old.token) fun t => .pure ?_
    -- The row that was found is still there and not revoked, so it is counted.
    rintro _ ⟨⟨db, -, hq, hc, rfl⟩, -⟩
    obtain ⟨hmem, -⟩ := Database.mem_of_token? hq.found
    have hpos : 0 < db.tokens.countP (stillValid old) :=
      List.countP_pos_iff.mpr ⟨old, hmem, by simpa using hold⟩
    exact absurd (hc.trans hn) (Nat.ne_of_gt hpos)
  · refine .bind (issue_keeps hs hP.spared hR user (.rotation old) nofun ?_) fun i =>
      .pure fun _ hr => hr
    rintro _ t - ⟨db, hp, hq, -, rfl⟩ hi
    exact hnew db t user old hp hq (by simpa using hold) hi

end Service

/-! ## Requests -/

section

open RefreshChain.Action (Keeps)

variable {s : Service σ} {now : Instant} {P Q : Database → Prop} (hP : Lasting P)

include hP

theorem revokeFamily_keeps (t : RefreshToken) :
    (revokeFamily now t : Action σ Error Unit).Keeps n P (fun _ => True) fun _ _ => True := by
  refine .bind (R := fun _ _ => True) (Keeps.during (.write fun db n w hm hp _ hw => ?_) _) fun _ =>
    .pure fun _ _ => trivial
  rw [Statement.revokeFamily_start hm] at hw
  cases hw
  exact ⟨hm, hP.revoking db now _ hp, trivial⟩

theorem logout_keeps (instanceId userId : Uuid) :
    (logout instanceId userId : Action σ Error Unit).Keeps n P (fun _ => True) fun _ _ => True := by
  refine .bind (R := fun _ _ => True) (Keeps.during (.write fun db n w hm hp _ hw => ?_) _) fun _ =>
    .pure fun _ _ => trivial
  rw [Statement.deleteTokens_start hm] at hw
  cases hw
  exact ⟨hm, hP.pruned db _ (db.pruned_loggedOut instanceId userId) hp, trivial⟩

namespace Service

theorem punish_closes (t : RefreshToken) : (s.punish now t).Closes n P := by
  intro h o h' hh hw run
  have hs := hh.rollback hw
  have hrest : Keeps (σ := σ) n P (fun _ => True) (do
      if s.config.rotationEnabled then revokeFamily now t
      (Action.fail .tokenReused : Action σ Error IssuedToken)) fun _ _ => True := by
    split
    · exact .bind (revokeFamily_keeps hP t) fun _ => .fail _
    · exact .fail _
  rcases hr : (Action.rollback h : Except StoreError Unit × Host σ) with ⟨e | ⟨⟩, h₁⟩ <;>
    rw [hr] at hs
  · rw [punish, Action.bind_of_error (Action.during_of_error hr)] at run
    cases run
    exact ⟨hs.ifOpen, fun _ _ => hs.enough⟩
  · rw [punish, Action.bind_of_ok (Action.during_ok.mpr hr)] at run
    obtain ⟨hs', hn⟩ := hrest hs trivial run
    exact ⟨hs', fun b hb => (hn b hb).1⟩

/-- An exchange keeps what its work keeps, also if the token was used before. -/
theorem exchange_keeps {S : Presented → Database → Prop} (token : String)
    (hw : (s.exchangeWork now token).Keeps n P Q S)
    (hl : n = 0 ∨ ∃ ends, (s.exchangeWork now token).LeavesOpen ends) :
    (s.exchange now token).Keeps n P Q fun _ _ => True := by
  refine .begun hw hl ?_ fun _ => rfl
  rintro (t | t)
  · exact .finish _
  · exact punish_closes hP t

end Service

end

end RefreshChain
