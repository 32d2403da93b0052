import RefreshChain.Proofs.Answers
import RefreshChain.Proofs.Revocation
import RefreshChain.Proofs.Store.Integral

/-!
# What the issue of a token depends on

A store refuses a new token for want of an id, for its string, or for a row that it refers to. In
an integral store this comes down to whether certain rows are there.

* `Database.HasRoom`: an id is left for a new token.
* `Database.mint_free`, `Database.mint_taken`, `Database.mint_dangling`: the insertion of a token.
* `Database.Binds`: the session that a token is bound to, with its provider.
* `Database.issue_free`, `Database.issue_refused`: the issue of a token.
* `Database.FamilyRevoked`: what the revocation of a family changes.
-/

namespace RefreshChain

namespace Database

variable {db : Database} {t : RefreshToken}

/-! ## Rows that have to be there -/

theorem user?_isSome_iff {id : Uuid} : (db.user? id).isSome ↔ ∃ u ∈ db.users, u.id = id := by
  simp [user?]

theorem provider?_isSome_iff {id : Uuid} :
    (db.provider? id).isSome ↔ ∃ p ∈ db.providers, p.id = id := by
  simp [provider?]

theorem session?_isSome_iff {id : Uuid} :
    (db.session? id).isSome ↔ ∃ s ∈ db.sessions, s.id = id := by
  simp [session?]

theorem token?_isSome_iff {s : String} : (db.token? s).isSome ↔ ∃ t ∈ db.tokens, t.token = s := by
  simp [token?]

/-- A token may be inserted if its user is there, and its session if it names one. -/
theorem supports_token_iff : db.supports t.references = true ↔
    (∃ u ∈ db.users, u.id = t.userId) ∧
      ∀ id, t.ssoSessionId = some id → ∃ s ∈ db.sessions, s.id = id := by
  rw [← user?_isSome_iff]
  cases hs : t.ssoSessionId with
  | none => simp [supports, RefreshToken.references, hs, dangles]
  | some id =>
    simp only [Option.some.injEq, forall_eq', ← session?_isSome_iff]
    simp [supports, RefreshToken.references, hs, dangles, and_comm]

/-- A session may be inserted if its provider and its user are there. -/
theorem supports_session_iff {s : SsoSession} : db.supports s.references = true ↔
    (∃ p ∈ db.providers, p.id = s.providerId) ∧ ∃ u ∈ db.users, u.id = s.userId := by
  rw [← user?_isSome_iff, ← provider?_isSome_iff]
  simp [supports, SsoSession.references, dangles]

namespace Integral

variable (hi : db.Integral)

include hi

/-- A token is found by its string. -/
theorem token?_eq (ht : t ∈ db.tokens) : db.token? t.token = some t := by
  obtain ⟨u, hu⟩ := Option.isSome_iff_exists.mp (token?_isSome_iff.mpr ⟨t, ht, rfl⟩)
  obtain ⟨hmem, hs⟩ := mem_of_token? hu
  rw [hu, List.inj_on_of_nodup_map hi.tokenStrings hmem ht hs]

/-- The owner of a token is found. -/
theorem presented_eq (ht : t ∈ db.tokens) :
    ∃ user ∈ db.users, user.id = t.userId ∧ db.presented t.token = .ok (user, t) := by
  obtain ⟨user, huser⟩ := Option.isSome_iff_exists.mp (user?_isSome_iff.mpr (hi.tokenUser t ht))
  refine ⟨user, List.mem_of_find?_eq_some huser, id_of_user? huser, ?_⟩
  rw [presented, hi.token?_eq ht]
  dsimp only
  rw [huser]

end Integral

/-! ## New tokens -/

/-- An id is left for a new token. -/
def HasRoom (db : Database) : Prop := db.nextTokenId ≤ Work.maxId

instance (db : Database) : Decidable db.HasRoom := Int.decLe _ _

theorem HasRoom.not_full (h : db.HasRoom) : ¬ Work.maxId ≤ max db.lastTokenId db.maxTokenId := by
  unfold HasRoom nextTokenId at h
  omega

theorem HasRoom.of_nextTokenId {db' : Database} (h : db.HasRoom)
    (he : db'.nextTokenId = db.nextTokenId) : db'.HasRoom := by
  rw [HasRoom, he]
  exact h

/-- A token goes in if its string is new and all is there that it refers to. -/
theorem mint_free (hroom : db.HasRoom) (hnew : ∀ u ∈ db.tokens, u.token ≠ t.token)
    (hsup : db.supports t.references = true) :
    db.mint t =
      .ok ({ t with id := db.nextTokenId }, db.withToken { t with id := db.nextTokenId }) := by
  rw [mint, if_neg hroom.not_full, token?_eq_none.mpr hnew, if_pos hsup]
  rfl

/-- A token string is given to one token only, whatever else is wrong. -/
theorem mint_taken (hroom : db.HasRoom) (htaken : ∃ u ∈ db.tokens, u.token = t.token) :
    db.mint t = .error .duplicateToken := by
  rw [mint, if_neg hroom.not_full, if_pos (token?_isSome_iff.mpr htaken)]

theorem mint_dangling (hroom : db.HasRoom) (hnew : ∀ u ∈ db.tokens, u.token ≠ t.token)
    (hsup : ¬ db.supports t.references = true) : db.mint t = .error .foreignKey := by
  rw [mint, if_neg hroom.not_full, token?_eq_none.mpr hnew, if_neg hsup]
  rfl

/-- Revocations leave ids and strings alone. -/
theorem nextTokenId_revoking (db : Database) (now : Instant) (q : RefreshToken → Bool) :
    (db.revoking now q).nextTokenId = db.nextTokenId := by
  have hmax : (db.revoking now q).maxTokenId = db.maxTokenId := by
    unfold maxTokenId revoking
    rw [List.foldl_map]
    congr 1
    funext m t
    rw [(becomes_revoking now q t).id]
  rw [nextTokenId, nextTokenId, hmax]
  rfl

theorem forall_token_revoking {now : Instant} {q : RefreshToken → Bool} {P : String → Prop} :
    (∀ t ∈ (db.revoking now q).tokens, P t.token) ↔ ∀ t ∈ db.tokens, P t.token := by
  rw [revoking, List.forall_mem_map]
  exact forall₂_congr fun t _ => by rw [(becomes_revoking now q t).token]

theorem exists_token_revoking {now : Instant} {q : RefreshToken → Bool} {P : String → Prop} :
    (∃ t ∈ (db.revoking now q).tokens, P t.token) ↔ ∃ t ∈ db.tokens, P t.token := by
  simpa using not_congr (forall_token_revoking (P := (¬ P ·)))

/-! ## Bindings -/

/-- `sso` is the session with the given id together with its provider, both as they are stored.
There is none where no session is named. -/
inductive Binds (db : Database) : Option Uuid → Option SsoBinding → Prop where
  | unbound : Binds db none none
  | bound {b : SsoBinding} (session : b.session ∈ db.sessions)
      (provider : b.provider ∈ db.providers)
      (vouches : b.provider.id = b.session.providerId) : Binds db (some b.session.id) (some b)

/-- A token whose session is there is read back with it, as that has its provider. -/
theorem bindingOf_of_mem (hprovider : ∀ s ∈ db.sessions, ∃ p ∈ db.providers, p.id = s.providerId)
    (hsession : ∀ id, t.ssoSessionId = some id → ∃ s ∈ db.sessions, s.id = id) :
    ∃ sso, db.bindingOf t = .ok sso ∧ db.Binds t.ssoSessionId sso := by
  unfold bindingOf
  cases ht : t.ssoSessionId with
  | none => exact ⟨none, rfl, .unbound⟩
  | some id =>
    obtain ⟨session, hs⟩ := Option.isSome_iff_exists.mp (session?_isSome_iff.mpr (hsession id ht))
    have hmem := List.mem_of_find?_eq_some hs
    have hid : session.id = id := by simpa using List.find?_some hs
    obtain ⟨provider, hp⟩ :=
      Option.isSome_iff_exists.mp (provider?_isSome_iff.mpr (hprovider session hmem))
    have hthere : provider ∈ db.providers := List.mem_of_find?_eq_some hp
    have hvouches : provider.id = session.providerId := by simpa using List.find?_some hp
    refine ⟨some ⟨session, provider⟩, ?_, ?_⟩
    · simp [binding, hs, hp, Except.map]
    · rw [← hid]
      exact .bound (b := ⟨session, provider⟩) hmem hthere hvouches

theorem Binds.of_same {db' : Database} {id? : Option Uuid} {sso : Option SsoBinding}
    (h : db.Binds id? sso) (hs : db'.sessions = db.sessions) (hp : db'.providers = db.providers) :
    db'.Binds id? sso := by
  cases h with
  | unbound => exact .unbound
  | bound session provider vouches => exact .bound (hs ▸ session) (hp ▸ provider) vouches

/-! ## Issue -/

section

variable {db₁ : Database} {now : Instant} {user : User} {origin : Origin} {given : Supply}
  {sid : Option Uuid}

/-- What the store says to the new token it says to its issue. -/
theorem issue_refused {r : Refusal}
    (hs : db.sessionFor now user given.sessionId origin = .ok (sid, db₁))
    (hmint : db₁.mint (user.newToken now origin sid given.string) = .error r) :
    db.issue now user origin given = .error (.refused "error creating refresh token" r) := by
  refine except_bind_error.mpr (.inr ⟨_, hs, except_bind_error.mpr (.inl ?_)⟩)
  rw [hmint]
  rfl

/-- A token with a new string is issued to a user who is there. -/
theorem issue_free (hs : db.sessionFor now user given.sessionId origin = .ok (sid, db₁))
    (hroom : db₁.HasRoom) (hnew : ∀ t ∈ db₁.tokens, t.token ≠ given.string)
    (howner : ∃ u ∈ db₁.users, u.id = user.id)
    (hsession : ∀ id, sid = some id → ∃ s ∈ db₁.sessions, s.id = id)
    (hprovider : ∀ s ∈ db₁.sessions, ∃ p ∈ db₁.providers, p.id = s.providerId) :
    ∃ i, db.issue now user origin given = .ok (i, (db₁.withToken i.token).signingIn now user) ∧
      i.token = { user.newToken now origin sid given.string with id := db₁.nextTokenId } ∧
      db₁.Binds sid i.sso := by
  have hmint := mint_free (t := user.newToken now origin sid given.string) hroom hnew
    (supports_token_iff.mpr ⟨howner, hsession⟩)
  obtain ⟨t, ht⟩ : ∃ t, t = { user.newToken now origin sid given.string with
    id := db₁.nextTokenId } := ⟨_, rfl⟩
  rw [← ht] at hmint
  obtain ⟨sso, hb, hbinds⟩ : ∃ sso, (db₁.withToken t).bindingOf t = .ok sso ∧
      (db₁.withToken t).Binds t.ssoSessionId sso :=
    bindingOf_of_mem hprovider (by rw [ht]; exact hsession)
  have hsid : t.ssoSessionId = sid := by rw [ht]; rfl
  refine ⟨⟨t, sso⟩, except_bind_ok.mpr ⟨_, hs, ?_⟩, ht, hsid ▸ hbinds.of_same rfl rfl⟩
  refine except_bind_ok.mpr ⟨(t, db₁.withToken t), by rw [hmint]; rfl, ?_⟩
  exact except_bind_ok.mpr ⟨sso, hb, rfl⟩

end

/-! ## Families -/

/-- `db'` is `db` once the family of `start` has been revoked: each of its members at the given
time, and no other token. -/
def FamilyRevoked (db : Database) (now : Instant) (start : RefreshToken) (db' : Database) : Prop :=
  ∃ tokens, db' = { db with tokens } ∧
    List.Forall₂ (fun t t' => (InFamily db.tokens start t → t' = t.revokedAt now) ∧
      (¬InFamily db.tokens start t → t' = t)) db.tokens tokens

theorem familyRevoked (hids : (db.tokens.map (·.id)).Nodup) (now : Instant) (start : RefreshToken) :
    db.FamilyRevoked now start (db.revokingFamily now start) := by
  refine ⟨_, rfl, List.forall₂_map_right_iff.mpr (List.forall₂_same.mpr fun t ht => ?_)⟩
  rw [← inFamilyOf_iff hids ht]
  exact ⟨fun hf => if_pos hf, fun hf => if_neg hf⟩

end Database

/-! ## Answers -/

/-- A refusal ends transactions only for want of an id. -/
theorem Error.not_endsAll_refused {context : String} {r : Refusal} (h : r ≠ .full true) :
    ¬ (Error.refused context r).EndsAll fun _ => False := by
  simpa [Error.EndsAll, StoreError.EndsAll, Error.refused, Error.source?] using h

/-- A failure that is not for want of an id leaves the connection as it was. -/
theorem Action.Answers.fails {σ α : Type} {x : Action σ Error α} {h : Host σ} {e : Error}
    {db : Database} {outside : σ} (hx : x.Answers h (.error e, db) outside)
    (he : ¬ e.EndsAll fun _ => False) :
    (x h).1 = .error e ∧ h.connection.Resumed db (x h).2.connection := by
  obtain ⟨answer, hfailed⟩ := hx.error e db rfl
  exact ⟨answer, hfailed.resolve_right fun hended => he hended.1⟩

end RefreshChain
