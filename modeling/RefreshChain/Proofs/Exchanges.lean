import RefreshChain.Proofs.Integrity
import RefreshChain.Proofs.Issuance

/-!
# The outcome of an exchange

What an exchange comes to on an integral store, with the store's own tables for the audit log and
the users. The token that is presented and the string that is drawn for the new one decide it.

* `Database.Rotated`: what the exchange of a valid token makes of the contents.
* `exchange_outcome`: the answer in each case, and the contents after it.
-/

namespace RefreshChain

/-- `db'` is `db` once the token `old` of `user` has been exchanged for one with the given string.
The user has got the token, which has a new id and takes the place of `old` in its chain. -/
structure Database.Rotated (db : Database) (now : Instant) (user : User) (old : RefreshToken)
    (string : String) (i : IssuedToken) (db' : Database) : Prop where
  owner : user ∈ db.users ∧ user.id = old.userId
  token : i.token = {
    instanceId := user.instanceId
    id := i.token.id
    token := string
    parent := some old.token
    userId := user.id
    ssoSessionId := old.ssoSessionId
    revoked := false
    createdAt := now
    updatedAt := now }
  newest : (∀ t ∈ db.tokens, t.id < i.token.id) ∧ db.lastTokenId < i.token.id
  binding : db.Binds old.ssoSessionId i.sso
  contents : db' = { db with
    users := db.users.map fun u =>
      if u.id = user.id then { u with lastSignInAt := some now, updatedAt := now } else u
    tokens := (db.tokens.map fun t =>
      if t.id = old.id then { t with revoked := true, updatedAt := now } else t) ++ [i.token]
    audit := db.audit ++
      [⟨user.instanceId, some user.id, some user.email, "token_revoked", none, now⟩]
    lastTokenId := i.token.id }

namespace Database

variable {db : Database} {old : RefreshToken} {now : Instant} {given : Supply} {user : User}

/-- Where ids tell tokens apart, the one with the id of a valid token is valid. -/
theorem revoking_stillValid (hids : (db.tokens.map (·.id)).Nodup) (hold : old ∈ db.tokens)
    (hvalid : old.revoked = false) :
    db.revoking now (Service.stillValid old) = db.revoking now (·.id = old.id) := by
  unfold revoking
  congr 1
  refine List.map_congr_left fun t ht => ?_
  by_cases hid : t.id = old.id
  · have hsame : t = old := List.inj_on_of_nodup_map hids ht hold hid
    simp [Service.stillValid, hsame, hvalid]
  · simp [Service.stillValid, hid]

theorem exchange_of_revoked (hp : db.presented old.token = .ok (user, old))
    (hrevoked : old.revoked = true) :
    db.exchange now old.token given = .ok (.reused old, db) := by
  rw [exchange, hp]
  simp [hrevoked]

theorem exchange_of_valid (hp : db.presented old.token = .ok (user, old))
    (hvalid : old.revoked = false) :
    db.exchange now old.token given =
      (((db.recording now user).revoking now (Service.stillValid old)).issue now user
        (.rotation old) given).map fun (i, db) => (.issued i, db) := by
  rw [exchange, hp]
  simp [hvalid]

section

variable (hi : db.Integral) (hroom : db.HasRoom) (hold : old ∈ db.tokens)
  (hvalid : old.revoked = false)

include hi hroom hold hvalid

/-- The exchange of a valid token fails at the insertion of the new one if the string is taken. -/
theorem Integral.exchange_taken (htaken : ∃ t ∈ db.tokens, t.token = given.string) :
    db.exchange now old.token given =
      .error (.refused "error creating refresh token" .duplicateToken) := by
  obtain ⟨user, -, -, hp⟩ := hi.presented_eq hold
  have hmint : ((db.recording now user).revoking now (Service.stillValid old)).mint
      (user.newToken now (.rotation old) old.ssoSessionId given.string) = .error .duplicateToken :=
    mint_taken (hroom.of_nextTokenId (nextTokenId_revoking _ _ _))
      (exists_token_revoking (P := (· = given.string)) |>.mpr htaken)
  rw [exchange_of_valid hp hvalid, issue_refused rfl hmint]
  rfl

/-- It succeeds if the string is new. -/
theorem Integral.exchange_free (given : Supply) (hnew : ∀ t ∈ db.tokens, t.token ≠ given.string) :
    ∃ user i db', db.exchange now old.token given = .ok (.issued i, db') ∧
      db.Rotated now user old given.string i db' := by
  obtain ⟨user, huser, hid, hp⟩ := hi.presented_eq hold
  have hrevoking : (db.recording now user).revoking now (Service.stillValid old) =
      (db.recording now user).revoking now (·.id = old.id) :=
    revoking_stillValid hi.tokenIds hold hvalid
  have hnext : ((db.recording now user).revoking now (·.id = old.id)).nextTokenId =
    db.nextTokenId := nextTokenId_revoking _ _ _
  have hsession : ((db.recording now user).revoking now (·.id = old.id)).sessionFor now user
      given.sessionId (.rotation old) = .ok (old.ssoSessionId, _) := rfl
  obtain ⟨i, hissue, ht, hbinds⟩ := issue_free hsession (hroom.of_nextTokenId hnext)
    ((forall_token_revoking (P := (· ≠ given.string))).mpr hnew)
    ⟨user, huser, rfl⟩ (hi.tokenSession old hold) hi.sessionProvider
  have hlast : i.token.id = db.nextTokenId := by rw [ht, ← hnext]
  refine ⟨user, i, _, ?_, ⟨huser, hid⟩, ?_, ⟨fun t ht => ?_, ?_⟩, hbinds.of_same rfl rfl, rfl⟩
  · rw [exchange_of_valid hp hvalid, hrevoking, hissue]
    simp [Except.map, signingIn, withToken, revoking, recording, User.signedInAt,
      RefreshToken.revokedAt, AuditAction.word]
  · rw [hlast, ht, hnext]
    rfl
  · rw [hlast]
    exact lt_nextTokenId ht
  · rw [hlast]
    exact lastTokenId_lt_nextTokenId db

end

end Database

/-! ## Outcomes -/

/-- What an exchange answers, and what it leaves: for a string that no token has, for a revoked
token, for a valid one where the string for the new one is taken, and where it is not. -/
theorem exchange_outcome {σ : Type} {s : Service σ} {h : Host σ} (hst : h.connection.Steady)
    (hi : h.connection.data.Integral) (hroom : h.connection.data.HasRoom)
    (ha : s.audit = .table) (hu : s.users = .table) (now : Instant) (token : String) :
    let db := h.connection.data
    let string := (s.generate h.outside).1
    let answer := (s.exchange now token h).1
    let after := (s.exchange now token h).2.connection
    ((∀ t ∈ db.tokens, t.token ≠ token) →
      answer = .error .tokenNotFound ∧ h.connection.Resumed db after) ∧
    ∀ old ∈ db.tokens, old.token = token →
      (old.revoked = true → answer = .error .tokenReused ∧
        ∃ db', h.connection.Resumed db' after ∧
          if s.config.rotationEnabled then db.FamilyRevoked now old db' else db' = db) ∧
      (old.revoked = false → (∃ t ∈ db.tokens, t.token = string) →
        answer = .error (.refused "error creating refresh token" .duplicateToken) ∧
          h.connection.Resumed db after) ∧
      (old.revoked = false → (∀ t ∈ db.tokens, t.token ≠ string) →
        ∃ user i db', answer = .ok i ∧ after = h.connection.showing db' ∧
          db.Rotated now user old string i db') := by
  intro db string answer after
  have hx := Service.exchange_answers hst ha hu now token
  refine ⟨fun hnone => ?_, ?_⟩
  · have hserve : db.serve s.config.rotationEnabled now (s.supply h.outside false).1
        (.exchange token) = (.error .tokenNotFound, db) := by
      simp [Database.serve, Database.exchange, Database.presented,
        Database.token?_eq_none.mpr hnone]
    rw [hserve] at hx
    exact hx.fails (by simp [Error.EndsAll, Error.source?])
  rintro old hold rfl
  refine ⟨fun hrevoked => ?_, fun hvalid htaken => ?_, fun hvalid hnew => ?_⟩
  · obtain ⟨user, -, -, hp⟩ := hi.presented_eq hold
    rw [Database.serve, Database.exchange_of_revoked hp hrevoked] at hx
    obtain ⟨ho, hres⟩ := hx.fails (by simp [Error.EndsAll, Error.source?])
    refine ⟨ho, _, hres, ?_⟩
    cases s.config.rotationEnabled with
    | true => exact Database.familyRevoked hi.tokenIds now old
    | false => rfl
  · rw [Database.serve, hi.exchange_taken hroom hold hvalid htaken] at hx
    exact hx.fails (Error.not_endsAll_refused (by decide))
  · obtain ⟨user, i, db', hexchange, hrotated⟩ :=
      hi.exchange_free hroom hold hvalid (s.supply h.outside false).1 hnew
    rw [Database.serve, hexchange] at hx
    obtain ⟨-, run⟩ := hx.ok i db' rfl
    exact ⟨user, i, db', congrArg Prod.fst run, congrArg (·.2.connection) run, hrotated⟩

/-- Where Alice has exchanged her first token: a string that nobody has, the first token again, the
second one while the source of strings starts anew, and the second one. -/
theorem rotated_exchange_outcome :
    let h := Sample.rotated
    let exchange token outside := Sample.service.exchange Sample.time token { h with outside }
    (exchange "x" 2).1 = .error .tokenNotFound ∧
      ((exchange "t" 2).1 = .error .tokenReused ∧
        ∃ db', h.connection.Resumed db' (exchange "t" 2).2.connection ∧
          h.connection.data.FamilyRevoked Sample.time Sample.first db') ∧
      (exchange "tt" 0).1 = .error (.refused "error creating refresh token" .duplicateToken) ∧
      ∃ user i db', (exchange "tt" 2).1 = .ok i ∧
        h.connection.data.Rotated Sample.time user (Sample.second Sample.alice.instanceId) "ttt" i
          db' := by
  obtain ⟨hst, hi⟩ := Sample.inUse_rotated.sound
  have hroom : Sample.rotated.connection.data.HasRoom := by decide
  have outcome token outside := exchange_outcome (s := Sample.service)
    (h := { Sample.rotated with outside }) hst hi.now hroom rfl rfl Sample.time token
  refine ⟨((outcome "x" 2).1 (by decide)).1, ?_, ?_, ?_⟩
  · exact ((outcome "t" 2).2 Sample.first (by decide) rfl).1 rfl
  · obtain ⟨-, taken, -⟩ :=
      (outcome "tt" 0).2 (Sample.second Sample.alice.instanceId) (by decide) rfl
    exact (taken rfl (by decide)).1
  · obtain ⟨-, -, free⟩ :=
      (outcome "tt" 2).2 (Sample.second Sample.alice.instanceId) (by decide) rfl
    obtain ⟨user, i, db', answer, -, hrotated⟩ := free rfl (by decide)
    exact ⟨user, i, db', answer, hrotated⟩

end RefreshChain
