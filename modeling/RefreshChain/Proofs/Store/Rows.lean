import RefreshChain.Proofs.Store.Steady

/-!
# Row statements on a migrated store

What each row statement does to the contents of a fully migrated store, when nothing is counted at
its begin.

* `Database.withToken`, `Database.dropSession`, `Database.dropUser`, `Database.dropProvider`: the
  changes that are more than one `map` or `filter`.
* `Database.openSession`, `Database.mint`: what comes of the insertion of a row that refers to
  others.
* `Statement.insertToken_start` and its kin: the outcome of a statement, as an equation where it
  depends on the contents alone. Of a deletion that is passed on to other rows only the contents
  after it are given, and not what it counts.
-/

namespace RefreshChain

/-! ## Ids of tokens -/

namespace Database

variable {db db' : Database}

theorem le_foldl_max (ts : List RefreshToken) (m : Int) :
    m ≤ ts.foldl (fun m t => max m t.id) m ∧
      ∀ t ∈ ts, t.id ≤ ts.foldl (fun m t => max m t.id) m := by
  induction ts generalizing m with
  | nil => simp
  | cons u us ih =>
    obtain ⟨h₁, h₂⟩ := ih (max m u.id)
    simp only [List.foldl_cons, List.mem_cons]
    refine ⟨by omega, ?_⟩
    rintro t (rfl | ht)
    · omega
    · exact h₂ t ht

theorem foldl_max_le {ts : List RefreshToken} {m n : Int} (hm : m ≤ n)
    (hts : ∀ t ∈ ts, t.id ≤ n) : ts.foldl (fun m t => max m t.id) m ≤ n := by
  induction ts generalizing m with
  | nil => exact hm
  | cons u us ih =>
    exact ih (Int.max_le.mpr ⟨hm, hts u (.head _)⟩) fun t ht => hts t (.tail _ ht)

theorem le_maxTokenId {t : RefreshToken} (ht : t ∈ db.tokens) : t.id ≤ db.maxTokenId :=
  (le_foldl_max db.tokens 0).2 t ht

/-- The id of the next token that is inserted without one. -/
def nextTokenId (db : Database) : Int := max db.lastTokenId db.maxTokenId + 1

theorem lt_nextTokenId {t : RefreshToken} (ht : t ∈ db.tokens) : t.id < db.nextTokenId := by
  have := le_maxTokenId ht
  unfold nextTokenId
  omega

theorem lastTokenId_lt_nextTokenId (db : Database) : db.lastTokenId < db.nextTokenId := by
  unfold nextTokenId
  omega

theorem tokenById?_nextTokenId (db : Database) : db.tokenById? db.nextTokenId = none := by
  simp only [tokenById?, List.find?_eq_none, decide_eq_true_eq]
  intro t ht he
  have := lt_nextTokenId ht
  omega

/-- A token that has the largest id goes to the end. -/
theorem insertById_eq_append {t : RefreshToken} {ts : List RefreshToken}
    (h : ∀ u ∈ ts, u.id < t.id) : insertById t ts = ts ++ [t] := by
  induction ts with
  | nil => rfl
  | cons u us ih =>
    have hu := h u List.mem_cons_self
    simp only [insertById, if_neg (show ¬ t.id < u.id by omega), List.cons_append]
    rw [ih fun v hv => h v (List.mem_cons_of_mem _ hv)]

/-- The contents with one more token, which has the highest id that ever was. -/
def withToken (db : Database) (t : RefreshToken) : Database :=
  { db with tokens := db.tokens ++ [t], lastTokenId := t.id }

/-- A token that comes in under the next id goes to the end. -/
theorem insert_next (db : Database) (t : RefreshToken) :
    ({ db with
      tokens := insertById { t with id := db.nextTokenId } db.tokens
      lastTokenId := max db.lastTokenId db.nextTokenId } : Database) =
      db.withToken { t with id := db.nextTokenId } := by
  have happ : insertById { t with id := db.nextTokenId } db.tokens =
      db.tokens ++ [{ t with id := db.nextTokenId }] :=
    insertById_eq_append fun _ => lt_nextTokenId
  have hmax : max db.lastTokenId db.nextTokenId = db.nextTokenId := by
    have := db.lastTokenId_lt_nextTokenId
    omega
  rw [happ, hmax]
  rfl

theorem tokenById?_withToken {t : RefreshToken} (hid : t.id = db.nextTokenId) :
    (db.withToken t).tokenById? t.id = some t := by
  have hnone := db.tokenById?_nextTokenId
  rw [tokenById?, ← hid] at hnone
  rw [tokenById?, withToken, List.find?_append, hnone]
  simp

/-- The contents after the tokens that fit have been revoked. -/
def revoking (db : Database) (now : Instant) (p : RefreshToken → Bool) : Database :=
  { db with tokens := db.tokens.map fun t => if p t then t.revokedAt now else t }

/-- Whether a token has the id of one in the family of `start`. -/
def inFamilyOf (db : Database) (start t : RefreshToken) : Bool :=
  ((family db.tokens start).map (·.id)).contains t.id

/-- The contents after the family of a token has been revoked. -/
def revokingFamily (db : Database) (now : Instant) (start : RefreshToken) : Database :=
  db.revoking now (db.inFamilyOf start)

/-- The contents after the tokens of a user within an instance have been deleted. -/
def loggedOut (db : Database) (instanceId userId : Uuid) : Database :=
  { db with tokens := db.tokens.filter fun t => !(t.instanceId = instanceId && t.userId = userId) }

/-! ## Rows that come with references -/

/-- Whether all that a row refers to is there. -/
def supports (db : Database) (rs : List Reference) : Bool := rs.all fun r => !db.dangles r

/-- The outcome of the insertion of a session. -/
def openSession (db : Database) (session : SsoSession) : Except Refusal Database :=
  if (db.session? session.id).isSome then .error (.duplicateKey .ssoSessions)
  else if db.supports session.references then .ok { db with sessions := db.sessions ++ [session] }
  else .error .foreignKey

/-- The outcome of the insertion of a token under a new id, with the row as it is stored. -/
def mint (db : Database) (t : RefreshToken) : Except Refusal (RefreshToken × Database) :=
  if Work.maxId ≤ max db.lastTokenId db.maxTokenId then .error (.full true)
  else if (db.token? t.token).isSome then .error .duplicateToken
  else if db.supports t.references then
    .ok ({ t with id := db.nextTokenId }, db.withToken { t with id := db.nextTokenId })
  else .error .foreignKey

theorem openSession_ok {session : SsoSession} (h : db.openSession session = .ok db') :
    db.session? session.id = none ∧ db.supports session.references = true ∧
      db' = { db with sessions := db.sessions ++ [session] } := by
  unfold openSession at h
  split at h
  · cases h
  · rename_i hnew
    split at h
    · rename_i hsup
      cases h
      exact ⟨by simpa using hnew, hsup, rfl⟩
    · cases h

theorem openSession_schema {session : SsoSession} (h : db.openSession session = .ok db') :
    db'.schema = db.schema := by
  obtain ⟨-, -, rfl⟩ := openSession_ok h
  rfl

theorem session?_append {id : Uuid} (opened : List SsoSession) {session : SsoSession}
    (h : db.session? id = some session) :
    ({ db with sessions := db.sessions ++ opened } : Database).session? id = some session := by
  rw [session?] at h
  rw [session?, List.find?_append, h]
  rfl

/-- A session that is opened is found. -/
theorem session?_append_self {session : SsoSession} (h : db.session? session.id = none) :
    ({ db with sessions := db.sessions ++ [session] } : Database).session? session.id =
      some session := by
  rw [session?] at h
  rw [session?, List.find?_append, h]
  simp

theorem mint_ok {t t' : RefreshToken} (h : db.mint t = .ok (t', db')) :
    db.token? t.token = none ∧ db.supports t.references = true ∧
      t' = { t with id := db.nextTokenId } ∧ db' = db.withToken t' := by
  unfold mint at h
  split at h
  · cases h
  split at h
  · cases h
  rename_i hnew
  split at h
  · rename_i hsup
    cases h
    exact ⟨by simpa using hnew, hsup, rfl, rfl⟩
  · cases h

/-! ## Rows that go with others -/

/-- The contents without a session and its tokens. -/
def dropSession (db : Database) (id : Uuid) : Database :=
  { db with
    sessions := db.sessions.filter (·.id ≠ id)
    tokens := db.tokens.filter (·.ssoSessionId ≠ some id) }

/-- The contents without some sessions and their tokens. -/
def dropSessions (db : Database) (ids : List Uuid) : Database := ids.foldl dropSession db

/-- The contents without a user, the user's tokens, and the user's sessions with theirs. -/
def dropUser (db : Database) (id : Uuid) : Database :=
  dropSessions
    { db with
      users := db.users.filter (·.id ≠ id)
      tokens := db.tokens.filter (·.userId ≠ id) }
    ((db.sessions.filter (·.userId = id)).map SsoSession.id)

def dropUsers (db : Database) (ids : List Uuid) : Database := ids.foldl dropUser db

/-- The contents without a provider and the provider's sessions with their tokens. -/
def dropProvider (db : Database) (id : Uuid) : Database :=
  dropSessions { db with providers := db.providers.filter (·.id ≠ id) }
    ((db.sessions.filter (·.providerId = id)).map SsoSession.id)

def dropProviders (db : Database) (ids : List Uuid) : Database := ids.foldl dropProvider db

end Database

/-! ## What is checked first -/

namespace Work

variable {w : Work} (h : w.data.schema = .migrated)

include h

theorem needTable_migrated (t : Table) : w.needTable t = .ok () := by
  rw [needTable, Database.hasTable_of_migrated h]; rfl

theorem needParentsOf_migrated (ks : List ForeignKey) : w.needParentsOf ks = .ok () := by
  induction ks with
  | nil => rfl
  | cons k ks ih =>
    rw [needParentsOf, needParent, Database.hasTable_of_migrated h, Bool.or_true]
    exact ih

theorem needParents_migrated (t : Table) : w.needParents t = .ok () :=
  needParentsOf_migrated h _

omit h in
theorem forEach_ok {check : Table → Except Refusal Unit} (hc : ∀ t, check t = .ok ())
    (ts : List Table) : forEach check ts = .ok () := by
  induction ts with
  | nil => rfl
  | cons t ts ih => rw [forEach, hc]; exact ih

theorem needForDeletion_migrated (t : Table) : w.needForDeletion t = .ok () := by
  have hc : ∀ t, w.needForChild t = .ok () := by
    intro t
    unfold needForChild
    split
    · rw [needForSessions, needParents_migrated h]
      exact forEach_ok (needParents_migrated h) _
    · exact needParents_migrated h t
  rw [needForDeletion, needParents_migrated h]
  exact forEach_ok hc _

omit h in
/-- Without triggers no change is refused. -/
theorem refuseOn_of_no_triggers (htriggers : w.data.schema.triggers = []) (t : Table)
    (c : RowChange) (n : Nat) : w.refuseOn t c n = .ok () := by
  unfold refuseOn
  rw [Schema.refusal?, htriggers]
  cases n <;> rfl

theorem refuseOn_migrated (t : Table) (c : RowChange) (n : Nat) : w.refuseOn t c n = .ok () :=
  refuseOn_of_no_triggers (by rw [h]; rfl) t c n

theorem prepareInsert_migrated (t : Table) : w.prepareInsert t = .ok () := by
  rw [prepareInsert, needTable_migrated h, needParents_migrated h, h, Schema.migrated_vanishes]
  exact refuseOn_migrated h t .insert 1

theorem keepOr_migrated (t : Table) (remove : Work → Except Refusal Work) :
    w.keepOr t remove = .ok w := by
  rw [keepOr, h, Schema.migrated_vanishes]; rfl

theorem countsOnInsert_migrated (ht : w.tolerant = false) (t : Table) :
    w.countsOnInsert t = false := by
  rw [countsOnInsert, ht, h, Schema.migrated_watchesInserts]; rfl

theorem welcome_migrated (ht : w.tolerant = false) (r : Reference) : w.welcome r = w := by
  rw [welcome, countsOnInsert_migrated h ht]; rfl

omit h in
theorem dangling_eq_zero {rs : List Reference} :
    w.dangling rs = 0 ↔ ∀ r ∈ rs, w.data.dangles r = false := by
  simp [dangling]

/-- A row is let in just if all that it refers to is there. -/
theorem accept_migrated (ht : w.tolerant = false) (he : w.enforced = true) (t : Table)
    (rs : List Reference) :
    w.accept t rs =
      if ∀ r ∈ rs, w.data.dangles r = false then .ok w else .error .foreignKey := by
  rw [accept, countsOnInsert_migrated h ht, he]
  simp only [← dangling_eq_zero]
  by_cases hd : w.dangling rs = 0 <;> simp [hd]

end Work

/-! ## Insertions and changes -/

namespace Statement

variable {db : Database} (h : db.schema = .migrated) {w : Work}

include h

theorem insertUser_start {u : User} {a : Unit} :
    (insertUser u).run (.start db) = .ok (a, w) ↔
      db.user? u.id = none ∧ .start { db with users := db.users ++ [u] } = w := by
  simp only [insertUser, Work.start, Work.prepareInsert_migrated, Work.welcome_migrated,
    Work.keepOr_migrated, h]
  cases db.user? u.id <;> simp [bind, Except.bind, pure, Except.pure]

theorem insertProvider_start {p : SsoProvider} {a : Unit} :
    (insertProvider p).run (.start db) = .ok (a, w) ↔
      db.provider? p.id = none ∧ .start { db with providers := db.providers ++ [p] } = w := by
  simp only [insertProvider, Work.start, Work.prepareInsert_migrated, Work.welcome_migrated,
    Work.keepOr_migrated, h]
  cases db.provider? p.id <;> simp [bind, Except.bind, pure, Except.pure]

theorem insertSession_start (session : SsoSession) :
    (insertSession session).run (.start db) =
      (db.openSession session).map fun db => ((), .start db) := by
  simp only [insertSession, Work.start, Work.prepareInsert_migrated, Work.accept_migrated, h,
    Database.openSession]
  cases hs : db.session? session.id with
  | some _ => rfl
  | none =>
    by_cases hr : ∀ r ∈ session.references, db.dangles r = false
    · have hsup : db.supports session.references = true := by
        simpa [Database.supports] using hr
      rw [if_pos hr, hsup]
      simp [Work.welcome_migrated, Work.keepOr_migrated, h, bind, Except.bind, pure, Except.pure,
        Except.map]
    · have hsup : db.supports session.references = false := by
        simpa [Database.supports] using hr
      rw [if_neg hr, hsup]
      rfl

theorem insertAuditEntry_start {e : AuditEntry} :
    (insertAuditEntry e).run (.start db) =
      .ok (true, .start { db with audit := db.audit ++ [e] }) := by
  simp [insertAuditEntry, Work.start, Work.prepareInsert_migrated, h, bind, Except.bind, pure,
    Except.pure]

theorem updateUsers_start (p : User → Bool) (f : User → User) :
    (updateUsers p f).run (.start db) = .ok (db.users.countP p,
      .start { db with users := db.users.map fun u => if p u then f u else u }) := by
  simp [updateUsers, Work.start, Work.needTable_migrated, Work.refuseOn_migrated, h, bind,
    Except.bind, pure, Except.pure]

omit h in
/-- Where no reference is touched, none is counted anew. -/
theorem recount_none (f : RefreshToken → RefreshToken) (v : Work) (t : RefreshToken) :
    v.recount [] f t = v := by
  have hn : ∀ rs : List Reference,
      (rs.filter fun r => ([] : List ForeignKey).any (·.parent = r.parent)) = [] := by
    simp
  unfold Work.recount
  simp only [hn]
  simp [Work.forget, Work.dangling, Work.owe]

omit h in
theorem recounts_none (f : RefreshToken → RefreshToken) (ts : List RefreshToken) (v : Work) :
    ts.foldl (Work.recount [] f) v = v := by
  induction ts with
  | nil => rfl
  | cons t ts ih => rw [List.foldl_cons, recount_none, ih]

omit h in
/-- A change of tokens that touches no reference counts none. Only a trigger may refuse it. -/
theorem updateTokens_eq {w : Work} (htable : w.data.hasTable .refreshTokens = true)
    (p : RefreshToken → Bool) (f : RefreshToken → RefreshToken) :
    (updateTokens [] p f).run w =
      (w.refuseOn .refreshTokens .update (w.data.tokens.countP p)).map fun _ =>
        (w.data.tokens.countP p,
          { w with data.tokens := w.data.tokens.map fun t => if p t then f t else t }) := by
  simp only [updateTokens, Work.needTable, htable, Work.needParentsOf, recounts_none, bind,
    Except.bind, pure, Except.pure, if_true]
  cases w.refuseOn .refreshTokens .update (w.data.tokens.countP p) <;> rfl

omit h in
theorem updateTokens_run {w : Work} (htable : w.data.hasTable .refreshTokens = true)
    (htriggers : w.data.schema.triggers = []) (p : RefreshToken → Bool)
    (f : RefreshToken → RefreshToken) :
    (updateTokens [] p f).run w = .ok (w.data.tokens.countP p,
      { w with data.tokens := w.data.tokens.map fun t => if p t then f t else t }) := by
  rw [updateTokens_eq htable, Work.refuseOn_of_no_triggers htriggers]
  rfl

theorem updateTokens_start (p : RefreshToken → Bool) (f : RefreshToken → RefreshToken) :
    (updateTokens [] p f).run (.start db) = .ok (db.tokens.countP p,
      .start { db with tokens := db.tokens.map fun t => if p t then f t else t }) :=
  updateTokens_run (w := .start db) (Database.hasTable_of_migrated h _)
    (by rw [Work.start_data, h]; rfl) p f

theorem revokeFamily_start (now : Instant) (t : RefreshToken) :
    (revokeFamily now t).run (.start db) =
      .ok (db.tokens.countP (db.inFamilyOf t), .start (db.revokingFamily now t)) :=
  updateTokens_start h _ _

theorem insertToken_start (t : RefreshToken) :
    (insertToken t none).run (.start db) =
      (db.mint t).map fun (t, db) => (t.id, .start db) := by
  have hid := db.tokenById?_nextTokenId
  have href : ∀ id, ({ t with id } : RefreshToken).references = t.references := fun _ => rfl
  have hnew : (Work.start db).newTokenId none =
      if Work.maxId ≤ max db.lastTokenId db.maxTokenId then .error (.full true)
      else .ok db.nextTokenId := by
    by_cases hm : Work.maxId ≤ max db.lastTokenId db.maxTokenId
    · simp [Work.newTokenId, Work.start, h, hm, Int.not_lt.mpr hm]
    · simp [Work.newTokenId, Work.start, hm, Int.not_le.mp hm, Database.nextTokenId]
  rw [Work.start] at hnew
  simp only [insertToken, Work.start, Work.prepareInsert_migrated, Work.accept_migrated, hnew, h,
    href, Database.mint]
  by_cases hm : Work.maxId ≤ max db.lastTokenId db.maxTokenId
  · rw [if_pos hm, if_pos hm]
    rfl
  rw [if_neg hm, if_neg hm]
  cases ht : db.token? t.token with
  | some _ => simp [hid, bind, Except.bind, Except.map, throw, throwThe, MonadExceptOf.throw]
  | none =>
    by_cases hr : ∀ r ∈ t.references, db.dangles r = false
    · have hsup : db.supports t.references = true := by simpa [Database.supports] using hr
      rw [if_pos hr, hsup]
      rw [← db.insert_next t]
      simp [Work.keepOr_migrated, h, hid, bind, Except.bind, pure, Except.pure, Except.map]
    · have hsup : db.supports t.references = false := by simpa [Database.supports] using hr
      rw [if_neg hr, hsup]
      simp [hid, bind, Except.bind, Except.map]

end Statement

/-! ## Removals -/

namespace Database

@[simp]
theorem dropSessions_schema (db : Database) (ids : List Uuid) :
    (db.dropSessions ids).schema = db.schema := by
  induction ids generalizing db with
  | nil => rfl
  | cons id ids ih => exact ih (db.dropSession id)

@[simp]
theorem dropUser_schema (db : Database) (id : Uuid) : (db.dropUser id).schema = db.schema :=
  dropSessions_schema _ _

@[simp]
theorem dropProvider_schema (db : Database) (id : Uuid) : (db.dropProvider id).schema = db.schema :=
  dropSessions_schema _ _

theorem dropUsers_schema (db : Database) (ids : List Uuid) :
    (db.dropUsers ids).schema = db.schema := by
  induction ids generalizing db with
  | nil => rfl
  | cons id ids ih => exact (ih (db.dropUser id)).trans (dropUser_schema db id)

theorem dropProviders_schema (db : Database) (ids : List Uuid) :
    (db.dropProviders ids).schema = db.schema := by
  induction ids generalizing db with
  | nil => rfl
  | cons id ids ih => exact (ih (db.dropProvider id)).trans (dropProvider_schema db id)

end Database

theorem RefreshToken.mem_references_user {t : RefreshToken} {id : Uuid} :
    ⟨.users, id⟩ ∈ t.references ↔ t.userId = id := by
  cases hs : t.ssoSessionId <;> simp [RefreshToken.references, hs, eq_comm]

theorem RefreshToken.mem_references_session {t : RefreshToken} {id : Uuid} :
    ⟨.ssoSessions, id⟩ ∈ t.references ↔ t.ssoSessionId = some id := by
  cases hs : t.ssoSessionId <;> simp [RefreshToken.references, hs, eq_comm]

theorem Database.supports_user {db : Database} {t : RefreshToken} (h : db.supports t.references = true) :
    (db.user? t.userId).isSome := by
  have hd := List.all_eq_true.mp h ⟨.users, t.userId⟩ (RefreshToken.mem_references_user.mpr rfl)
  simpa [Database.dangles] using hd

theorem SsoSession.mem_references_user {s : SsoSession} {id : Uuid} :
    ⟨.users, id⟩ ∈ s.references ↔ s.userId = id := by
  simp [SsoSession.references, eq_comm]

theorem SsoSession.mem_references_provider {s : SsoSession} {id : Uuid} :
    ⟨.ssoProviders, id⟩ ∈ s.references ↔ s.providerId = id := by
  simp [SsoSession.references, eq_comm]

namespace Work

@[simp] theorem owe_data (w : Work) (n : Int) : (w.owe n).data = w.data := by
  unfold owe; split <;> rfl

@[simp] theorem owe_enforced (w : Work) (n : Int) : (w.owe n).enforced = w.enforced := by
  unfold owe; split <;> rfl

@[simp] theorem settle_data (w : Work) : w.settle.data = w.data := by
  unfold settle; split <;> simp

@[simp] theorem settle_enforced (w : Work) : w.settle.enforced = w.enforced := by
  unfold settle; split <;> simp

theorem forget_same (w : Work) (rs : List Reference) :
    (w.forget rs).data = w.data ∧ (w.forget rs).enforced = w.enforced := by
  induction rs generalizing w with
  | nil => exact ⟨rfl, rfl⟩
  | cons r rs ih =>
    unfold forget
    split
    · simpa using ih (w.owe (-1))
    · split
      · simpa using ih w.settle
      · exact ih w

/-- The removal succeeds and leaves `db`. -/
def Leaves (o : Except Refusal Work) (db : Database) : Prop :=
  ∃ w, o = .ok w ∧ w.data = db ∧ w.enforced = true

/-- Removals that are passed on one after the other. -/
theorem removeEach_leaves {α : Type} {remove : Work → α → Except Refusal Work}
    {drop : Database → α → Database} (hd : ∀ db a, (drop db a).schema = db.schema)
    (hr : ∀ w a, w.data.schema = .migrated → w.enforced = true →
      Leaves (remove w a) (drop w.data a))
    (as : List α) (w : Work) (h : w.data.schema = .migrated) (he : w.enforced = true) :
    Leaves (removeEach remove as w) (as.foldl drop w.data) := by
  induction as generalizing w with
  | nil => exact ⟨w, rfl, rfl, he⟩
  | cons a as ih =>
    obtain ⟨w₁, hw, hdata, he₁⟩ := hr w a h he
    have := ih w₁ (by rw [hdata, hd, h]) he₁
    rw [removeEach, hw, List.foldl_cons, ← hdata]
    exact this

section

variable {w : Work} (h : w.data.schema = .migrated) (he : w.enforced = true)

include h

theorem unlessRefused_migrated {α : Type} (t : Table) (drop : Work → α → Except Refusal Work)
    (a : α) : unlessRefused t drop w a = drop w a := by
  rw [unlessRefused, refuseOn_migrated h]; rfl

/-- Where nothing is counted, a row that goes is not counted either. -/
theorem forget_none (hv : w.violations = 0) (rs : List Reference) : w.forget rs = w := by
  induction rs with
  | nil => rfl
  | cons r rs ih =>
    have hs : w.settle = w := by rw [settle, if_pos hv]
    rw [forget, Database.hasTable_of_migrated h, hs]
    simpa using ih

include he

theorem removeTokens_leaves (p : RefreshToken → Bool) :
    Leaves (w.removeTokens p) { w.data with tokens := w.data.tokens.filter (!p ·) } := by
  refine ⟨w.dropTokens p, ?_, ?_, ?_⟩
  · rw [removeTokens, refuseOn_migrated h]; rfl
  · simp [dropTokens, forget_same]
  · simp [dropTokens, forget_same, he]

theorem dropSession_leaves (s : SsoSession) :
    Leaves (w.dropSession s) (w.data.dropSession s.id) := by
  have hf := forget_same w s.references
  let w₁ : Work :=
    (w.forget s.references).owe (w.data.referring ⟨.ssoSessions, s.id⟩ .refreshTokens)
  have hd : w₁.data = w.data := by simp [w₁, hf]
  have he₁ : w₁.enforced = true := by simp [w₁, hf, he]
  obtain ⟨w₂, hw, hdata, he₂⟩ := removeTokens_leaves
    (w := { w₁ with data.sessions := w₁.data.sessions.filter (·.id ≠ s.id) })
    (by simp [hd, h]) he₁ (·.references.contains ⟨.ssoSessions, s.id⟩)
  refine ⟨w₂, ?_, ?_, he₂⟩
  · rw [← hw, dropSession]
    exact if_pos he₁
  · rw [hdata, Database.dropSession]
    simp [hd, RefreshToken.mem_references_session]

theorem removeSessions_leaves (p : SsoSession → Bool) :
    Leaves (w.removeSessions p) (w.data.dropSessions ((w.data.sessions.filter p).map (·.id))) := by
  rw [Database.dropSessions, List.foldl_map]
  refine removeEach_leaves (fun _ _ => by rfl) (fun w s h he => ?_) _ w h he
  rw [unlessRefused_migrated h]
  exact dropSession_leaves h he s

omit h he in
/-- Rows of the given kinds that refer to a removed row are counted, which changes no rows. -/
theorem owed_same (r : Reference) (ts : List Table) (w : Work) :
    (ts.foldl (fun w t => w.owe (w.data.referring r t)) w).data = w.data ∧
      (ts.foldl (fun w t => w.owe (w.data.referring r t)) w).enforced = w.enforced := by
  induction ts generalizing w with
  | nil => exact ⟨rfl, rfl⟩
  | cons t ts ih => simpa using ih (w.owe (w.data.referring r t))

omit h in
/-- What is passed on to the rows below goes on after they have been counted. -/
theorem passOn_leaves {r : Reference} {db : Database}
    (hr : ∀ v : Work, v.data = w.data → v.enforced = true →
      Leaves (removeEach (removeReferring r) (w.data.schema.childrenOf r.parent) v) db) :
    Leaves (w.passOn r) db := by
  obtain ⟨hd, he'⟩ := owed_same r (w.data.schema.childrenOf r.parent) w
  have := hr _ hd (he'.trans he)
  unfold passOn
  dsimp only
  rwa [if_pos (he'.trans he)]

theorem dropUser_leaves (u : User) : Leaves (w.dropUser u) (w.data.dropUser u.id) := by
  refine passOn_leaves (w := { w with data.users := w.data.users.filter (·.id ≠ u.id) }) he
    fun v hv hve => ?_
  have hc : ({ w with data.users := w.data.users.filter (·.id ≠ u.id) } :
      Work).data.schema.childrenOf Table.users = [.refreshTokens, .ssoSessions] := by
    show w.data.schema.childrenOf _ = _
    rw [h]; rfl
  have hs : v.data.schema = .migrated := by rw [hv]; exact h
  obtain ⟨v₁, h₁, hd₁, he₁⟩ := removeTokens_leaves hs hve (·.references.contains ⟨.users, u.id⟩)
  obtain ⟨v₂, h₂, hd₂, he₂⟩ := removeSessions_leaves (w := v₁) (by rw [hd₁]; exact hs) he₁
    (·.references.contains ⟨.users, u.id⟩)
  rw [hc]
  refine ⟨v₂, ?_, ?_, he₂⟩
  · simp only [removeEach, removeReferring, h₁, h₂, bind, Except.bind]
  · rw [hd₂, hd₁, hv]
    simp [Database.dropUser, RefreshToken.mem_references_user, SsoSession.mem_references_user]

theorem dropProvider_leaves (p : SsoProvider) :
    Leaves (w.dropProvider p) (w.data.dropProvider p.id) := by
  refine passOn_leaves (w := { w with data.providers := w.data.providers.filter (·.id ≠ p.id) }) he
    fun v hv hve => ?_
  have hc : ({ w with data.providers := w.data.providers.filter (·.id ≠ p.id) } :
      Work).data.schema.childrenOf Table.ssoProviders = [.ssoSessions] := by
    show w.data.schema.childrenOf _ = _
    rw [h]; rfl
  have hs : v.data.schema = .migrated := by rw [hv]; exact h
  obtain ⟨v₁, h₁, hd₁, he₁⟩ :=
    removeSessions_leaves hs hve (·.references.contains ⟨.ssoProviders, p.id⟩)
  rw [hc]
  refine ⟨v₁, ?_, ?_, he₁⟩
  · simp only [removeEach, removeReferring, h₁, bind, Except.bind]
  · rw [hd₁, hv]
    simp [Database.dropProvider, SsoSession.mem_references_provider]

theorem removeUsers_leaves (p : User → Bool) :
    Leaves (w.removeUsers p) (w.data.dropUsers ((w.data.users.filter p).map (·.id))) := by
  rw [Database.dropUsers, List.foldl_map]
  refine removeEach_leaves (fun _ _ => by simp) (fun w u h he => ?_) _ w h he
  rw [unlessRefused_migrated h]
  exact dropUser_leaves h he u

theorem removeProviders_leaves (p : SsoProvider → Bool) :
    Leaves (w.removeProviders p)
      (w.data.dropProviders ((w.data.providers.filter p).map (·.id))) := by
  rw [Database.dropProviders, List.foldl_map]
  refine removeEach_leaves (fun _ _ => by simp) (fun w q h he => ?_) _ w h he
  rw [unlessRefused_migrated h]
  exact dropProvider_leaves h he q

end

end Work

/-! ## Deletions -/

namespace Statement

variable {db : Database} (h : db.schema = .migrated) {w : Work} {n : Nat}

include h

/-- Nothing stands in the way of a deletion, so it comes down to the removal. -/
theorem deletion_start {t : Table} {removal : Except Refusal Work} {db' : Database}
    (hl : Work.Leaves removal db') {m : Nat}
    (run : (do
      (Work.start db).needTable t
      (Work.start db).needForDeletion t
      return (m, ← removal)) = .ok (n, w)) : w.data = db' := by
  obtain ⟨w', rfl, hd, -⟩ := hl
  rw [Work.needTable_migrated (w := .start db) h, Work.needForDeletion_migrated (w := .start db) h]
    at run
  cases run
  exact hd

theorem deleteTokens_start (p : RefreshToken → Bool) :
    (deleteTokens p).run (.start db) =
      .ok (db.tokens.countP p, .start { db with tokens := db.tokens.filter (!p ·) }) := by
  have hf := Work.forget_none (w := .start db) h rfl
  rw [deleteTokens]
  dsimp only
  rw [Work.needTable_migrated (w := .start db) h, Work.needForDeletion_migrated (w := .start db) h,
    Work.removeTokens, Work.refuseOn_migrated (w := .start db) h, Work.dropTokens, hf]
  rfl

theorem deleteSessions_start {p : SsoSession → Bool}
    (run : (deleteSessions p).run (.start db) = .ok (n, w)) :
    w.data = db.dropSessions ((db.sessions.filter p).map (·.id)) :=
  deletion_start h (Work.removeSessions_leaves (w := .start db) h rfl p) run

theorem deleteProviders_start {p : SsoProvider → Bool}
    (run : (deleteProviders p).run (.start db) = .ok (n, w)) :
    w.data = db.dropProviders ((db.providers.filter p).map (·.id)) :=
  deletion_start h (Work.removeProviders_leaves (w := .start db) h rfl p) run

theorem deleteUsers_start {p : User → Bool}
    (run : (deleteUsers p).run (.start db) = .ok (n, w)) :
    w.data = db.dropUsers ((db.users.filter p).map (·.id)) :=
  deletion_start h (Work.removeUsers_leaves (w := .start db) h rfl p) run

end Statement

end RefreshChain
