import RefreshChain.Proofs.Contents

/-!
# What successes make of the contents

What is done to the contents of a fully migrated store, on any connection: references may be checked
or not, or at the end of a transaction only.

* `Statement.Makes`: how the contents after a statement follow from those before it.
* `Action.Makes`: the same of an action that succeeds. `Action.Looks`: the action changes nothing.
* `Service.issue_makes`, `Service.swapWork_makes`, `Service.exchangeWork_makes`: the works of
  requests. `Action.transaction_ok`, `Action.transaction_makes`, `Service.exchange_makes`: the
  transactions around them.
-/

namespace RefreshChain

/-! ## Counts of references -/

namespace Work

variable {w w' : Work}

theorem offset_data (w : Work) (n : Nat) : (w.offset n).data = w.data := by
  unfold offset
  split
  · rfl
  · exact owe_data _ _

theorem offsets_data (r : Reference) (ts : List Table) (w : Work) :
    (ts.foldl (fun w t => w.offset (w.data.referring r t)) w).data = w.data := by
  induction ts generalizing w with
  | nil => rfl
  | cons t ts ih => exact (ih _).trans (offset_data w _)

theorem welcome_data (w : Work) (r : Reference) : (w.welcome r).data = w.data := by
  unfold welcome
  split
  · exact offsets_data r _ w
  · rfl

theorem accept_data {t : Table} {rs : List Reference} (h : w.accept t rs = .ok w') :
    w'.data = w.data := by
  unfold accept at h
  split at h
  · cases h
    exact owe_data _ _
  · split at h <;> cases h
    rfl

theorem recount_data (touched : List ForeignKey) (f : RefreshToken → RefreshToken) (w : Work)
    (t : RefreshToken) : (w.recount touched f t).data = w.data :=
  (owe_data _ _).trans (forget_same w _).1

end Work

/-! ## Removals -/

/-- `P` still holds when rows are taken out of a table. -/
structure Database.Thinnable (P : Database → Prop) : Prop where
  users : ∀ db q, P db → P { db with users := db.users.filter q }
  providers : ∀ db q, P db → P { db with providers := db.providers.filter q }
  sessions : ∀ db q, P db → P { db with sessions := db.sessions.filter q }
  tokens : ∀ db q, P db → P { db with tokens := db.tokens.filter q }

/-- Some rows have been removed, but no notes. -/
structure Database.Thinned (db db' : Database) : Prop where
  schema : db'.schema = db.schema
  tokens : db'.tokens.Sublist db.tokens
  audit : db'.audit = db.audit

namespace Database.Thinned

theorem refl (db : Database) : db.Thinned db := ⟨rfl, .refl _, rfl⟩

theorem thinnable (db : Database) : Thinnable db.Thinned where
  users _ _ h := ⟨h.schema, h.tokens, h.audit⟩
  providers _ _ h := ⟨h.schema, h.tokens, h.audit⟩
  sessions _ _ h := ⟨h.schema, h.tokens, h.audit⟩
  tokens _ _ h := ⟨h.schema, List.filter_sublist.trans h.tokens, h.audit⟩

end Database.Thinned

namespace Work

variable {w w' : Work} {α : Type}

theorem dropTokens_data (w : Work) (p : RefreshToken → Bool) :
    (w.dropTokens p).data = { w.data with tokens := w.data.tokens.filter (!p ·) } := by
  simp [dropTokens, forget_same]

theorem removeTokens_ok {p : RefreshToken → Bool} (h : w.removeTokens p = .ok w') :
    w'.data = { w.data with tokens := w.data.tokens.filter (!p ·) } := by
  obtain ⟨_, -, h⟩ := except_bind_ok.mp h
  cases h
  exact dropTokens_data w p

section

variable {P : Database → Prop} (hP : Database.Thinnable P)

theorem removeEach_keeps {remove : Work → α → Except Refusal Work}
    (hr : ∀ {w a w'}, P w.data → remove w a = .ok w' → P w'.data) (as : List α) (hp : P w.data)
    (h : removeEach remove as w = .ok w') : P w'.data := by
  induction as generalizing w with
  | nil =>
    cases h
    exact hp
  | cons a as ih =>
    obtain ⟨w₁, hw, h⟩ := except_bind_ok.mp h
    exact ih (hr hp hw) h

theorem unlessRefused_keeps {t : Table} {drop : Work → α → Except Refusal Work}
    (hd : ∀ {w a w'}, P w.data → drop w a = .ok w' → P w'.data) {a : α} (hp : P w.data)
    (h : unlessRefused t drop w a = .ok w') : P w'.data := by
  obtain ⟨_, -, h⟩ := except_bind_ok.mp h
  exact hd hp h

include hP

theorem removeTokens_keeps {p : RefreshToken → Bool} (hp : P w.data)
    (h : w.removeTokens p = .ok w') : P w'.data := by
  rw [removeTokens_ok h]
  exact hP.tokens _ _ hp

theorem dropSession_keeps {s : SsoSession} (hp : P w.data) (h : w.dropSession s = .ok w') :
    P w'.data := by
  have hf := forget_same w s.references
  let w₁ : Work :=
    (w.forget s.references).owe (w.data.referring ⟨.ssoSessions, s.id⟩ .refreshTokens)
  have hd : w₁.data = w.data := (owe_data _ _).trans hf.1
  have hrest : P { w₁.data with sessions := w₁.data.sessions.filter (·.id ≠ s.id) } := by
    rw [hd]
    exact hP.sessions _ _ hp
  unfold dropSession at h
  dsimp only at h
  split at h
  · exact removeTokens_keeps hP hrest h
  · cases h
    exact hrest

theorem removeSessions_keeps {p : SsoSession → Bool} (hp : P w.data)
    (h : w.removeSessions p = .ok w') : P w'.data :=
  removeEach_keeps (unlessRefused_keeps (dropSession_keeps hP)) _ hp h

theorem removeReferring_keeps {r : Reference} {t : Table} (hp : P w.data)
    (h : removeReferring r w t = .ok w') : P w'.data := by
  unfold removeReferring at h
  split at h
  · exact removeSessions_keeps hP hp h
  · exact removeTokens_keeps hP hp h
  · cases h
    exact hp

theorem passOn_keeps {r : Reference} (hp : P w.data) (h : w.passOn r = .ok w') : P w'.data := by
  have hd := (owed_same r (w.data.schema.childrenOf r.parent) w).1
  rw [← hd] at hp
  unfold passOn at h
  dsimp only at h
  split at h
  · exact removeEach_keeps (removeReferring_keeps hP) _ hp h
  · cases h
    exact hp

theorem removeProviders_keeps {p : SsoProvider → Bool} (hp : P w.data)
    (h : w.removeProviders p = .ok w') : P w'.data := by
  refine removeEach_keeps (unlessRefused_keeps fun hp h => ?_) _ hp h
  exact passOn_keeps hP (hP.providers _ _ hp) h

theorem removeUsers_keeps {p : User → Bool} (hp : P w.data) (h : w.removeUsers p = .ok w') :
    P w'.data := by
  refine removeEach_keeps (unlessRefused_keeps fun hp h => ?_) _ hp h
  exact passOn_keeps hP (hP.users _ _ hp) h

end

end Work

/-! ## Statements -/

namespace Statement

variable {α : Type}

/-- On a fully migrated store, `E` relates the contents before the statement, its answer and the
contents after it. -/
def Makes (s : Statement α) (E : Database → α → Database → Prop) : Prop :=
  ∀ ⦃w a w'⦄, w.data.schema = .migrated → s.run w = .ok (a, w') →
    w'.data.schema = .migrated ∧ E w.data a w'.data

theorem insertSession_makes (session : SsoSession) : (insertSession session).Makes fun db _ db' =>
    db' = { db with sessions := db.sessions ++ [session] } := by
  intro w a w' hm run
  obtain ⟨_, -, run⟩ := except_bind_ok.mp run
  split at run
  · cases run
  obtain ⟨w₁, hw, run⟩ := except_bind_ok.mp run
  have hd : (w₁.welcome ⟨.ssoSessions, session.id⟩).data = w.data :=
    (Work.welcome_data _ _).trans (Work.accept_data hw)
  dsimp only at run
  rw [Work.keepOr_migrated (by rw [hd]; exact hm)] at run
  cases run
  simp only [hd]
  exact ⟨hm, trivial⟩

/-- A token comes in under an id and with a string that no other has. Only a trigger may take it out
again. -/
theorem insertToken_ok {t : RefreshToken} {id? : Option Int} {id : Int} {w w' : Work}
    (run : (insertToken t id?).run w = .ok (id, w')) :
    w.data.tokenById? id = none ∧ w.data.token? t.token = none ∧
      (id? = none → id = w.data.nextTokenId) ∧
      let db := { w.data with
        tokens := Database.insertById { t with id } w.data.tokens
        lastTokenId := max w.data.lastTokenId id }
      (w.data.schema.vanishes .refreshTokens = false → w'.data = db) ∧
        (w.data.schema.vanishes .refreshTokens = true →
          w'.data = { db with tokens := db.tokens.filter (!·.id = id) }) := by
  obtain ⟨_, -, run⟩ := except_bind_ok.mp run
  obtain ⟨new, hnew, run⟩ := except_bind_ok.mp run
  dsimp only at run
  split at run
  · cases run
  rename_i hid
  split at run
  · cases run
  rename_i hstring
  obtain ⟨w₁, haccept, run⟩ := except_bind_ok.mp run
  obtain ⟨w₂, hkeep, run⟩ := except_bind_ok.mp run
  cases run
  have hd := Work.accept_data haccept
  unfold Work.keepOr at hkeep
  simp only [hd] at hkeep
  refine ⟨by simpa using hid, by simpa using hstring, ?_, fun hstays => ?_, fun hvanishes => ?_⟩
  · rintro rfl
    unfold Work.newTokenId at hnew
    dsimp only at hnew
    split at hnew <;> cases hnew
    rfl
  · rw [if_neg (by simp [hstays])] at hkeep
    cases hkeep
    rfl
  · rw [if_pos hvanishes] at hkeep
    exact Work.removeTokens_ok hkeep

/-- A new token gets the next id. -/
theorem insertToken_makes (t : RefreshToken) : (insertToken t none).Makes fun db id db' =>
    id = db.nextTokenId ∧ db' = db.withToken { t with id } := by
  intro w id w' hm run
  obtain ⟨-, -, hnext, hstays, -⟩ := insertToken_ok run
  obtain rfl := hnext rfl
  rw [(hstays (by rw [hm]; rfl)).trans (w.data.insert_next t)]
  exact ⟨hm, rfl, rfl⟩

theorem insertAuditEntry_makes (e : AuditEntry) : (insertAuditEntry e).Makes fun db _ db' =>
    db' = { db with audit := db.audit ++ [e] } := by
  intro w a w' hm run
  obtain ⟨_, -, run⟩ := except_bind_ok.mp run
  rw [hm, Schema.migrated_vanishes] at run
  cases run
  exact ⟨hm, rfl⟩

theorem updateUsers_ok {p : User → Bool} {f : User → User} {w w' : Work} {n : Nat}
    (run : (updateUsers p f).run w = .ok (n, w')) :
    w'.data = { w.data with users := w.data.users.map fun u => if p u then f u else u } := by
  obtain ⟨_, -, run⟩ := except_bind_ok.mp run
  obtain ⟨_, -, run⟩ := except_bind_ok.mp run
  cases run
  rfl

theorem updateUsers_makes (p : User → Bool) (f : User → User) :
    (updateUsers p f).Makes fun db _ db' =>
      db' = { db with users := db.users.map fun u => if p u then f u else u } := by
  intro w a w' hm run
  rw [updateUsers_ok run]
  exact ⟨hm, rfl⟩

/-- A change of tokens tells how many fit, and changes these. -/
theorem updateTokens_ok {touched : List ForeignKey} {p : RefreshToken → Bool}
    {f : RefreshToken → RefreshToken} {w w' : Work} {n : Nat}
    (run : (updateTokens touched p f).run w = .ok (n, w')) :
    n = w.data.tokens.countP p ∧
      w'.data = { w.data with tokens := w.data.tokens.map fun t => if p t then f t else t } := by
  have hfold : ∀ (ts : List RefreshToken) (v : Work),
      (ts.foldl (Work.recount touched f) v).data = v.data := by
    intro ts v
    induction ts generalizing v with
    | nil => rfl
    | cons t ts ih => exact (ih _).trans (Work.recount_data touched f v t)
  obtain ⟨_, -, run⟩ := except_bind_ok.mp run
  obtain ⟨_, -, run⟩ := except_bind_ok.mp run
  obtain ⟨_, -, run⟩ := except_bind_ok.mp run
  cases run
  dsimp only
  rw [hfold]
  exact ⟨rfl, rfl⟩

/-- The revocation of the tokens that fit. -/
theorem revocation_makes (now : Instant) (p : RefreshToken → Bool) :
    (updateTokens [] p (·.revokedAt now)).Makes fun db n db' =>
      n = db.tokens.countP p ∧ db' = db.revoking now p := by
  intro w n w' hm run
  obtain ⟨hn, hd⟩ := updateTokens_ok run
  rw [hd]
  exact ⟨hm, hn, rfl⟩

theorem revokeFamily_makes (now : Instant) (start : RefreshToken) :
    (revokeFamily now start).Makes fun db _ db' => db' = db.revokingFamily now start := by
  intro w a w' hm run
  obtain ⟨hm', -, hd⟩ := revocation_makes now (w.data.inFamilyOf start) hm run
  exact ⟨hm', hd⟩

/-- A deletion comes down to the removal. -/
theorem deletion_ok {w w' : Work} {t : Table} {removal : Except Refusal Work} {m n : Nat}
    (run : (do
      w.needTable t
      w.needForDeletion t
      return (m, ← removal)) = .ok (n, w')) : removal = .ok w' := by
  obtain ⟨_, -, run⟩ := except_bind_ok.mp run
  obtain ⟨_, -, run⟩ := except_bind_ok.mp run
  obtain ⟨w₁, hw, run⟩ := except_bind_ok.mp run
  cases run
  exact hw

theorem deleteTokens_makes (p : RefreshToken → Bool) : (deleteTokens p).Makes fun db _ db' =>
    db' = { db with tokens := db.tokens.filter (!p ·) } := by
  intro w n w' hm run
  rw [Work.removeTokens_ok (deletion_ok run)]
  exact ⟨hm, rfl⟩

theorem insertUser_makes (u : User) : (insertUser u).Makes fun db _ db' =>
    db' = { db with users := db.users ++ [u] } := by
  intro w a w' hm run
  obtain ⟨_, -, run⟩ := except_bind_ok.mp run
  split at run
  · cases run
  have hd := Work.welcome_data w ⟨.users, u.id⟩
  dsimp only at run
  rw [Work.keepOr_migrated (by rw [hd]; exact hm)] at run
  cases run
  simp only [hd]
  exact ⟨hm, trivial⟩

theorem insertProvider_makes (p : SsoProvider) : (insertProvider p).Makes fun db _ db' =>
    db' = { db with providers := db.providers ++ [p] } := by
  intro w a w' hm run
  obtain ⟨_, -, run⟩ := except_bind_ok.mp run
  split at run
  · cases run
  have hd := Work.welcome_data w ⟨.ssoProviders, p.id⟩
  dsimp only at run
  rw [Work.keepOr_migrated (by rw [hd]; exact hm)] at run
  cases run
  simp only [hd]
  exact ⟨hm, trivial⟩

theorem deleteSessions_makes (p : SsoSession → Bool) :
    (deleteSessions p).Makes fun db _ db' => db.Thinned db' := by
  intro w n w' hm run
  have hd := Work.removeSessions_keeps (Database.Thinned.thinnable _) (.refl w.data)
    (deletion_ok run)
  exact ⟨hd.schema.trans hm, hd⟩

theorem deleteProviders_makes (p : SsoProvider → Bool) :
    (deleteProviders p).Makes fun db _ db' => db.Thinned db' := by
  intro w n w' hm run
  have hd := Work.removeProviders_keeps (Database.Thinned.thinnable _) (.refl w.data)
    (deletion_ok run)
  exact ⟨hd.schema.trans hm, hd⟩

theorem deleteUsers_makes (p : User → Bool) :
    (deleteUsers p).Makes fun db _ db' => db.Thinned db' := by
  intro w n w' hm run
  have hd := Work.removeUsers_keeps (Database.Thinned.thinnable _) (.refl w.data) (deletion_ok run)
  exact ⟨hd.schema.trans hm, hd⟩

end Statement

/-! ## Actions -/

namespace Action

variable {σ ε α β : Type}

/-- On a fully migrated store, a success of `x` leaves contents that `E` relates to those before and
to the result. -/
def Makes (x : Action σ ε α) (E : Database → α → Database → Prop) : Prop :=
  ∀ ⦃h a h'⦄, h.connection.data.schema = .migrated → x h = (.ok a, h') →
    h'.connection.data.schema = .migrated ∧ E h.connection.data a h'.connection.data

/-- `x` changes no contents, however it ends. -/
def Looks (x : Action σ ε α) : Prop := ∀ h, (x h).2.connection.data = h.connection.data

/-- Whether references are tolerated or not, what a statement has done is there. -/
theorem write_ran {s : Statement α} {h h' : Host σ} {a : α}
    (run : (write s : Action σ StoreError α) h = (.ok a, h')) :
    ∃ w, s.run (h.connection.work s.purpose) = .ok (a, w) ∧ h'.connection.data = w.data := by
  obtain ⟨-, c, hx, rfl⟩ := onConnection_ok.mp run
  have hsettle : ∀ {p : Purpose} {b : α} {w : Work},
      h.connection.settle p b w = (.ok a, c) → b = a ∧ c.data = w.data := by
    intro p b w hc
    unfold Connection.settle at hc
    dsimp only at hc
    split at hc
    · cases hc
      exact ⟨rfl, rfl⟩
    · split at hc
      · cases hc
        exact ⟨rfl, by rw [Connection.lapse_data]; rfl⟩
      · split at hc <;> cases hc
  unfold Connection.execute at hx
  split at hx
  · cases hx
  · rename_i b w hw
    split at hx
    · cases hx
    · obtain ⟨rfl, hd⟩ := hsettle hx
      exact ⟨w, hw, hd⟩

namespace Makes

variable {E : Database → α → Database → Prop}

theorem of_looks {x : Action σ ε α} (hx : x.Looks) : x.Makes fun db _ db' => db' = db := by
  intro h a h' hm run
  have hd := hx h
  rw [run] at hd
  exact ⟨hd ▸ hm, hd⟩

theorem draw (f : σ → α × σ) :
    (Action.draw f : Action σ ε α).Makes fun db a db' => db' = db ∧ ∃ x, a = (f x).1 := by
  rintro h a _ hm ⟨⟩
  exact ⟨hm, rfl, _, rfl⟩

theorem during {x : Action σ StoreError α} (hx : x.Makes E) (context : String) :
    (x.during context).Makes E :=
  fun _ _ _ hm run => hx hm (during_ok.mp run)

theorem write {s : Statement α} (hs : s.Makes E) : (Action.write s : Action σ StoreError α).Makes E
    := by
  intro h a h' hm run
  obtain ⟨w, hw, hd⟩ := write_ran run
  rw [hd]
  exact hs (w := h.connection.work s.purpose) hm hw

end Makes

namespace Looks

theorem pure (a : α) : (Pure.pure a : Action σ ε α).Looks := fun _ => rfl

theorem orFail (e : ε) (o : Option α) : (Action.orFail e o : Action σ ε α).Looks := by
  intro h
  cases o <;> rfl

theorem read (tables : List Table) (f : Database → α) :
    (Action.read tables f : Action σ StoreError α).Looks := by
  intro h
  have hlook : (h.connection.look tables f).2.data = h.connection.data := by
    unfold Connection.look
    split
    · rfl
    · exact Connection.lapse_data _
  cases hc : h.connection.closed with
  | true => rw [Action.read, onConnection, hc]; rfl
  | false => rw [Action.read, onConnection_apply hc]; exact hlook

theorem during {x : Action σ StoreError α} (hx : x.Looks) (context : String) :
    (x.during context).Looks := by
  intro h
  have hd := hx h
  unfold Action.during mapError
  rcases hr : x h with ⟨_ | _, _⟩ <;> rw [hr] at hd <;> exact hd

theorem bind {x : Action σ ε α} {f : α → Action σ ε β} (hx : x.Looks) (hf : ∀ a, (f a).Looks) :
    (x >>= f).Looks := by
  intro h
  have hd := hx h
  rw [bind_apply]
  rcases hr : x h with ⟨e | a, h₁⟩ <;> rw [hr] at hd
  · exact hd
  · exact (hf a h₁).trans hd

end Looks

end Action

/-! ## Operations -/

section

open RefreshChain.Action (Looks Makes)

variable {σ : Type}

theorem findToken_looks (token : String) : (findToken token : Action σ Error RefreshToken).Looks :=
  .bind (.during (.read _ _) _) fun _ => .orFail _ _

theorem findUserWithToken_looks (token : String) :
    (findUserWithToken token : Action σ Error (User × RefreshToken)).Looks :=
  .bind (findToken_looks token) fun _ => .bind (.during (.read _ _) _) fun _ =>
    .bind (.orFail _ _) fun _ => .pure _

theorem findValidChild_looks (start : RefreshToken) :
    (findValidChild start : Action σ Error (Option RefreshToken)).Looks :=
  .during (.read _ _) _

theorem getValidChild_looks (start : RefreshToken) :
    (getValidChild start : Action σ Error RefreshToken).Looks :=
  .bind (findValidChild_looks start) fun _ => .orFail _ _

theorem loadToken_looks (id : Int) : (loadToken id : Action σ Error RefreshToken).Looks :=
  .bind (.during (.read _ _) _) fun _ => .orFail _ _

theorem bindingOf_looks (t : RefreshToken) :
    (Service.bindingOf t : Action σ Error (Option SsoBinding)).Looks := by
  unfold Service.bindingOf
  split
  · exact .pure _
  · exact .bind (.bind (.during (.read _ _) _) fun _ => .bind (.orFail _ _) fun _ =>
      .bind (.orFail _ _) fun _ => .pure _) fun _ => .pure _

/-- What is read is what is there. -/
theorem read_found {α : Type} {tables : List Table} {f : Database → α} {a : α} {context : String}
    {h h' : Host σ} (run : (Action.read tables f).during context h = (.ok a, h')) :
    f h.connection.data = a := by
  obtain ⟨-, c, hlook, -⟩ := Action.onConnection_ok.mp (Action.during_ok.mp run)
  unfold Connection.look at hlook
  split at hlook <;> cases hlook
  rfl

theorem loadToken_found {id : Int} {t : RefreshToken} {h h' : Host σ}
    (run : loadToken id h = (.ok t, h')) : h.connection.data.tokenById? id = some t := by
  obtain ⟨found, h₁, hread, run⟩ := Action.bind_ok.mp run
  rw [read_found hread]
  cases found <;> cases run
  rfl

theorem findUserWithToken_makes (token : String) :
    (findUserWithToken token : Action σ Error (User × RefreshToken)).Makes fun db found db' =>
      db' = db ∧ db.token? token = some found.2 := by
  intro h found h' hm run
  obtain ⟨hm', hd⟩ := Makes.of_looks (findUserWithToken_looks token) hm run
  refine ⟨hm', hd, ?_⟩
  obtain ⟨t, h₁, hfind, run⟩ := Action.bind_ok.mp run
  obtain ⟨owner, h₂, -, run⟩ := Action.bind_ok.mp run
  obtain ⟨user, h₃, -, run⟩ := Action.bind_ok.mp run
  cases run
  obtain ⟨there, h₄, hread, hfind⟩ := Action.bind_ok.mp hfind
  rw [read_found hread]
  cases there <;> cases hfind
  rfl

theorem AuditLog.table_makes (now : Instant) (instanceId : Uuid) (user : User)
    (action : AuditAction) (detail : Option String) :
    (AuditLog.table now instanceId user action detail : Action σ StoreError Unit).Makes
      fun db _ db' => db' = { db with
        audit := db.audit ++
          [⟨instanceId, some user.id, some user.email, action.word, detail, now⟩] } := by
  intro h a h' hm run
  obtain ⟨kept, h₁, hw, run⟩ := Action.bind_ok.mp run
  cases kept <;> cases run
  exact Makes.write (Statement.insertAuditEntry_makes _) hm hw

theorem UserDirectory.table_ok {now : Instant} {user : User} {u : Unit} {h h' : Host σ}
    (run : (UserDirectory.table now user : Action σ StoreError Unit) h = (.ok u, h')) :
    h'.connection.data = h.connection.data.signingIn now user := by
  obtain ⟨n, h₁, hwrite, run⟩ := Action.bind_ok.mp run
  cases run
  obtain ⟨w, hw, hd⟩ := Action.write_ran hwrite
  simpa [Database.signingIn, Connection.work] using hd.trans (Statement.updateUsers_ok hw)

/-- The new token is found under its id. -/
theorem createToken_makes (t : RefreshToken) :
    (createToken t : Action σ Error Int).Makes fun db id db' =>
      id = db.nextTokenId ∧ db' = db.withToken { t with id } ∧
        db'.tokenById? id = some { t with id } := by
  intro h id h' hm run
  obtain ⟨hm', hid, hd⟩ := Makes.write (Statement.insertToken_makes t) hm (Action.during_ok.mp run)
  exact ⟨hm', hid, hd, by rw [hd]; exact Database.tokenById?_withToken hid⟩

theorem insertSession_makes (session : SsoSession) :
    (insertSession session : Action σ StoreError SsoSession).Makes fun db _ db' =>
      db' = { db with sessions := db.sessions ++ [session] } := by
  intro h a h' hm run
  obtain ⟨⟨⟩, h₁, hw, hback⟩ := Action.bind_ok.mp run
  obtain ⟨hm₁, hd⟩ := Makes.write (Statement.insertSession_makes session) hm hw
  have hlooks : (Action.read [.ssoSessions] (·.session? session.id) >>= fun found =>
      Action.orFail insertedMissing found : Action σ StoreError SsoSession).Looks :=
    .bind (.read _ _) fun _ => .orFail _ _
  obtain ⟨hm', hd'⟩ := Makes.of_looks hlooks hm₁ hback
  exact ⟨hm', hd'.trans hd⟩

/-- A token that is found after its insertion stands at the end, under the next id. -/
theorem createToken_loaded {t stored : RefreshToken} {id : Int} {h h₁ h' : Host σ}
    (hcreate : createToken t h = (.ok id, h₁)) (hload : loadToken id h₁ = (.ok stored, h')) :
    stored = { t with id := h.connection.data.nextTokenId } ∧
      h'.connection.data = h.connection.data.withToken stored := by
  obtain ⟨w, hw, hd⟩ := Action.write_ran (Action.during_ok.mp hcreate)
  obtain ⟨-, -, hnext, hstays, hvanishes⟩ := Statement.insertToken_ok hw
  have hid : id = h.connection.data.nextTokenId := hnext rfl
  have hfound := loadToken_found hload
  have hlook := loadToken_looks id h₁
  rw [hload] at hlook
  cases hv : h.connection.data.schema.vanishes .refreshTokens with
  | true =>
    -- What has vanished is not found.
    rw [hd, hvanishes hv] at hfound
    obtain ⟨-, hother⟩ := List.mem_filter.mp (List.mem_of_find?_eq_some hfound)
    have hsame := List.find?_some hfound
    simp_all
  | false =>
    subst hid
    have hdata := (hd.trans (hstays hv)).trans (h.connection.data.insert_next t)
    rw [hdata] at hfound
    have hstored := Option.some.inj
      (hfound.symm.trans (Database.tokenById?_withToken (t := { t with id := _ }) rfl))
    exact ⟨hstored, hlook.trans (hstored ▸ hdata)⟩

/-- The sessions that come with a new token: one for a sign-in with conditions. -/
def Origin.Opens (now : Instant) (user : User) : Origin → List SsoSession → Prop
  | .signIn (some c), opened => ∃ id, opened = [c.session id user now]
  | _, opened => opened = []

namespace Service

variable {s : Service σ} (now : Instant) (user : User)

theorem sessionFor_makes (origin : Origin) :
    (s.sessionFor now user origin).Makes fun db _ db' =>
      ∃ opened, origin.Opens now user opened ∧
        db' = { db with sessions := db.sessions ++ opened } := by
  intro h sid h' hm run
  rcases origin with (_ | c) | old
  · cases run
    exact ⟨hm, [], rfl, by simp⟩
  · obtain ⟨session, h₁, hcreate, run⟩ := Action.bind_ok.mp run
    cases run
    obtain ⟨id, h₀, hdraw, hinsert⟩ := Action.bind_ok.mp hcreate
    cases hdraw
    obtain ⟨hm', hd⟩ := insertSession_makes _ (by exact hm) (Action.during_ok.mp hinsert)
    exact ⟨hm', _, ⟨_, rfl⟩, hd⟩
  · cases run
    exact ⟨hm, [], rfl, by simp⟩

/-- A new token of the given origin, with what came along. -/
structure Issues (now : Instant) (user : User) (origin : Origin) (db : Database) (i : IssuedToken)
    (db' : Database) : Prop where
  token : ∃ sid string, i.token = { user.newToken now origin sid string with id := db.nextTokenId }
  contents : ∃ opened, origin.Opens now user opened ∧
    db' = (({ db with sessions := db.sessions ++ opened } : Database).withToken i.token).signingIn
      now user

variable {now user} in
/-- What the issue of a token leaves, once its session is there. -/
theorem issue_ok (hu : s.users = .table) {origin : Origin} {i : IssuedToken} {h h' : Host σ}
    (run : s.issue now user origin h = (.ok i, h')) :
    ∃ sid h₁ string, s.sessionFor now user origin h = (.ok sid, h₁) ∧
      i.token = { user.newToken now origin sid string with
        id := h₁.connection.data.nextTokenId } ∧
      h'.connection.data = (h₁.connection.data.withToken i.token).signingIn now user := by
  obtain ⟨sid, h₁, hsession, run⟩ := Action.bind_ok.mp run
  obtain ⟨string, h₂, hdraw, run⟩ := Action.bind_ok.mp run
  cases hdraw
  obtain ⟨id, h₃, hcreate, run⟩ := Action.bind_ok.mp run
  obtain ⟨stored, h₄, hload, run⟩ := Action.bind_ok.mp run
  obtain ⟨hstored, hd₄⟩ := createToken_loaded hcreate hload
  obtain ⟨sso, h₅, hbinding, run⟩ := Action.bind_ok.mp run
  have hd₅ := bindingOf_looks stored h₄
  rw [hbinding] at hd₅
  obtain ⟨⟨⟩, h₆, husers, run⟩ := Action.bind_ok.mp run
  rw [hu] at husers
  have hd₆ := UserDirectory.table_ok (Action.during_ok.mp husers)
  cases run
  exact ⟨sid, h₁, _, hsession, hstored, by rw [hd₆, hd₅, hd₄]⟩

theorem issue_makes (hu : s.users = .table) (origin : Origin) :
    (s.issue now user origin).Makes (Issues now user origin) := by
  intro h i h' hm run
  obtain ⟨sid, h₁, string, hsession, htoken, hd'⟩ := issue_ok hu run
  obtain ⟨hm₁, opened, hopened, hd₁⟩ := sessionFor_makes now user origin hm hsession
  have hnext : h₁.connection.data.nextTokenId = h.connection.data.nextTokenId := by rw [hd₁]; rfl
  refine ⟨by rw [hd']; exact hm₁, ⟨sid, string, ?_⟩, opened, hopened, by rw [hd', hd₁]⟩
  rw [htoken, hnext]

variable (ha : s.audit = .table)

include ha

theorem recordRevocation_makes :
    (s.recordRevocation now user).Makes fun db _ db' => db' = db.recording now user := by
  rw [recordRevocation, ha]
  exact .during (AuditLog.table_makes _ _ _ _ _) _

variable (hu : s.users = .table)

include hu

theorem swapWork_makes (old : RefreshToken) :
    (s.swapWork now user old).Makes fun db i db' =>
      ∃ q, Issues now user (.rotation old) ((db.recording now user).revoking now q) i db' := by
  intro h i h' hm run
  obtain ⟨⟨⟩, h₁, hrecord, run⟩ := Action.bind_ok.mp run
  obtain ⟨hm₁, hd₁⟩ := recordRevocation_makes now user ha hm hrecord
  obtain ⟨n, h₂, hrevoke, run⟩ := Action.bind_ok.mp run
  obtain ⟨hm₂, -, hd₂⟩ := Makes.write (Statement.revocation_makes now _) hm₁
    (Action.during_ok.mp hrevoke)
  split at run
  · cases run
  · obtain ⟨hm', hi⟩ := issue_makes now user hu _ hm₂ run
    rw [hd₂, hd₁] at hi
    exact ⟨hm', _, hi⟩

theorem exchangeWork_makes (token : String) :
    (s.exchangeWork now token).Makes fun db p db' => ∀ i, p = .issued i →
      ∃ user old q, old.token = token ∧
        Issues now user (.rotation old) ((db.recording now user).revoking now q) i db' := by
  intro h p h' hm run
  obtain ⟨⟨user, old⟩, h₀, hfind, run⟩ := Action.bind_ok.mp run
  obtain ⟨hm₀, hd₀, hfound⟩ := findUserWithToken_makes token hm hfind
  dsimp only at run
  split at run
  · cases run
    exact ⟨hm₀, fun _ hi => by cases hi⟩
  obtain ⟨⟨⟩, h₁, hrecord, run⟩ := Action.bind_ok.mp run
  obtain ⟨hm₁, hd₁⟩ := recordRevocation_makes now user ha hm₀ hrecord
  obtain ⟨n, h₂, hrevoke, run⟩ := Action.bind_ok.mp run
  obtain ⟨hm₂, -, hd₂⟩ := Makes.write (Statement.revocation_makes now _) hm₁
    (Action.during_ok.mp hrevoke)
  split at run
  · obtain ⟨t, h₃, hagain, run⟩ := Action.bind_ok.mp run
    cases run
    exact ⟨(Makes.of_looks (findToken_looks _) hm₂ hagain).1, fun _ hi => by cases hi⟩
  · obtain ⟨i, h₃, hissue, run⟩ := Action.bind_ok.mp run
    cases run
    obtain ⟨hm', hi⟩ := issue_makes now user hu _ hm₂ hissue
    rw [hd₂, hd₁, hd₀] at hi
    refine ⟨hm', ?_⟩
    rintro j ⟨⟩
    exact ⟨user, old, _, (Database.mem_of_token? hfound).2, hi⟩

end Service

end

/-! ## Requests -/

section

variable {σ α : Type} {h h₁ h' : Host σ}

/-- Contents that are committed stay. -/
theorem Connection.commit_ok_data {c c' : Connection} {u : Unit} (run : c.commit = (.ok u, c')) :
    c'.data = c.data := by
  unfold commit at run
  split at run
  · cases run
    rfl
  · split at run
    · cases run
    · split at run <;> cases run
      exact lapse_data _

theorem Action.finish_ok_data {a b : α}
    (run : (Action.finish (.ok a) : Action σ Error α) h = (.ok b, h')) :
    a = b ∧ h'.connection.data = h.connection.data := by
  obtain ⟨⟨⟩, h₂, hcommit, run⟩ := Action.bind_ok.mp run
  cases run
  obtain ⟨-, c, hc, rfl⟩ := Action.onConnection_ok.mp (Action.during_ok.mp hcommit)
  exact ⟨rfl, Connection.commit_ok_data hc⟩

/-- A transaction succeeds if its work does, and keeps what that has made of the contents. -/
theorem Action.transaction_ok {x : Action σ Error α} {a : α}
    (run : Action.transaction x h = (.ok a, h')) :
    ∃ h₁, x { h with connection := h.connection.begin } = (.ok a, h₁) ∧
      h'.connection.data = h₁.connection.data := by
  cases hc : h.connection.closed with
  | true =>
    rw [Action.transaction_closed x hc] at run
    cases run
  | false =>
    rw [Action.transaction_apply x hc] at run
    rcases hr : x { h with connection := h.connection.begin } with ⟨e | b, h₁⟩ <;> rw [hr] at run
    · cases run
    · obtain ⟨rfl, hd⟩ := Action.finish_ok_data run
      exact ⟨h₁, rfl, hd⟩

/-- A transaction that succeeds makes of the contents what its work does. -/
theorem Action.transaction_makes {x : Action σ Error α} {E : Database → α → Database → Prop}
    {a : α} (hx : x.Makes E) (hm : h.connection.data.schema = .migrated)
    (run : Action.transaction x h = (.ok a, h')) : E h.connection.data a h'.connection.data := by
  obtain ⟨h₁, hr, hd⟩ := Action.transaction_ok run
  rw [hd]
  exact (hx (h := { h with connection := h.connection.begin }) hm hr).2

namespace Service

variable {s : Service σ} {now : Instant}

/-- A token that was used before is answered by no new one. -/
theorem punish_ne_ok {t : RefreshToken} {i : IssuedToken} :
    s.punish now t h ≠ (.ok i, h') := by
  intro run
  obtain ⟨_, _, -, run⟩ := Action.bind_ok.mp run
  split at run
  · obtain ⟨_, _, -, run⟩ := Action.bind_ok.mp run
    cases run
  · cases run

theorem exchange_makes (ha : s.audit = .table) (hu : s.users = .table) {token : String}
    {i : IssuedToken} (hm : h.connection.data.schema = .migrated)
    (run : s.exchange now token h = (.ok i, h')) :
    ∃ user old q, old.token = token ∧
      Issues now user (.rotation old) ((h.connection.data.recording now user).revoking now q) i
        h'.connection.data := by
  cases hc : h.connection.closed with
  | true =>
    rw [exchange_closed s now token hc] at run
    cases run
  | false =>
    rw [exchange_apply s now token hc] at run
    rcases hr : s.exchangeWork now token { h with connection := h.connection.begin } with
      ⟨e | j | t, h₁⟩ <;> rw [hr] at run
    · cases run
    · obtain ⟨rfl, hd⟩ := Action.finish_ok_data run
      rw [hd]
      exact (exchangeWork_makes now ha hu token
        (h := { h with connection := h.connection.begin }) hm hr).2 _ rfl
    · exact absurd run punish_ne_ok

end Service

end

end RefreshChain
