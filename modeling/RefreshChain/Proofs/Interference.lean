import RefreshChain.Proofs.Issuance
import RefreshChain.Proofs.Rotations

/-!
# Exchanges under interference

Between the lookup of a token and its revocation, the audit log may do anything to the rows of the
store. So it stands for all that another writer may do to them in the meantime.

* `Statement.KeepsSchema`: what the statements have in common that it may use.
* `Service.Mints`, `Service.exchange_mints`: what an exchange that succeeds has done.
* `Service.Overtaken`: when the exchange comes to revoke the token, that is valid no more.
  `Service.exchange_overtaken`, `Service.exchange_undone`: what becomes of it then.
* `Connection.Lost`: meanwhile, the store has ended the transaction for want of ids.
  `Service.exchange_lost`: then nothing can be undone. `Action.Flat.sameOpen_or_lost`: nothing else
  can happen to it where the audit log has no transactions of its own.
* `exchange_mints_by_own_revocation`: an exchange gives a new token only where it has itself revoked
  the old one.
-/

namespace RefreshChain

/-! ## Connections -/

namespace Connection

variable {c c₁ c' : Connection}

/-- `c'` is `c` with the given contents. If the store had ended all transactions before and those
who opened them do not know, one may be open. -/
structure Left (c : Connection) (db : Database) (c' : Connection) : Prop where
  data : c'.data = db
  rest : ¬ c.Adrift → c' = c.showing db

/-- The store has ended what was open on `c`. Those who opened it do not know, and may have gone on
with other statements. -/
structure Lost (c c₁ : Connection) : Prop where
  none_open : c₁.checkpoints = []
  depth : c₁.depth = c.depth
  closed : c₁.closed = c.closed

theorem SameOpen.lost (h : c.SameOpen c₁) (h' : c₁.Lost c') : c.Lost c' :=
  ⟨h'.none_open, h'.depth.trans h.depth, h'.closed.trans h.closed⟩

theorem Lost.sameOpen (h : c.Lost c₁) (h' : c₁.SameOpen c') : c.Lost c' :=
  ⟨h'.checkpoints.trans h.none_open, h'.depth.trans h.depth, h'.closed.trans h.closed⟩

theorem Lost.trans (h : c.Lost c₁) (h' : c₁.Lost c') : c.Lost c' :=
  ⟨h'.none_open, h'.depth.trans h.depth, h'.closed.trans h.closed⟩

theorem Ended.lost (h : c.Ended c₁) : c.Lost c₁ := ⟨h.none_open, h.depth, h.closed⟩

/-- A transaction that is undone leaves the connection as it was before. -/
theorem Ordinary.undone_left (h : c.Ordinary) (h₁ : c₁.Ordinary) (he : c₁.enforced = c.enforced) :
    c.Left c.data (c₁.undone c.depth c.checkpoint c.checkpoints) := by
  refine ⟨undone_data _ _ _ _, fun ha => ?_⟩
  have hopen := not_adrift.mp ha
  unfold Connection.undone
  rw [h₁.withData, lapse_eq (by exact h₁.deferred) (by exact h.violations)]
  rcases c with ⟨⟩
  rcases c₁ with ⟨⟩
  obtain ⟨rfl, rfl, rfl, rfl, rfl, -, -⟩ := h
  obtain ⟨rfl, rfl, rfl, rfl, rfl, -, -⟩ := h₁
  simp_all [Connection.showing, checkpoint]

theorem Steady.hasTable (h : c.Steady) (db : Database) (hr : c.Reaches db) (t : Table) :
    db.hasTable t = true := by
  rcases hr with rfl | ⟨k, hk, rfl⟩
  · exact Database.hasTable_of_migrated h.schema t
  · exact Database.hasTable_of_migrated (h.saved k hk).2 t

theorem Left.showing {db db' : Database} (h : c.Left db c') : c.Left db' (c'.showing db') :=
  ⟨rfl, fun ha => by rw [h.rest ha]; rfl⟩

end Connection

/-! ## Statements -/

namespace Statement

/-- The statement leaves tables, indexes and triggers alone. -/
def KeepsSchema ⦃α : Type⦄ (s : Statement α) : Prop :=
  ∀ ⦃w a w'⦄, s.run w = .ok (a, w') → w'.data.schema = w.data.schema

theorem OfRows.keepsSchema ⦃α : Type⦄ {s : Statement α} (hs : s.OfRows) : s.KeepsSchema :=
  fun _ _ _ run => (hs.sameBuild run).schema

end Statement

/-! ## Work within one transaction -/

namespace Action

/-- Actions put together from statements, looks, draws from the own source, and failures, with no
transaction of their own. -/
inductive Flat {σ : Type} : {ε α : Type} → Action σ ε α → Prop where
  | pure {ε α : Type} (a : α) : Flat (Pure.pure a : Action σ ε α)
  | fail {ε α : Type} (e : ε) : Flat (fail e : Action σ ε α)
  | draw {ε α : Type} (f : σ → α × σ) : Flat (draw f : Action σ ε α)
  | write {α : Type} (s : Statement α) : Flat (write s)
  | read {α : Type} (tables : List Table) (f : Database → α) : Flat (read tables f)
  | bind {ε α β : Type} {x : Action σ ε α} {f : α → Action σ ε β} (first : Flat x)
      (next : ∀ a, Flat (f a)) : Flat (x >>= f)
  | attempt {ε ε' α : Type} {x : Action σ ε α} (work : Flat x) :
      Flat (attempt x : Action σ ε' (Except ε α))
  | mapError {ε ε' α : Type} {x : Action σ ε α} (f : ε → ε') (work : Flat x) :
      Flat (x.mapError f)

/-- What is open stays open, or the store ends all of it. -/
theorem Flat.sameOpen_or_lost {σ ε α : Type} {x : Action σ ε α} (hx : x.Flat) (h : Host σ) :
    h.connection.SameOpen (x h).2.connection ∨ h.connection.Lost (x h).2.connection := by
  induction hx generalizing h with
  | pure | fail | draw => exact .inl (.refl _)
  | write s =>
    rw [Action.write, onConnection_connection]
    split
    · exact .inl (.refl _)
    · rcases Connection.execute_sameOpen_or_ended (c := h.connection) (s := s) rfl with hs | ⟨-, he⟩
      · exact .inl hs
      · exact .inr he.lost
  | read tables f =>
    rw [Action.read, onConnection_connection]
    split
    · exact .inl (.refl _)
    · exact .inl (Connection.look_sameOpen rfl)
  | @bind _ _ _ x f _ _ hx hf =>
    rw [bind_apply]
    have hfirst := hx h
    rcases hr : x h with ⟨e | a, h₁⟩ <;> rw [hr] at hfirst
    · exact hfirst
    · rcases hfirst, hf a h₁ with ⟨hs | hl, hs' | hl'⟩
      · exact .inl (hs.trans hs')
      · exact .inr (hs.lost hl')
      · exact .inr (hl.sameOpen hs')
      · exact .inr (hl.trans hl')
  | attempt _ hx => exact hx h
  | @mapError _ _ _ x f _ hx =>
    have hsame : (x.mapError f h).2 = (x h).2 := by
      unfold Action.mapError
      rcases x h with ⟨_ | _, _⟩ <;> rfl
    rw [hsame]
    exact hx h

end Action

/-- Why a trigger refuses to have the family of a token revoked. Where there is no family, there is
nothing to refuse. -/
def Database.familyRefusal? (db : Database) (start : RefreshToken) : Option Refusal :=
  if db.tokens.any (db.inFamilyOf start) then
    (db.schema.refusal? .refreshTokens .update).map .trigger
  else none

namespace Database

variable {db : Database} {start : RefreshToken}

theorem familyRefusal?_some {r : Refusal} (h : db.familyRefusal? start = some r) :
    ∃ m, r = .trigger m := by
  unfold familyRefusal? at h
  split at h
  · obtain ⟨m, -, rfl⟩ := Option.map_eq_some_iff.mp h
    exact ⟨m, rfl⟩
  · cases h

/-- The refusal is that of the change of as many tokens as the family has. -/
theorem refuseOn_family {w : Work} (hw : w.data = db) (start : RefreshToken) :
    w.refuseOn .refreshTokens .update (db.tokens.countP (db.inFamilyOf start)) =
      match db.familyRefusal? start with
      | none => .ok ()
      | some r => .error r := by
  subst hw
  unfold familyRefusal? Work.refuseOn
  cases hn : w.data.tokens.countP (w.data.inFamilyOf start) with
  | zero =>
    have hnone : w.data.tokens.any (w.data.inFamilyOf start) = false := by
      simpa using List.countP_eq_zero.mp hn
    rw [hnone]
    rfl
  | succ n =>
    have hsome : w.data.tokens.any (w.data.inFamilyOf start) = true := by
      obtain ⟨t, ht, hin⟩ := List.countP_pos_iff.mp (by rw [hn]; exact Nat.succ_pos n)
      exact List.any_eq_true.mpr ⟨t, ht, hin⟩
    rw [if_pos hsome]
    cases w.data.schema.refusal? .refreshTokens .update <;> rfl

end Database

section

variable {σ α : Type} {h : Host σ} (ho : h.connection.Ordinary)

include ho

theorem Action.write_ordinary {s : Statement α} {a : α} {db : Database} (hp : s.purpose = .change)
    (run : s.run (h.connection.work .change) =
      .ok (a, { h.connection.work .change with data := db })) :
    (Action.write s : Action σ StoreError α) h =
      (.ok a, { h with connection := h.connection.showing db }) := by
  have hx : h.connection.execute s = (.ok a, h.connection.showing db) :=
    ho.execute_ok.mpr ⟨_, hp ▸ run, Int.le_of_eq ho.violations, rfl⟩
  exact Action.onConnection_ok.mpr ⟨ho.closed, _, hx, rfl⟩

theorem Action.write_refused {s : Statement α} {m : String} (hp : s.purpose = .change)
    (run : s.run (h.connection.work .change) = .error (.trigger m)) :
    (Action.write s : Action σ StoreError α) h =
      (.error (.execution (.refused (.trigger m))), h) := by
  have hx : h.connection.execute s = (.error (.trigger m), h.connection) := by
    have hlapse := Connection.lapse_eq ho.deferred ho.violations
    simp [Connection.execute, hp, run, ho.readOnly, Connection.refuse, Refusal.atPreparation,
      ho.prepared, hlapse]
  exact Action.onConnection_error.mpr (.inr ⟨ho.closed, _, _, hx, rfl, rfl⟩)

variable (htable : h.connection.data.hasTable .refreshTokens = true) (now : Instant)

include htable

/-- A token that is valid no more is not revoked. -/
theorem revokeIfValid_none {old : RefreshToken}
    (hnone : ∀ t ∈ h.connection.data.tokens, t.id = old.id → t.revoked = true) :
    revokeIfValid now old h = (.ok 0, h) := by
  have hfits : ∀ t ∈ h.connection.data.tokens, ¬ Service.stillValid old t := by
    intro t ht hfit
    obtain ⟨hid, hvalid⟩ := Bool.and_eq_true_iff.mp hfit
    simp [hnone t ht (by simpa using hid)] at hvalid
  have hcount : h.connection.data.tokens.countP (Service.stillValid old) = 0 :=
    List.countP_eq_zero.mpr hfits
  have hsame : (h.connection.data.tokens.map fun t =>
      if Service.stillValid old t then t.revokedAt now else t) = h.connection.data.tokens :=
    (List.map_congr_left fun t ht => if_neg (hfits t ht)).trans (List.map_id _)
  have hrun := Statement.updateTokens_eq (w := h.connection.work .change) htable
    (Service.stillValid old) (·.revokedAt now)
  rw [show (h.connection.work .change).data = h.connection.data from rfl, hcount, hsame] at hrun
  exact Action.during_ok.mpr (Action.write_ordinary ho rfl hrun)

/-- The family is revoked unless a trigger refuses that. -/
theorem revokeFamily_ordinary (start : RefreshToken) :
    revokeFamily now start h =
      match h.connection.data.familyRefusal? start with
      | none => (.ok (), { h with
          connection := h.connection.showing (h.connection.data.revokingFamily now start) })
      | some r => (.error (.refused familyContext r), h) := by
  have hrun : (Statement.revokeFamily now start).run (h.connection.work .change) = _ :=
    Statement.updateTokens_eq (w := h.connection.work .change) htable
      (h.connection.data.inFamilyOf start) (·.revokedAt now)
  have hrefuse := h.connection.data.refuseOn_family (w := h.connection.work .change) rfl start
  rw [show (h.connection.work .change).data = h.connection.data from rfl, hrefuse] at hrun
  cases hr : h.connection.data.familyRefusal? start with
  | none =>
    rw [hr] at hrun
    exact Action.bind_of_ok (Action.during_ok.mpr (Action.write_ordinary ho rfl hrun))
  | some r =>
    rw [hr] at hrun
    obtain ⟨m, rfl⟩ := Database.familyRefusal?_some hr
    exact Action.bind_of_error (Action.during_of_error (Action.write_refused ho rfl hrun))

end

/-! ## Exchanges that succeed -/

/-- Once the tokens with an id have been revoked that were still valid, none with that id is. -/
theorem Database.revoked_of_mem_revoking {db : Database} {now : Instant} {old t : RefreshToken}
    (ht : t ∈ (db.revoking now (Service.stillValid old)).tokens) (hid : t.id = old.id) :
    t.revoked = true := by
  obtain ⟨r, -, rfl⟩ := List.mem_map.mp ht
  split at hid
  · rename_i hfit
    rw [if_pos hfit]
    rfl
  · rename_i hother
    rw [if_neg hother]
    simpa [Service.stillValid, hid] using hother

section

variable {σ : Type} {h h₁ h' : Host σ} {now : Instant} {user : User}

namespace Service

variable {s : Service σ} {i : IssuedToken}

/-- An exchange has itself revoked the token that it has found, after the audit log had been called
and had left `h₁`, and has issued `i` for it. -/
structure Mints (s : Service σ) (now : Instant) (token : String) (h h₁ : Host σ) (user : User)
    (old : RefreshToken) (i : IssuedToken) (db' : Database) : Prop where
  found : h.connection.data.presented token = .ok (user, old)
  valid : old.revoked = false
  noted : s.Noted now user h h₁
  stillValid : ∃ t ∈ h₁.connection.data.tokens, t.id = old.id ∧ t.revoked = false
  revoked : ∀ t ∈ db'.tokens, t.id = old.id → t.revoked = true
  parent : i.token.parent = some token
  contents : db' = ((h₁.connection.data.revoking now (Service.stillValid old)).withToken
    i.token).signingIn now user

/-- What an exchange that succeeds leaves, on any store. -/
theorem exchange_mints (hu : s.users = .table) (hq : h.connection.Quiet) {token : String}
    (run : s.exchange now token h = (.ok i, h')) :
    ∃ h₁ user old, s.Mints now token h h₁ user old i h'.connection.data := by
  obtain ⟨user, old, h₁, n, h₂, h₃, hfind, hvalid, hnoted, hrevoke, hn, hissue, hfinish⟩ :=
    exchange_ok hq run
  have hp := Database.lookUp_ok hfind
  obtain ⟨hcount, hd₂⟩ := revokeIfValid_ok hrevoke
  obtain ⟨sid, h₂', string, hsession, htoken, hd₃⟩ := issue_ok hu hissue
  cases hsession
  obtain ⟨-, hd'⟩ := Action.finish_ok_data hfinish
  obtain ⟨t, ht, hfit⟩ := List.countP_pos_iff.mp
    (show 0 < h₁.connection.data.tokens.countP (Service.stillValid old) by omega)
  obtain ⟨hid, hfit⟩ := Bool.and_eq_true_iff.mp hfit
  have hid : t.id = old.id := by simpa using hid
  refine ⟨h₁, user, old, hp, hvalid, hnoted, ⟨t, ht, hid, by simpa using hfit⟩, ?_, ?_,
    by rw [hd', hd₃, hd₂]⟩
  · intro u hmem hu
    rw [hd', hd₃, hd₂] at hmem
    rcases List.mem_append.mp hmem with hmem | hmem
    · exact Database.revoked_of_mem_revoking hmem hu
    · -- The new token has an id that no token had before.
      have hlt := Database.lt_nextTokenId ht
      rw [List.mem_singleton.mp hmem, htoken, hd₂, Database.nextTokenId_revoking] at hu
      exact absurd (hid.trans hu.symm) (Int.ne_of_lt hlt)
  · rw [htoken]
    exact congrArg some (Database.mem_of_token? (Database.presented_ok hp).2.1).2

end Service

end

/-! ## Exchanges that are overtaken -/

section

variable {σ : Type} {s : Service σ} {now : Instant} {token : String} {user : User}
  {old : RefreshToken} {h h₁ : Host σ}

namespace Service

/-- Within the transaction of an exchange the audit log has been called and has left `h₁`, where the
token is not valid any more. -/
structure Overtaken (s : Service σ) (now : Instant) (user : User) (old : RefreshToken)
    (h h₁ : Host σ) : Prop where
  noted : s.Noted now user h h₁
  invalid : ∀ t ∈ h₁.connection.data.tokens, t.id = old.id → t.revoked = true

/-- What the audit log leaves is in ordinary use, too, and has the same settings and tables. -/
theorem Noted.ordinary (hnoted : s.Noted now user h h₁) (ho : h.connection.Ordinary)
    (htables : ∀ db, h.connection.Reaches db → ∀ t, db.hasTable t = true)
    (ha : (s.audit now user.instanceId user .tokenRevoked none).MadeOf Statement.KeepsSchema) :
    h₁.connection.Ordinary ∧ h₁.connection.enforced = h.connection.enforced ∧
      ∀ t, h₁.connection.data.hasTable t = true := by
  have hkeeps := Connection.stable_reaches (A := Statement.KeepsSchema)
    (P := fun db => ∀ t, db.hasTable t = true) fun _ _ hs _ _ _ hp run t => by
      rw [Database.hasTable, hs run]
      exact hp t
  have hstable := (Connection.Ordinary.enduring.stable.and
    (Connection.Enduring.of_setting (·.enforced) (fun _ _ _ _ _ _ _ => rfl)
      h.connection.enforced).stable).and hkeeps
  have hkept := ha.keeps hstable (h := { h with connection := h.connection.begin })
    ⟨⟨ho.begin, rfl⟩, fun db hr => htables db hr.of_begin⟩
  rw [hnoted] at hkept
  exact ⟨hkept.1.1, hkept.1.2, hkept.2 _ (.inl rfl)⟩

section

variable (hp : h.connection.data.lookUp token = .ok (user, old)) (hvalid : old.revoked = false)
  (hover : s.Overtaken now user old h h₁) (ho : h.connection.Ordinary)
  (ho₁ : h₁.connection.Ordinary)
  (htable : h₁.connection.data.hasTable .refreshTokens = true)

include hp hvalid hover ho ho₁ htable

/-- The work revokes nothing, and looks for the string of the token again. -/
theorem exchangeWork_overtaken :
    s.exchangeWork now token { h with connection := h.connection.begin } =
      ((h₁.connection.data.findToken token).map .reused, h₁) := by
  have hstring : old.token = token :=
    (Database.mem_of_token? (Database.presented_ok (Database.lookUp_ok hp)).2.1).2
  rw [exchangeWork_of_lookUp ho.quiet hp hvalid, Action.bind_of_ok hover.noted.recordRevocation,
    Action.bind_of_ok (revokeIfValid_none ho₁ htable now hover.invalid), if_pos rfl,
    Action.bind_apply, hstring, findToken_quiet ho₁.quiet]
  cases h₁.connection.data.findToken token <;> rfl

/-- So the exchange ends with what the audit log has left. -/
theorem exchange_overtaken :
    s.exchange now token h =
      match h₁.connection.data.token? token with
      | none => (.error .tokenNotFound, (Action.rollback h₁ : Except StoreError Unit × Host σ).2)
      | some current => s.punish now current h₁ := by
  rw [exchange_apply s now token ho.closed, exchangeWork_overtaken hp hvalid hover ho ho₁ htable,
    Database.findToken_of_hasTable htable]
  cases h₁.connection.data.token? token <;> rfl

end

/-- As long as the transaction is open, what the audit log did is undone. -/
theorem rollback_overtaken (ho : h.connection.Ordinary) (ho₁ : h₁.connection.Ordinary)
    (he : h₁.connection.enforced = h.connection.enforced)
    (hopen : h.connection.begin.SameOpen h₁.connection) :
    ∃ h₂, (Action.rollback h₁ : Except StoreError Unit × Host σ) = (.ok (), h₂) ∧
      h₂.connection.Ordinary ∧ h.connection.Left h.connection.data h₂.connection := by
  have hout : Connection.outTo h.connection.depth h₁.connection.checkpoints =
      some (h.connection.checkpoint, h.connection.checkpoints) := by
    rw [hopen.begun.1]
    exact Connection.outTo_begin ho.tracked
  exact ⟨_, Action.rollback_of_sameOpen ho.closed ho.tracked hopen, ho₁.undone hout,
    ho.undone_left ho₁ he⟩

/-- What the store has ended cannot be undone. -/
theorem rollback_lost (hc : h₁.connection.closed = false)
    (hlost : h.connection.begin.Lost h₁.connection) :
    ∃ source h₂, (Action.rollback h₁ : Except StoreError Unit × Host σ) = (.error source, h₂) ∧
      h₂.connection.data = h₁.connection.data :=
  ⟨_, _, by rw [Action.rollback_apply hc,
    Connection.rollback_of_none_open hlost.depth hlost.none_open]; rfl, by simp⟩

variable (s now) in
/-- So the family is not dealt with. -/
theorem punish_lost (hc : h₁.connection.closed = false)
    (hlost : h.connection.begin.Lost h₁.connection) (current : RefreshToken) :
    ∃ source h₂, s.punish now current h₁ =
        (.error (.persistence "error rolling back transaction" source), h₂) ∧
      h₂.connection.data = h₁.connection.data := by
  obtain ⟨source, h₂, hroll, hdata⟩ := rollback_lost hc hlost
  exact ⟨source, h₂, Action.bind_of_error (Action.during_of_error hroll), hdata⟩

/-- After the rollback, the family is dealt with as it is then. -/
theorem punish_of_rollback {h₂ : Host σ} {current : RefreshToken}
    (hroll : (Action.rollback h₁ : Except StoreError Unit × Host σ) = (.ok (), h₂))
    (ho₂ : h₂.connection.Ordinary) (htable : h₂.connection.data.hasTable .refreshTokens = true) :
    s.punish now current h₁ =
      if s.config.rotationEnabled then
        match h₂.connection.data.familyRefusal? current with
        | none => (.error .tokenReused, { h₂ with
            connection := h₂.connection.showing (h₂.connection.data.revokingFamily now current) })
        | some r => (.error (.refused familyContext r), h₂)
      else (.error .tokenReused, h₂) := by
  rw [punish, Action.bind_of_ok (Action.during_ok.mpr hroll)]
  split
  · rw [Action.bind_apply, revokeFamily_ordinary ho₂ htable]
    cases h₂.connection.data.familyRefusal? current <;> rfl
  · rfl

section

variable (hx : s.exchange now token h =
  match h₁.connection.data.token? token with
  | none => (.error .tokenNotFound, (Action.rollback h₁ : Except StoreError Unit × Host σ).2)
  | some current => s.punish now current h₁)

include hx

/-- An exchange that ends so, where the transaction is still open. -/
theorem exchange_undone (ho : h.connection.Ordinary) (ho₁ : h₁.connection.Ordinary)
    (he : h₁.connection.enforced = h.connection.enforced)
    (htable : h.connection.data.hasTable .refreshTokens = true)
    (hopen : h.connection.begin.SameOpen h₁.connection) :
    let db := h.connection.data
    let answer := (s.exchange now token h).1
    let after := (s.exchange now token h).2.connection
    (h₁.connection.data.token? token = none →
      answer = .error .tokenNotFound ∧ h.connection.Left db after) ∧
    ∀ current, h₁.connection.data.token? token = some current →
      (s.config.rotationEnabled = false →
        answer = .error .tokenReused ∧ h.connection.Left db after) ∧
      (s.config.rotationEnabled = true → db.familyRefusal? current = none →
        answer = .error .tokenReused ∧
          h.connection.Left (db.revokingFamily now current) after) ∧
      ∀ r, s.config.rotationEnabled = true → db.familyRefusal? current = some r →
        answer = .error (.refused familyContext r) ∧ h.connection.Left db after := by
  intro db answer after
  obtain ⟨h₂, hroll, ho₂, hleft⟩ := rollback_overtaken ho ho₁ he hopen
  have left : ∀ {o h' db'}, s.exchange now token h = (o, h') →
      h.connection.Left db' h'.connection → answer = o ∧ h.connection.Left db' after := by
    intro o h' db' run hl
    have hafter : after = h'.connection := congrArg (·.2.connection) run
    exact ⟨congrArg Prod.fst run, hafter.symm ▸ hl⟩
  refine ⟨fun hnone => left ?_ hleft, fun current hcurrent => ?_⟩
  · rw [hx, hnone]
    exact congrArg (Except.error Error.tokenNotFound, ·.2) hroll
  have hpunish : s.punish now current h₁ = _ :=
    punish_of_rollback hroll ho₂ (by rw [hleft.data]; exact htable)
  rw [hcurrent] at hx
  dsimp only at hx
  rw [hpunish, hleft.data] at hx
  refine ⟨fun hoff => left ?_ hleft, fun hon hnone => ?_, fun r hon hr => left ?_ hleft⟩
  · rw [hx, hoff]
    rfl
  · rw [hon, hnone] at hx
    exact left hx hleft.showing
  · rw [hx, hon, hr]
    rfl

/-- An exchange that ends so, where the store has ended the transaction. -/
theorem exchange_lost (hc : h₁.connection.closed = false)
    (hlost : h.connection.begin.Lost h₁.connection) :
    let answer := (s.exchange now token h).1
    (s.exchange now token h).2.connection.data = h₁.connection.data ∧
    (h₁.connection.data.token? token = none → answer = .error .tokenNotFound) ∧
    ∀ current, h₁.connection.data.token? token = some current →
      ∃ source, answer = .error (.persistence "error rolling back transaction" source) := by
  intro answer
  cases hcurrent : h₁.connection.data.token? token with
  | none =>
    obtain ⟨source, h₂, hroll, hdata⟩ := rollback_lost hc hlost
    rw [hcurrent, hroll] at hx
    refine ⟨?_, fun _ => congrArg Prod.fst hx, nofun⟩
    rw [hx]
    exact hdata
  | some current =>
    obtain ⟨source, h₂, hpunish, hdata⟩ := punish_lost s now hc hlost current
    rw [hcurrent] at hx
    have run : s.exchange now token h = _ := hx.trans hpunish
    refine ⟨?_, nofun, fun _ _ => ⟨source, congrArg Prod.fst run⟩⟩
    rw [run]
    exact hdata

end

end Service

end

/-! ## Outcomes -/

/-- An exchange of a token, where the audit log may do anything to the rows of all tables that are
there, whatever their indexes and triggers.

If the exchange succeeds, the token was valid when it was looked up, and its row was still there and
valid right after the audit log had been called. In the end it is revoked, and one token has been
added to what the audit log left, whose parent is the presented string.

If the row is not valid any more after the audit log has been called, no token is added. As long as
the transaction is open, it is answered whether there still is a token with the string, all that the
audit log did is undone, and only the family of the token that was found may be revoked, as it is
before the call. If a trigger refuses that, this is the answer, and nothing changes.

The store may have ended the transaction meanwhile, if no id was left for a new token and the audit
log did not pass that on. Then what the audit log left stays, and the failure to undo it is the
answer, unless there is no token with the string. Where the audit log has no transactions of its
own, one of the two is the case. -/
theorem exchange_mints_by_own_revocation {σ : Type} {s : Service σ} {h : Host σ}
    (ho : h.connection.Ordinary)
    (htables : ∀ db, h.connection.Reaches db → ∀ t, db.hasTable t = true)
    (ha : ∀ now instanceId user action detail,
      (s.audit now instanceId user action detail).MadeOf Statement.KeepsSchema)
    (hu : s.users = .table) (now : Instant) (token : String) :
    let db := h.connection.data
    (∀ i h', s.exchange now token h = (.ok i, h') →
      ∃ h₁ user old, s.Mints now token h h₁ user old i h'.connection.data) ∧
    ∀ user old h₁, db.presented token = .ok (user, old) → old.revoked = false →
      s.Overtaken now user old h h₁ →
      let answer := (s.exchange now token h).1
      let after := (s.exchange now token h).2.connection
      ((s.audit now user.instanceId user .tokenRevoked none).Flat →
        h.connection.begin.SameOpen h₁.connection ∨ h.connection.begin.Lost h₁.connection) ∧
      (h.connection.begin.SameOpen h₁.connection →
        (h₁.connection.data.token? token = none →
          answer = .error .tokenNotFound ∧ h.connection.Left db after) ∧
        ∀ current, h₁.connection.data.token? token = some current →
          (s.config.rotationEnabled = false →
            answer = .error .tokenReused ∧ h.connection.Left db after) ∧
          (s.config.rotationEnabled = true → db.familyRefusal? current = none →
            answer = .error .tokenReused ∧
              h.connection.Left (db.revokingFamily now current) after) ∧
          ∀ r, s.config.rotationEnabled = true → db.familyRefusal? current = some r →
            answer = .error (.refused familyContext r) ∧ h.connection.Left db after) ∧
      (h.connection.begin.Lost h₁.connection →
        after.data = h₁.connection.data ∧
        (h₁.connection.data.token? token = none → answer = .error .tokenNotFound) ∧
        ∀ current, h₁.connection.data.token? token = some current →
          ∃ source, answer = .error (.persistence "error rolling back transaction" source)) := by
  intro db
  refine ⟨fun i h' run => Service.exchange_mints hu ho.quiet run,
    fun user old h₁ hp hvalid hover => ?_⟩
  intro answer after
  have htokens := htables db (.inl rfl) .refreshTokens
  rw [← Database.lookUp_of_hasTable htokens (htables db (.inl rfl) .users)] at hp
  obtain ⟨ho₁, he, htables₁⟩ := hover.noted.ordinary ho htables (ha _ _ _ _ _)
  have hx := Service.exchange_overtaken hp hvalid hover ho ho₁ (htables₁ _)
  refine ⟨fun hflat => ?_, Service.exchange_undone hx ho ho₁ he htokens,
    Service.exchange_lost hx ho₁.closed⟩
  have hends := hflat.sameOpen_or_lost { h with connection := h.connection.begin }
  rwa [hover.noted] at hends

namespace Sample

/-- A host where Alice's first token is valid although it has been exchanged. -/
def contested : Host Nat :=
  (Action.write (.amendToken "t" { revoked := some false }) rotated : Except StoreError Nat × _).2

/-- A service whose audit log leaves the place to somebody who does something to the rows. -/
def rivalled (s : Statement Nat) : Service Nat :=
  { service with
    audit := fun _ _ _ _ _ => do
      let _ ← Action.write s }

theorem inUse_contested : contested.InUse :=
  .act inUse_rotated (.write (.updateTokens _ fun _ => ⟨rfl, rfl, fun _ => rfl, fun _ => rfl⟩))

/-- Alice, once she has signed in. -/
def signedIn : User := alice.signedInAt time

/-- What comes of the call of the audit log. -/
def meanwhile (s : Statement Nat) : Except StoreError Unit × Host Nat :=
  (rivalled s).audit time signedIn.instanceId signedIn .tokenRevoked none
    { contested with connection := contested.connection.begin }

/-- The transaction is still open then. -/
theorem overtaken {s : Statement Nat} (hok : (meanwhile s).1 = .ok ())
    (hinvalid : ∀ t ∈ (meanwhile s).2.connection.data.tokens, t.id = 1 → t.revoked = true) :
    (rivalled s).Overtaken time signedIn { first with revoked := false } contested
        (meanwhile s).2 ∧
      contested.connection.begin.SameOpen (meanwhile s).2.connection :=
  have hnoted : meanwhile s = (.ok (), (meanwhile s).2) := Prod.ext hok rfl
  have hopen : (rivalled s).audit.LeavesOpen fun _ => False := fun _ _ _ _ _ =>
    .bind (.write s) fun _ => .pure _
  ⟨⟨hnoted, hinvalid⟩, (hopen _ _ _ _ _).of_ok hnoted⟩

end Sample

/-- Alice's first token is exchanged. Meanwhile somebody deletes the second one, or all tokens, or
revokes all of them. -/
theorem contested_exchange_mints :
    let db := Sample.contested.connection.data
    let exchange s := (Sample.rivalled s).exchange Sample.time "t" Sample.contested
    let others : Statement Nat := .deleteTokens (·.token = "tt")
    let all : Statement Nat := .deleteTokens fun _ => true
    let revoked : Statement Nat := .updateTokens [] (fun _ => true) (·.revokedAt Sample.time)
    (∃ i h', exchange others = (.ok i, h') ∧ i.token.parent = some "t") ∧
      ((exchange all).1 = .error .tokenNotFound ∧ (exchange all).2.connection.data = db) ∧
      (exchange revoked).1 = .error .tokenReused ∧
        (exchange revoked).2.connection.data = db.revokingFamily Sample.time Sample.first ∧
        (db.revokingFamily Sample.time Sample.first).tokens.map (fun t => (t.token, t.revoked)) =
          [("t", false), ("tt", true)] := by
  intro db exchange others all revoked
  obtain ⟨hst, -⟩ := Sample.inUse_contested.sound
  have hfound : db.presented "t" =
      .ok (Sample.signedIn, { Sample.first with revoked := false }) := by
    decide +kernel
  have outcome (s : Statement Nat) (hs : s.OfRows) :=
    exchange_mints_by_own_revocation (s := Sample.rivalled s) hst.ordinary hst.hasTable
      (fun _ _ _ _ _ => .bind (.write hs.keepsSchema) fun _ => .pure _) rfl Sample.time "t"
  refine ⟨?_, ?_, ?_⟩
  · have hok : (exchange others).1.isOk = true := by decide +kernel
    obtain ⟨i, h', run⟩ := ok_of_isOk hok
    obtain ⟨_, _, _, hmints⟩ := (outcome others (.deleteTokens _)).1 i h' run
    exact ⟨i, h', run, hmints.parent⟩
  · obtain ⟨hover, hopen⟩ := Sample.overtaken (s := all) (by decide +kernel) (by decide +kernel)
    obtain ⟨-, hleft, -⟩ := (outcome all (.deleteTokens _)).2 _ _ _ hfound rfl hover
    obtain ⟨answer, left⟩ := (hleft hopen).1 (by decide +kernel)
    exact ⟨answer, left.data⟩
  · obtain ⟨hover, hopen⟩ := Sample.overtaken (s := revoked) (by decide +kernel) (by decide +kernel)
    have hs : revoked.OfRows := .updateTokens _ fun _ => ⟨rfl, rfl, fun _ => rfl, fun _ => rfl⟩
    obtain ⟨-, hleft, -⟩ := (outcome revoked hs).2 _ _ _ hfound rfl hover
    obtain ⟨-, hfree, -⟩ := (hleft hopen).2 Sample.first (by decide +kernel)
    obtain ⟨answer, left⟩ := hfree rfl (by decide +kernel)
    exact ⟨answer, left.data, by decide +kernel⟩

/-- With no id left, an audit log that does not pass that on loses the transaction. It revokes the
only token, and that cannot be undone. -/
theorem heedless_exchange_stays :
    let exchange := Sample.heedless.exchange Sample.time "t" Sample.filled
    Sample.filled.InUse ∧ Sample.heedless.MadeOf Statement.OfRows ∧
      Sample.filled.connection.data.tokens = [Sample.last] ∧ Sample.last.revoked = false ∧
      exchange.1 = .error (.persistence "error rolling back transaction"
        (.query (.refused .nothingToRollBack))) ∧
      exchange.2.connection.data.tokens = [Sample.last.revokedAt Sample.time] := by
  intro exchange
  have revocation : Statement.OfRows
      (.updateTokens [] (fun _ => true) (·.revokedAt Sample.time) : Statement Nat) :=
    .updateTokens _ fun _ => ⟨rfl, rfl, fun _ => rfl, fun _ => rfl⟩
  have users := Host.InUse.act (.start 0) (.write (.insertUser Sample.alice))
  have used : Sample.filled.InUse := .act users (.write (.insertToken _ _))
  have made : Sample.heedless.MadeOf Statement.OfRows :=
    { audit := fun _ _ _ _ _ => .bind (.attempt (.write (.insertToken _ _))) fun _ =>
        .bind (.write revocation) fun _ => .pure _
      users := Sample.service_madeOf_ofRows.users }
  exact ⟨used, made, by decide +kernel, rfl, by decide +kernel, by decide +kernel⟩

end RefreshChain
