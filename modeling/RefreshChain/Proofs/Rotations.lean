import RefreshChain.Proofs.Integrity
import RefreshChain.Proofs.Lookups
import RefreshChain.Proofs.Store.Keys

/-!
# Two ways to rotate a token

An exchange looks a token up within its transaction, and revokes it only if it is still valid. A
caller may as well look the token up first and then swap it. Whatever the collaborators do, this
comes to the same as long as they leave the token valid.

* `Service.lookUpAndSwap`: the second way.
* `rotations_agree`: what comes of both.
-/

namespace RefreshChain

/-- Looks up a token with its owner, and then swaps it. -/
def Service.lookUpAndSwap {σ : Type} (s : Service σ) (now : Instant) (token : String) :
    Action σ Error IssuedToken := do
  let (user, old) ← findUserWithToken token
  s.swap now user old

/-! ## Revocations -/

/-- Conditions that the same tokens fit come to the same. -/
theorem Statement.updateTokens_congr {p q : RefreshToken → Bool}
    (f : RefreshToken → RefreshToken) {w : Work} (h : ∀ t ∈ w.data.tokens, p t = q t) :
    (updateTokens [] p f).run w = (updateTokens [] q f).run w := by
  have hcount : w.data.tokens.countP p = w.data.tokens.countP q :=
    List.countP_congr fun t ht => by rw [h t ht]
  have hmap : w.data.tokens.map (fun t => if p t then f t else t) =
      w.data.tokens.map fun t => if q t then f t else t :=
    List.map_congr_left fun t ht => by rw [h t ht]
  simp only [updateTokens, recounts_none, hcount, hmap]

/-- Statements that run alike are carried out alike. -/
theorem Action.write_congr {σ α : Type} {s t : Statement α} {h : Host σ}
    (hp : s.purpose = t.purpose)
    (hrun : s.run (h.connection.work s.purpose) = t.run (h.connection.work t.purpose)) :
    (Action.write s : Action σ StoreError α) h = Action.write t h := by
  unfold Action.write Action.onConnection Connection.execute
  rw [hp] at hrun ⊢
  rw [hrun]

section

variable {σ : Type} {now : Instant} {old : RefreshToken} {h h' : Host σ}

/-- While the token is valid, its revocation does not depend on that. -/
theorem revokeIfValid_of_valid
    (hvalid : ∀ t ∈ h.connection.data.tokens, t.id = old.id → t.revoked = false) :
    revokeIfValid now old h = markRevoked now old h := by
  have hfits : ∀ t ∈ h.connection.data.tokens,
      (t.id = old.id && !t.revoked) = decide (t.id = old.id) := fun t ht => by
    by_cases hid : t.id = old.id
    · simp [hid, hvalid t ht hid]
    · simp [hid]
  have hrun := Statement.updateTokens_congr (w := h.connection.work .change) (·.revokedAt now) hfits
  have hwrite : (Action.write (.updateTokens [] (Service.stillValid old) (·.revokedAt now)) :
      Action σ StoreError Nat) h =
        Action.write (.updateTokens [] (·.id = old.id) (·.revokedAt now)) h :=
    Action.write_congr rfl hrun
  unfold revokeIfValid markRevoked Action.during Action.mapError
  rw [← hwrite]

/-- A revocation revokes what it is about, and tells how many tokens that are. -/
theorem markRevoked_ok {n : Nat} (run : markRevoked now old h = (.ok n, h')) :
    n = h.connection.data.tokens.countP (·.id = old.id) ∧
      h'.connection.data = h.connection.data.revoking now (·.id = old.id) := by
  obtain ⟨w, hw, hd⟩ := Action.write_ran (Action.during_ok.mp run)
  exact (Statement.updateTokens_ok hw).imp_right hd.trans

theorem revokeIfValid_ok {n : Nat} (run : revokeIfValid now old h = (.ok n, h')) :
    n = h.connection.data.tokens.countP (Service.stillValid old) ∧
      h'.connection.data = h.connection.data.revoking now (Service.stillValid old) := by
  obtain ⟨w, hw, hd⟩ := Action.write_ran (Action.during_ok.mp run)
  exact (Statement.updateTokens_ok hw).imp_right hd.trans

end

/-! ## The work -/

namespace Service

variable {σ : Type} {s : Service σ} {now : Instant} {token : String} {user : User}
  {old : RefreshToken} {h : Host σ}

/-- The audit log, if it notes anything, leaves the token there, and valid. -/
def Spares (s : Service σ) (now : Instant) (user : User) (old : RefreshToken) (h : Host σ) : Prop :=
  ∀ h₁, s.Noted now user h h₁ →
    (∃ t ∈ h₁.connection.data.tokens, t.id = old.id) ∧
      ∀ t ∈ h₁.connection.data.tokens, t.id = old.id → t.revoked = false

/-- Where ids tell tokens apart, one that is valid is the only one with its id. -/
theorem there_and_valid {tokens : List RefreshToken} (hids : (tokens.map (·.id)).Nodup)
    (h : ∃ t ∈ tokens, t.id = old.id ∧ t.revoked = false) :
    (∃ t ∈ tokens, t.id = old.id) ∧ ∀ t ∈ tokens, t.id = old.id → t.revoked = false := by
  obtain ⟨t, ht, hid, hvalid⟩ := h
  refine ⟨⟨t, ht, hid⟩, fun u hu hu' => ?_⟩
  rw [List.inj_on_of_nodup_map hids hu ht (hu'.trans hid.symm)]
  exact hvalid

/-- As long as the audit log leaves the token valid, the work of an exchange that has found it is
that of a swap. -/
theorem exchangeWork_of_spares (hq : h.connection.Quiet)
    (hfind : h.connection.data.lookUp token = .ok (user, old)) (hvalid : old.revoked = false)
    (hspares : s.Spares now user old h) :
    s.exchangeWork now token { h with connection := h.connection.begin } =
      ((s.swapWork now user old { h with connection := h.connection.begin }).1.map .issued,
        (s.swapWork now user old { h with connection := h.connection.begin }).2) := by
  rw [exchangeWork_of_lookUp hq hfind hvalid, swapWork]
  rcases hnote : s.recordRevocation now user { h with connection := h.connection.begin } with
    ⟨e | _, h₁⟩
  · rw [Action.bind_of_error hnote, Action.bind_of_error hnote]
    rfl
  obtain ⟨⟨t, ht, hid⟩, hall⟩ := hspares h₁ (Action.during_ok.mp hnote)
  rw [Action.bind_of_ok hnote, Action.bind_of_ok hnote, Action.bind_apply, Action.bind_apply,
    revokeIfValid_of_valid hall]
  rcases hmark : markRevoked now old h₁ with ⟨e | n, h₂⟩
  · rfl
  have hn : n ≠ 0 := by
    rw [(markRevoked_ok hmark).1, Nat.ne_zero_iff_zero_lt, List.countP_pos_iff]
    exact ⟨t, ht, by simpa using hid⟩
  dsimp only
  rw [if_neg hn, if_neg hn, Action.bind_apply]
  rcases s.issue now user (.rotation old) h₂ with ⟨e | i, h₃⟩ <;> rfl

/-- Then both ways are the same. -/
theorem lookUpAndSwap_of_spares (hq : h.connection.Quiet)
    (hfind : h.connection.data.lookUp token = .ok (user, old)) (hvalid : old.revoked = false)
    (hspares : s.Spares now user old h) :
    s.lookUpAndSwap now token h = s.exchange now token h := by
  have hfound : findUserWithToken token h = (.ok (user, old), h) := by
    rw [findUserWithToken_quiet hq, hfind]
  rw [lookUpAndSwap, Action.bind_of_ok hfound, exchange_apply s now token hq.closed,
    exchangeWork_of_spares hq hfind hvalid hspares]
  dsimp only
  rw [swap, Action.transaction_apply _ hq.closed]
  rcases s.swapWork now user old { h with connection := h.connection.begin } with ⟨e | i, h₁⟩
  · rfl
  · rfl

/-- Neither way gets past a lookup that fails. -/
theorem lookUpAndSwap_of_lookUp_error {e : Error} (hq : h.connection.Quiet)
    (hfind : h.connection.data.lookUp token = .error e) :
    s.lookUpAndSwap now token h = (.error e, h) :=
  Action.bind_of_error (by rw [findUserWithToken_quiet hq, hfind])

/-- An exchange ends the transaction that it has begun. -/
theorem exchange_of_lookUp_error {e : Error} (hq : h.connection.Quiet)
    (hfind : h.connection.data.lookUp token = .error e) :
    s.exchange now token h =
      (.error e, { h with connection := h.connection.begin.rollback.2 }) := by
  have hwork : s.exchangeWork now token { h with connection := h.connection.begin } =
      (.error e, { h with connection := h.connection.begin }) :=
    Action.bind_of_error (by rw [findUserWithToken_begin hq, hfind])
  have hrollback := Action.rollback_apply (h := { h with connection := h.connection.begin })
    hq.begin.closed
  rw [exchange_apply s now token hq.closed, hwork]
  dsimp only
  rw [Action.finish_error, hrollback]

/-- An exchange succeeds only where the audit log spares the token, if ids tell tokens apart. -/
theorem spares_of_exchange {i : IssuedToken} {h' : Host σ} (hq : h.connection.Quiet)
    (hkey : ∀ user old h₁, h.connection.data.presented token = .ok (user, old) →
      s.Noted now user h h₁ → (h₁.connection.data.tokens.map (·.id)).Nodup)
    (run : s.exchange now token h = (.ok i, h')) :
    ∃ user old, h.connection.data.lookUp token = .ok (user, old) ∧ old.revoked = false ∧
      s.Spares now user old h := by
  obtain ⟨user, old, h₁, n, h₂, -, hfind, hvalid, hnoted, hrevoke, hn, -⟩ := exchange_ok hq run
  have hids := hkey user old h₁ (Database.lookUp_ok hfind) hnoted
  rw [(revokeIfValid_ok hrevoke).1, Nat.ne_zero_iff_zero_lt, List.countP_pos_iff] at hn
  obtain ⟨t, ht, hfits⟩ := hn
  refine ⟨user, old, hfind, hvalid, fun h₁' hnoted' => ?_⟩
  obtain rfl := hnoted.unique hnoted'
  exact there_and_valid hids ⟨t, ht, by simpa [stillValid] using hfits⟩

end Service

/-! ## Both ways -/

/-- An audit log that only writes rows leaves unique what has to be. -/
theorem Service.Noted.distinct {σ : Type} {s : Service σ} {now : Instant} {user : User}
    {h h₁ : Host σ} (hnoted : s.Noted now user h h₁) (hs : s.MadeOf Statement.OfRows)
    (hd : ∀ db, h.connection.Reaches db → db.Distinct) : h₁.connection.data.Distinct := by
  have hst := Connection.stable_reaches (A := Statement.OfRows) (P := Database.Distinct)
    fun _ _ hs _ _ _ hd run => hs.distinct hd run
  have hkept := (hs.audit now user.instanceId user .tokenRevoked none).keeps hst
    (h := { h with connection := h.connection.begin }) fun db hr => hd db hr.of_begin
  rw [hnoted] at hkept
  exact hkept _ (.inl rfl)

theorem Connection.not_adrift {c : Connection} :
    ¬ c.Adrift ↔ c.depth = 0 ∨ c.checkpoints ≠ [] := by
  rw [Adrift, Decidable.not_and_iff_not_or_not, Decidable.not_not]

/-- A transaction that has just begun is rolled back to where it began. -/
theorem Connection.Quiet.rollback_begin {c : Connection} (hq : c.Quiet) (ht : c.Tracked)
    (ha : ¬ c.Adrift) : c.begin.rollback.2 = c := by
  have hundone : c.begin.undone c.depth c.checkpoint c.checkpoints = c.lapse := by
    simp [Connection.undone, Connection.withData, Connection.begin, Connection.checkpoint,
      Connection.not_adrift.mp ha]
  rw [Connection.rollback_of_sameOpen ht (.refl _), hundone, hq.lapse]

/-- An exchange, and a lookup that is followed by a swap. The connection is open and tolerates no
dangling references outside of transactions. On it are any store and any collaborators under which
ids tell tokens apart; an audit log that only writes rows sees to that (`Service.Noted.distinct`).
If the exchange succeeds, the other way gives the same token and leaves the same host. And if the
token is valid and the audit log, unless it fails, leaves it there and valid, both ways give the
same answer, good or bad, and leave the same contents. They leave the same host, too, unless the
store had ended all transactions before and those who opened them do not know: then a failing
exchange leaves its own transaction open. -/
theorem rotations_agree {σ : Type} {s : Service σ} {h : Host σ} (hq : h.connection.Quiet)
    (ht : h.connection.Tracked) (now : Instant) (token : String)
    (hkey : ∀ user old h₁, h.connection.data.presented token = .ok (user, old) →
      s.Noted now user h h₁ → (h₁.connection.data.tokens.map (·.id)).Nodup) :
    (∀ i h', s.exchange now token h = (.ok i, h') → s.lookUpAndSwap now token h = (.ok i, h')) ∧
    ∀ old, h.connection.data.token? token = some old → old.revoked = false →
      (∀ user h₁, h.connection.data.presented token = .ok (user, old) → s.Noted now user h h₁ →
        ∃ t ∈ h₁.connection.data.tokens, t.id = old.id ∧ t.revoked = false) →
      (s.lookUpAndSwap now token h).1 = (s.exchange now token h).1 ∧
      (s.lookUpAndSwap now token h).2.connection.data = (s.exchange now token h).2.connection.data ∧
      (s.lookUpAndSwap now token h).2.outside = (s.exchange now token h).2.outside ∧
      (¬ h.connection.Adrift → s.lookUpAndSwap now token h = s.exchange now token h) := by
  refine ⟨fun i h' run => ?_, fun old hold hvalid hspared => ?_⟩
  · obtain ⟨user, old, hfind, hvalid, hspares⟩ := Service.spares_of_exchange hq hkey run
    rw [Service.lookUpAndSwap_of_spares hq hfind hvalid hspares, run]
  rcases hfind : h.connection.data.lookUp token with e | ⟨user, old'⟩
  · have hdata : h.connection.begin.rollback.2.data = h.connection.data := by
      rw [Connection.rollback_of_sameOpen ht (.refl _)]
      exact Connection.undone_data _ _ _ _
    rw [Service.lookUpAndSwap_of_lookUp_error hq hfind, Service.exchange_of_lookUp_error hq hfind]
    exact ⟨rfl, hdata.symm, rfl, fun ha => by rw [hq.rollback_begin ht ha]⟩
  · have hp := Database.lookUp_ok hfind
    have hsame : old' = old := Option.some.inj ((Database.presented_ok hp).2.1.symm.trans hold)
    subst hsame
    have hspares : s.Spares now user old' h := fun h₁ hnoted =>
      Service.there_and_valid (hkey user old' h₁ hp hnoted) (hspared user h₁ hp hnoted)
    have hboth := Service.lookUpAndSwap_of_spares hq hfind hvalid hspares
    exact ⟨congrArg (·.1) hboth, congrArg (·.2.connection.data) hboth,
      congrArg (·.2.outside) hboth, fun _ => hboth⟩

theorem ok_of_isOk {σ α : Type} {r : Except Error α × Host σ} (h : r.1.isOk = true) :
    ∃ a h', r = (.ok a, h') := by
  rcases r with ⟨e | a, h'⟩
  · cases h
  · exact ⟨a, h', rfl⟩

/-- A service whose audit log deletes all tokens that are revoked. -/
def Sample.tidying : Service Nat :=
  { service with
    audit := fun now instanceId user action detail => do
      AuditLog.table now instanceId user action detail
      let _ ← Action.write (.deleteTokens (·.revoked)) }

/-- Where Alice has exchanged her first token, the second one is rotated in both ways. The first one
is deleted on the way. With a string that is taken, both ways fail. -/
theorem tidied_rotations_agree :
    let h outside : Host Nat := { Sample.rotated with outside }
    let exchange outside := Sample.tidying.exchange Sample.time "tt" (h outside)
    let swap outside := Sample.tidying.lookUpAndSwap Sample.time "tt" (h outside)
    (exchange 2).2.connection.data.tokens.map (fun t => (t.token, t.parent, t.revoked)) =
        [("tt", some "t", true), ("ttt", some "tt", false)] ∧
      swap 2 = exchange 2 ∧
      (exchange 1).1 = .error (.refused "error creating refresh token" .duplicateToken) ∧
      swap 1 = exchange 1 := by
  intro h exchange swap
  obtain ⟨hst, hi⟩ := Sample.inUse_rotated.sound
  have hs : Sample.tidying.MadeOf Statement.OfRows :=
    ⟨fun _ _ _ _ _ => .bind (Sample.service_madeOf_ofRows.audit _ _ _ _ _) fun _ =>
      .bind (.write (.deleteTokens _)) fun _ => .pure _, Sample.service_madeOf_ofRows.users⟩
  have hd : ∀ db, Sample.rotated.connection.Reaches db → db.Distinct := by
    rintro db (rfl | ⟨k, hk, rfl⟩)
    · exact hi.now.distinct
    · exact (hi.saved_of_mem hk).distinct
  have agree outside := rotations_agree (s := Sample.tidying) (h := h outside)
    hst.ordinary.quiet hst.tracked Sample.time "tt" fun user old h₁ hp hnoted =>
      (hnoted.distinct hs hd).tokenIds
  have hleft : (exchange 2).2.connection.data.tokens.map (fun t => (t.token, t.parent, t.revoked)) =
      [("tt", some "t", true), ("ttt", some "tt", false)] := by decide +kernel
  have hfails : (exchange 1).1 = .error (.refused "error creating refresh token" .duplicateToken) :=
    by decide +kernel
  have hok : (exchange 2).1.isOk = true := by decide +kernel
  obtain ⟨i, h', run⟩ := ok_of_isOk hok
  have hspared : ∀ user h₁,
      (h 1).connection.data.presented "tt" = .ok (user, Sample.second Sample.alice.instanceId) →
      Sample.tidying.Noted Sample.time user (h 1) h₁ →
      ∃ t ∈ h₁.connection.data.tokens, t.id = 2 ∧ t.revoked = false := by
    intro user h₁ hp hnoted
    have hfound : (h 1).connection.data.presented "tt" =
        .ok (Sample.alice.signedInAt Sample.time, Sample.second Sample.alice.instanceId) := by
      decide +kernel
    cases hp.symm.trans hfound
    obtain rfl : _ = h₁ := congrArg Prod.snd hnoted
    decide +kernel
  obtain ⟨-, -, -, hrefused⟩ := (agree 1).2 _ rfl rfl hspared
  exact ⟨hleft, ((agree 2).1 i h' run).trans run.symm, hfails, hrefused fun ha => ha.1 rfl⟩

end RefreshChain
