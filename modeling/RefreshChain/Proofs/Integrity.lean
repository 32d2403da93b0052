import RefreshChain.Proofs.Composition
import RefreshChain.Proofs.Effects
import RefreshChain.Proofs.Run
import RefreshChain.Proofs.Store.Integral

/-!
# A store in use stays integral

A store that has just been migrated is put to use: the library is called, rows of all tables are
inserted, changed and deleted, and transactions are begun and ended.

* `Host.InUse`: what such runs lead to.
* `Connection.integral_stable`: a step of such a run leads from integral contents to integral ones.
* `store_stays_integral`: so all contents are integral that show up or may be gone back to,
  deletions take just what has to go, and a token can be found just if it can with its user.
-/

namespace RefreshChain

variable {σ : Type}

/-- The hosts that a run from an empty store leads to, where references are checked. -/
inductive Host.InUse : Host σ → Prop where
  | start (outside : σ) : InUse ⟨.connect .migrated, outside⟩
  /-- A call of the library. The collaborators of the service may themselves write rows, and begin
  and end transactions. -/
  | call {h : Host σ} (before : InUse h) {s : Service σ} (hs : s.MadeOf Statement.OfRows)
      (now : Instant) (c : Call) : InUse (c.perform s now h).2
  /-- Anything else that is put together from statements that write rows, looks, and the begin and
  the end of transactions. -/
  | act {h : Host σ} (before : InUse h) {ε α : Type} {x : Action σ ε α}
      (hx : x.MadeOf Statement.OfRows) : InUse (x h).2

theorem Statement.serves_ofRows : Serves OfRows where
  session := .insertSession
  token t := .insertToken t none
  revocation _ p := .updateTokens p fun _ => ⟨rfl, rfl, fun _ => rfl, fun _ => rfl⟩
  family := .revokeFamily
  logout := .deleteTokens

/-! ## Single steps -/

/-- Nothing that is counted, nothing that dangles. -/
theorem Work.Balanced.integral {w : Work} (h : w.Balanced) (hv : w.violations ≤ 0) :
    w.data.Integral := by
  have hcount := h.count
  exact Database.integral_iff.mpr ⟨h.distinct, by omega⟩

/-- No row is left behind, so a statement that is refused leaves integral contents, too. -/
theorem Connection.integral_stable :
    Connection.Stable Statement.OfRows fun c => c.Steady ∧ c.Since 0 Database.Integral where
  begin _ h := ⟨h.1.begin, h.2.begin⟩
  commit c h :=
    have hc := h.1.commit (Nat.zero_le _) h.2 c.endsWithin_zero
    ⟨hc.1, hc.2.2⟩
  rollback c h :=
    have hc := h.1.rollback (Nat.zero_le _) h.2 c.endsWithin_zero
    ⟨hc.1, hc.2.2⟩
  look c _ tables f h := by
    rw [h.1.look]
    exact h
  execute c _ s hs h := by
    obtain ⟨hst, hi⟩ := h
    rcases hx : c.execute s with ⟨r | a, c'⟩
    · rcases hst.execute_error hx with rfl | rfl | ⟨a, w, run, ⟨hv, hleaves⟩, rfl⟩
      · exact ⟨hst, hi⟩
      · exact ⟨hst.abandoned.1, hst.abandoned.2.2 _ hi⟩
      · -- Only an insertion leaves a row behind, and it counts nothing.
        obtain ⟨-, hp | hv'⟩ := hs.balanced hst.schema hi.now run
        · simp [hp, Purpose.leavesRow] at hleaves
        · omega
    · obtain ⟨w, run, hv, rfl⟩ := hst.execute_ok.mp hx
      obtain ⟨hb, -⟩ := hs.balanced hst.schema hi.now run
      exact ⟨hst.showing hb.schema, hi.showing (hb.integral hv)⟩

/-! ## Runs -/

/-- The invariant of the runs. -/
theorem Host.InUse.sound {h : Host σ} (hr : h.InUse) :
    h.connection.Steady ∧ h.connection.Since 0 Database.Integral := by
  induction hr with
  | start outside =>
    exact ⟨Connection.steady_connect, .migrated, fun newer k outer hk => by
      simp [Connection.connect] at hk⟩
  | call _ hs now c ih =>
    exact (Call.madeOf Statement.serves_ofRows hs now c).keeps Connection.integral_stable ih
  | act _ hx ih => exact hx.keeps Connection.integral_stable ih

/-- A deletion goes through if it leaves nothing that dangles. -/
theorem Connection.Steady.write_deletion {h : Host σ} (hst : h.connection.Steady)
    {s : Statement Nat} {n : Nat} {db : Database}
    (hs : ∃ w, s.run (.start h.connection.data) = .ok (n, w) ∧ w.data = db ∧ w.violations = 0) :
    (Action.write s : Action σ StoreError Nat) h =
      (.ok n, { h with connection := h.connection.showing db }) := by
  obtain ⟨w, run, rfl, hv⟩ := hs
  have hx := hst.execute_ok.mpr ⟨w, run, Int.le_of_eq hv, rfl⟩
  exact Action.onConnection_ok.mpr ⟨hst.closed, _, hx, rfl⟩

/-- The owner of a token is there, so looking for it makes no difference. -/
theorem findToken_iff_findUserWithToken {h : Host σ} (hst : h.connection.Steady)
    (hi : h.connection.data.Integral) (token : String) (t : RefreshToken) :
    ((findToken token : Action σ Error RefreshToken) h).1 = .ok t ↔
      ∃ user, ((findUserWithToken token : Action σ Error (User × RefreshToken)) h).1 =
        .ok (user, t) := by
  rw [findToken_apply hst, Service.findUserWithToken_eq hst, Database.presented]
  cases ht : h.connection.data.token? token with
  | none => simp
  | some found =>
    obtain ⟨u, hu, hid⟩ := hi.tokenUser found (Database.mem_of_token? ht).1
    cases howner : h.connection.data.user? found.userId with
    | none =>
      have hno := List.find?_eq_none.mp howner u hu
      simp [hid] at hno
    | some user => simp [howner]

/-- A store in use stays integral, at each point that the run comes to and at each that it may go
back to. A user or a provider that is deleted takes just its sessions and their tokens along, and a
user its own tokens, too. A token string leads to a token just if it leads to one with its user. -/
theorem store_stays_integral {h : Host σ} (hr : h.InUse) :
    (∀ db, h.connection.Reaches db → db.Integral) ∧
      (∀ p, (Action.write (.deleteUsers p) : Action σ StoreError Nat) h =
        (.ok (h.connection.data.users.countP p),
          { h with connection := h.connection.showing (h.connection.data.withoutUsers p) })) ∧
      (∀ p, (Action.write (.deleteProviders p) : Action σ StoreError Nat) h =
        (.ok (h.connection.data.providers.countP p),
          { h with connection := h.connection.showing (h.connection.data.withoutProviders p) })) ∧
      ∀ token t, ((findToken token : Action σ Error RefreshToken) h).1 = .ok t ↔
        ∃ user, ((findUserWithToken token : Action σ Error (User × RefreshToken)) h).1 =
          .ok (user, t) := by
  obtain ⟨hst, hi⟩ := hr.sound
  refine ⟨?_, fun p => ?_, fun p => ?_, findToken_iff_findUserWithToken hst hi.now⟩
  · rintro db (rfl | ⟨k, hk, rfl⟩)
    · exact hi.now
    · exact hi.saved_of_mem hk
  · exact hst.write_deletion (Statement.deleteUsers_run hst.schema hi.now p)
  · exact hst.write_deletion (Statement.deleteProviders_run hst.schema hi.now p)

namespace Sample

/-- A host where Alice has signed in with her provider. -/
def bound : Host Nat :=
  after [.addUser alice, .addProvider provider, .request (.grant alice (some conditions))]

theorem service_madeOf_ofRows : service.MadeOf Statement.OfRows :=
  Service.madeOf_table rfl rfl .insertAuditEntry fun _ _ => .updateUsers _ fun _ => rfl

theorem inUse_bound : bound.InUse := by
  have users := Host.InUse.act (.start 0) (.write (.insertUser alice))
  have providers := Host.InUse.act users (.write (.insertProvider provider))
  exact .call providers service_madeOf_ofRows time (.request (.grant alice (some conditions)))

theorem inUse_rotated : rotated.InUse := by
  have users := Host.InUse.act (.start 0) (.write (.insertUser alice))
  have granted := Host.InUse.call users service_madeOf_ofRows time (.request (.grant alice none))
  exact .call granted service_madeOf_ofRows time (.request (.exchange "t"))

end Sample

/-- Alice's provider is deleted, and with it her session and her token. -/
theorem bound_store_stays_integral :
    let h := Sample.bound
    h.connection.data.tokens.map (fun t => (t.token, t.ssoSessionId)) = [("tt", some (.ofNat 0))] ∧
      h.connection.data.Integral ∧
      (Action.write (.deleteProviders (·.id = Sample.provider.id)) : Action Nat StoreError Nat) h =
        (.ok 1, { h with connection := h.connection.showing { h.connection.data with
          providers := [], sessions := [], tokens := [] } }) ∧
      ((findUserWithToken "tt" : Action Nat Error (User × RefreshToken)) h).1.isOk := by
  obtain ⟨hreach, -, hdelete, hfind⟩ := store_stays_integral Sample.inUse_bound
  refine ⟨by rfl, hreach _ (.inl rfl), hdelete _, ?_⟩
  obtain ⟨user, howner⟩ := (hfind "tt" _).mp (by rfl)
  rw [howner]
  rfl

end RefreshChain
