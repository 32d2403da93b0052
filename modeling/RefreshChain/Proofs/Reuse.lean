import RefreshChain.Proofs.Operations

/-!
# Tokens that are presented again

What an exchange does that finds a token revoked, on a steady connection.

* `Service.exchange_reused`: what is known of a token that was refused as used before, and what
  becomes of the store.
* `Service.exchange_of_revoked`: a revoked token is refused as that.
-/

namespace RefreshChain

variable {σ : Type}

namespace Action

variable {α β : Type}

/-- `x` never fails as if a token had been used before. -/
def NeverReused (x : Action σ Error α) : Prop := ∀ h h', x h ≠ (.error .tokenReused, h')

namespace NeverReused

theorem pure (a : α) : (pure a : Action σ Error α).NeverReused := fun _ _ run => by simp at run

theorem draw (f : σ → α × σ) : (draw f : Action σ Error α).NeverReused := fun _ _ run => by
  simp [Action.draw] at run

theorem orFail {e : Error} (he : e ≠ .tokenReused) (o : Option α) :
    (orFail e o : Action σ Error α).NeverReused := fun _ _ run => he (orFail_error.mp run).2.1

theorem orNotFound (o : Option α) :
    (Action.orFail .tokenNotFound o : Action σ Error α).NeverReused :=
  orFail (e := .tokenNotFound) nofun o

theorem orMissing (context what : String) (o : Option α) :
    (Action.orFail (.missingRow context what) o : Action σ Error α).NeverReused :=
  orFail (e := .missingRow context what) nofun o

theorem bind {x : Action σ Error α} {f : α → Action σ Error β} (hx : x.NeverReused)
    (hf : ∀ a, (f a).NeverReused) : (x >>= f).NeverReused := by
  intro h h' run
  rcases bind_error.mp run with hr | ⟨a, h₁, -, hr⟩
  · exact hx h h' hr
  · exact hf a h₁ h' hr

/-- A failure at the store is reported as one. -/
theorem during (context : String) (x : Action σ StoreError α) :
    (x.during context).NeverReused := by
  intro h h' run
  obtain ⟨source, -, he⟩ := during_error.mp run
  cases he

end NeverReused

end Action

section

open RefreshChain.Action (NeverReused)

theorem findToken_neverReused (token : String) :
    (findToken token : Action σ Error RefreshToken).NeverReused :=
  .bind (.during _ _) fun _ => .orNotFound _

theorem loadBinding_neverReused (id : Uuid) :
    (loadBinding id : Action σ Error SsoBinding).NeverReused :=
  .bind (.during _ _) fun _ => .bind (.orMissing _ _ _) fun _ => .bind (.orMissing _ _ _) fun _ =>
    .pure _

theorem loadToken_neverReused (id : Int) :
    (loadToken id : Action σ Error RefreshToken).NeverReused :=
  .bind (.during _ _) fun _ => .orMissing _ _ _

end

namespace Service

open RefreshChain.Action (NeverReused)

variable {s : Service σ} {now : Instant}

theorem issue_neverReused (user : User) (origin : Origin) :
    (s.issue now user origin).NeverReused := by
  have hsession : (s.sessionFor now user origin).NeverReused := by
    rcases origin with (_ | c) | old
    · exact .pure _
    · exact .bind (.bind (.draw _) fun _ => .during _ _) fun _ => .pure _
    · exact .pure _
  have hbinding : ∀ t, (bindingOf t : Action σ Error (Option SsoBinding)).NeverReused := by
    intro t
    unfold bindingOf
    split
    · exact .pure _
    · exact .bind (loadBinding_neverReused _) fun _ => .pure _
  exact .bind hsession fun _ => .bind (.draw _) fun _ => .bind (.during _ _) fun id =>
    .bind (loadToken_neverReused id) fun stored => .bind (hbinding stored) fun _ =>
      .bind (.during _ _) fun _ => .pure _

/-- The work of an exchange says that a token was used before by its result, not by a failure. -/
theorem exchangeWork_neverReused (token : String) : (s.exchangeWork now token).NeverReused := by
  refine .bind (.bind (findToken_neverReused token) fun _ => .bind (.during _ _) fun _ =>
    .bind (.orNotFound _) fun _ => .pure _) fun (user, old) => ?_
  dsimp only
  split
  · exact .pure _
  · refine .bind (.during _ _) fun _ => .bind (.during _ _) fun n => ?_
    split
    · exact .bind (findToken_neverReused _) fun _ => .pure _
    · exact .bind (issue_neverReused user _) fun _ => .pure _

section

variable {h h' : Host σ} (hst : h.connection.Steady)

include hst

/-- A host where a transaction has been undone. -/
theorem rollback_undone {h₁ : Host σ} (hst₁ : h₁.connection.Steady)
    (hs : h.connection.begin.SameOpen h₁.connection) :
    ∃ h₂, (Action.rollback h₁ : Except StoreError Unit × Host σ) = (.ok (), h₂) ∧
      h₂.connection.Steady ∧ h₂.connection.data = h.connection.data := by
  have hr := Action.rollback_of_sameOpen hst.closed hst.tracked hs
  have hsound := (Host.sound_of_steady hst₁).rollback (Connection.endsWithin_zero _)
  rw [hr] at hsound
  exact ⟨_, hr, hsound.steady, Connection.undone_data _ _ _ _⟩

omit hst in
/-- The revocation of a family goes through. -/
theorem revokeFamily_apply (hst : h.connection.Steady) (t : RefreshToken) :
    revokeFamily now t h = (.ok (), { h with
      connection := h.connection.showing (h.connection.data.revokingFamily now t) }) := by
  have hw := Action.write_apply hst (Statement.revokeFamily_start hst.schema now t)
  rw [revokeFamily, Action.bind_of_ok (Action.during_ok.mpr hw)]
  rfl

variable (s now) in
/-- What a rollback and the revocation of the family leave. -/
theorem punish_apply {h₁ : Host σ} (hst₁ : h₁.connection.Steady)
    (hs : h.connection.begin.SameOpen h₁.connection) (t : RefreshToken) :
    ∃ h', s.punish now t h₁ = (.error .tokenReused, h') ∧ h'.connection.data =
      if s.config.rotationEnabled then h.connection.data.revokingFamily now t
      else h.connection.data := by
  obtain ⟨h₂, hr, hst₂, hd⟩ := rollback_undone hst hst₁ hs
  rw [punish, Action.bind_of_ok (Action.during_ok.mpr hr)]
  cases s.config.rotationEnabled with
  | true => exact ⟨_, Action.bind_of_ok (revokeFamily_apply hst₂ t), by simp [hd]⟩
  | false => exact ⟨h₂, rfl, by simp [hd]⟩

/-- A token that was refused as used before is in the store and revoked. What the exchange did is
undone, and the token's family is revoked if the service rotates tokens. -/
theorem exchange_reused (hs : s.Careful 0) {reports : StoreError → Prop}
    (ha : s.audit.LeavesOpen reports) (hu : s.users.LeavesOpen reports) {token : String}
    (run : s.exchange now token h = (.error .tokenReused, h')) :
    ∃ t, h.connection.data.token? token = some t ∧ t.revoked = true ∧
      h'.connection.data =
        if s.config.rotationEnabled then h.connection.data.revokingFamily now t
        else h.connection.data := by
  rw [exchange_apply s now token hst.closed] at run
  rcases hw : s.exchangeWork now token { h with connection := h.connection.begin } with
    ⟨e | i | t, h₁⟩ <;> rw [hw] at run
  · cases run
    exact absurd hw (exchangeWork_neverReused token _ _)
  · rcases Action.bind_error.mp run with hf | ⟨_, _, -, hf⟩
    · obtain ⟨source, -, he⟩ := Action.during_error.mp hf
      cases he
    · cases hf
  · have hopen := (exchangeWork_leavesOpen now ha hu token).of_ok hw
    have hkeeps : (s.exchangeWork now token).Keeps 0 (fun _ => True) h.connection.data.Spared _ :=
      exchangeWork_keeps (R := fun _ _ => True) hs true_lasting (fun _ _ h₁ h₀ => h₀.trans h₁)
        (fun _ _ _ _ _ => trivial) token fun _ _ _ _ _ _ _ _ => ⟨trivial, trivial⟩
    obtain ⟨hst₁, hfound⟩ := hkeeps (Host.sound_of_steady hst).begin (.refl _) hw
    obtain ⟨-, hspared, ht, hrev⟩ := hfound _ rfl
    obtain ⟨h₂, hp, hd⟩ := punish_apply s now hst hst₁.steady hopen t
    cases hp.symm.trans run
    refine ⟨t, ?_, hrev, hd⟩
    rw [Database.token?, ← hspared.tokens]
    exact ht

/-- A token with an owner is found. -/
theorem findUserWithToken_apply {token : String} {t : RefreshToken} {u : User}
    (ht : h.connection.data.token? token = some t)
    (hu : h.connection.data.user? t.userId = some u) :
    findUserWithToken token h = (.ok (u, t), h) := by
  have hfind : findToken token h = (.ok t, h) := by
    rw [findToken, Action.bind_of_ok (Action.during_ok.mpr (Action.read_apply hst _ _)), ht]
    rfl
  rw [findUserWithToken, Action.bind_of_ok hfind,
    Action.bind_of_ok (Action.during_ok.mpr (Action.read_apply hst _ _)), hu]
  rfl

/-- A revoked token is refused as used before, as long as its owner is there. -/
theorem exchange_of_revoked {token : String} {t : RefreshToken} {u : User}
    (ht : h.connection.data.token? token = some t) (hrev : t.revoked = true)
    (hu : h.connection.data.user? t.userId = some u) :
    (s.exchange now token h).1 = .error .tokenReused := by
  have hstb : ({ h with connection := h.connection.begin } : Host σ).connection.Steady := hst.begin
  have hw : s.exchangeWork now token { h with connection := h.connection.begin } =
      (.ok (.reused t), { h with connection := h.connection.begin }) := by
    rw [exchangeWork, Action.bind_of_ok (findUserWithToken_apply hstb ht hu)]
    simp [hrev]
  obtain ⟨h', hp, -⟩ := punish_apply s now hst hstb (.refl _) t
  rw [exchange_apply s now token hst.closed, hw]
  exact congrArg Prod.fst hp

end

end Service

end RefreshChain
