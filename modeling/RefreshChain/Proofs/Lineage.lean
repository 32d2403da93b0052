import RefreshChain.Proofs.Store.Rows

/-!
# Lineages of tokens

How the tokens of a store hang together, and what keeps it so.

* `Database.Numbered`: ids and strings of tokens. This holds whatever users and services do.
* `Database.Lineal`: each token's parent is there, revoked, and has no other child. This holds as
  long as users stay in their instance and each child is issued to the owner of its parent.
* `Database.Lineal.withChild` and its kin: one lemma for each kind of change. The three parts need
  each other. A parent does not go without its child, as both belong to the same user and session;
  so no new token becomes a parent by the accident of its string.
-/

namespace RefreshChain

/-- The tokens agree in the columns that a child takes from its parent. -/
structure RefreshToken.Kin (t u : RefreshToken) : Prop where
  instanceId : t.instanceId = u.instanceId
  userId : t.userId = u.userId
  ssoSessionId : t.ssoSessionId = u.ssoSessionId

/-- `u` is the row `t` at a later time: what may have changed is that it was revoked. -/
structure RefreshToken.Becomes (t u : RefreshToken) : Prop where
  id : u.id = t.id
  token : u.token = t.token
  parent : u.parent = t.parent
  kin : u.Kin t
  createdAt : u.createdAt = t.createdAt
  revoked : t.revoked = true → u.revoked = true

theorem RefreshToken.Becomes.refl (t : RefreshToken) : t.Becomes t :=
  ⟨rfl, rfl, rfl, ⟨rfl, rfl, rfl⟩, rfl, fun h => h⟩

theorem RefreshToken.Becomes.trans {t u v : RefreshToken} (h : t.Becomes u) (h' : u.Becomes v) :
    t.Becomes v where
  id := h'.id.trans h.id
  token := h'.token.trans h.token
  parent := h'.parent.trans h.parent
  kin := ⟨h'.kin.instanceId.trans h.kin.instanceId, h'.kin.userId.trans h.kin.userId,
    h'.kin.ssoSessionId.trans h.kin.ssoSessionId⟩
  createdAt := h'.createdAt.trans h.createdAt
  revoked hr := h'.revoked (h.revoked hr)

theorem RefreshToken.isChildOf_iff {t p : RefreshToken} :
    t.isChildOf p ↔ t.parent = some p.token := by
  simp [RefreshToken.isChildOf]

namespace Database

/-- `db'` has the tokens that `db` has, and their owners are still there, in the same instances. -/
structure Spared (db db' : Database) : Prop where
  tokens : db'.tokens = db.tokens
  lastTokenId : db'.lastTokenId = db.lastTokenId
  owners : ∀ t ∈ db.tokens, ∀ u, db.user? t.userId = some u →
    ∃ u', db'.user? t.userId = some u' ∧ u'.instanceId = u.instanceId

/-- The ids of the tokens go up, none of them is above the last that was given out, and no two
tokens have the same string. -/
structure Numbered (db : Database) : Prop where
  ascending : db.tokens.Pairwise fun t u => t.id < u.id
  bounded : ∀ t ∈ db.tokens, t.id ≤ db.lastTokenId
  distinct : ∀ t ∈ db.tokens, ∀ u ∈ db.tokens, t.token = u.token → t = u

/-- Parents are there, spent and with one child each, and so are the owners of all tokens. -/
structure Lineal (db : Database) : Prop extends db.Numbered where
  parent : ∀ t ∈ db.tokens, ∀ s, t.parent = some s →
    ∃ p ∈ db.tokens, p.token = s ∧ p.Kin t ∧ p.id < t.id ∧ p.revoked = true
  onlyChild : ∀ t ∈ db.tokens, ∀ u ∈ db.tokens, ∀ s, t.parent = some s → u.parent = some s → t = u
  owned : ∀ t ∈ db.tokens, ∃ u, db.user? t.userId = some u ∧ u.instanceId = t.instanceId

variable {db db' : Database} {t u p : RefreshToken}

/-! ## Tokens of a store -/

theorem Spared.refl (db : Database) : db.Spared db := ⟨rfl, rfl, fun _ _ u h => ⟨u, h, rfl⟩⟩

theorem Spared.trans {db₁ : Database} (h : db.Spared db₁) (h' : db₁.Spared db') :
    db.Spared db' where
  tokens := h'.tokens.trans h.tokens
  lastTokenId := h'.lastTokenId.trans h.lastTokenId
  owners t ht u hu := by
    obtain ⟨v, hv, hi⟩ := h.owners t ht u hu
    obtain ⟨v', hv', hi'⟩ := h'.owners t (h.tokens ▸ ht) v hv
    exact ⟨v', hv', hi'.trans hi⟩

theorem mem_of_token? {s : String} (h : db.token? s = some t) : t ∈ db.tokens ∧ t.token = s :=
  ⟨List.mem_of_find?_eq_some h, by simpa using List.find?_some h⟩

theorem id_of_user? {id : Uuid} {u : User} (h : db.user? id = some u) : u.id = id := by
  simpa using List.find?_some h

theorem token?_eq_none {s : String} : db.token? s = none ↔ ∀ t ∈ db.tokens, t.token ≠ s := by
  simp [token?]

/-- A token is known by its id. -/
theorem Numbered.eq_of_id (h : db.Numbered) (ht : t ∈ db.tokens) (hu : u ∈ db.tokens)
    (he : t.id = u.id) : t = u := by
  refine List.Pairwise.forall_of_forall_of_flip (R := fun t u => t.id = u.id → t = u)
    (fun _ _ _ => rfl) (h.ascending.imp fun hlt he => ?_) (h.ascending.imp fun hlt he => ?_)
    ht hu he
  · omega
  · omega

/-- The next id comes after the last one, and after 0. -/
theorem Numbered.nextTokenId_eq (h : db.Numbered) :
    db.nextTokenId = max db.lastTokenId 0 + 1 := by
  have hle : db.maxTokenId ≤ max db.lastTokenId 0 :=
    foldl_max_le (Int.le_max_right _ _) fun t ht =>
      Int.le_trans (h.bounded t ht) (Int.le_max_left _ _)
  have hge : 0 ≤ db.maxTokenId := (le_foldl_max db.tokens 0).1
  unfold nextTokenId
  omega

/-- A token is found by its string. -/
theorem Numbered.token?_eq (h : db.Numbered) (ht : t ∈ db.tokens) : db.token? t.token = some t := by
  cases hf : db.token? t.token with
  | none => exact absurd rfl (token?_eq_none.mp hf t ht)
  | some u =>
    obtain ⟨hu, hs⟩ := mem_of_token? hf
    rw [h.distinct u hu t ht hs]

/-! ## Revocation -/

section

variable (now : Instant) (q : RefreshToken → Bool)

theorem mem_revoking : t ∈ (db.revoking now q).tokens ↔
    ∃ u ∈ db.tokens, (if q u then u.revokedAt now else u) = t :=
  List.mem_map

theorem becomes_revoking (t : RefreshToken) : t.Becomes (if q t then t.revokedAt now else t) := by
  split
  · exact ⟨rfl, rfl, rfl, ⟨rfl, rfl, rfl⟩, rfl, fun _ => rfl⟩
  · exact ⟨rfl, rfl, rfl, ⟨rfl, rfl, rfl⟩, rfl, id⟩

variable {now q} in
/-- All rows afterwards are what rows before have become. -/
theorem becomes_of_mem_revoking (h : t ∈ (db.revoking now q).tokens) :
    ∃ u ∈ db.tokens, u.Becomes t := by
  obtain ⟨u, hu, rfl⟩ := (mem_revoking now q).mp h
  exact ⟨u, hu, becomes_revoking now q u⟩

theorem Numbered.revoking (h : db.Numbered) : (db.revoking now q).Numbered where
  ascending := by
    refine List.pairwise_map.mpr (h.ascending.imp fun {t u} hlt => ?_)
    rw [(becomes_revoking now q t).id, (becomes_revoking now q u).id]
    exact hlt
  bounded t ht := by
    obtain ⟨u, hu, hb⟩ := becomes_of_mem_revoking ht
    rw [hb.id]
    exact h.bounded u hu
  distinct t ht u hu he := by
    obtain ⟨a, ha, rfl⟩ := (mem_revoking now q).mp ht
    obtain ⟨b, hb, rfl⟩ := (mem_revoking now q).mp hu
    rw [(becomes_revoking now q a).token, (becomes_revoking now q b).token] at he
    rw [h.distinct a ha b hb he]

theorem Lineal.revoking (h : db.Lineal) : (db.revoking now q).Lineal where
  toNumbered := h.toNumbered.revoking now q
  parent t ht s hs := by
    obtain ⟨a, ha, bt⟩ := becomes_of_mem_revoking ht
    rw [bt.parent] at hs
    obtain ⟨p, hp, hps, hk, hlt, hr⟩ := h.parent a ha s hs
    have bp := becomes_revoking now q p
    refine ⟨_, (mem_revoking now q).mpr ⟨p, hp, rfl⟩, bp.token.trans hps, ?_, ?_, bp.revoked hr⟩
    · exact ⟨bp.kin.instanceId.trans (hk.instanceId.trans bt.kin.instanceId.symm),
        bp.kin.userId.trans (hk.userId.trans bt.kin.userId.symm),
        bp.kin.ssoSessionId.trans (hk.ssoSessionId.trans bt.kin.ssoSessionId.symm)⟩
    · rw [bp.id, bt.id]; exact hlt
  onlyChild t ht u hu s hts hus := by
    obtain ⟨a, ha, rfl⟩ := (mem_revoking now q).mp ht
    obtain ⟨b, hb, rfl⟩ := (mem_revoking now q).mp hu
    rw [(becomes_revoking now q a).parent] at hts
    rw [(becomes_revoking now q b).parent] at hus
    rw [h.onlyChild a ha b hb s hts hus]
  owned t ht := by
    obtain ⟨a, ha, bt⟩ := becomes_of_mem_revoking ht
    obtain ⟨u, hu, hi⟩ := h.owned a ha
    exact ⟨u, by rw [bt.kin.userId]; exact hu, hi.trans bt.kin.instanceId.symm⟩

end

/-! ## New tokens -/

theorem mem_withToken : u ∈ (db.withToken t).tokens ↔ u ∈ db.tokens ∨ u = t := by
  simp [withToken]

theorem Numbered.withToken (h : db.Numbered) (hid : t.id = db.nextTokenId)
    (hnew : db.token? t.token = none) : (db.withToken t).Numbered where
  ascending := by
    refine List.pairwise_append.mpr ⟨h.ascending, List.pairwise_singleton _ _, fun u hu v hv => ?_⟩
    rw [List.mem_singleton.mp hv, hid]
    exact lt_nextTokenId hu
  bounded u hu := by
    show u.id ≤ t.id
    rcases mem_withToken.mp hu with hm | rfl
    · rw [hid]; exact Int.le_of_lt (lt_nextTokenId hm)
    · exact Int.le_refl _
  distinct u hu v hv he := by
    have hnew := token?_eq_none.mp hnew
    rcases mem_withToken.mp hu with hm | rfl <;> rcases mem_withToken.mp hv with hn | rfl
    · exact h.distinct u hm v hn he
    · exact absurd he (hnew u hm)
    · exact absurd he.symm (hnew v hn)
    · rfl

/-- A sign-in starts a chain. The string of the new token is no one's parent, as the parents of all
tokens are there. -/
theorem Lineal.withRoot (h : db.Lineal) (hid : t.id = db.nextTokenId)
    (hnew : db.token? t.token = none) (hroot : t.parent = none)
    (hown : ∃ u, db.user? t.userId = some u ∧ u.instanceId = t.instanceId) :
    (db.withToken t).Lineal where
  toNumbered := h.toNumbered.withToken hid hnew
  parent u hu s hs := by
    rcases mem_withToken.mp hu with hm | rfl
    · obtain ⟨p, hp, hk⟩ := h.parent u hm s hs
      exact ⟨p, mem_withToken.mpr (.inl hp), hk⟩
    · rw [hroot] at hs; cases hs
  onlyChild u hu v hv s hus hvs := by
    rcases mem_withToken.mp hu with hm | rfl
    · rcases mem_withToken.mp hv with hn | rfl
      · exact h.onlyChild u hm v hn s hus hvs
      · rw [hroot] at hvs; cases hvs
    · rw [hroot] at hus; cases hus
  owned u hu := by
    rcases mem_withToken.mp hu with hm | rfl
    · exact h.owned u hm
    · exact hown

/-- A revoked token without a child gets one. -/
theorem Lineal.withChild (h : db.Lineal) (hid : t.id = db.nextTokenId)
    (hnew : db.token? t.token = none) (hp : p ∈ db.tokens) (hlink : t.parent = some p.token)
    (hkin : p.Kin t) (hr : p.revoked = true) (hchild : ∀ u ∈ db.tokens, u.parent ≠ some p.token) :
    (db.withToken t).Lineal where
  toNumbered := h.toNumbered.withToken hid hnew
  parent u hu s hs := by
    rcases mem_withToken.mp hu with hm | rfl
    · obtain ⟨p', hp', hk⟩ := h.parent u hm s hs
      exact ⟨p', mem_withToken.mpr (.inl hp'), hk⟩
    · rw [hlink] at hs
      cases hs
      exact ⟨p, mem_withToken.mpr (.inl hp), rfl, hkin, by rw [hid]; exact lt_nextTokenId hp, hr⟩
  onlyChild u hu v hv s hus hvs := by
    rcases mem_withToken.mp hu with hm | rfl <;> rcases mem_withToken.mp hv with hn | rfl
    · exact h.onlyChild u hm v hn s hus hvs
    · exact absurd (hus.trans (hvs.symm.trans hlink)) (hchild u hm)
    · exact absurd (hvs.trans (hus.symm.trans hlink)) (hchild v hn)
    · rfl
  owned u hu := by
    rcases mem_withToken.mp hu with hm | rfl
    · exact h.owned u hm
    · obtain ⟨w, hw, hi⟩ := h.owned p hp
      exact ⟨w, hkin.userId ▸ hw, hi.trans hkin.instanceId⟩

/-- A token that may still be used has no child. -/
theorem Lineal.childless (h : db.Lineal) (ht : t ∈ db.tokens) (hr : t.revoked = false) :
    ∀ u ∈ db.tokens, u.parent ≠ some t.token := by
  intro u hu hut
  obtain ⟨p, hp, hpt, -, -, hpr⟩ := h.parent u hu _ hut
  rw [h.distinct p hp t ht hpt, hr] at hpr
  cases hpr

/-! ## Other changes -/

theorem Numbered.spared (h : db.Numbered) (hs : db.Spared db') : db'.Numbered where
  ascending := hs.tokens ▸ h.ascending
  bounded t ht := hs.lastTokenId ▸ h.bounded t (hs.tokens ▸ ht)
  distinct := hs.tokens ▸ h.distinct

theorem Lineal.spared (h : db.Lineal) (hs : db.Spared db') : db'.Lineal where
  toNumbered := h.toNumbered.spared hs
  parent := hs.tokens ▸ h.parent
  onlyChild := hs.tokens ▸ h.onlyChild
  owned t ht := by
    rw [hs.tokens] at ht
    obtain ⟨u, hu, hi⟩ := h.owned t ht
    obtain ⟨u', hu', hi'⟩ := hs.owners t ht u hu
    exact ⟨u', hu', hi'.trans hi⟩

/-- `db'` has what is left of `db` after rows were taken out: of a chain all tokens or none, and no
owner of a token that is left. -/
structure Pruned (db db' : Database) : Prop where
  tokens : ∃ keep : RefreshToken → Bool, (∀ t u, t.Kin u → keep t = keep u) ∧
    db'.tokens = db.tokens.filter keep
  lastTokenId : db'.lastTokenId = db.lastTokenId
  owners : ∀ t ∈ db'.tokens, db'.user? t.userId = db.user? t.userId

theorem Pruned.sub (h : db.Pruned db') (ht : t ∈ db'.tokens) : t ∈ db.tokens := by
  obtain ⟨keep, -, hk⟩ := h.tokens
  rw [hk] at ht
  exact (List.mem_filter.mp ht).1

theorem Numbered.pruned (h : db.Numbered) (hp : db.Pruned db') : db'.Numbered where
  ascending := by
    obtain ⟨keep, -, hk⟩ := hp.tokens
    rw [hk]
    exact h.ascending.filter keep
  bounded t ht := hp.lastTokenId ▸ h.bounded t (hp.sub ht)
  distinct t ht u hu he := h.distinct t (hp.sub ht) u (hp.sub hu) he

/-- The parent of a token stays as long as the token does. -/
theorem Lineal.pruned (h : db.Lineal) (hp : db.Pruned db') : db'.Lineal where
  toNumbered := h.toNumbered.pruned hp
  parent t ht s hs := by
    obtain ⟨p, hpm, hps, hk, hlt, hr⟩ := h.parent t (hp.sub ht) s hs
    obtain ⟨keep, hkeep, heq⟩ := hp.tokens
    rw [heq] at ht ⊢
    have hkp : keep p = true := (hkeep p t hk).trans (List.mem_filter.mp ht).2
    exact ⟨p, List.mem_filter.mpr ⟨hpm, hkp⟩, hps, hk, hlt, hr⟩
  onlyChild t ht u hu := h.onlyChild t (hp.sub ht) u (hp.sub hu)
  owned t ht := by
    rw [hp.owners t ht]
    exact h.owned t (hp.sub ht)

/-! ## Deletions -/

theorem Pruned.refl (db : Database) : db.Pruned db :=
  ⟨⟨fun _ => true, fun _ _ _ => rfl, (List.filter_eq_self.mpr fun _ _ => rfl).symm⟩, rfl,
    fun _ _ => rfl⟩

theorem Pruned.trans {db₁ : Database} (h : db.Pruned db₁) (h' : db₁.Pruned db') :
    db.Pruned db' where
  tokens := by
    obtain ⟨k, hk, hd⟩ := h.tokens
    obtain ⟨k', hk', hd'⟩ := h'.tokens
    refine ⟨fun t => k t && k' t, fun t u htu => ?_, ?_⟩
    · dsimp only
      rw [hk t u htu, hk' t u htu]
    · rw [hd', hd, List.filter_filter]
      exact List.filter_congr fun t _ => Bool.and_comm _ _
  lastTokenId := h'.lastTokenId.trans h.lastTokenId
  owners t ht := (h'.owners t ht).trans (h.owners t (h'.sub ht))

/-- Tokens are taken out whose owner and session fit. -/
theorem pruned_filter {keep : RefreshToken → Bool}
    (hk : ∀ t u : RefreshToken, t.Kin u → keep t = keep u) (hu : db'.users = db.users)
    (ht : db'.tokens = db.tokens.filter keep) (hl : db'.lastTokenId = db.lastTokenId) : db.Pruned db' :=
  ⟨⟨keep, hk, ht⟩, hl, fun _ _ => by rw [user?, user?, hu]⟩

theorem pruned_loggedOut (db : Database) (instanceId userId : Uuid) :
    db.Pruned (db.loggedOut instanceId userId) :=
  pruned_filter (fun _ _ hk => by rw [hk.instanceId, hk.userId]) rfl rfl rfl

theorem pruned_dropSession (db : Database) (id : Uuid) : db.Pruned (db.dropSession id) :=
  pruned_filter (fun _ _ h => by rw [h.ssoSessionId]) rfl rfl rfl

theorem pruned_dropSessions (db : Database) (ids : List Uuid) :
    db.Pruned (db.dropSessions ids) := by
  induction ids generalizing db with
  | nil => exact .refl db
  | cons id ids ih => exact (pruned_dropSession db id).trans (ih _)

theorem pruned_dropProviders (db : Database) (ids : List Uuid) :
    db.Pruned (db.dropProviders ids) := by
  induction ids generalizing db with
  | nil => exact .refl db
  | cons id ids ih =>
    have hp : db.Pruned { db with providers := db.providers.filter (·.id ≠ id) } :=
      ⟨(Pruned.refl db).tokens, rfl, fun _ _ => rfl⟩
    exact (hp.trans (pruned_dropSessions _ _)).trans (ih _)

theorem pruned_dropUsers (db : Database) (ids : List Uuid) : db.Pruned (db.dropUsers ids) := by
  induction ids generalizing db with
  | nil => exact .refl db
  | cons id ids ih =>
    have hp : db.Pruned { db with
        users := db.users.filter (·.id ≠ id), tokens := db.tokens.filter (·.userId ≠ id) } := by
      refine ⟨⟨_, fun _ _ h => by rw [h.userId], rfl⟩, rfl, fun t ht => ?_⟩
      have hne : t.userId ≠ id := by simpa using (List.mem_filter.mp ht).2
      simp only [user?, List.find?_filter]
      congr 1
      funext u
      by_cases hu : u.id = t.userId
      · simp [hu, hne]
      · simp [hu]
    exact (hp.trans (pruned_dropSessions _ _)).trans (ih _)

end Database

end RefreshChain
