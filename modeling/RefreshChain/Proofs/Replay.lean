import RefreshChain.Proofs.Chains
import RefreshChain.Proofs.Descent
import RefreshChain.Proofs.Reuse

/-!
# Replays end a chain

A revoked token that is presented again ends its chain for good: all tokens of the chain are
revoked, and whatever comes after, no token is added to it and none of it is ever accepted.

* `Buried`: what holds of a dead chain from then on. A row is known again by its id, as no id is
  given out twice, while strings may come back after a deletion.
* `replay_ends_chain`: the result.
-/

namespace RefreshChain

/-- One of the given rows has the id of `q`. -/
def IsAmong (ts : List RefreshToken) (q : RefreshToken) : Prop := ∃ r ∈ ts, r.id = q.id

/-- What is left of the given rows is as it was, and nothing but them is linked to it. -/
structure Buried (ts : List RefreshToken) (db : Database) : Prop where
  bounded : ∀ r ∈ ts, r.id ≤ db.lastTokenId
  same : ∀ q ∈ db.tokens, ∀ r ∈ ts, r.id = q.id → r.Becomes q
  closed : ∀ q ∈ db.tokens, IsAmong ts q → ∀ u ∈ db.tokens, u.isChildOf q ∨ q.isChildOf u →
    IsAmong ts u

namespace Buried

variable {ts : List RefreshToken} {db db' : Database} {q t : RefreshToken} (h : Buried ts db)

include h

theorem becomes (hq : q ∈ db.tokens) (ha : IsAmong ts q) : ∃ r ∈ ts, r.Becomes q := by
  obtain ⟨r, hr, he⟩ := ha
  exact ⟨r, hr, h.same q hq r hr he⟩

theorem revoked (hts : ∀ r ∈ ts, r.revoked = true) (hq : q ∈ db.tokens) (ha : IsAmong ts q) :
    q.revoked = true := by
  obtain ⟨r, hr, hb⟩ := h.becomes hq ha
  exact hb.revoked (hts r hr)

/-- A new token has an id of its own. -/
theorem not_isAmong_new (hid : t.id = db.nextTokenId) : ¬ IsAmong ts t := by
  rintro ⟨r, hr, he⟩
  have hle := h.bounded r hr
  rw [he, hid] at hle
  exact Int.not_le.mpr db.lastTokenId_lt_nextTokenId hle

theorem spared (hs : db.Spared db') : Buried ts db' where
  bounded := hs.lastTokenId ▸ h.bounded
  same := hs.tokens ▸ h.same
  closed := hs.tokens ▸ h.closed

theorem pruned (hp : db.Pruned db') : Buried ts db' where
  bounded := hp.lastTokenId ▸ h.bounded
  same q hq := h.same q (hp.sub hq)
  closed q hq ha u hu := h.closed q (hp.sub hq) ha u (hp.sub hu)

theorem revoking (now : Instant) (p : RefreshToken → Bool) : Buried ts (db.revoking now p) where
  bounded := h.bounded
  same q hq r hr he := by
    obtain ⟨a, ha, hb⟩ := Database.becomes_of_mem_revoking hq
    exact (h.same a ha r hr (he.trans hb.id)).trans hb
  closed q hq hm u hu hlink := by
    obtain ⟨a, ha, ba⟩ := Database.becomes_of_mem_revoking hq
    obtain ⟨b, hb, bb⟩ := Database.becomes_of_mem_revoking hu
    rw [RefreshToken.isChildOf_iff, RefreshToken.isChildOf_iff, ba.parent, bb.parent, ba.token,
      bb.token, ← RefreshToken.isChildOf_iff, ← RefreshToken.isChildOf_iff] at hlink
    obtain ⟨r, hr, he⟩ := hm
    obtain ⟨r', hr', he'⟩ := h.closed a ha ⟨r, hr, he.trans ba.id⟩ b hb hlink
    exact ⟨r', hr', he'.trans bb.id.symm⟩

/-- A new token that is not a child of a buried one stays apart. No buried token is a child of it,
as the parents of all tokens are there already. -/
theorem withToken (hl : db.Lineal) (hid : t.id = db.nextTokenId) (hnew : db.token? t.token = none)
    (hchild : ∀ q ∈ db.tokens, IsAmong ts q → ¬ t.isChildOf q) : Buried ts (db.withToken t) where
  bounded r hr := by
    have hle := h.bounded r hr
    show r.id ≤ t.id
    rw [hid, Database.nextTokenId]
    omega
  same q hq r hr he := by
    rcases Database.mem_withToken.mp hq with hm | rfl
    · exact h.same q hm r hr he
    · exact absurd ⟨r, hr, he⟩ (h.not_isAmong_new hid)
  closed q hq ha u hu hlink := by
    rcases Database.mem_withToken.mp hq with hm | rfl
    · rcases Database.mem_withToken.mp hu with hn | rfl
      · exact h.closed q hm ha u hn hlink
      · rcases hlink with hc | hc
        · exact absurd hc (hchild q hm ha)
        · obtain ⟨p, hp, hps, -⟩ := hl.parent q hm _ (RefreshToken.isChildOf_iff.mp hc)
          exact absurd hps (Database.token?_eq_none.mp hnew p hp)
    · exact absurd ha (h.not_isAmong_new hid)

end Buried

section

variable {σ : Type} {s : Service σ} {ts : List RefreshToken}

theorem buried_lasting : Lasting fun db => db.Lineal ∧ Buried ts db :=
  ⟨fun _ _ hs h => ⟨h.1.spared hs, h.2.spared hs⟩,
    fun _ now q h => ⟨h.1.revoking now q, h.2.revoking now q⟩,
    fun _ _ hp h => ⟨h.1.pruned hp, h.2.pruned hp⟩⟩

/-- Only a token that was still valid gets a child, so the dead get none. -/
theorem buried_growing (hts : ∀ r ∈ ts, r.revoked = true) :
    Growing fun db => db.Lineal ∧ Buried ts db where
  lineal _ h := h.1
  root db t h hid hnew hroot hown := by
    refine ⟨h.1.withRoot hid hnew hroot hown, h.2.withToken h.1 hid hnew fun q _ _ hc => ?_⟩
    rw [RefreshToken.isChildOf_iff, hroot] at hc
    cases hc
  child db now old t h hmem hvalid hid hnew hlink hkin := by
    refine ⟨h.1.rotated hmem hvalid hid hnew hlink hkin,
      (h.2.revoking now _).withToken (h.1.revoking now _) hid hnew fun q hq ha hc => ?_⟩
    obtain ⟨a, hm, hb⟩ := Database.becomes_of_mem_revoking hq
    have hold : a = old := by
      refine h.1.distinct a hm old hmem (Option.some.inj ?_)
      rw [← hlink, RefreshToken.isChildOf_iff.mp hc, hb.token]
    obtain ⟨r, hr, he⟩ := ha
    have hrev := h.2.revoked hts hm ⟨r, hr, he.trans hb.id⟩
    rw [hold, hvalid] at hrev
    cases hrev

/-- A chain may be buried. -/
theorem TokenChain.buried {db : Database} (h : db.Lineal) (hts : TokenChain db.tokens ts) :
    Buried ts db where
  bounded r hr := h.bounded r (hts.present r hr)
  same q hq r hr he := by
    rw [h.eq_of_id (hts.present r hr) hq he]
    exact .refl q
  closed q hq ha u hu hlink := by
    obtain ⟨r, hr, he⟩ := ha
    rw [h.eq_of_id (hts.present r hr) hq he] at hr
    exact ⟨u, hts.closed q hr u hu hlink, rfl⟩

/-- Wherever a run leads from where a revoked chain is whole, nothing is linked to what is left of
it, and that is refused. -/
theorem TokenChain.stays_dead (hs : ∀ n, s.Careful n) {h₁ h' : Host σ} {n : Nat}
    (hst : h₁.connection.Steady) (hl : h₁.connection.data.Lineal)
    (hts : TokenChain h₁.connection.data.tokens ts) (hall : ∀ r ∈ ts, r.revoked = true)
    (hon : Onward s Event.Faithful h₁ n h') {q : RefreshToken}
    (hq : q ∈ h'.connection.data.tokens) (ha : IsAmong ts q) :
    (∃ r ∈ ts, r.Becomes q) ∧
      (∀ u ∈ h'.connection.data.tokens, u.isChildOf q ∨ q.isChildOf u → ∃ r ∈ ts, r.Becomes u) ∧
      ∀ later, (s.exchange later q.token h').1 = .error .tokenReused := by
  have hcareful := hs h₁.connection.checkpoints.length
  have hkept := keptByRuns_of_growing hcareful buried_lasting (buried_growing hall)
  obtain ⟨-, hsound⟩ := Onward.sound hkept hst ⟨hl, hts.buried hl⟩ hon
  obtain ⟨hlineal, hburied⟩ := hsound.since.now
  refine ⟨hburied.becomes hq ha, fun u hu hlink => ?_, fun later => ?_⟩
  · exact hburied.becomes hu (hburied.closed q hq ha u hu hlink)
  · obtain ⟨owner, ho, -⟩ := hlineal.owned q hq
    have hrev := hburied.revoked hall hq ha
    exact Service.exchange_of_revoked hsound.steady (hlineal.token?_eq hq) hrev ho

/-- What comes after a token on a path was issued after it. -/
theorem TokenPath.descends {tokens before after : List RefreshToken} {t : RefreshToken}
    (h : TokenPath tokens (before ++ t :: after)) : ∀ r ∈ after, Descends tokens t r := by
  induction after generalizing before t with
  | nil => simp
  | cons v rest ih =>
    have hv : Descends tokens t v :=
      .child (h.present v (by simp)) (List.isChain_append_cons_cons.mp h.linked).2.1
    intro r hr
    rcases List.mem_cons.mp hr with rfl | hr
    · exact hv
    · have hrest : TokenPath tokens ((before ++ [t]) ++ v :: rest) := by
        rwa [List.append_assoc, List.singleton_append]
      exact hv.trans (ih hrest r hr)

/-- Where the family of a revoked token has been revoked, so has its whole chain been. -/
theorem Database.Lineal.chain_revoked {db : Database} (h : db.Lineal) {now : Instant}
    {t t' : RefreshToken} (ht : t ∈ db.tokens) (hb : t.Becomes t') (hrev : t'.revoked = true)
    (hts : TokenChain (db.revokingFamily now t).tokens ts) (hmem : t' ∈ ts) :
    ∀ r ∈ ts, r.revoked = true := by
  obtain ⟨before, after, rfl⟩ := List.append_of_mem hmem
  intro r hr
  rcases List.mem_append.mp hr with hr | hr
  · -- What comes before it has a child.
    refine hts.spent r ?_
    rw [List.dropLast_append_of_ne_nil (List.cons_ne_nil _ _)]
    exact List.mem_append_left _ hr
  rcases List.mem_cons.mp hr with rfl | hr
  · exact hrev
  · -- What comes after it is in its family.
    have hd := hts.toTokenPath.descends r hr
    obtain ⟨u, hu, rfl⟩ := descends_revoking.mp (hd.of_token hb.token)
    have hf := (h.inFamilyOf_iff hu.mem).mpr (h.inFamily ht hu)
    rw [if_pos hf]
    rfl

/-- The chain of a token that is refused as used before is revoked. -/
theorem exists_chain_of_reused (hs : ∀ n, s.Careful n) (hrot : s.config.rotationEnabled = true)
    {h h₁ : Host σ} (hst : h.connection.Steady) (hl : h.connection.data.Lineal)
    (hl₁ : h₁.connection.data.Lineal) {now : Instant} {token : String}
    (run : s.exchange now token h = (.error .tokenReused, h₁)) :
    ∃ t ts, t.token = token ∧ t ∈ ts ∧ TokenChain h₁.connection.data.tokens ts ∧
      ∀ r ∈ ts, r.revoked = true := by
  obtain ⟨ha, hu⟩ := (hs 1).leavesOpen.resolve_left Nat.one_ne_zero
  obtain ⟨t, ht, hrev, hd⟩ := Service.exchange_reused hst (hs 0) ha hu run
  rw [if_pos hrot] at hd
  obtain ⟨hmem, htoken⟩ := Database.mem_of_token? ht
  -- The row of the presented token, as the exchange left it.
  obtain ⟨t', hb, hmem'⟩ : ∃ t', t.Becomes t' ∧ t' ∈ h₁.connection.data.tokens := by
    rw [hd]
    exact ⟨_, Database.becomes_revoking _ _ t, (Database.mem_revoking _ _).mpr ⟨t, hmem, rfl⟩⟩
  obtain ⟨ts, hts, htts⟩ := hl₁.exists_chain hmem'
  refine ⟨t', ts, hb.token.trans htoken, htts, hts, ?_⟩
  rw [hd] at hts
  exact hl.chain_revoked hmem hb (hb.revoked hrev) hts htts

/-- A token that is refused as used before takes its chain with it: all of the chain is revoked, and
wherever a run leads from there without going back, no token is linked to what is left of it, and
what is left of it is refused in the same way. -/
theorem replay_ends_chain (hs : ∀ n, s.Careful n) (hrot : s.config.rotationEnabled = true)
    {h h₁ : Host σ} (hr : Reached s Event.Faithful h) {now : Instant} {token : String}
    (run : s.exchange now token h = (.error .tokenReused, h₁)) :
    ∃ t ts, t.token = token ∧ t ∈ ts ∧ TokenChain h₁.connection.data.tokens ts ∧
      (∀ r ∈ ts, r.revoked = true) ∧
      ∀ n h', Onward s Event.Faithful h₁ n h' →
        ∀ q ∈ h'.connection.data.tokens, IsAmong ts q →
          (∃ r ∈ ts, r.Becomes q) ∧
          (∀ u ∈ h'.connection.data.tokens, u.isChildOf q ∨ q.isChildOf u → ∃ r ∈ ts, r.Becomes u) ∧
          ∀ later, (s.exchange later q.token h').1 = .error .tokenReused := by
  have hkept := lineal_keptByRuns (hs 0)
  have hr₁ : Reached s Event.Faithful h₁ := by
    have hstep := Reached.step now (.request (.exchange token)) hr trivial
    have he : (Event.request (.exchange token)).perform s now h = h₁ := congrArg Prod.snd run
    rwa [he] at hstep
  have hsound := Reached.sound hkept lineal_migrated hr
  have hsound₁ := Reached.sound hkept lineal_migrated hr₁
  have hl₁ := hsound₁.since.now
  obtain ⟨t, ts, ht, htts, hts, hall⟩ :=
    exists_chain_of_reused hs hrot hsound.steady hsound.since.now hl₁ run
  refine ⟨t, ts, ht, htts, hts, hall, fun n h' hon q hq ha => ?_⟩
  exact hts.stays_dead hs hsound₁.steady hl₁ hall hon hq ha

/-- Alice's first token is presented once more, after which none of her tokens is left. -/
theorem rotated_replay_ends_chain :
    let h₁ := (Sample.service.exchange Sample.time "t" Sample.rotated).2
    (Sample.service.exchange Sample.time "t" Sample.rotated).1 = .error .tokenReused ∧
      ∃ t ts, t.token = "t" ∧ t ∈ ts ∧ TokenChain h₁.connection.data.tokens ts ∧
        ∀ r ∈ ts, r.revoked = true := by
  intro h₁
  have run : (Sample.service.exchange Sample.time "t" Sample.rotated).1 = .error .tokenReused := by
    rfl
  obtain ⟨t, ts, ht, hm, hts, hall, -⟩ := replay_ends_chain (Service.careful_table rfl rfl) rfl
    reached_rotated (Prod.ext run rfl)
  exact ⟨run, t, ts, ht, hm, hts, hall⟩

end

end RefreshChain
