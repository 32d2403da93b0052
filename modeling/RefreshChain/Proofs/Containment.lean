import RefreshChain.Proofs.Chains
import RefreshChain.Proofs.Descent
import RefreshChain.Proofs.Reuse

/-!
# How far the revocation of a family reaches

The revocation of a family looks for the children of a token in the instance of that token, and from
there on follows the links alone. A child, however, is put into the instance of the user that it is
issued to. So if the user has moved, or a token is swapped for a user of another instance, the
revocation stops short of what descends from that child.

* `family_contained_iff`: when all that descends from a token is revoked in the end, in all that
  runs lead to.
* `family_contained`: it is where tokens stay with their users and users in their instance.
-/

namespace RefreshChain

/-! ## Runs of any kind -/

/-- Whatever happens. -/
def Event.Any (_ : Event) (_ : Database) : Prop := True

section

variable {σ : Type} {s : Service σ}

/-- All runs keep ids and strings of tokens in order. -/
theorem numbered_keptByRuns (hs : s.Careful 0) : KeptByRuns s Event.Any 0 Database.Numbered where
  lasting := numbered_lasting
  request m hm now r := by
    cases Nat.le_zero.mp hm
    have hP := numbered_lasting
    cases r with
    | grant user conditions =>
      refine Action.Keeps.transaction (Service.issue_keeps (R := fun _ _ => True) hs hP.spared
        (fun _ _ _ _ _ => trivial) user (.signIn conditions) (fun _ _ _ _ _ => trivial) ?_)
        (.inl rfl)
      exact fun db t h _ hi => ⟨h.withToken hi.id hi.fresh, trivial⟩
    | swap user old =>
      refine Action.Keeps.transaction (Service.swapWork_keeps (R := fun _ _ => True) hs hP
        (fun _ _ _ _ => trivial) (fun _ _ _ _ _ => trivial) user old ?_) (.inl rfl)
      exact fun db t h _ _ hi => ⟨(h.revoking now _).withToken hi.id hi.fresh, trivial⟩
    | exchange token =>
      refine Service.exchange_keeps hP token (Service.exchangeWork_keeps (R := fun _ _ => True) hs
        hP (fun _ _ _ _ => trivial) (fun _ _ _ _ _ => trivial) token ?_) (.inl rfl)
      exact fun db t user old h _ _ hi => ⟨(h.revoking now _).withToken hi.id hi.fresh, trivial⟩
  change _ _ _ _ h := ⟨h.ascending, h.bounded, h.distinct⟩

theorem numbered_migrated : Database.migrated.Numbered :=
  ⟨.nil, fun _ ht => absurd ht List.not_mem_nil, fun _ ht => absurd ht List.not_mem_nil⟩

end

/-! ## What is found -/

/-- The family of a token is what descends from its children in its own instance, they included. -/
theorem inFamily_iff {tokens : List RefreshToken} {start t : RefreshToken} :
    InFamily tokens start t ↔ ∃ c ∈ tokens, c.isChildOf start ∧
      c.instanceId = start.instanceId ∧ (t = c ∨ Descends tokens c t) := by
  constructor
  · intro h
    induction h with
    | @child t mem link =>
      simp only [RefreshToken.isNearChildOf, Bool.and_eq_true, decide_eq_true_eq] at link
      exact ⟨t, mem, link.1, link.2, .inl rfl⟩
    | further _ mem link ih =>
      obtain ⟨c, hc, hlink, hi, h⟩ := ih
      refine ⟨c, hc, hlink, hi, .inr ?_⟩
      rcases h with rfl | hd
      · exact .child mem link
      · exact .further hd mem link
  · rintro ⟨c, hc, hlink, hi, h⟩
    have hnear : InFamily tokens start c :=
      .child hc (by simp [RefreshToken.isNearChildOf, hlink, hi])
    rcases h with rfl | hd
    · exact hnear
    · induction hd with
      | child mem link => exact .further hnear mem link
      | further _ mem link ih => exact .further ih mem link

/-- After the revocation of a family, all that descends from the token is revoked just if all that
the revocation does not find was revoked before. -/
theorem Database.Numbered.descendants_revoked_iff {db : Database} (h : db.Numbered) {now : Instant}
    {start : RefreshToken} :
    (∀ r, Descends (db.revokingFamily now start).tokens start r → r.revoked = true) ↔
      ∀ r, Descends db.tokens start r → InFamily db.tokens start r ∨ r.revoked = true := by
  constructor
  · intro hall r hr
    by_cases hf : InFamily db.tokens start r
    · exact .inl hf
    · have hnot : ¬ db.inFamilyOf start r = true := fun hc => hf ((h.inFamilyOf_iff hr.mem).mp hc)
      have hrev := hall _ (descends_revoking.mpr ⟨r, hr, rfl⟩)
      rw [if_neg hnot] at hrev
      exact .inr hrev
  · intro hall r hr
    obtain ⟨u, hu, rfl⟩ := descends_revoking.mp hr
    rcases hall u hu with hf | hrev
    · rw [if_pos ((h.inFamilyOf_iff hu.mem).mpr hf)]
      rfl
    · exact (becomes_revoking now _ u).revoked hrev

section

variable {σ : Type} {s : Service σ} {h h' : Host σ} {now : Instant} {start : RefreshToken}

/-- `h'` is what the revocation of the family of `start` leaves of `h`: on demand, or as `start` was
presented once more. -/
def FamilyRevocation (s : Service σ) (now : Instant) (start : RefreshToken) (h h' : Host σ) :
    Prop :=
  revokeFamily now start h = (.ok (), h') ∨
    (s.config.rotationEnabled = true ∧ s.exchange now start.token h = (.error .tokenReused, h'))

/-- Either way it is the family that is revoked. -/
theorem FamilyRevocation.data (hs : ∀ n, s.Careful n) (hst : h.connection.Steady)
    (hn : h.connection.data.Numbered) (hmem : start ∈ h.connection.data.tokens)
    (hrev : FamilyRevocation s now start h h') :
    h'.connection.data = h.connection.data.revokingFamily now start := by
  rcases hrev with run | ⟨hrot, run⟩
  · rw [Service.revokeFamily_apply hst] at run
    cases run
    rfl
  · obtain ⟨ha, hu⟩ := (hs 1).leavesOpen.resolve_left Nat.one_ne_zero
    obtain ⟨t, ht, -, hd⟩ := Service.exchange_reused hst (hs 0) ha hu run
    rw [hn.token?_eq hmem] at ht
    cases ht
    rw [hd, if_pos hrot]

/-- In all that runs lead to, users may move and tokens be swapped for other users. There the
revocation of a family revokes all that descends from a token just if all was revoked before but
what descends from its children in its own instance. -/
theorem family_contained_iff (hs : ∀ n, s.Careful n) (hr : Reached s Event.Any h)
    (hmem : start ∈ h.connection.data.tokens) (hrev : FamilyRevocation s now start h h') :
    (∀ r, Descends h'.connection.data.tokens start r → r.revoked = true) ↔
      ∀ r, Descends h.connection.data.tokens start r →
        (∃ c ∈ h.connection.data.tokens, c.isChildOf start ∧ c.instanceId = start.instanceId ∧
          (r = c ∨ Descends h.connection.data.tokens c r)) ∨ r.revoked = true := by
  have hsound := Reached.sound (numbered_keptByRuns (hs 0)) numbered_migrated hr
  rw [hrev.data hs hsound.steady hsound.since.now hmem, hsound.since.now.descendants_revoked_iff]
  simp only [inFamily_iff]

/-- Alice has not moved, and the revocation of the family of her first token reaches her second. -/
theorem rotated_family_contained :
    let h' := (revokeFamily Sample.time Sample.first Sample.rotated).2
    Descends h'.connection.data.tokens Sample.first
        ((Sample.second Sample.alice.instanceId).revokedAt Sample.time) ∧
      ∀ r, Descends h'.connection.data.tokens Sample.first r → r.revoked = true := by
  intro h'
  have tokens : Sample.rotated.connection.data.tokens =
      [Sample.first, Sample.second Sample.alice.instanceId] := by rfl
  have run : (revokeFamily Sample.time Sample.first Sample.rotated).1 = .ok () := by rfl
  refine ⟨.child (.tail _ (.head _)) (by decide), (family_contained_iff
    (Service.careful_table rfl rfl) (reached_rotated.mono fun _ _ _ => trivial)
    (tokens ▸ .head _) (.inl (Prod.ext run rfl))).mpr fun r hr => ?_⟩
  rw [tokens]
  have hmem := hr.mem
  rw [tokens, List.mem_pair] at hmem
  rcases hmem with rfl | rfl
  · exact .inr rfl
  · exact .inl ⟨_, .tail _ (.head _), by decide, rfl, .inl rfl⟩

namespace Sample

/-- A host where Alice has moved to another instance before she exchanged her first token. -/
def moved : Host Nat :=
  after [.addUser alice, .request (.grant alice none),
    .changeUser alice.id { instanceId := some (.ofNat 9) }, .request (.exchange "t")]

theorem reached_moved : Reached service Event.Any moved := by
  have started : Reached service Event.Any (after []) := .start 0
  have added := started.step time (.addUser alice) trivial
  have granted := added.step time (.request (.grant alice none)) trivial
  have changed := granted.step time (.changeUser alice.id { instanceId := some (.ofNat 9) }) trivial
  exact changed.step time (.request (.exchange "t")) trivial

end Sample

/-- Alice has moved. Once her first token is presented again, her second descends from it and is
still valid. -/
theorem moved_family_not_contained :
    let h' := (Sample.service.exchange Sample.time "t" Sample.moved).2
    Reached Sample.service Event.Any Sample.moved ∧
      Sample.first ∈ Sample.moved.connection.data.tokens ∧
      FamilyRevocation Sample.service Sample.time Sample.first Sample.moved h' ∧
      ¬ ∀ r, Descends h'.connection.data.tokens Sample.first r → r.revoked = true := by
  intro h'
  have run : (Sample.service.exchange Sample.time "t" Sample.moved).1 = .error .tokenReused := by
    rfl
  refine ⟨Sample.reached_moved, .head _, .inr ⟨rfl, Prod.ext run rfl⟩, fun hall => ?_⟩
  have hd : Descends h'.connection.data.tokens Sample.first (Sample.second (.ofNat 9)) :=
    .child (.tail _ (.head _)) (by decide)
  exact absurd (hall _ hd) (by decide)

/-- Where tokens stay with their users, and users in their instance, all that descends from a token
is revoked. -/
theorem family_contained (hs : ∀ n, s.Careful n) (hr : Reached s Event.Faithful h)
    (hmem : start ∈ h.connection.data.tokens) (hrev : FamilyRevocation s now start h h') :
    ∀ r, Descends h'.connection.data.tokens start r → r.revoked = true := by
  have hsound := Reached.sound (lineal_keptByRuns (hs 0)) lineal_migrated hr
  have hl := hsound.since.now
  rw [hrev.data hs hsound.steady hl.toNumbered hmem, hl.descendants_revoked_iff]
  exact fun r hd => .inl (hl.inFamily hmem hd)

end

end RefreshChain
