import RefreshChain.Proofs.Copies
import RefreshChain.Proofs.Descent

/-!
# Swaps of stale copies

A swap revokes the row that has the id of the copy that it is given, and issues a token that names
the string of the copy as its parent. Ids are given out again after a rollback, strings never are.
So id and string of a copy may have come apart.

* `parents_precede_children`: still, the links lead from higher ids to lower ones, and to revoked
  rows, whatever copies are swapped.
* `swaps_given_iff`: a swap acts on the token that it is given just if no other row has its id.
* `swap_of_reissued_id`: another row may have its id, and then the swap revokes that one.
* `swaps_given_ahead`: not without a rollback.
-/

namespace RefreshChain

variable {σ : Type} {s : Service σ} {outside : σ} {issued : List RefreshToken} {h : Host σ}

/-! ## Links -/

section

variable {db : Database} {start t : RefreshToken}

/-- Links lead down, so whoever descends from a row has a higher id. -/
theorem Registered.lt_of_descends (hr : Registered issued db) (hs : start ∈ db.tokens)
    (hd : Descends db.tokens start t) : start.id < t.id := by
  induction hd with
  | child mem link => exact (hr.links start hs _ mem link).1
  | further above mem link ih => exact Int.lt_trans ih (hr.links _ above.mem _ mem link).1

theorem Registered.not_descends_self (hr : Registered issued db) : ¬ Descends db.tokens t t :=
  fun hd => Int.lt_irrefl _ (hr.lt_of_descends hd.mem hd)

/-- No row is in the family of a token with its string. -/
theorem Registered.not_inFamily (hr : Registered issued db) (he : t.token = start.token) :
    ¬ InFamily db.tokens start t :=
  fun hf => hr.not_descends_self (hf.descends.of_token he.symm)

theorem Registered.token?_revokingFamily (hr : Registered issued db) (now : Instant) :
    (db.revokingFamily now start).token? start.token = db.token? start.token := by
  refine Database.token?_revoking fun t ht he => Bool.eq_false_iff.mpr fun hf => ?_
  exact hr.not_inFamily he ((hr.inFamilyOf_iff ht).mp hf)

end

/-- Whatever copies are swapped, and for whom: a row that is named as a parent has a lower id, is
revoked, and is bound to the same session. So links never run in a circle, and the revocation of a
family leaves alone the row with the string that it is given. -/
theorem parents_precede_children (ha : s.audit = .table) (hu : s.users = .table)
    (never : s.NeverRepeats outside) (hr : Handed s outside issued h) :
    let tokens := h.connection.data.tokens
    (∀ p ∈ tokens, ∀ t ∈ tokens, t.isChildOf p →
      p.id < t.id ∧ p.revoked = true ∧ t.ssoSessionId = p.ssoSessionId) ∧
    (∀ t, ¬ Descends tokens t t) ∧
    ∀ now start, ∃ h', revokeFamily now start h = (.ok (), h') ∧
      h'.connection.data.token? start.token = h.connection.data.token? start.token := by
  obtain ⟨-, hst, hreg⟩ := hr.sound ha hu never
  refine ⟨hreg.links, fun _ => hreg.not_descends_self, fun now start => ?_⟩
  exact ⟨_, Service.revokeFamily_apply hst start, hreg.token?_revokingFamily now⟩

namespace Sample

/-- The token that Alice gets for the one that was taken back. -/
def child : RefreshToken :=
  { second alice.instanceId with token := "ttt" }

/-- A host where Alice has swapped the token that was taken back, and then the one that she got for
it. -/
def swapped : Host Nat :=
  [Event.request (.swap alice takenBack), .request (.swap alice child)].foldl
    (fun h e => e.perform service time h) again

theorem handed_swapped : ∃ issued, Handed service 0 issued swapped := by
  have first := handed_again.step time (.request (.swap alice takenBack)) isCopy_takenBack
  have copy : IsCopy [takenBack, reissued, child] child := ⟨child, by simp, .refl _⟩
  exact ⟨_, first.step time (.request (.swap alice child)) copy⟩

end Sample

/-- The first swap has revoked another token than the one that was swapped, and its child hangs in
the air. The second has linked its child to a row. -/
theorem swapped_parents_precede_children :
    let tokens := Sample.swapped.connection.data.tokens
    tokens.map (fun t => (t.id, t.token, t.parent, t.revoked)) =
        [(1, "tt", none, true), (2, "ttt", some "t", true), (3, "tttt", some "ttt", false)] ∧
      ∀ p ∈ tokens, ∀ t ∈ tokens, t.isChildOf p →
        p.id < t.id ∧ p.revoked = true ∧ t.ssoSessionId = p.ssoSessionId := by
  obtain ⟨issued, hr⟩ := Sample.handed_swapped
  exact ⟨by rfl, (parents_precede_children rfl rfl (Sample.service_neverRepeats 0) hr).1⟩

/-! ## The token that a swap is given -/

/-- A swap of `old` acts on the row with the string of `old`: if it succeeds, there was such a row,
just that one has been revoked, and the new token is its child. Where there is none, the swap fails
and leaves all as it was. -/
structure SwapsGiven (s : Service σ) (now : Instant) (user : User) (old : RefreshToken)
    (h : Host σ) : Prop where
  success : ∀ i h', s.swap now user old h = (.ok i, h') →
    (∃ r ∈ h.connection.data.tokens, r.token = old.token) ∧ i.token.parent = some old.token ∧
      h'.connection.data.tokens =
        (h.connection.data.tokens.map fun r =>
          if r.token = old.token then r.revokedAt now else r) ++ [i.token]
  missing : (∀ r ∈ h.connection.data.tokens, r.token ≠ old.token) →
    Service.NotFound h (s.swap now user old h)

/-- What has the id of the copy is not missed. -/
theorem Service.swap_ne_notFound (hst : h.connection.Steady) (ha : s.audit = .table)
    (hu : s.users = .table) {now : Instant} {user : User} {old r : RefreshToken}
    (hr : r ∈ h.connection.data.tokens) (he : r.id = old.id) :
    (s.swap now user old h).1 ≠ .error .tokenNotFound := by
  have hanswers := s.serve_answers hst ha hu now (.swap user old)
  have hany : h.connection.data.tokens.any (·.id = old.id) = true :=
    List.any_eq_true.mpr ⟨r, hr, by simpa using he⟩
  rw [Database.serve, Database.swap, if_pos hany] at hanswers
  intro hnone
  rcases ho : ((h.connection.data.recording now user).revoking now (·.id = old.id)).issue now user
    (.rotation old) (s.supply h.outside (Request.swap user old).opensSession).1 with e | ⟨i, db⟩ <;>
    rw [ho] at hanswers
  · obtain ⟨he, -⟩ := hanswers.error e _ rfl
    obtain ⟨context, source, rfl⟩ := Database.issue_error ho
    cases he.symm.trans hnone
  · obtain ⟨-, run⟩ := hanswers.ok i db rfl
    have hok : (s.swap now user old h).1 = .ok i := congrArg Prod.fst run
    cases hok.symm.trans hnone

/-- The rows after a swap that succeeds. -/
theorem Service.swap_ok (hst : h.connection.Steady) (ha : s.audit = .table)
    (hu : s.users = .table) {now : Instant} {user : User} {old : RefreshToken} {i : IssuedToken}
    {h' : Host σ} (run : s.swap now user old h = (.ok i, h')) :
    (∃ r ∈ h.connection.data.tokens, r.id = old.id) ∧ i.token.parent = some old.token ∧
      h'.connection.data.tokens =
        (h.connection.data.tokens.map fun r =>
          if r.id = old.id then r.revokedAt now else r) ++ [i.token] := by
  have hanswers := s.serve_answers hst ha hu now (.swap user old)
  rcases ho : h.connection.data.serve s.config.rotationEnabled now
    (s.supply h.outside (Request.swap user old).opensSession).1 (.swap user old) with ⟨e | i', db⟩
  · have he : (s.swap now user old h).1 = .error e := (hanswers.error e db ho).1
    rw [run] at he
    cases he
  · obtain ⟨-, run'⟩ := hanswers.ok i' db ho
    cases run.symm.trans run'
    obtain ⟨user', origin, q, hi, hg⟩ := Database.serve_ok ho
    cases hi with
    | swap there =>
      refine ⟨there, hg.issued.parent, ?_⟩
      have htokens := hg.rest.tokens
      simpa [Database.withToken, Database.revoking] using htokens

/-- Where id and string of the copy are paired in the store, a swap of it acts on it. -/
theorem Registered.swapsGiven_iff (ha : s.audit = .table) (hu : s.users = .table)
    (hst : h.connection.Steady) (hl : Ledger s outside issued h.outside)
    (hreg : Registered issued h.connection.data) (now : Instant) (user : User)
    {old : RefreshToken} (hold : IsCopy issued old) :
    SwapsGiven s now user old h ↔
      ∀ r ∈ h.connection.data.tokens, r.id = old.id → r.token = old.token := by
  have hid : ∀ r ∈ h.connection.data.tokens, r.token = old.token → r.id = old.id :=
    fun r hm he => (hl.same (hreg.copies r hm) hold he).1
  constructor
  · intro hgiven r hm he
    -- Were the string another one, no row would have that of the copy; but the swap finds `r`.
    refine Decidable.byContradiction fun hne => ?_
    refine Service.swap_ne_notFound hst ha hu hm he (hgiven.missing fun u hn hs => ?_).1
    rw [hreg.eq_of_id hm hn (he.trans (hid u hn hs).symm)] at hne
    exact hne hs
  · intro hrow
    refine ⟨fun i h' run => ?_, fun hnone => ?_⟩
    · obtain ⟨⟨r, hm, he⟩, hparent, htokens⟩ := Service.swap_ok hst ha hu run
      refine ⟨⟨r, hm, hrow r hm he⟩, hparent, htokens.trans ?_⟩
      congr 1
      refine List.map_congr_left fun u hn => ?_
      by_cases hs : u.token = old.token
      · rw [if_pos hs, if_pos (hid u hn hs)]
      · rw [if_neg hs, if_neg fun hc => hs (hrow u hn hc)]
    · exact Service.swap_notFound hst ha now user fun t hm he => hnone t hm (hrow t hm he)

/-- A swap acts on the token that it is given just if the row with the id of the copy, if there is
one, has its string, too. -/
theorem swaps_given_iff (ha : s.audit = .table) (hu : s.users = .table)
    (never : s.NeverRepeats outside) (hr : Handed s outside issued h) (now : Instant) (user : User)
    {old : RefreshToken} (hold : IsCopy issued old) :
    SwapsGiven s now user old h ↔
      ∀ r ∈ h.connection.data.tokens, r.id = old.id → r.token = old.token := by
  obtain ⟨hl, hst, hreg⟩ := hr.sound ha hu never
  exact hreg.swapsGiven_iff ha hu hst hl now user hold

/-- Alice holds the token that the store knows. -/
theorem again_swaps_given :
    (∀ r ∈ Sample.again.connection.data.tokens, r.id = Sample.reissued.id →
        r.token = Sample.reissued.token) ∧
      SwapsGiven Sample.service Sample.time Sample.alice Sample.reissued Sample.again := by
  have tokens : Sample.again.connection.data.tokens = [Sample.reissued] := by rfl
  have row : ∀ r ∈ Sample.again.connection.data.tokens, r.id = Sample.reissued.id →
      r.token = Sample.reissued.token := by
    rw [tokens]
    intro r hr _
    rw [List.mem_singleton.mp hr]
  have copy : IsCopy [Sample.takenBack, Sample.reissued] Sample.reissued :=
    ⟨_, .tail _ (.head _), .refl _⟩
  exact ⟨row, (swaps_given_iff rfl rfl (Sample.service_neverRepeats 0) Sample.handed_again
    Sample.time Sample.alice copy).mpr row⟩

/-- Alice presents the token that was taken back. It is gone, but the swap succeeds; it revokes
another one, and the child hangs in the air. -/
theorem swap_of_reissued_id :
    let served := Sample.service.swap Sample.time Sample.alice Sample.takenBack Sample.again
    Handed Sample.service 0 [Sample.takenBack, Sample.reissued] Sample.again ∧
      Sample.service.NeverRepeats 0 ∧
      IsCopy [Sample.takenBack, Sample.reissued] Sample.takenBack ∧
      Sample.again.connection.data.tokens = [Sample.reissued] ∧
      served.1 = .ok ⟨Sample.child, none⟩ ∧
      served.2.connection.data.tokens =
        [Sample.reissued.revokedAt Sample.time, Sample.child] ∧
      ¬ SwapsGiven Sample.service Sample.time Sample.alice Sample.takenBack Sample.again := by
  intro served
  have tokens : Sample.again.connection.data.tokens = [Sample.reissued] := by rfl
  refine ⟨Sample.handed_again, Sample.service_neverRepeats 0, Sample.isCopy_takenBack, tokens,
    by rfl, by rfl, fun hgiven => ?_⟩
  have missing := (hgiven.missing (by rw [tokens]; decide)).1
  have answers : served.1 = .ok ⟨Sample.child, none⟩ := by rfl
  cases answers.symm.trans missing

/-- That takes a rollback. From where the store has a token, a swap of a copy of it acts on it for
as long as nothing goes back to before. -/
theorem swaps_given_ahead (ha : s.audit = .table) (hu : s.users = .table)
    (never : s.NeverRepeats outside) (hr : Handed s outside issued h) {d : RefreshToken}
    (hd : d ∈ h.connection.data.tokens) {n : Nat} {later : List RefreshToken} {h' : Host σ}
    (hon : Ahead s issued h n later h') (now : Instant) (user : User) {old : RefreshToken}
    (hold : IsCopy later old) (he : old.token = d.token) : SwapsGiven s now user old h' := by
  obtain ⟨hl, hst, hreg⟩ := hr.sound ha hu never
  have paired : Reserved d.id (fun t => t.token = d.token) h.connection.data :=
    ⟨hreg.bounded d hd, fun t ht hid => by rw [hreg.eq_of_id ht hd hid]⟩
  obtain ⟨hl', hs⟩ := hon.sound ha hu never
    (reserved_law fun t u hb hq => hb.token.trans hq) hst hl hreg paired
  obtain ⟨hreg', paired'⟩ := hs.since.now
  refine (hreg'.swapsGiven_iff ha hu hs.steady hl' now user hold).mpr fun r hm hid => ?_
  have hsame := hl'.same hold (hon.isCopy (hreg.copies d hd)) he
  rw [paired'.rows r hm (hid.trans hsame.1), he]

end RefreshChain
