import RefreshChain.Proofs.Answers
import RefreshChain.Proofs.Sources

/-!
# Copies of tokens

Callers keep copies of the tokens that were handed out to them. They may present one at any later
time: when its row has been revoked or deleted, or was taken back with the transaction that issued
it. By then its id may belong to another row; its string never does, if the source of strings never
gives one twice.

* `IsCopy`: a copy of a token that was handed out.
* `Ahead`: runs in which only such copies are swapped, with all tokens handed out on the way.
  `Handed`: those that start from an empty store.
* `Ledger`, `Registered`: what holds all along of the tokens handed out, and of the rows.
* `Ahead.sound`: that is so, together with any law that says when rows come and go, `TokenLaw`.
-/

namespace RefreshChain

/-- A copy of a token that was handed out, made at any time. -/
def IsCopy (issued : List RefreshToken) (t : RefreshToken) : Prop := ∃ u ∈ issued, u.Becomes t

variable {σ : Type}

/-! ## Runs -/

namespace Event

/-- The token that an event hands out, if it does. -/
def issued (s : Service σ) (now : Instant) (h : Host σ) : Event → List RefreshToken
  | .request r =>
    match (s.serve now r h).1 with
    | .ok i => [i.token]
    | .error _ => []
  | _ => []

/-- A swap presents a copy of a token that was handed out. -/
def Presents (issued : List RefreshToken) : Event → Prop
  | .request (.swap _ old) => IsCopy issued old
  | _ => True

end Event

/-- The hosts that a run leads to from an empty store that has just been migrated, with all tokens
that were handed out. -/
inductive Handed (s : Service σ) (outside : σ) : List RefreshToken → Host σ → Prop where
  | start : Handed s outside [] ⟨.connect .migrated, outside⟩
  | step {issued : List RefreshToken} {h : Host σ} (now : Instant) (e : Event)
      (before : Handed s outside issued h) (presents : e.Presents issued) :
      Handed s outside (issued ++ e.issued s now h) (e.perform s now h)

/-- The hosts that a run leads to from `h₀`, where the tokens of `issued₀` had been handed out, with
all tokens handed out by then and with the number of transactions open that were open at `h₀`. No
event goes back to before `h₀`. -/
inductive Ahead (s : Service σ) (issued₀ : List RefreshToken) (h₀ : Host σ) :
    Nat → List RefreshToken → Host σ → Prop where
  | start : Ahead s issued₀ h₀ h₀.connection.checkpoints.length issued₀ h₀
  | step {n : Nat} {issued : List RefreshToken} {h : Host σ} (now : Instant) (e : Event)
      (before : Ahead s issued₀ h₀ n issued h) (presents : e.Presents issued)
      (stays : e.Stays s now n h) :
      Ahead s issued₀ h₀ (min n (e.perform s now h).connection.checkpoints.length)
        (issued ++ e.issued s now h) (e.perform s now h)

/-- From an empty store there is nothing to go back to. -/
theorem Handed.ahead {s : Service σ} {outside : σ} {issued : List RefreshToken} {h : Host σ}
    (hr : Handed s outside issued h) : Ahead s [] ⟨.connect .migrated, outside⟩ 0 issued h := by
  induction hr with
  | start => exact .start
  | step now e _ presents ih =>
    refine Nat.zero_min _ ▸ .step now e ih presents ?_
    cases e <;> first | exact trivial | exact Connection.endsWithin_zero _ | exact Nat.zero_le _

/-! ## What holds all along -/

/-- The tokens handed out from `start` on have strings of their own, and the source at `outside`
gives neither these nor those of their parents again. -/
structure Ledger (s : Service σ) (start : σ) (issued : List RefreshToken) (outside : σ) : Prop where
  later : s.Later start outside
  distinct : ∀ t ∈ issued, ∀ u ∈ issued, t.token = u.token → t = u
  spent : ∀ t ∈ issued, s.Spent outside t.token
  parents : ∀ t ∈ issued, ∀ p, t.parent = some p → s.Spent outside p

/-- All rows are of tokens that were handed out. A row that names another as its parent has a higher
id and the same session, and the other is revoked. -/
structure Registered (issued : List RefreshToken) (db : Database) : Prop extends db.Numbered where
  copies : ∀ t ∈ db.tokens, IsCopy issued t
  links : ∀ p ∈ db.tokens, ∀ t ∈ db.tokens, t.isChildOf p →
    p.id < t.id ∧ p.revoked = true ∧ t.ssoSessionId = p.ssoSessionId

/-- A law about tokens that no change to other rows breaks, nor a new token with a new id. -/
structure TokenLaw (P : Database → Prop) : Prop where
  lasting : Lasting P
  users : ∀ db us, P db → P { db with users := us }
  grown : ∀ db t, P db → t.id = db.nextTokenId → P (db.withToken t)

theorem TokenLaw.trivial : TokenLaw fun _ => True :=
  ⟨true_lasting, fun _ _ _ => True.intro, fun _ _ _ _ => True.intro⟩

/-- The id has been given out, and a row that has it is as `Q` says. -/
structure Reserved (id : Int) (Q : RefreshToken → Prop) (db : Database) : Prop where
  given : id ≤ db.lastTokenId
  rows : ∀ t ∈ db.tokens, t.id = id → Q t

/-- New rows get other ids. -/
theorem reserved_law {id : Int} {Q : RefreshToken → Prop} (hQ : ∀ t u, t.Becomes u → Q t → Q u) :
    TokenLaw (Reserved id Q) where
  lasting :=
    { spared := fun _ _ hs h => ⟨hs.lastTokenId ▸ h.given, hs.tokens ▸ h.rows⟩
      revoking := fun db now q h => by
        refine ⟨h.given, fun t ht he => ?_⟩
        obtain ⟨u, hu, hb⟩ := Database.becomes_of_mem_revoking ht
        exact hQ _ _ hb (h.rows u hu (hb.id ▸ he))
      pruned := fun _ _ hp h =>
        ⟨hp.lastTokenId ▸ h.given, fun t ht => h.rows t (hp.sub ht)⟩ }
  users _ _ h := ⟨h.given, h.rows⟩
  grown db t h hid := by
    have hlt : id < t.id := hid ▸ Int.lt_of_le_of_lt h.given db.lastTokenId_lt_nextTokenId
    refine ⟨Int.le_of_lt hlt, fun u hu he => ?_⟩
    rcases Database.mem_withToken.mp hu with hm | rfl
    · exact h.rows u hm he
    · exact absurd he (Int.ne_of_gt hlt)

section

variable {issued : List RefreshToken} {db db' : Database} {t u : RefreshToken}

theorem IsCopy.mono (h : IsCopy issued t) (more : List RefreshToken) :
    IsCopy (issued ++ more) t := by
  obtain ⟨v, hv, hb⟩ := h
  exact ⟨v, List.mem_append_left _ hv, hb⟩

theorem IsCopy.becomes (h : IsCopy issued t) (hb : t.Becomes u) : IsCopy issued u := by
  obtain ⟨v, hv, hvt⟩ := h
  exact ⟨v, hv, hvt.trans hb⟩

/-- Copies with the same string are copies of the same token. -/
theorem Ledger.same {s : Service σ} {start outside : σ} (hl : Ledger s start issued outside)
    (ht : IsCopy issued t) (hu : IsCopy issued u) (he : t.token = u.token) :
    t.id = u.id ∧ t.ssoSessionId = u.ssoSessionId := by
  obtain ⟨v, hv, hvt⟩ := ht
  obtain ⟨w, hw, hwu⟩ := hu
  have hvw : v = w := hl.distinct v hv w hw (hvt.token.symm.trans (he.trans hwu.token))
  rw [hvt.id, hwu.id, hvt.kin.ssoSessionId, hwu.kin.ssoSessionId, hvw]
  exact ⟨rfl, rfl⟩

theorem Registered.mono (h : Registered issued db) (more : List RefreshToken) :
    Registered (issued ++ more) db :=
  ⟨h.toNumbered, fun t ht => (h.copies t ht).mono more, h.links⟩

theorem registered_lasting : Lasting (Registered issued) where
  spared _ _ hs h := by
    refine ⟨h.toNumbered.spared hs, ?_, ?_⟩ <;> rw [hs.tokens]
    · exact h.copies
    · exact h.links
  revoking db now q h := by
    refine ⟨h.toNumbered.revoking now q, fun t ht => ?_, fun p hp t ht hlink => ?_⟩
    · obtain ⟨a, ha, hb⟩ := Database.becomes_of_mem_revoking ht
      exact (h.copies a ha).becomes hb
    · obtain ⟨a, ha, ba⟩ := Database.becomes_of_mem_revoking hp
      obtain ⟨b, hb, bb⟩ := Database.becomes_of_mem_revoking ht
      have hab : b.isChildOf a := by
        rw [RefreshToken.isChildOf_iff] at hlink ⊢
        rw [← bb.parent, hlink, ba.token]
      obtain ⟨hlt, hrev, hsid⟩ := h.links a ha b hb hab
      rw [ba.id, bb.id, ba.kin.ssoSessionId, bb.kin.ssoSessionId]
      exact ⟨hlt, ba.revoked hrev, hsid⟩
  pruned _ _ hp h := ⟨h.toNumbered.pruned hp, fun t ht => h.copies t (hp.sub ht),
    fun p hp' t ht => h.links p (hp.sub hp') t (hp.sub ht)⟩

/-- A new token that no row names as its parent. Those that it names itself are revoked. -/
theorem Registered.withToken (h : Registered issued db) (hid : t.id = db.nextTokenId)
    (hnew : db.token? t.token = none) (ht : IsCopy issued t)
    (hchild : ∀ u, u = t ∨ u ∈ db.tokens → ¬ u.isChildOf t)
    (hparent : ∀ p ∈ db.tokens, t.isChildOf p →
      p.revoked = true ∧ t.ssoSessionId = p.ssoSessionId) :
    Registered issued (db.withToken t) where
  toNumbered := h.toNumbered.withToken hid hnew
  copies u hu := by
    rcases Database.mem_withToken.mp hu with hm | rfl
    · exact h.copies u hm
    · exact ht
  links p hp u hu hlink := by
    rcases Database.mem_withToken.mp hp with hm | rfl
    · rcases Database.mem_withToken.mp hu with hn | rfl
      · exact h.links p hm u hn hlink
      · exact ⟨hid ▸ Database.lt_nextTokenId hm, hparent p hm hlink⟩
    · exact absurd hlink (hchild u (Database.mem_withToken.mp hu).symm)

theorem registered_migrated : Registered issued .migrated :=
  ⟨⟨.nil, fun _ ht => absurd ht List.not_mem_nil, fun _ ht => absurd ht List.not_mem_nil⟩,
    fun _ ht => absurd ht List.not_mem_nil, fun _ ht => absurd ht List.not_mem_nil⟩

end

/-! ## Requests -/

section

variable {s : Service σ} {start x : σ} {issued : List RefreshToken} {db db' : Database}
  {now : Instant} {r : Request} {user : User} {origin : Origin} {q : RefreshToken → Bool}
  {i : IssuedToken} {opensSession : Bool}

/-- A token is rotated by a copy of it. -/
theorem Request.Issues.isCopy (hi : r.Issues db user origin q)
    (presents : (Event.request r).Presents issued) (h : Registered issued db) {old : RefreshToken}
    (ho : origin = .rotation old) : IsCopy issued old := by
  cases hi with
  | grant => cases ho
  | swap => cases ho; exact presents
  | exchange found => cases ho; exact h.copies _ (Database.presented_ok found).1

/-- What has the id of a rotated token is revoked afterwards. -/
theorem Request.Issues.revoked (hi : r.Issues db user origin q) {old t : RefreshToken}
    (ho : origin = .rotation old) (he : t.id = old.id) :
    (if q t then t.revokedAt now else t).revoked = true := by
  cases hi with
  | grant => cases ho
  | swap => cases ho; rw [if_pos (by simpa using he)]; rfl
  | exchange =>
    cases ho
    split
    · rfl
    · rename_i hq
      simpa [Service.stillValid, he] using hq

theorem Ledger.aged (hl : Ledger s start issued x) {y : σ} (h : s.Later x y) :
    Ledger s start issued y where
  later := hl.later.trans h
  distinct := hl.distinct
  spent t ht := (hl.spent t ht).later h
  parents t ht p hp := (hl.parents t ht p hp).later h

variable (never : s.NeverRepeats start) (hl : Ledger s start issued x)
  (hg : (db.revoking now q).Grown user origin (s.supply x opensSession).1 i db')
  (hcopy : ∀ old, origin = .rotation old → IsCopy issued old)

include hl hg hcopy

/-- The parent of a new token was handed out. -/
theorem Database.Grown.parent_spent {p : String} (hp : i.token.parent = some p) :
    s.Spent x p := by
  rw [hg.issued.parent] at hp
  cases origin with
  | signIn => cases hp
  | rotation old =>
    cases hp
    obtain ⟨u, hu, hb⟩ := hcopy old rfl
    rw [hb.token]
    exact hl.spent u hu

include never in
theorem Ledger.issue :
    Ledger s start (issued ++ [i.token]) (s.supply x opensSession).2 := by
  have hlater := s.later_supply x opensSession
  have hne : ∀ u ∈ issued, u.token ≠ i.token.token := fun u hu => by
    rw [hg.string]
    exact ((hl.spent u hu).ne_supplied opensSession).symm
  refine ⟨hl.later.trans hlater, fun t ht u hu he => ?_, fun t ht => ?_, fun t ht p hp => ?_⟩
  · rcases List.mem_append.mp ht with hm | hm <;> rcases List.mem_append.mp hu with hn | hn
    · exact hl.distinct t hm u hn he
    · exact absurd (List.mem_singleton.mp hn ▸ he) (hne t hm)
    · exact absurd (List.mem_singleton.mp hm ▸ he.symm) (hne u hn)
    · rw [List.mem_singleton.mp hm, List.mem_singleton.mp hn]
  · rcases List.mem_append.mp ht with hm | hm
    · exact (hl.spent t hm).later hlater
    · rw [List.mem_singleton.mp hm, hg.string]
      exact never.spent_supplied hl.later opensSession
  · rcases List.mem_append.mp ht with hm | hm
    · exact (hl.parents t hm p hp).later hlater
    · rw [List.mem_singleton.mp hm] at hp
      exact (hg.parent_spent hl hcopy hp).later hlater

/-- A row gets a child with its string only from a copy with its id, so it has been revoked. -/
theorem Registered.grown (h : Registered issued db) (hi : r.Issues db user origin q) :
    Registered (issued ++ [i.token]) db' := by
  have hrev := registered_lasting.revoking db now q h
  refine registered_lasting.spared hg.rest
    ((hrev.mono [i.token]).withToken hg.issued.id hg.issued.fresh ?_ ?_ ?_)
  · exact ⟨i.token, by simp, .refl _⟩
  · -- The string is new, and those of all parents are spent.
    intro u hu hlink
    rw [RefreshToken.isChildOf_iff, hg.string] at hlink
    refine Service.Spent.ne_supplied (s := s) (x := x) ?_ opensSession rfl
    rcases hu with rfl | hu
    · exact hg.parent_spent hl hcopy hlink
    · obtain ⟨v, hv, hb⟩ := hrev.copies u hu
      exact hl.parents v hv _ (hb.parent.symm.trans hlink)
  · intro p hp hlink
    obtain ⟨a, ha, rfl⟩ := (Database.mem_revoking now q).mp hp
    have hb := Database.becomes_revoking now q a
    rw [RefreshToken.isChildOf_iff, hg.issued.parent, hb.token] at hlink
    cases horigin : origin with
    | signIn => rw [horigin] at hlink; cases hlink
    | rotation old =>
      rw [horigin] at hlink
      obtain ⟨hid, hsid⟩ := hl.same (h.copies a ha) (hcopy old horigin) (Option.some.inj hlink).symm
      refine ⟨hi.revoked horigin hid, ?_⟩
      rw [hg.issued.session old horigin, hb.kin.ssoSessionId, hsid]

end

/-! ## Runs keep it -/

section

variable {s : Service σ} {start : σ} {issued : List RefreshToken} {n : Nat} {h h₀ : Host σ}
  {P : Database → Prop}

theorem TokenLaw.revokingFamily (hP : TokenLaw P) {db : Database} (hp : P db) (now : Instant)
    (t : RefreshToken) : P (db.revokingFamily now t) :=
  hP.lasting.revoking db now _ hp

/-- The law holds of what a request issues. -/
theorem TokenLaw.issue (hP : TokenLaw P) {db db' : Database} (hp : P db) {now : Instant}
    {user : User} {origin : Origin} {q : RefreshToken → Bool} {given : Supply} {i : IssuedToken}
    (hg : (db.revoking now q).Grown user origin given i db') : P db' :=
  hP.lasting.spared hg.rest (hP.grown _ _ (hP.lasting.revoking db now q hp) hg.issued.id)

/-- Together with the law, what is known of the rows is kept by all but requests. -/
theorem registered_keptByRuns (hP : TokenLaw P) (n : Nat) :
    KeptByRuns s (fun e _ => ∀ r, e ≠ .request r) n fun db => Registered issued db ∧ P db where
  lasting :=
    ⟨fun _ _ hs h => ⟨registered_lasting.spared hs h.1, hP.lasting.spared hs h.2⟩,
      fun db now q h =>
        ⟨registered_lasting.revoking db now q h.1, hP.lasting.revoking db now q h.2⟩,
      fun _ _ hp h => ⟨registered_lasting.pruned _ _ hp h.1, hP.lasting.pruned _ _ hp h.2⟩⟩
  request _ _ _ r _ _ _ _ hq _ := absurd rfl (hq r)
  change _ _ db _ h :=
    ⟨⟨⟨h.1.ascending, h.1.bounded, h.1.distinct⟩, h.1.copies, h.1.links⟩, hP.users db _ h.2⟩

variable (ha : s.audit = .table) (hu : s.users = .table) (never : s.NeverRepeats start)
  (hP : TokenLaw P)

include ha hu never hP

theorem Service.serve_registered {now : Instant} {r : Request}
    (hl : Ledger s start issued h.outside) (hs : h.Sound n fun db => Registered issued db ∧ P db)
    (presents : (Event.request r).Presents issued)
    (hn : n ≤ (s.serve now r h).2.connection.checkpoints.length) :
    Ledger s start (issued ++ (Event.request r).issued s now h) (s.serve now r h).2.outside ∧
      (s.serve now r h).2.Sound n fun db =>
        Registered (issued ++ (Event.request r).issued s now h) db ∧ P db := by
  have hanswers := s.serve_answers hs.steady ha hu now r
  obtain ⟨hreg, hp⟩ := hs.since.now
  rcases ho : h.connection.data.serve s.config.rotationEnabled now
    (s.supply h.outside r.opensSession).1 r with ⟨e | i, db⟩
  · obtain ⟨he, hfailed⟩ := hanswers.error e db ho
    have hissued : (Event.request r).issued s now h = [] := by rw [Event.issued, he]
    have hdb : Registered issued db ∧ P db := by
      rcases Database.serve_error ho with rfl | ⟨t, rfl⟩
      · exact ⟨hreg, hp⟩
      · exact ⟨registered_lasting.revoking _ now _ hreg, hP.revokingFamily hp now t⟩
    rw [hissued, List.append_nil]
    exact ⟨hl.aged (Service.serve_ages now ha hu r h), hfailed.steady, hn,
      hfailed.since hs.since hdb hn⟩
  · obtain ⟨hm, run⟩ := hanswers.ok i db ho
    have hissued : (Event.request r).issued s now h = [i.token] := by rw [Event.issued, run]
    obtain ⟨user, origin, q, hi, hg⟩ := Database.serve_ok ho
    have hcopy : ∀ old, origin = .rotation old → IsCopy issued old := fun _ =>
      hi.isCopy presents hreg
    -- The contents to go back to are registered with the new token, too.
    have hs' : h.Sound n fun db => Registered (issued ++ [i.token]) db ∧ P db :=
      ⟨hs.steady, hs.enough, ⟨⟨hreg.mono _, hp⟩, fun newer k outer hk hle =>
        (hs.since.saved newer k outer hk hle).imp_left (·.mono _)⟩⟩
    rw [hissued, run]
    exact ⟨hl.issue never hg hcopy, hs.steady.showing hm, hs.enough,
      hs'.since.showing ⟨hreg.grown hl hg hcopy hi, hP.issue hp hg⟩⟩

/-- Wherever a run leads from where all this holds, it still does. -/
theorem Ahead.sound {issued₀ : List RefreshToken} (hst : h₀.connection.Steady)
    (hl : Ledger s start issued₀ h₀.outside)
    (hreg : Registered issued₀ h₀.connection.data) (hp : P h₀.connection.data)
    (hr : Ahead s issued₀ h₀ n issued h) :
    Ledger s start issued h.outside ∧ h.Sound n fun db => Registered issued db ∧ P db := by
  induction hr with
  | start =>
    refine ⟨hl, hst, Nat.le_refl _, ⟨hreg, hp⟩, fun newer k outer he hn => ?_⟩
    simp only [he, List.length_append, List.length_cons] at hn
    omega
  | @step n issued h now e _ presents stays ih =>
    obtain ⟨hl, hs⟩ := ih
    -- A request may hand out a token, and `Registered` speaks of one more then. What other events
    -- keep is the same property before and after.
    by_cases he : ∃ r, e = .request r
    · obtain ⟨r, rfl⟩ := he
      have hn : n ≤ (s.serve now r h).2.connection.checkpoints.length := stays
      have hmin : min n ((Event.request r).perform s now h).connection.checkpoints.length = n :=
        Nat.min_eq_left hn
      rw [hmin]
      exact Service.serve_registered ha hu never hP hl hs presents hn
    · have hne : ∀ r, e ≠ .request r := fun r hr => he ⟨r, hr⟩
      have hissued : e.issued s now h = [] := by
        cases e with
        | request r => exact absurd rfl (hne r)
        | _ => rfl
      rw [hissued, List.append_nil]
      exact ⟨hl.aged (Event.perform_later now ha hu e h),
        Event.perform_sound (registered_keptByRuns hP n) hs hne stays⟩

omit ha hu never hP in
/-- What was handed out before stays known. -/
theorem Ahead.isCopy {issued₀ : List RefreshToken} {t : RefreshToken}
    (hr : Ahead s issued₀ h₀ n issued h) (ht : IsCopy issued₀ t) : IsCopy issued t := by
  induction hr with
  | start => exact ht
  | step _ _ _ _ _ ih => exact ih.mono _

omit never hP in
theorem Handed.sound {outside : σ} (never : s.NeverRepeats outside)
    (hr : Handed s outside issued h) :
    Ledger s outside issued h.outside ∧ h.connection.Steady ∧
      Registered issued h.connection.data := by
  have hl : Ledger s outside [] outside := ⟨.refl, nofun, nofun, nofun⟩
  obtain ⟨hl, hs⟩ := hr.ahead.sound ha hu never .trivial Connection.steady_connect hl
    registered_migrated trivial
  exact ⟨hl, hs.steady, hs.since.now.1⟩

end

/-! ## A small store -/

namespace Sample

/-- The strings get longer and longer. -/
theorem service_neverRepeats (n : Nat) : service.NeverRepeats n := by
  have grows : ∀ {x y : Nat}, service.Later x y → x ≤ y := by
    intro x y hl
    induction hl with
    | refl => exact Nat.le_refl _
    | generate _ ih => exact Nat.le_succ_of_le ih
    | freshId _ ih => exact Nat.le_succ_of_le ih
  intro y _ z hz he
  have hlen := congrArg String.length he
  have hlt : y + 1 ≤ z := grows hz
  simp [service] at hlen
  omega

/-- A token that Alice got in a transaction that was rolled back. -/
def takenBack : RefreshToken :=
  { first with revoked := false }

/-- A host where Alice has signed in again after that. -/
def again : Host Nat :=
  after [.addUser alice, .begin, .request (.grant alice none), .rollback,
    .request (.grant alice none)]

/-- The token that she holds then, which has the id of the one that was taken back. -/
def reissued : RefreshToken :=
  { takenBack with token := "tt" }

theorem handed_again : Handed service 0 [takenBack, reissued] again := by
  have started : Handed service 0 [] (after []) := .start
  have added := started.step time (.addUser alice) trivial
  have begun := added.step time .begin trivial
  have granted := begun.step time (.request (.grant alice none)) trivial
  have undone := granted.step time .rollback trivial
  exact undone.step time (.request (.grant alice none)) trivial

theorem isCopy_takenBack : IsCopy [takenBack, reissued] takenBack := ⟨takenBack, .head _, .refl _⟩

end Sample

end RefreshChain
