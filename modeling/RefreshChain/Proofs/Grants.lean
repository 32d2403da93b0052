import RefreshChain.Proofs.Integrity
import RefreshChain.Proofs.Issuance
import RefreshChain.Proofs.WrittenTimes

/-!
# The outcome of a grant

What a grant comes to on an integral store, with the store's own table for the users. The user need
not be the one that is stored under the same id.

* `Database.Granted`: what a grant makes of the contents.
* `Database.Integral.issue_signIn`: it is made just if the user and the provider are there, and the
  string and the id of the session are new.
* `grant_outcome`: the answer in each case, and the contents after it.
-/

namespace RefreshChain

/-- `db'` is `db` once the user has got the first token of a chain, with the given string. With
conditions, the token is bound to a session that says the same. -/
structure Database.Granted (db : Database) (now : Instant) (user : User)
    (conditions : Option Conditions) (given : Supply) (i : IssuedToken) (db' : Database) :
    Prop where
  token : i.token = {
    instanceId := user.instanceId
    id := i.token.id
    token := given.string
    parent := none
    userId := user.id
    ssoSessionId := i.sso.map (·.session.id)
    revoked := false
    createdAt := now
    updatedAt := now }
  newest : (∀ t ∈ db.tokens, t.id < i.token.id) ∧ db.lastTokenId < i.token.id
  session : i.sso.map (·.session) = conditions.map fun c => {
    id := given.sessionId
    userId := user.id
    providerId := c.providerId
    notBefore := c.notBefore.kept
    notAfter := c.notAfter.kept
    idpInitiated := c.initiatedByProvider
    createdAt := now
    updatedAt := now }
  provider : ∀ b, i.sso = some b → b.provider ∈ db.providers ∧ b.provider.id = b.session.providerId
  contents : db' = { db with
    users := db.users.map fun u =>
      if u.id = user.id then { u with lastSignInAt := some now, updatedAt := now } else u
    sessions := db.sessions ++ (i.sso.map (·.session)).toList
    tokens := db.tokens ++ [i.token]
    lastTokenId := i.token.id }

namespace Database

variable {db db₁ : Database} {now : Instant} {user : User} {given : Supply} {i : IssuedToken}

/-- All is there that a grant needs, and what it takes from its sources is new. -/
structure Admits (db : Database) (user : User) (conditions : Option Conditions) (given : Supply) :
    Prop where
  user : ∃ u ∈ db.users, u.id = user.id
  provider : ∀ c, conditions = some c → ∃ p ∈ db.providers, p.id = c.providerId
  session : conditions.isSome → db.session? given.sessionId = none
  string : ∀ t ∈ db.tokens, t.token ≠ given.string

/-- The session that a sign-in opens. -/
def opening (conditions : Option Conditions) (id : Uuid) (user : User) (now : Instant) :
    Option SsoSession :=
  conditions.map (·.session id user now)

/-- The contents with one more session, or as they are. -/
def withSession (db : Database) (opened : Option SsoSession) : Database :=
  { db with sessions := db.sessions ++ opened.toList }

/-- A token that is bound to a new session is read back with that one. -/
theorem Binds.of_opened {opened : Option SsoSession} {sso : Option SsoBinding}
    (h : (db.withSession opened).Binds (opened.map (·.id)) sso)
    (hnew : ∀ s, opened = some s → db.session? s.id = none) :
    sso.map (·.session) = opened ∧
      ∀ b, sso = some b → b.provider ∈ db.providers ∧ b.provider.id = b.session.providerId := by
  cases opened with
  | none =>
    cases h
    exact ⟨rfl, nofun⟩
  | some s =>
    generalize hsid : (some s).map (·.id) = sid at h
    cases h with
    | unbound => cases hsid
    | @bound b session provider vouches =>
      have hid : s.id = b.session.id := Option.some.inj hsid
      have hold : b.session ∉ db.sessions := fun hmem => by
        have hnone := List.find?_eq_none.mp (hnew s rfl) _ hmem
        simp [hid] at hnone
      have hs : b.session = s := by simpa [withSession, hold] using session
      refine ⟨congrArg some hs, ?_⟩
      rintro _ ⟨⟩
      exact ⟨provider, vouches⟩

section

variable {conditions : Option Conditions}

/-- The session of a sign-in is opened if its provider and its user are there. -/
theorem sessionFor_signIn (now : Instant)
    (hfresh : conditions.isSome → db.session? given.sessionId = none)
    (huser : ∃ u ∈ db.users, u.id = user.id)
    (hprovider : ∀ c, conditions = some c → ∃ p ∈ db.providers, p.id = c.providerId) :
    db.sessionFor now user given.sessionId (.signIn conditions) =
      .ok ((opening conditions given.sessionId user now).map (·.id),
        db.withSession (opening conditions given.sessionId user now)) := by
  cases conditions with
  | none => simp [sessionFor, opening, withSession]
  | some c =>
    have hsup : db.supports (c.session given.sessionId user now).references = true :=
      supports_session_iff.mpr ⟨hprovider c rfl, huser⟩
    have hnew : db.session? (c.session given.sessionId user now).id = none := hfresh rfl
    simp only [sessionFor, openSession, hnew, hsup]
    rfl

theorem sessionFor_taken (now : Instant) {c : Conditions}
    (htaken : db.session? given.sessionId ≠ none) :
    db.sessionFor now user given.sessionId (.signIn (some c)) =
      .error (.refused "error creating SSO session for refresh token"
        (.duplicateKey .ssoSessions)) := by
  have hthere : (db.session? (c.session given.sessionId user now).id).isSome :=
    Option.isSome_iff_ne_none.mpr htaken
  simp only [sessionFor, openSession, hthere]
  rfl

theorem sessionFor_dangling (now : Instant) {c : Conditions}
    (hfresh : db.session? given.sessionId = none)
    (hnone : ¬ ((∃ u ∈ db.users, u.id = user.id) ∧ ∃ p ∈ db.providers, p.id = c.providerId)) :
    db.sessionFor now user given.sessionId (.signIn (some c)) =
      .error (.refused "error creating SSO session for refresh token" .foreignKey) := by
  have hsup : ¬ db.supports (c.session given.sessionId user now).references = true := fun hsup =>
    hnone (supports_session_iff.mp hsup).symm
  have hnew : db.session? (c.session given.sessionId user now).id = none := hfresh
  simp only [sessionFor, openSession, hnew, hsup]
  rfl

variable (hi : db.Integral) (hroom : db.HasRoom)

include hi hroom

/-- What a grant does if nothing stands in its way. -/
theorem Integral.issue_admitted (now : Instant) (hadmits : db.Admits user conditions given) :
    ∃ i db', db.issue now user (.signIn conditions) given = .ok (i, db') ∧
      db.Granted now user conditions given i db' := by
  have hs := sessionFor_signIn now hadmits.session hadmits.user hadmits.provider
  obtain ⟨opened, hopened⟩ : ∃ opened, opening conditions given.sessionId user now = opened :=
    ⟨_, rfl⟩
  rw [hopened] at hs
  have hthere : ∀ id, opened.map (·.id) = some id →
      ∃ s ∈ (db.withSession opened).sessions, s.id = id := by
    rintro id hid
    obtain ⟨s, rfl, rfl⟩ := Option.map_eq_some_iff.mp hid
    exact ⟨s, by simp [withSession], rfl⟩
  have hprovider : ∀ s ∈ (db.withSession opened).sessions,
      ∃ p ∈ db.providers, p.id = s.providerId := by
    intro s hs
    rcases List.mem_append.mp hs with hs | hs
    · exact hi.sessionProvider s hs
    · obtain ⟨c, hc, rfl⟩ := Option.map_eq_some_iff.mp (hopened.trans (Option.mem_toList.mp hs))
      exact hadmits.provider c hc
  have hnew : ∀ s, opened = some s → db.session? s.id = none := by
    rintro s rfl
    obtain ⟨c, rfl, rfl⟩ := Option.map_eq_some_iff.mp hopened
    exact hadmits.session rfl
  obtain ⟨i, hissue, ht, hbinds⟩ := issue_free hs (hroom.of_nextTokenId rfl) hadmits.string
    hadmits.user hthere hprovider
  obtain ⟨hsession, hvouches⟩ := hbinds.of_opened hnew
  have hnext : i.token.id = db.nextTokenId := by rw [ht]; rfl
  refine ⟨i, _, hissue, ?_, ⟨fun t ht => ?_, ?_⟩, ?_, hvouches, ?_⟩
  · have hsid : opened.map (·.id) = i.sso.map (·.session.id) := by
      rw [← hsession, Option.map_map]
      rfl
    rw [hnext, ht, hsid]
    rfl
  · rw [hnext]
    exact lt_nextTokenId ht
  · rw [hnext]
    exact lastTokenId_lt_nextTokenId db
  · rw [hsession, ← hopened]
    rfl
  · rw [hsession]
    rfl

/-- A grant is made just if nothing stands in its way, and is refused otherwise. -/
theorem Integral.issue_signIn (now : Instant) (user : User) (conditions : Option Conditions)
    (given : Supply) :
    (db.Admits user conditions given ∧
      ∃ i db', db.issue now user (.signIn conditions) given = .ok (i, db') ∧
        db.Granted now user conditions given i db') ∨
    (¬ db.Admits user conditions given ∧ ∃ context r, r ≠ .full true ∧
      db.issue now user (.signIn conditions) given = .error (.refused context r)) := by
  by_cases hadmits : db.Admits user conditions given
  · exact .inl ⟨hadmits, hi.issue_admitted hroom now hadmits⟩
  refine .inr ⟨hadmits, ?_⟩
  by_cases hthere : (conditions.isSome → db.session? given.sessionId = none) ∧
    (∃ u ∈ db.users, u.id = user.id) ∧
    ∀ c, conditions = some c → ∃ p ∈ db.providers, p.id = c.providerId
  · obtain ⟨hfresh, huser, hprovider⟩ := hthere
    have hs := sessionFor_signIn now hfresh huser hprovider
    have htaken : ∃ t ∈ db.tokens, t.token = given.string := by
      by_contra hno
      exact hadmits ⟨huser, hprovider, hfresh, by simpa using hno⟩
    exact ⟨_, _, by decide, issue_refused hs (mint_taken hroom htaken)⟩
  cases conditions with
  | none =>
    have hnone : ¬ ∃ u ∈ db.users, u.id = user.id := fun huser => hthere ⟨nofun, huser, nofun⟩
    by_cases htaken : ∃ t ∈ db.tokens, t.token = given.string
    · exact ⟨_, _, by decide, issue_refused rfl (mint_taken hroom htaken)⟩
    · have hnew : ∀ t ∈ db.tokens, t.token ≠ given.string := by simpa using htaken
      exact ⟨_, _, by decide, issue_refused rfl (mint_dangling hroom hnew fun hsup =>
        hnone (supports_token_iff.mp hsup).1)⟩
  | some c =>
    by_cases hfresh : db.session? given.sessionId = none
    · have hs := sessionFor_dangling now hfresh fun hboth =>
        hthere ⟨fun _ => hfresh, hboth.1, by rintro _ ⟨⟩; exact hboth.2⟩
      exact ⟨_, _, by decide, except_bind_error.mpr (.inl hs)⟩
    · exact ⟨_, _, by decide, except_bind_error.mpr (.inl (sessionFor_taken now hfresh))⟩

end

/-- The session that a granted token is bound to has the window of the conditions. -/
theorem Granted.window {db' : Database} {conditions : Option Conditions} {c : Conditions}
    {b : SsoBinding} (h : db.Granted now user conditions given i db') (hc : conditions = some c)
    (hb : i.sso = some b) :
    b.session.notBefore = c.notBefore.kept ∧ b.session.notAfter = c.notAfter.kept := by
  have hsession := h.session
  rw [hc, hb, Option.map_some, Option.map_some, Option.some.injEq] at hsession
  rw [hsession]
  exact ⟨rfl, rfl⟩

end Database

/-! ## Outcomes -/

/-- What a grant answers, and what it leaves. The source of session ids is meant not to repeat
itself, and what success depends on is told for that case; a failure changes nothing in any case.
The ends of a session's window are the instants that the conditions name, but for what the texts in
which they are stored lose of an offset with seconds. -/
theorem grant_outcome {σ : Type} {s : Service σ} {h : Host σ} (hst : h.connection.Steady)
    (hi : h.connection.data.Integral) (hroom : h.connection.data.HasRoom) (hu : s.users = .table)
    (now : Instant) (user : User) (conditions : Option Conditions) :
    let db := h.connection.data
    let given := (s.supply h.outside conditions.isSome).1
    let answer := (s.grant now user conditions h).1
    let after := (s.grant now user conditions h).2.connection
    ((conditions.isSome → ∀ session ∈ db.sessions, session.id ≠ given.sessionId) →
      (answer.isOk = true ↔ (∃ u ∈ db.users, u.id = user.id) ∧
        (∀ c, conditions = some c → ∃ p ∈ db.providers, p.id = c.providerId) ∧
        ∀ t ∈ db.tokens, t.token ≠ given.string)) ∧
    (∀ i, answer = .ok i → ∃ db', after = h.connection.showing db' ∧
      db.Granted now user conditions given i db' ∧
      ∀ c b, conditions = some c → i.sso = some b →
        (c.notBefore.OfClock → c.notBefore.KeptAs b.session.notBefore) ∧
        (c.notAfter.OfClock → c.notAfter.KeptAs b.session.notAfter)) ∧
    ∀ e, answer = .error e →
      (∃ context source, e = .persistence context source) ∧ h.connection.Resumed db after := by
  intro db given answer after
  have hopens : (Origin.signIn conditions).opensSession = conditions.isSome := by
    cases conditions <;> rfl
  -- A grant makes no audit entry, so any audit log will do.
  have hx := Service.serve_answers (s := { s with audit := .table }) hst rfl hu now
    (.grant user conditions)
  have hgiven : (s.supply h.outside (Origin.signIn conditions).opensSession).1 = given := by
    rw [hopens]
  rw [Database.serve] at hx
  change (s.grant now user conditions).Answers h (db.settled (db.issue now user
    (.signIn conditions) (s.supply h.outside (Origin.signIn conditions).opensSession).1)) _ at hx
  rw [hgiven] at hx
  rcases hi.issue_signIn hroom now user conditions given with
    ⟨hadmits, i, db', hissue, hgranted⟩ | ⟨hno, context, r, hr, hissue⟩
  · rw [hissue] at hx
    obtain ⟨-, run⟩ := hx.ok i db' rfl
    have hanswer : answer = .ok i := congrArg Prod.fst run
    have hafter : after = h.connection.showing db' := congrArg (·.2.connection) run
    refine ⟨fun _ => iff_of_true (by rw [hanswer]; rfl)
      ⟨hadmits.user, hadmits.provider, hadmits.string⟩, fun j hj => ?_, fun e he => ?_⟩
    · cases hanswer.symm.trans hj
      refine ⟨db', hafter, hgranted, fun c b hc hb => ?_⟩
      obtain ⟨hbefore, hnot⟩ := hgranted.window hc hb
      rw [hbefore, hnot]
      exact ⟨ZonedTime.OfClock.keptAs, ZonedTime.OfClock.keptAs⟩
    · cases hanswer.symm.trans he
  · rw [hissue] at hx
    obtain ⟨hanswer, hres⟩ := hx.fails (Error.not_endsAll_refused hr)
    have hanswer : answer = .error (.refused context r) := hanswer
    refine ⟨fun hfresh => iff_of_false ?_ fun hall => ?_, fun i hi => ?_, fun e he => ?_⟩
    · rw [hanswer]
      exact Bool.false_ne_true
    · obtain ⟨huser, hprovider, hstring⟩ := hall
      refine hno ⟨huser, hprovider, fun hsome => ?_, hstring⟩
      simpa [Database.session?] using hfresh hsome
    · cases hanswer.symm.trans hi
    · cases hanswer.symm.trans he
      exact ⟨⟨_, _, rfl⟩, hres⟩

namespace Sample

/-- A host where Alice and her provider are known. -/
def known : Host Nat := after [.addUser alice, .addProvider provider]

theorem inUse_known : known.InUse := by
  have users := Host.InUse.act (.start 0) (.write (.insertUser alice))
  exact .act users (.write (.insertProvider provider))

/-- Half a second into 1970, on a clock in another time zone. -/
def halfSecond : ZonedTime := ⟨⟨0, 500000000⟩, 19800⟩

/-- The same instant, on a clock that is 20 seconds fast. -/
def fastClock : ZonedTime := ⟨⟨0, 500000000⟩, 20⟩

/-- What Alice's provider says of her if it has the given clock. -/
def vouched (clock : ZonedTime) : Conditions := { conditions with notBefore := clock }

end Sample

/-- Alice signs in with her provider, who vouches for her from half a second on, and in an instance
that she is not stored in. Somebody else does not get a token. -/
theorem known_grant_outcome :
    let h := Sample.known
    let user := { Sample.alice with instanceId := .ofNat 9 }
    let conditions := Sample.vouched Sample.halfSecond
    (∃ i b db', (Sample.service.grant Sample.time user (some conditions) h).1 = .ok i ∧
      h.connection.data.Granted Sample.time user (some conditions) ⟨.ofNat 0, "tt"⟩ i db' ∧
      i.sso = some b ∧ Sample.halfSecond.render = "1970-01-01T05:30:00.500+05:30" ∧
      Sample.halfSecond.KeptAs b.session.notBefore ∧
      b.session.notBefore = Sample.halfSecond.instant) ∧
      (Sample.service.grant Sample.time { user with id := .ofNat 7 } none h).1.isOk = false := by
  intro h user conditions
  obtain ⟨hst, hi⟩ := Sample.inUse_known.sound
  have hroom : Sample.known.connection.data.HasRoom := by decide
  have outcome user conditions :=
    grant_outcome (s := Sample.service) hst hi.now hroom rfl Sample.time user conditions
  obtain ⟨hok, hleft, -⟩ := outcome user (some conditions)
  have hissued := (hok (by decide)).mpr ⟨⟨Sample.alice, by decide, rfl⟩,
    by rintro _ ⟨⟩; exact ⟨Sample.provider, by decide, rfl⟩, by decide⟩
  rcases hanswer : (Sample.service.grant Sample.time user (some conditions) h).1 with e | i
  · rw [hanswer] at hissued
    cases hissued
  obtain ⟨db', -, hgranted, hwindow⟩ := hleft i hanswer
  obtain ⟨b, hb, -⟩ := Option.map_eq_some_iff.mp hgranted.session
  have hkept := (hwindow conditions b rfl hb).1 ⟨by decide, by decide⟩
  refine ⟨⟨i, b, db', rfl, hgranted, hb, by decide, hkept, hkept.same rfl (by decide)⟩, ?_⟩
  obtain ⟨hnone, -, -⟩ := outcome { user with id := .ofNat 7 } none
  rw [← Bool.not_eq_true, hnone nofun]
  rintro ⟨⟨u, hu, hid⟩, -⟩
  exact absurd hid (by revert u; decide)

namespace Sample

/-- A host where a caller has had the check of references put off to the end of its transaction. -/
def lenient : Host Nat :=
  (Action.adjust Connection.defer (Action.begin known : Except StoreError Unit × Host Nat).2 :
    Except StoreError Unit × Host Nat).2

end Sample

/-- An end of the window moves by 20 seconds where the offset of the clock has seconds. And while
the check of references is put off, somebody gets a token who is not among the users. -/
theorem grant_of_fast_clock_or_stranger :
    let db := Sample.known.connection.data
    let stranger := { Sample.alice with id := .ofNat 7 }
    let fast := Sample.service.grant Sample.time Sample.alice
      (some (Sample.vouched Sample.fastClock)) Sample.known
    let strange := Sample.service.grant Sample.time stranger none Sample.lenient
    db.Integral ∧ Sample.lenient.connection.data = db ∧
      (Sample.fastClock.instant = ⟨0, 500000000⟩ ∧
        Sample.fastClock.render = "1970-01-01T00:00:20.500+00:00" ∧
        (fast.1.toOption.bind (·.sso)).map (·.session.notBefore) = some ⟨20, 500000000⟩) ∧
      (∀ u ∈ db.users, u.id ≠ stranger.id) ∧ strange.1.isOk = true ∧
        strange.2.connection.data.tokens.map (·.userId) = [stranger.id] := by
  obtain ⟨-, hi⟩ := Sample.inUse_known.sound
  refine ⟨hi.now, ?_⟩
  decide +kernel

end RefreshChain
