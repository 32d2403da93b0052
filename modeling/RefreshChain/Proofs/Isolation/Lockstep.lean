import RefreshChain.Proofs.Isolation.Renaming

/-!
# Moves in lockstep

Where the rows of a group are the same in two stores, the same move of the group comes to the same
in both: the answers are the same and the rows stay so, up to ids and the time.

* `Move.Same`: moves that are the same but for session ids and the time.
* `Lockstep`: two steps that both fail or both succeed, with a rule for sequences.
* `Database.issue_lockstep`, `Mirrors.revokingFamily`: the steps of requests.
* `Database.respond_lockstep`: whole moves.
-/

namespace RefreshChain

/-- The moves are the same but for session ids, the time, and what does not matter of a token whose
family is asked for. -/
inductive Move.Same : Move → Move → Prop where
  | grant {user user' : User} (conditions : Option Conditions) {given given' : Supply}
      (alike : user.Alike user') (string : given.string = given'.string) :
      Same (.grant user conditions given) (.grant user' conditions given')
  | swap {user user' : User} (k : Nat) {given given' : Supply} (alike : user.Alike user')
      (string : given.string = given'.string) : Same (.swap user k given) (.swap user' k given')
  | exchange (token : String) {given given' : Supply} (string : given.string = given'.string) :
      Same (.exchange token given) (.exchange token given')
  | revokeFamily {start start' : RefreshToken} (token : start.token = start'.token)
      (instanceId : start.instanceId = start'.instanceId) :
      Same (.revokeFamily start) (.revokeFamily start')
  | validChild {start start' : RefreshToken} (token : start.token = start'.token)
      (instanceId : start.instanceId = start'.instanceId) :
      Same (.validChild start) (.validChild start')
  | find (token : String) : Same (.find token) (.find token)
  | logout (instanceId userId : Uuid) : Same (.logout instanceId userId) (.logout instanceId userId)

/-- What the move is given is not in use. -/
structure Move.Fresh (m : Move) (db : Database) : Prop where
  string : ∀ x, m.string? = some x → db.token? x = none
  session : ∀ id, m.sessionId? = some id → db.session? id = none

/-- The outcomes of two steps, from where the renaming is `ρ`. They are the same, and the renaming
only grows, unless no id was left for the first one. -/
inductive Lockstep (mine : Uuid → Bool) (ρ : Renaming) {α α' : Type}
    (R : Renaming → α → α' → Prop) :
    Except Error (α × Database) → Except Error (α' × Database) → Prop where
  | ok {ρ' : Renaming} {a : α} {a' : α'} {db db' : Database} (le : ρ ≤ ρ')
      (mirrors : Mirrors mine ρ' db db') (related : R ρ' a a') :
      Lockstep mine ρ R (.ok (a, db)) (.ok (a', db'))
  | error (e : Error) : Lockstep mine ρ R (.error e) (.error e)
  | exhausted {e : Error} {o' : Except Error (α' × Database)} (ends : e.EndsAll fun _ => False) :
      Lockstep mine ρ R (.error e) o'

theorem Lockstep.bind {mine : Uuid → Bool} {ρ : Renaming} {α α' β β' : Type}
    {R : Renaming → α → α' → Prop} {S : Renaming → β → β' → Prop}
    {o : Except Error (α × Database)} {o' : Except Error (α' × Database)}
    {f : α × Database → Except Error (β × Database)}
    {f' : α' × Database → Except Error (β' × Database)} (h : Lockstep mine ρ R o o')
    (hf : ∀ ρ' a a' db db', ρ ≤ ρ' → o = .ok (a, db) → o' = .ok (a', db') →
      Mirrors mine ρ' db db' → R ρ' a a' → Lockstep mine ρ' S (f (a, db)) (f' (a', db'))) :
    Lockstep mine ρ S (o >>= f) (o' >>= f') := by
  cases h with
  | @ok ρ' a a' db db' le mirrors related =>
    have hs := hf ρ' a a' db db' le rfl rfl mirrors related
    show Lockstep mine ρ S (f (a, db)) (f' (a', db'))
    generalize f (a, db) = x at hs
    generalize f' (a', db') = x' at hs
    cases hs with
    | ok le' mirrors related => exact .ok (Renaming.le_trans le le') mirrors related
    | error e => exact .error e
    | exhausted ends => exact .exhausted ends
  | error e => exact .error e
  | exhausted ends => exact .exhausted ends

/-! ## What is looked up -/

section

variable {mine : Uuid → Bool} {ρ : Renaming} {db db' : Database}

theorem Mirrors.user? (h : Mirrors mine ρ db db') {id : Uuid} (hid : mine id = true) :
    Option.Rel User.Twin (db.user? id) (db'.user? id) := by
  have hof : ∀ db : Database, db.user? id = (db.usersOf mine).find? (·.id = id) := fun db =>
    (find?_filter_of_imp fun u _ hu => by rw [of_decide_eq_true hu, hid]).symm
  rw [hof, hof]
  exact forall₂_find? h.users fun u u' hu => by rw [hu.id]

/-- A row of the group is found on both sides or on none. -/
theorem Mirrors.find? (h : Mirrors mine ρ db db') {p p' : RefreshToken → Bool}
    (hp : ∀ t ∈ db.tokens, p t = true → mine t.userId = true)
    (hp' : ∀ t ∈ db'.tokens, p' t = true → mine t.userId = true)
    (hpp : ∀ t t', ρ.OnTokens t t' → p t = p' t') :
    Option.Rel ρ.OnTokens (db.tokens.find? p) (db'.tokens.find? p') := by
  rw [← find?_filter_of_imp hp, ← find?_filter_of_imp hp']
  exact forall₂_find? h.tokens hpp

/-- Ids of the renaming are told apart alike. -/
theorem Mirrors.id_eq_iff (h : Mirrors mine ρ db db') {a b : Int} {a' b' : Int}
    (ha : ρ.rows a a') (hb : ρ.rows b b') : a = b ↔ a' = b' :=
  ⟨fun he => h.oneToOne.rows.2 ha (he ▸ hb), fun he => h.oneToOne.rows.1 ha (he ▸ hb)⟩

theorem Mirrors.supports_user (h : Mirrors mine ρ db db') {id : Uuid} (hid : mine id = true) :
    db.dangles ⟨.users, id⟩ = db'.dangles ⟨.users, id⟩ := by
  have hu := h.user? hid
  unfold Database.dangles
  dsimp only
  generalize db.user? id = u at hu
  generalize db'.user? id = u' at hu
  cases hu <;> rfl

theorem Mirrors.supports_session (h : Mirrors mine ρ db db') {s s' : SsoSession}
    (hp : s.providerId = s'.providerId) (hu : s.userId = s'.userId) (hid : mine s.userId = true) :
    db.supports s.references = db'.supports s'.references := by
  have hprovider : ∀ id, db.dangles ⟨.ssoProviders, id⟩ = db'.dangles ⟨.ssoProviders, id⟩ := by
    intro id
    simp [Database.dangles, Database.provider?, h.providers]
  simp only [Database.supports, SsoSession.references, List.all_cons, List.all_nil, Bool.and_true]
  rw [← hp, ← hu, hprovider, h.supports_user hid]

theorem Mirrors.supports_token (h : Mirrors mine ρ db db') {t t' : RefreshToken}
    (hs : Option.Rel ρ.sessions t.ssoSessionId t'.ssoSessionId) (hu : t.userId = t'.userId)
    (hid : mine t.userId = true) : db.supports t.references = db'.supports t'.references := by
  have huser := h.supports_user hid
  simp only [Database.supports, RefreshToken.references]
  generalize t.ssoSessionId = sid at hs
  generalize t'.ssoSessionId = sid' at hs
  rw [← hu]
  cases hs with
  | none => simp [huser]
  | some hab =>
    rename_i a b
    obtain ⟨s, s', hs, hs', -⟩ := h.lookup a b hab
    have hd : db.dangles ⟨.ssoSessions, a⟩ = false := by simp [Database.dangles, hs]
    have hd' : db'.dangles ⟨.ssoSessions, b⟩ = false := by simp [Database.dangles, hs']
    simp [huser, hd, hd']

end

/-! ## The issue of a token -/

/-- New tokens come from the same. -/
inductive Renaming.OnOrigins (ρ : Renaming) : Origin → Origin → Prop where
  | signIn (conditions : Option Conditions) : OnOrigins ρ (.signIn conditions) (.signIn conditions)
  | rotation {old old' : RefreshToken} (related : ρ.OnTokens old old') :
      OnOrigins ρ (.rotation old) (.rotation old')

namespace Database

variable {mine : Uuid → Bool} {ρ : Renaming} {db db' : Database} {user user' : User}
  {origin origin' : Origin} {given given' : Supply} (now now' : Instant)

theorem sessionFor_lockstep (h : Mirrors mine ρ db db') (hu : user.Alike user')
    (own : mine user.id = true) (ho : ρ.OnOrigins origin origin') {id id' : Uuid}
    (hid : ∀ c, origin = .signIn (some c) → db.session? id = none ∧ db'.session? id' = none) :
    Lockstep mine ρ (fun ρ => Option.Rel ρ.sessions) (db.sessionFor now user id origin)
      (db'.sessionFor now' user' id' origin') := by
  cases ho with
  | rotation related => exact .ok (Renaming.le_refl ρ) h related.session
  | signIn conditions =>
    cases conditions with
    | none => exact .ok (Renaming.le_refl ρ) h .none
    | some c =>
      obtain ⟨hnew, hnew'⟩ := hid c rfl
      have hsup : db.supports (c.session id user now).references =
          db'.supports (c.session id' user' now').references := h.supports_session rfl hu.id own
      have hopened := h.opening (c.session id user now) (c.session id' user' now') hnew hnew'
        ⟨.inr ⟨rfl, rfl⟩, hu.id, rfl, rfl, rfl, rfl⟩
      have hn : (db.session? (c.session id user now).id).isSome = false := by
        rw [Conditions.session, hnew]; rfl
      have hn' : (db'.session? (c.session id' user' now').id).isSome = false := by
        rw [Conditions.session, hnew']; rfl
      simp only [sessionFor, openSession, hn, hn', hsup, Bool.false_eq_true, if_false]
      cases db'.supports (c.session id' user' now').references with
      | true => exact .ok (ρ.le_withSession id id') hopened (.some (.inr ⟨rfl, rfl⟩))
      | false => exact .error _

theorem mint_lockstep (h : Mirrors mine ρ db db') (hn : db.Numbered) (hn' : db'.Numbered)
    {t t' : RefreshToken} (twin : t.Twin t')
    (session : Option.Rel ρ.sessions t.ssoSessionId t'.ssoSessionId) (own : mine t.userId = true)
    (hnew : db.token? t.token = none) (hnew' : db'.token? t'.token = none) (context : String) :
    Lockstep mine ρ (fun ρ => ρ.OnTokens) ((db.mint t).mapError (Error.refused context))
      ((db'.mint t').mapError (Error.refused context)) := by
  unfold mint
  by_cases hmax : Work.maxId ≤ max db.lastTokenId db.maxTokenId
  · rw [if_pos hmax]
    exact .exhausted ⟨_, rfl, .inl rfl⟩
  · have hmax' : ¬ Work.maxId ≤ max db'.lastTokenId db'.maxTokenId := by
      have hlast := h.lastTokenId
      have hnext := hn.nextTokenId_eq
      have hnext' := hn'.nextTokenId_eq
      unfold nextTokenId at hnext hnext'
      omega
    rw [if_neg hmax, if_neg hmax', hnew, hnew',
      h.supports_token session twin.userId own]
    cases db'.supports t'.references with
    | false => exact .error _
    | true =>
      refine .ok (ρ.le_withRow _ _) (h.minting hn hn' rfl rfl ?_) ?_ <;>
        exact { twin with id := .inr ⟨rfl, rfl⟩, session }

theorem bindingOf_agree (h : Mirrors mine ρ db db') {t t' : RefreshToken}
    (hs : Option.Rel ρ.sessions t.ssoSessionId t'.ssoSessionId) :
    Agree (Option.Rel ρ.OnBindings) (db.bindingOf t) (db'.bindingOf t') := by
  unfold bindingOf
  generalize t.ssoSessionId = sid at hs
  generalize t'.ssoSessionId = sid' at hs
  cases hs with
  | none => exact .ok .none
  | some hab =>
    obtain ⟨s, s', hs, hs', hss⟩ := h.lookup _ _ hab
    have hp : db.provider? s.providerId = db'.provider? s'.providerId := by
      rw [provider?, provider?, h.providers, hss.providerId]
    simp only [binding, hs, hs', hp]
    cases db'.provider? s'.providerId with
    | none => rw [hss.providerId]; exact .error _
    | some provider => exact .ok (.some ⟨hss, rfl⟩)

theorem issue_lockstep (h : Mirrors mine ρ db db') (hn : db.Numbered) (hn' : db'.Numbered)
    (hu : user.Alike user') (own : mine user.id = true) (ho : ρ.OnOrigins origin origin')
    (hstring : given.string = given'.string)
    (hid : ∀ c, origin = .signIn (some c) →
      db.session? given.sessionId = none ∧ db'.session? given'.sessionId = none)
    (hnew : db.token? given.string = none) (hnew' : db'.token? given'.string = none) :
    Lockstep mine ρ (fun ρ => ρ.OnIssued) (db.issue now user origin given)
      (db'.issue now' user' origin' given') := by
  have hparent : origin.parent? = origin'.parent? := by
    cases ho with
    | signIn => rfl
    | rotation related => exact congrArg some related.token
  refine (sessionFor_lockstep now now' h hu own ho hid).bind
    fun ρ₁ sid sid' db₁ db₁' _ hs hs' h₁ hsid => ?_
  obtain ⟨opened, rfl⟩ := sessionFor_sessions hs
  obtain ⟨opened', rfl⟩ := sessionFor_sessions hs'
  have twin : (user.newToken now origin sid given.string).Twin
      (user'.newToken now' origin' sid' given'.string) :=
    ⟨hu.instanceId, hstring, hparent, hu.id, rfl⟩
  refine (mint_lockstep h₁ ⟨hn.ascending, hn.bounded, hn.distinct⟩
    ⟨hn'.ascending, hn'.bounded, hn'.distinct⟩ twin hsid own hnew hnew' _).bind
      fun ρ₂ t t' db₂ db₂' _ _ _ h₂ ht => ?_
  have hb := bindingOf_agree h₂ ht.session
  dsimp only
  generalize db₂.bindingOf t = b at hb
  generalize db₂'.bindingOf t' = b' at hb
  cases hb with
  | error e => exact .error e
  | ok hb => exact .ok (Renaming.le_refl ρ₂) (h₂.signingIn now now' hu) ⟨ht, hb⟩

end Database

/-! ## Families -/

section

variable {mine : Uuid → Bool} {ρ : Renaming} {owns : Bool → String → Prop} {db db' : Database}
  {start start' t t' : RefreshToken}

theorem RefreshToken.Twin.symm (h : t.Twin t') : t'.Twin t :=
  ⟨h.instanceId.symm, h.token.symm, h.parent.symm, h.userId.symm, h.revoked.symm⟩

theorem RefreshToken.Twin.isNearChildOf (h : t.Twin t') (htoken : start.token = start'.token)
    (hinstance : start.instanceId = start'.instanceId) :
    t.isNearChildOf start = t'.isNearChildOf start' := by
  rw [RefreshToken.isNearChildOf, RefreshToken.isChildOf, RefreshToken.isNearChildOf,
    RefreshToken.isChildOf, h.parent, h.instanceId, htoken, hinstance]

variable (apart : ∀ x side side', owns side x → owns side' x → side = side')
  (htoken : start.token = start'.token) (hinstance : start.instanceId = start'.instanceId)
  (hstart : ∀ side, owns side start.token → side = true)

include apart htoken hinstance hstart

/-- A member of a family of the group has its twin in the other one. -/
theorem InFamily.twin (htokens : List.Forall₂ RefreshToken.Twin (db.tokensOf mine)
    (db'.tokensOf mine)) (hs : Separate mine owns db) (hf : InFamily db.tokens start t) :
    ∃ t', t.Twin t' ∧ InFamily db'.tokens start' t' := by
  have hmine : ∀ u, InFamily db.tokens start u → u ∈ db.tokensOf mine := fun u hu =>
    List.mem_filter.mpr ⟨hu.mem, hs.mine_of_inFamily apart hstart hu⟩
  induction hf with
  | @child u mem link =>
    obtain ⟨u', hu', htwin⟩ := forall₂_exists htokens (hmine u (.child mem link))
    refine ⟨u', htwin, .child (List.mem_filter.mp hu').1 ?_⟩
    rw [← htwin.isNearChildOf htoken hinstance]
    exact link
  | @further p u above mem link ih =>
    obtain ⟨p', hp, hp'⟩ := ih
    obtain ⟨u', hu', htwin⟩ := forall₂_exists htokens (hmine u (.further above mem link))
    refine ⟨u', htwin, .further hp' (List.mem_filter.mp hu').1 ?_⟩
    rw [RefreshToken.isChildOf_iff] at link ⊢
    rw [← htwin.parent, link, hp.token]

theorem Mirrors.revokingFamily (h : Mirrors mine ρ db db') (hs : Separate mine owns db)
    (hs' : Separate mine owns db') (now now' : Instant) :
    Mirrors mine ρ (db.revokingFamily now start) (db'.revokingFamily now' start') := by
  refine h.revoking now now' fun t ht t' ht' hr => Bool.eq_iff_iff.mpr ?_
  have hm := (List.mem_filter.mp ht).1
  have hm' := (List.mem_filter.mp ht').1
  have htokens : List.Forall₂ RefreshToken.Twin (db.tokensOf mine) (db'.tokensOf mine) :=
    h.tokens.imp fun _ _ => (·.toTwin)
  have htokens' : List.Forall₂ RefreshToken.Twin (db'.tokensOf mine) (db.tokensOf mine) :=
    (htokens.imp fun _ _ => RefreshToken.Twin.symm).flip
  rw [hs.inFamilyOf_iff hm, hs'.inFamilyOf_iff hm']
  constructor
  · intro hf
    obtain ⟨u, htwin, hu⟩ := hf.twin apart htoken hinstance hstart htokens hs
    rwa [hs'.distinct t' hm' u hu.mem (hr.token.symm.trans htwin.token)]
  · intro hf
    obtain ⟨u, htwin, hu⟩ := hf.twin apart htoken.symm hinstance.symm
      (fun side hx => hstart side (htoken ▸ hx)) htokens' hs'
    rwa [hs.distinct t hm u hu.mem (hr.token.trans htwin.token)]

end

/-! ## Whole moves -/

/-- Two moves come to the same, unless no id was left for the first. -/
def SameOutcome (mine : Uuid → Bool) (ρ : Renaming) (r r' : Answer × Database) : Prop :=
  r.1.Exhausted ∨ ∃ ρ', ρ ≤ ρ' ∧ Mirrors mine ρ' r.2 r'.2 ∧ ρ'.OnAnswers r.1 r'.1

section

variable {mine : Uuid → Bool} {ρ : Renaming} {owns : Bool → String → Prop} {db db' : Database}
  {user user' : User} {given given' : Supply} {old old' : RefreshToken}

theorem SameOutcome.unchanged (h : Mirrors mine ρ db db') {a a' : Answer}
    (ha : ρ.OnAnswers a a') : SameOutcome mine ρ (a, db) (a', db') :=
  .inr ⟨ρ, Renaming.le_refl ρ, h, ha⟩

theorem SameOutcome.settled (h : Mirrors mine ρ db db')
    {o o' : Except Error (IssuedToken × Database)}
    (ho : Lockstep mine ρ (fun ρ => ρ.OnIssued) o o') :
    SameOutcome mine ρ (.issued (db.settled o).1, (db.settled o).2)
      (.issued (db'.settled o').1, (db'.settled o').2) := by
  cases ho with
  | ok le mirrors related => exact .inr ⟨_, le, mirrors, .issued (.ok related)⟩
  | error e => exact .unchanged h (.issued (.error e))
  | exhausted ends => exact .inl ends

theorem SameOutcome.lookedUp (h : Mirrors mine ρ db db') {found found' : Option RefreshToken}
    (hf : Option.Rel ρ.OnTokens found found') :
    SameOutcome mine ρ (Database.lookedUp found, db) (Database.lookedUp found', db') := by
  cases hf with
  | none => exact .unchanged h (.found (.error _))
  | some ht => exact .unchanged h (.found (.ok ht))

namespace Database

variable (now now' : Instant) (h : Mirrors mine ρ db db') (hs : Separate mine owns db)
  (hs' : Separate mine owns db') (hu : user.Alike user') (own : mine user.id = true)
  (hold : ρ.OnTokens old old') (hstring : given.string = given'.string)
  (hnew : db.token? given.string = none) (hnew' : db'.token? given'.string = none)

include h hs hs' hu own hold hstring hnew hnew'

/-- A rotation, once its revocation has been noted. -/
theorem rotation_lockstep {q q' : RefreshToken → Bool}
    (hq : ∀ t t', ρ.OnTokens t t' → q t = q' t') :
    Lockstep mine ρ (fun ρ => ρ.OnIssued)
      (((db.recording now user).revoking now q).issue now user (.rotation old) given)
      (((db'.recording now' user').revoking now' q').issue now' user' (.rotation old') given') := by
  have hn : (db.recording now user).Numbered := ⟨hs.ascending, hs.bounded, hs.distinct⟩
  have hn' : (db'.recording now' user').Numbered := ⟨hs'.ascending, hs'.bounded, hs'.distinct⟩
  have hrevoked := (h.recording now now' hu).revoking now now' fun t _ t' _ => hq t t'
  refine issue_lockstep now now' hrevoked (hn.revoking now q) (hn'.revoking now' q') hu own
    (.rotation hold) hstring nofun ?_ ?_
  · exact (token?_revoking fun t ht he => absurd he (token?_eq_none.mp hnew t ht)).trans hnew
  · exact (token?_revoking fun t ht he => absurd he (token?_eq_none.mp hnew' t ht)).trans hnew'

theorem swap_lockstep (held : Held mine owns true db old) (held' : Held mine owns true db' old') :
    Lockstep mine ρ (fun ρ => ρ.OnIssued) (db.swap now user old given)
      (db'.swap now' user' old' given') := by
  have hid : ∀ t t', ρ.OnTokens t t' → decide (t.id = old.id) = decide (t'.id = old'.id) :=
    fun t t' ht => decide_eq_decide.mpr (h.id_eq_iff ht.id hold.id)
  have hfound : Option.Rel ρ.OnTokens (db.tokens.find? (·.id = old.id))
      (db'.tokens.find? (·.id = old'.id)) :=
    h.find? (fun t ht he => held.own t ht (of_decide_eq_true he))
      (fun t ht he => held'.own t ht (of_decide_eq_true he)) hid
  have hany : db.tokens.any (·.id = old.id) = db'.tokens.any (·.id = old'.id) := by
    rw [← List.isSome_find?, ← List.isSome_find?]
    generalize db.tokens.find? _ = r at hfound
    generalize db'.tokens.find? _ = r' at hfound
    cases hfound <;> rfl
  unfold swap
  rw [hany]
  cases db'.tokens.any (·.id = old'.id) with
  | false => exact .error _
  | true =>
    exact rotation_lockstep now now' h hs hs' hu own hold hstring hnew hnew' hid

omit hu own hold hstring hnew hnew' in
/-- A string that is of no other group finds the same owner and token. -/
theorem presented_agree {token : String} (htoken : ∀ side, owns side token → side = true) :
    Agree (fun p p' => p.1.Twin p'.1 ∧ ρ.OnTokens p.2 p'.2) (db.presented token)
      (db'.presented token) := by
  have hmine : ∀ {db : Database}, Separate mine owns db → ∀ t ∈ db.tokens,
      decide (t.token = token) = true → mine t.userId = true :=
    fun hs t ht he => hs.mine_of_mentions ht (.inl (of_decide_eq_true he)) htoken
  have hfound := h.find? (hmine hs) (hmine hs') fun t t' ht => by rw [ht.token]
  unfold presented
  rcases ht : db.token? token with _ | t <;> rcases ht' : db'.token? token with _ | t' <;>
    rw [← token?, ← token?, ht, ht'] at hfound <;> cases hfound
  · exact .error _
  · rename_i hr
    have howner : Option.Rel User.Twin (db.user? t.userId) (db'.user? t.userId) :=
      h.user? (hs.mine_of_mentions (mem_of_token? ht).1 (.inl (mem_of_token? ht).2) htoken)
    dsimp only
    rw [← hr.userId]
    generalize db.user? t.userId = u at howner
    generalize db'.user? t.userId = u' at howner
    cases howner with
    | none => exact .error _
    | some hu => exact .ok ⟨hu, hr⟩

omit hu own hold in
theorem exchange_lockstep (apart : ∀ x side side', owns side x → owns side' x → side = side')
    {token : String} (htoken : ∀ side, owns side token → side = true) (rotationEnabled : Bool) :
    SameOutcome mine ρ (db.reply rotationEnabled now given (.exchange token))
      (db'.reply rotationEnabled now' given' (.exchange token)) := by
  have hpresented := presented_agree h hs hs' htoken
  rw [reply, serve, exchange, reply, serve, exchange]
  rcases hp : db.presented token with e | ⟨user, old⟩ <;>
    rcases hp' : db'.presented token with e' | ⟨user', old'⟩ <;>
    rw [hp, hp'] at hpresented <;> cases hpresented
  · exact .unchanged h (.issued (.error e))
  · rename_i hr
    obtain ⟨hu, hold⟩ := hr
    dsimp only at hu hold ⊢
    obtain ⟨hmem, ht, howner⟩ := presented_ok hp
    have own : mine user.id = true := by
      rw [id_of_user? howner]
      exact hs.mine_of_mentions hmem (.inl (mem_of_token? ht).2) htoken
    rw [← hold.revoked]
    by_cases hrev : old.revoked = true
    · rw [if_pos hrev, if_pos hrev]
      refine .inr ⟨ρ, Renaming.le_refl ρ, ?_, .issued (.error _)⟩
      cases rotationEnabled with
      | false => exact h
      | true =>
        exact h.revokingFamily apart hold.token hold.instanceId
          (fun side hx => htoken side ((mem_of_token? ht).2 ▸ hx)) hs hs' now now'
    · rw [if_neg hrev, if_neg hrev]
      have hq : ∀ t t', ρ.OnTokens t t' → Service.stillValid old t = Service.stillValid old' t' :=
        fun t t' hr => by
          rw [Service.stillValid, Service.stillValid, hr.revoked,
            decide_eq_decide.mpr (h.id_eq_iff hr.id hold.id)]
      have hissue := rotation_lockstep now now' h hs hs' hu.toAlike own hold hstring hnew hnew' hq
      generalize ((db.recording now user).revoking now (Service.stillValid old)).issue now user
        (.rotation old) given = o at hissue
      generalize ((db'.recording now' user').revoking now' (Service.stillValid old')).issue now'
        user' (.rotation old') given' = o' at hissue
      cases hissue with
      | ok le mirrors related => exact .inr ⟨_, le, mirrors, .issued (.ok related)⟩
      | error e => exact .unchanged h (.issued (.error e))
      | exhausted ends => exact .inl ends

end Database

/-- A move of the group comes to the same on both sides. -/
theorem Database.respond_lockstep {t t' : Turn} {hand hand' : List RefreshToken}
    (apart : ∀ x side side', owns side x → owns side' x → side = side')
    (h : Mirrors mine ρ db db') (hs : Separate mine owns db) (hs' : Separate mine owns db')
    (ours : t.side = true) (same : t.move.Same t'.move) (fits : t.Fits mine owns)
    (fresh : t.move.Fresh db) (fresh' : t'.move.Fresh db')
    (hands : List.Forall₂ ρ.OnTokens hand hand') (held : ∀ u ∈ hand, Held mine owns true db u)
    (held' : ∀ u ∈ hand', Held mine owns true db' u) (rotationEnabled : Bool) :
    SameOutcome mine ρ (db.respond rotationEnabled t.now hand t.move)
      (db'.respond rotationEnabled t'.now hand' t'.move) := by
  obtain ⟨side, now, move⟩ := t
  obtain ⟨side', now', move'⟩ := t'
  cases ours
  dsimp only at same fresh fresh' ⊢
  have hstart : ∀ x, move.presented? = some x → ∀ side, owns side x → side = true := fits.string
  cases same with
  | grant conditions alike string =>
    refine .settled h (issue_lockstep now now' h hs.toNumbered hs'.toNumbered alike
      (fits.user _ rfl) (.signIn conditions) string ?_ (fresh.string _ rfl) (fresh'.string _ rfl))
    rintro c ho
    cases ho
    exact ⟨fresh.session _ rfl, fresh'.session _ rfl⟩
  | swap k alike string =>
    have hk := forall₂_getElem? hands k
    unfold respond
    dsimp only
    rcases hi : hand[k]? with _ | old <;> rcases hi' : hand'[k]? with _ | old' <;>
      rw [hi, hi'] at hk <;> cases hk
    · exact .unchanged h .nothing
    · rename_i hold
      exact .settled h (swap_lockstep now now' h hs hs' alike (fits.user _ rfl) hold string
        (fresh.string _ rfl) (fresh'.string _ rfl) (held old (List.mem_of_getElem? hi))
        (held' old' (List.mem_of_getElem? hi')))
  | exchange token string =>
    exact exchange_lockstep now now' h hs hs' string (fresh.string _ rfl) (fresh'.string _ rfl)
      apart (hstart _ rfl) rotationEnabled
  | revokeFamily token instanceId =>
    exact .inr ⟨ρ, Renaming.le_refl ρ,
      h.revokingFamily apart token instanceId (hstart _ rfl) hs hs' now now', .done _⟩
  | @validChild start start' token instanceId =>
    rw [respond, respond, hs.validChild?_eq_find?, hs'.validChild?_eq_find?]
    refine .lookedUp h (h.find? (fun u hu hp => ?_) (fun u hu hp => ?_) fun u u' hu => ?_)
    · simp only [RefreshToken.isNearChildOf, Bool.and_eq_true, RefreshToken.isChildOf_iff] at hp
      exact hs.mine_of_mentions hu (.inr hp.1.1) (hstart _ rfl)
    · simp only [RefreshToken.isNearChildOf, Bool.and_eq_true, RefreshToken.isChildOf_iff] at hp
      exact hs'.mine_of_mentions hu (.inr hp.1.1) fun side hx => hstart _ rfl side (token ▸ hx)
    · rw [hu.isNearChildOf token instanceId, hu.revoked]
  | find token =>
    refine .lookedUp h (h.find? (fun u hu hp => ?_) (fun u hu hp => ?_) fun u u' hu => ?_)
    · exact hs.mine_of_mentions hu (.inl (of_decide_eq_true hp)) (hstart _ rfl)
    · exact hs'.mine_of_mentions hu (.inl (of_decide_eq_true hp)) (hstart _ rfl)
    · rw [hu.token]
  | logout instanceId userId =>
    exact .inr ⟨ρ, Renaming.le_refl ρ, h.loggedOut instanceId userId, .done _⟩

end

end RefreshChain
