import RefreshChain.Proofs.Isolation.Play
import RefreshChain.Proofs.ValidChild

/-!
# Confined moves

Every token string belongs to one of the groups: the group that got the token. As long as a group
presents no string of the other one, its moves change its own rows only.

* `Separate`: each row mentions strings of its own group only.
* `Confined`: changes of the contents that keep to the rows of a group, one constructor for each
  kind of change.
* `Database.respond_confined`: all that a move does is confined.
* `Confined.separate`, `Confined.held`, `Confined.unused`, `Confined.untouched`: what confined
  changes keep, and that they leave the rows of the other group as they are.
-/

namespace RefreshChain

/-! ## Rows and strings of groups -/

/-- The string is that of the token or of its parent. -/
def RefreshToken.Mentions (t : RefreshToken) (x : String) : Prop := t.token = x ∨ t.parent = some x

namespace Move

/-- The user that a move names. -/
def userId? : Move → Option Uuid
  | .grant user _ _ => some user.id
  | .swap user _ _ => some user.id
  | .logout _ userId => some userId
  | _ => none

/-- The token string that a move presents, but for a swap, which presents a token. -/
def presented? : Move → Option String
  | .exchange token _ => some token
  | .revokeFamily start => some start.token
  | .validChild start => some start.token
  | .find token => some token
  | _ => none

/-- The string that a move is given for a new token. -/
def string? : Move → Option String
  | .grant _ _ given => some given.string
  | .swap _ _ given => some given.string
  | .exchange _ given => some given.string
  | _ => none

/-- The id that a move is given for a new session. -/
def sessionId? : Move → Option Uuid
  | .grant _ (some _) given => some given.sessionId
  | _ => none

end Move

/-- `mine` says which users are of the group on the side `true`, and `owns` which strings are of
which group. The rows keep to that, and sessions that they refer to are there. -/
structure Separate (mine : Uuid → Bool) (owns : Bool → String → Prop) (db : Database) : Prop
    extends db.Numbered where
  mentions : ∀ t ∈ db.tokens, ∀ x, t.Mentions x → owns (mine t.userId) x
  bound : ∀ t ∈ db.tokens, ∀ id, t.ssoSessionId = some id → (db.session? id).isSome

/-- The group may present the token: nothing with its string or its id is of the other group. -/
structure Held (mine : Uuid → Bool) (owns : Bool → String → Prop) (side : Bool) (db : Database)
    (t : RefreshToken) : Prop where
  string : owns side t.token
  given : t.id ≤ db.lastTokenId
  own : ∀ r ∈ db.tokens, r.id = t.id → mine r.userId = side

/-- The turn names users of its group and presents no string of the other one. -/
structure Turn.Fits (mine : Uuid → Bool) (owns : Bool → String → Prop) (t : Turn) : Prop where
  user : ∀ id, t.move.userId? = some id → mine id = t.side
  string : ∀ x, t.move.presented? = some x → ∀ side, owns side x → side = t.side

/-- Changes of the contents that keep to the rows of the group whose turn it is. -/
inductive Confined (mine : Uuid → Bool) (owns : Bool → String → Prop) (t : Turn) (db : Database) :
    Database → Prop where
  | refl : Confined mine owns t db db
  | revoking {db₁ : Database} (before : Confined mine owns t db db₁) (q : RefreshToken → Bool)
      (own : ∀ r ∈ db₁.tokens, q r = true → mine r.userId = t.side) :
      Confined mine owns t db (db₁.revoking t.now q)
  | loggingOut {db₁ : Database} (before : Confined mine owns t db db₁) (instanceId userId : Uuid)
      (own : mine userId = t.side) : Confined mine owns t db (db₁.loggedOut instanceId userId)
  | minting {db₁ : Database} (before : Confined mine owns t db db₁) (r : RefreshToken)
      (id : r.id = db₁.nextTokenId) (fresh : db₁.token? r.token = none)
      (given : t.move.string? = some r.token) (own : mine r.userId = t.side)
      (mentions : ∀ x, r.Mentions x → owns t.side x)
      (bound : ∀ id, r.ssoSessionId = some id → (db₁.session? id).isSome) :
      Confined mine owns t db (db₁.withToken r)
  | opening {db₁ : Database} (before : Confined mine owns t db db₁) (session : SsoSession)
      (given : t.move.sessionId? = some session.id) (own : mine session.userId = t.side) :
      Confined mine owns t db { db₁ with sessions := db₁.sessions ++ [session] }
  | recording {db₁ : Database} (before : Confined mine owns t db db₁) (user : User)
      (own : mine user.id = t.side) : Confined mine owns t db (db₁.recording t.now user)
  | signingIn {db₁ : Database} (before : Confined mine owns t db db₁) (user : User)
      (own : mine user.id = t.side) : Confined mine owns t db (db₁.signingIn t.now user)

section

variable {mine : Uuid → Bool} {owns : Bool → String → Prop} {t : Turn} {db db' db₀ : Database}
  {side : Bool} {u start : RefreshToken}

/-- A group may present its rows. -/
theorem Separate.held (h : Separate mine owns db) (hu : u ∈ db.tokens)
    (hmine : mine u.userId = side) : Held mine owns side db u where
  string := hmine ▸ h.mentions u hu _ (.inl rfl)
  given := h.bounded u hu
  own r hr he := by rw [h.eq_of_id hr hu he, hmine]

/-- A row that names a string that no other group has. -/
theorem Separate.mine_of_mentions (h : Separate mine owns db) (hu : u ∈ db.tokens) {x : String}
    (hm : u.Mentions x) (hx : ∀ side', owns side' x → side' = side) : mine u.userId = side :=
  hx _ (h.mentions u hu x hm)

/-- A family is of the group that its strings are of. -/
theorem Separate.mine_of_inFamily (h : Separate mine owns db)
    (apart : ∀ x side side', owns side x → owns side' x → side = side')
    (hstart : ∀ side', owns side' start.token → side' = side)
    (hf : InFamily db.tokens start u) : mine u.userId = side := by
  induction hf with
  | child mem link =>
    rw [RefreshToken.isNearChildOf, Bool.and_eq_true, RefreshToken.isChildOf_iff] at link
    exact h.mine_of_mentions mem (.inr link.1) hstart
  | @further p r above mem link ih =>
    rw [RefreshToken.isChildOf_iff] at link
    have hp : owns side p.token := ih ▸ h.mentions p above.mem _ (.inl rfl)
    exact h.mine_of_mentions mem (.inr link) fun side' hx => apart _ _ _ hx hp

/-! ## What confined changes keep -/

theorem Confined.separate (h : Confined mine owns t db db') (hs : Separate mine owns db) :
    Separate mine owns db' := by
  induction h with
  | refl => exact hs
  | @revoking db₁ _ q _ ih =>
    refine ⟨ih.toNumbered.revoking t.now q, fun r hr x hx => ?_, fun r hr => ?_⟩ <;>
      obtain ⟨a, ha, hb⟩ := Database.becomes_of_mem_revoking hr
    · rw [RefreshToken.Mentions, hb.token, hb.parent] at hx
      rw [hb.kin.userId]
      exact ih.mentions a ha x hx
    · rw [hb.kin.ssoSessionId]
      exact ih.bound a ha
  | @loggingOut db₁ _ instanceId userId _ ih =>
    have hp := db₁.pruned_loggedOut instanceId userId
    exact ⟨ih.toNumbered.pruned hp, fun r hr => ih.mentions r (hp.sub hr),
      fun r hr => ih.bound r (hp.sub hr)⟩
  | minting _ r id fresh _ own mentions bound ih =>
    refine ⟨ih.toNumbered.withToken id fresh, fun a ha x hx => ?_, fun a ha => ?_⟩ <;>
      rcases Database.mem_withToken.mp ha with hm | rfl
    · exact ih.mentions a hm x hx
    · exact own ▸ mentions x hx
    · exact ih.bound a hm
    · exact bound
  | @opening db₁ _ session _ _ ih =>
    refine ⟨⟨ih.ascending, ih.bounded, ih.distinct⟩, ih.mentions, fun r hr id he => ?_⟩
    obtain ⟨found, hf⟩ := Option.isSome_iff_exists.mp (ih.bound r hr id he)
    rw [Database.session?_append [session] hf]
    rfl
  | recording _ user _ ih =>
    exact ⟨⟨ih.ascending, ih.bounded, ih.distinct⟩, ih.mentions, ih.bound⟩
  | signingIn _ user _ ih =>
    exact ⟨⟨ih.ascending, ih.bounded, ih.distinct⟩, ih.mentions, ih.bound⟩

theorem Confined.held (h : Confined mine owns t db db') (hu : Held mine owns side db u) :
    Held mine owns side db' u := by
  induction h with
  | refl => exact hu
  | @revoking db₁ _ q _ ih =>
    refine ⟨ih.string, ih.given, fun r hr he => ?_⟩
    obtain ⟨a, ha, hb⟩ := Database.becomes_of_mem_revoking hr
    rw [hb.kin.userId]
    exact ih.own a ha (hb.id ▸ he)
  | loggingOut _ _ _ _ ih =>
    exact ⟨ih.string, ih.given, fun r hr => ih.own r (List.mem_filter.mp hr).1⟩
  | @minting db₁ _ r id _ _ _ _ _ ih =>
    have hlt : u.id < r.id := id ▸ Int.lt_of_le_of_lt ih.given db₁.lastTokenId_lt_nextTokenId
    refine ⟨ih.string, Int.le_of_lt hlt, fun a ha he => ?_⟩
    rcases Database.mem_withToken.mp ha with hm | rfl
    · exact ih.own a hm he
    · exact absurd he (Int.ne_of_gt hlt)
  | opening _ _ _ _ ih => exact ⟨ih.string, ih.given, ih.own⟩
  | recording _ _ _ ih => exact ⟨ih.string, ih.given, ih.own⟩
  | signingIn _ _ _ ih => exact ⟨ih.string, ih.given, ih.own⟩

/-- No row has one of the strings, and no session one of the ids. -/
structure Unused (strings : List String) (ids : List Uuid) (db : Database) : Prop where
  tokens : ∀ t ∈ db.tokens, t.token ∉ strings
  sessions : ∀ s ∈ db.sessions, s.id ∉ ids

/-- A turn uses what it is given, and nothing of what comes later. -/
theorem Confined.unused (h : Confined mine owns t db db') {strings : List String} {ids : List Uuid}
    (hu : Unused strings ids db) (hstring : ∀ x, t.move.string? = some x → x ∉ strings)
    (hid : ∀ id, t.move.sessionId? = some id → id ∉ ids) : Unused strings ids db' := by
  induction h with
  | refl => exact hu
  | @revoking db₁ _ q _ ih =>
    refine ⟨fun r hr => ?_, ih.sessions⟩
    obtain ⟨a, ha, hb⟩ := Database.becomes_of_mem_revoking hr
    rw [hb.token]
    exact ih.tokens a ha
  | loggingOut _ _ _ _ ih =>
    exact ⟨fun r hr => ih.tokens r (List.mem_filter.mp hr).1, ih.sessions⟩
  | minting _ r _ _ given _ _ _ ih =>
    refine ⟨fun a ha => ?_, ih.sessions⟩
    rcases Database.mem_withToken.mp ha with hm | rfl
    · exact ih.tokens a hm
    · exact hstring _ given
  | opening _ session given _ ih =>
    refine ⟨ih.tokens, fun s hs => ?_⟩
    rcases List.mem_append.mp hs with hm | hm
    · exact ih.sessions s hm
    · exact List.mem_singleton.mp hm ▸ hid _ given
  | recording _ _ _ ih => exact ⟨ih.tokens, ih.sessions⟩
  | signingIn _ _ _ ih => exact ⟨ih.tokens, ih.sessions⟩

end

/-! ## The rows of the other group -/

namespace Database

variable (db : Database) (mine : Uuid → Bool)

def tokensOf : List RefreshToken := db.tokens.filter (mine ·.userId)

def sessionsOf : List SsoSession := db.sessions.filter (mine ·.userId)

def usersOf : List User := db.users.filter (mine ·.id)

def auditOf : List AuditEntry := db.audit.filter (·.userId.any mine)

end Database

/-- The rows of the group are the same, and so is all that both groups look up. -/
structure Untouched (mine : Uuid → Bool) (db db' : Database) : Prop where
  tokens : db'.tokensOf mine = db.tokensOf mine
  sessions : db'.sessionsOf mine = db.sessionsOf mine
  users : db'.usersOf mine = db.usersOf mine
  audit : db'.auditOf mine = db.auditOf mine
  providers : db'.providers = db.providers
  lastTokenId : db.lastTokenId ≤ db'.lastTokenId
  session? : ∀ id session, db.session? id = some session → db'.session? id = some session

theorem Untouched.trans {mine : Uuid → Bool} {db db₁ db' : Database} (h : Untouched mine db db₁)
    (h' : Untouched mine db₁ db') : Untouched mine db db' :=
  ⟨h'.tokens.trans h.tokens, h'.sessions.trans h.sessions, h'.users.trans h.users,
    h'.audit.trans h.audit, h'.providers.trans h.providers,
    Int.le_trans h.lastTokenId h'.lastTokenId, fun id s hs => h'.session? id s (h.session? id s hs)⟩

section

variable {mine : Uuid → Bool} {owns : Bool → String → Prop} {t : Turn} {db db' db₀ : Database}

/-- Rows that are not of the group change and stay so. -/
theorem filter_map_of_other {α : Type} (p q : α → Bool) (f : α → α) (xs : List α)
    (hp : ∀ x ∈ xs, p (f x) = p x) (hq : ∀ x ∈ xs, q x = true → p x = false) :
    (xs.map fun x => if q x then f x else x).filter p = xs.filter p := by
  induction xs with
  | nil => rfl
  | cons x xs ih =>
    rw [List.map_cons, List.filter_cons, List.filter_cons,
      ih (fun y hy => hp y (.tail _ hy)) (fun y hy => hq y (.tail _ hy))]
    by_cases h : q x = true
    · have hf : p x = false := hq x (.head _) h
      rw [if_pos h, hp x (.head _), hf]
      rfl
    · rw [if_neg h]

/-- Moves of the other group do not touch the rows of this one. -/
theorem Confined.untouched (h : Confined mine owns t db db') (hside : t.side = false) :
    Untouched mine db db' := by
  have same : ∀ db : Database, Untouched mine db db := fun db =>
    ⟨rfl, rfl, rfl, rfl, rfl, Int.le_refl _, fun _ _ h => h⟩
  induction h with
  | refl => exact same db
  | @revoking db₁ _ q own ih =>
    refine ih.trans { same db₁ with tokens := ?_ }
    exact filter_map_of_other _ q _ _ (fun _ _ => rfl) fun r hr hq => (own r hr hq).trans hside
  | @loggingOut db₁ _ instanceId userId own ih =>
    refine ih.trans { same db₁ with tokens := ?_ }
    rw [Database.tokensOf, Database.loggedOut, List.filter_filter]
    refine List.filter_congr fun r _ => ?_
    by_cases he : r.userId = userId
    · simp [he, own, hside]
    · simp [he]
  | @minting db₁ _ r id _ _ own _ _ ih =>
    refine ih.trans { same db₁ with tokens := ?_, lastTokenId := ?_ }
    · simp [Database.tokensOf, Database.withToken, own, hside]
    · show db₁.lastTokenId ≤ r.id
      exact id ▸ Int.le_of_lt db₁.lastTokenId_lt_nextTokenId
  | @opening db₁ _ session _ own ih =>
    refine ih.trans { same db₁ with sessions := ?_, session? := ?_ }
    · simp [Database.sessionsOf, own, hside]
    · exact fun _ _ => Database.session?_append [session]
  | @recording db₁ _ user own ih =>
    refine ih.trans { same db₁ with audit := ?_ }
    simp [Database.auditOf, Database.recording, own, hside]
  | @signingIn db₁ _ user own ih =>
    refine ih.trans { same db₁ with users := ?_ }
    have hmap := filter_map_of_other (mine ·.id) (fun u => decide (u.id = user.id))
      (User.signedInAt t.now) db₁.users (fun _ _ => rfl) fun u _ he => by
        rw [of_decide_eq_true he, own, hside]
    simpa [Database.usersOf, Database.signingIn] using hmap

/-! ## Moves are confined -/

/-- What a move leads to is confined, and what it answers with is a row of the group. -/
structure Confines (mine : Uuid → Bool) (owns : Bool → String → Prop) (t : Turn) (db : Database)
    (r : Answer × Database) : Prop where
  change : Confined mine owns t db r.2
  gives : ∀ u, r.1.token? = some u → u ∈ r.2.tokens ∧ mine u.userId = t.side

theorem Confined.issue {user : User} {origin : Origin} {given : Supply} {i : IssuedToken}
    (before : Confined mine owns t db db₀)
    (hi : db₀.issue t.now user origin given = .ok (i, db')) (own : mine user.id = t.side)
    (parent : ∀ x, origin.parent? = some x → owns t.side x) (string : owns t.side i.token.token)
    (hstring : t.move.string? = some given.string)
    (hid : ∀ c, origin = .signIn (some c) → t.move.sessionId? = some given.sessionId) :
    Confined mine owns t db db' ∧ i.token ∈ db'.tokens ∧ mine i.token.userId = t.side := by
  obtain ⟨sid, db₁, db₂, hs, hm, -, rfl⟩ := Database.issue_ok hi
  have opened : Confined mine owns t db db₁ := by
    rcases (Database.sessionFor_ok hs).1 with rfl | ⟨c, ho, hopen⟩
    · exact before
    · rw [(Database.openSession_ok hopen).2.2]
      exact before.opening _ (hid c ho) own
  obtain ⟨hnew, hsup, ht, rfl⟩ := Database.mint_ok hm
  have hbound : ∀ id, i.token.ssoSessionId = some id → (db₁.session? id).isSome := by
    intro id he
    rw [ht] at he
    have hd := List.all_eq_true.mp hsup ⟨.ssoSessions, id⟩
      (by simp [RefreshToken.references, User.newToken] at he ⊢; simp [he])
    simpa [Database.dangles] using hd
  have minted : Confined mine owns t db (db₁.withToken i.token) := by
    refine opened.minting i.token ?_ ?_ ?_ ?_ ?_ hbound
    · rw [ht]
    · rw [ht]; exact hnew
    · rw [ht]; exact hstring
    · rw [ht]; exact own
    · rintro x (rfl | hx)
      · exact string
      · rw [ht] at hx
        exact parent x hx
  refine ⟨minted.signingIn user own, Database.mem_withToken.mpr (.inr rfl), ?_⟩
  rw [ht]
  exact own

/-- An answer without a token. -/
theorem Confines.silent {a : Answer} (change : Confined mine owns t db db')
    (ha : a.token? = none) : Confines mine owns t db (a, db') :=
  ⟨change, fun u hu => by rw [ha] at hu; cases hu⟩

theorem Confines.unchanged {a : Answer} (ha : a.token? = none) : Confines mine owns t db (a, db) :=
  .silent .refl ha

/-- A request that has a token issued or fails. -/
theorem Confines.settled {o : Except Error (IssuedToken × Database)}
    (ho : ∀ i db', o = .ok (i, db') →
      Confined mine owns t db db' ∧ i.token ∈ db'.tokens ∧ mine i.token.userId = t.side) :
    Confines mine owns t db (.issued (db.settled o).1, (db.settled o).2) := by
  rcases o with e | ⟨i, db'⟩
  · exact .unchanged rfl
  · obtain ⟨change, hrow⟩ := ho i db' rfl
    exact ⟨change, fun u hu => by cases hu; exact hrow⟩

/-- A row that was looked for. -/
theorem Confines.lookedUp {found : Option RefreshToken}
    (hf : ∀ u, found = some u → u ∈ db.tokens ∧ mine u.userId = t.side) :
    Confines mine owns t db (Database.lookedUp found, db) := by
  cases found with
  | none => exact .unchanged rfl
  | some u => exact ⟨.refl, fun v hv => by cases hv; exact hf u rfl⟩

variable (apart : ∀ x side side', owns side x → owns side' x → side = side')
  (hs : Separate mine owns db) {given : Supply} {rotationEnabled : Bool}

include apart hs in
/-- The family of a token that the group presents. -/
theorem Confined.revokingFamily {start : RefreshToken}
    (hstart : ∀ side, owns side start.token → side = t.side) :
    Confined mine owns t db (db.revokingFamily t.now start) :=
  .revoking .refl _ fun _ hr hq =>
    hs.mine_of_inFamily apart hstart ((hs.inFamilyOf_iff hr).mp hq)

/-- A revocation that is noted. -/
theorem Confined.rotating {user : User} (own : mine user.id = t.side) {q : RefreshToken → Bool}
    (hq : ∀ r ∈ db.tokens, q r = true → mine r.userId = t.side) :
    Confined mine owns t db ((db.recording t.now user).revoking t.now q) :=
  .revoking (.recording .refl user own) q hq

include apart hs in
theorem Database.exchange_confined {token : String}
    (htoken : ∀ side, owns side token → side = t.side)
    (hstring : t.move.string? = some given.string)
    (hissued : ∀ i, (db.reply rotationEnabled t.now given (.exchange token)).1 = .issued (.ok i) →
      owns t.side i.token.token) :
    Confines mine owns t db (db.reply rotationEnabled t.now given (.exchange token)) := by
  rw [reply, serve, exchange] at hissued ⊢
  rcases hp : db.presented token with e | ⟨user, old⟩ <;> rw [hp] at hissued
  · exact .unchanged rfl
  obtain ⟨hmem, ht, hu⟩ := presented_ok hp
  have hown : mine old.userId = t.side :=
    hs.mine_of_mentions hmem (.inl (mem_of_token? ht).2) htoken
  have huser : mine user.id = t.side := by rw [id_of_user? hu, hown]
  dsimp only at hissued ⊢
  by_cases hold : old.revoked = true
  · rw [if_pos hold]
    refine .silent ?_ rfl
    cases rotationEnabled with
    | false => exact .refl
    | true => exact .revokingFamily apart hs fun side hx => htoken side ((mem_of_token? ht).2 ▸ hx)
  · rw [if_neg hold] at hissued ⊢
    rcases hi : ((db.recording t.now user).revoking t.now (Service.stillValid old)).issue t.now user
      (.rotation old) given with e | ⟨i, db'⟩ <;> rw [hi] at hissued
    · exact .unchanged rfl
    have rotating : Confined mine owns t db
        ((db.recording t.now user).revoking t.now (Service.stillValid old)) := by
      refine .rotating huser fun r hr hq => ?_
      have he : r.id = old.id ∧ r.revoked = false := by simpa [Service.stillValid] using hq
      rw [hs.eq_of_id hr hmem he.1, hown]
    obtain ⟨change, hrow⟩ := rotating.issue hi huser
      (fun x hx => by cases hx; exact hown ▸ hs.mentions old hmem _ (.inl rfl)) (hissued i rfl)
      hstring fun _ ho => by cases ho
    exact ⟨change, fun u hu => by cases hu; exact hrow⟩

include apart hs in
/-- All that a move does is confined, if it presents nothing of the other group. -/
theorem Database.respond_confined {hand : List RefreshToken}
    (hhand : ∀ u ∈ hand, Held mine owns t.side db u) (fits : t.Fits mine owns)
    (hissued : ∀ i, (db.respond rotationEnabled t.now hand t.move).1 = .issued (.ok i) →
      owns t.side i.token.token) :
    Confines mine owns t db (db.respond rotationEnabled t.now hand t.move) := by
  obtain ⟨side, now, move⟩ := t
  cases move with
  | grant user conditions given =>
    refine .settled fun i db' hi => ?_
    refine Confined.issue .refl hi (fits.user _ rfl) (fun _ hx => by cases hx) (hissued i ?_) rfl ?_
    · exact congrArg (fun r => Answer.issued (db.settled r).1) hi
    · rintro c ho
      cases ho
      rfl
  | swap user k given =>
    rw [respond] at hissued ⊢
    cases hk : hand[k]? with
    | none => exact .unchanged rfl
    | some old =>
      rw [hk] at hissued
      have hold := hhand old (List.mem_of_getElem? hk)
      refine .settled fun i db' hi => ?_
      have hfound := hissued i (congrArg (fun r => Answer.issued (db.settled r).1) hi)
      unfold swap at hi
      split at hi
      · have own : mine user.id = side := fits.user _ rfl
        refine Confined.issue (.rotating own fun r hr hq => ?_) hi own
          (fun x hx => by cases hx; exact hold.string) hfound rfl fun _ ho => by cases ho
        exact hold.own r hr (of_decide_eq_true hq)
      · cases hi
  | exchange token given => exact exchange_confined apart hs (fits.string _ rfl) rfl hissued
  | revokeFamily start => exact .silent (.revokingFamily apart hs (fits.string _ rfl)) rfl
  | validChild start =>
    refine .lookedUp fun u hu => ?_
    obtain ⟨hmem, hchild⟩ := mem_of_validChild? hu
    exact ⟨hmem, hs.mine_of_mentions hmem (.inr hchild.parent) (fits.string _ rfl)⟩
  | find token =>
    refine .lookedUp fun u hu => ⟨(mem_of_token? hu).1, ?_⟩
    exact hs.mine_of_mentions (mem_of_token? hu).1 (.inl (mem_of_token? hu).2) (fits.string _ rfl)
  | logout instanceId userId =>
    exact .silent (.loggingOut .refl instanceId userId (fits.user _ rfl)) rfl

end

end RefreshChain
