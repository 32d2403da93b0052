import Mathlib.Data.List.Forall2
import RefreshChain.Proofs.Isolation.Confined

/-!
# Renamings

Two runs give different ids to rows that are otherwise the same. A renaming says which id of the one
run stands for which of the other.

* `Renaming.OnTokens`, `Renaming.OnSessions`, `Renaming.OnAnswers`: rows and answers are the same up
  to ids and the time.
* `SameRows`: the rows of a group are.
* `Mirrors`: they are, and what a group looks up besides is the same, too. The changes that moves
  are made of keep it if they are made on both sides: `Mirrors.revoking`, `Mirrors.minting` and so
  on. A new id only adds to the renaming.
-/

namespace RefreshChain

/-! ## Related lists -/

section

variable {α β α' β' : Type} {R : α → β → Prop} {xs : List α} {ys : List β}

theorem forall₂_exists (h : List.Forall₂ R xs ys) {x : α} (hx : x ∈ xs) : ∃ y ∈ ys, R x y := by
  induction h with
  | nil => cases hx
  | @cons a b _ _ hr _ ih =>
    rcases List.mem_cons.mp hx with rfl | hx
    · exact ⟨b, .head _, hr⟩
    · obtain ⟨y, hy, hr⟩ := ih hx
      exact ⟨y, .tail _ hy, hr⟩

theorem forall₂_map_of_mem {S : α' → β' → Prop} {f : α → α'} {g : β → β'}
    (h : List.Forall₂ R xs ys) (hs : ∀ x ∈ xs, ∀ y ∈ ys, R x y → S (f x) (g y)) :
    List.Forall₂ S (xs.map f) (ys.map g) := by
  induction h with
  | nil => exact .nil
  | cons hr _ ih =>
    exact .cons (hs _ (.head _) _ (.head _) hr)
      (ih fun x hx y hy => hs x (.tail _ hx) y (.tail _ hy))

theorem forall₂_filter {p : α → Bool} {q : β → Bool} (h : List.Forall₂ R xs ys)
    (hpq : ∀ x y, R x y → p x = q y) : List.Forall₂ R (xs.filter p) (ys.filter q) :=
  List.rel_filter (fun x y hr => iff_of_eq (congrArg (· = true) (hpq x y hr))) h

/-- A row is added on both sides, and kept on both or on none. -/
theorem forall₂_filter_concat {p : α → Bool} {q : β → Bool}
    (h : List.Forall₂ R (xs.filter p) (ys.filter q)) {x : α} {y : β} (hr : R x y)
    (hpq : p x = q y) : List.Forall₂ R ((xs ++ [x]).filter p) ((ys ++ [y]).filter q) := by
  rw [List.filter_append, List.filter_append]
  refine List.rel_append h ?_
  rw [List.filter_singleton, List.filter_singleton, hpq]
  cases q y with
  | true => exact .cons hr .nil
  | false => exact .nil

theorem forall₂_find? {p : α → Bool} {q : β → Bool} (h : List.Forall₂ R xs ys)
    (hpq : ∀ x y, R x y → p x = q y) : Option.Rel R (xs.find? p) (ys.find? q) := by
  induction h with
  | nil => exact .none
  | @cons a b _ _ hr _ ih =>
    rw [List.find?_cons, List.find?_cons, hpq a b hr]
    cases q b with
    | true => exact .some hr
    | false => exact ih

theorem forall₂_getElem? (h : List.Forall₂ R xs ys) (k : Nat) :
    Option.Rel R xs[k]? ys[k]? := by
  induction h generalizing k with
  | nil => exact .none
  | cons hr _ ih =>
    cases k with
    | zero => exact .some hr
    | succ k => exact ih k

theorem option_rel_mono {S : α → β → Prop} (hrs : ∀ x y, R x y → S x y) {x : Option α}
    {y : Option β} (h : Option.Rel R x y) : Option.Rel S x y := by
  cases h with
  | none => exact .none
  | some h => exact .some (hrs _ _ h)

/-- What is looked for is among the rows that are kept. -/
theorem find?_filter_of_imp {p keep : α → Bool} (h : ∀ x ∈ xs, p x = true → keep x = true) :
    (xs.filter keep).find? p = xs.find? p := by
  induction xs with
  | nil => rfl
  | cons x xs ih =>
    have ih := ih fun y hy => h y (.tail _ hy)
    rw [List.filter_cons, List.find?_cons]
    by_cases hp : p x = true
    · rw [if_pos (h x (.head _) hp), List.find?_cons, hp]
    · rw [Bool.eq_false_iff.mpr hp, ← ih]
      split
      · rw [List.find?_cons, Bool.eq_false_iff.mpr hp]
      · rfl

end

/-! ## Rows that are the same but for ids and the time -/

/-- Which ids of rows and of sessions of one run stand for which of another. -/
structure Renaming where
  rows : Int → Int → Prop
  sessions : Uuid → Uuid → Prop

/-- The tokens are the same but for their ids, their sessions and the time. -/
structure RefreshToken.Twin (t t' : RefreshToken) : Prop where
  instanceId : t.instanceId = t'.instanceId
  token : t.token = t'.token
  parent : t.parent = t'.parent
  userId : t.userId = t'.userId
  revoked : t.revoked = t'.revoked

/-- The users are the same as far as a request goes. -/
structure User.Alike (u u' : User) : Prop where
  instanceId : u.instanceId = u'.instanceId
  id : u.id = u'.id
  email : u.email = u'.email

/-- The users are the same but for the time. -/
structure User.Twin (u u' : User) : Prop extends u.Alike u' where
  signedIn : u.lastSignInAt.isSome = u'.lastSignInAt.isSome

/-- The entries are the same but for the time. -/
structure AuditEntry.Twin (e e' : AuditEntry) : Prop where
  instanceId : e.instanceId = e'.instanceId
  userId : e.userId = e'.userId
  actorEmail : e.actorEmail = e'.actorEmail
  action : e.action = e'.action
  detail : e.detail = e'.detail

/-- Both fail with the same error, or both succeed and what they give is related. -/
inductive Agree {ε α β : Type} (R : α → β → Prop) : Except ε α → Except ε β → Prop where
  | ok {a : α} {b : β} (related : R a b) : Agree R (.ok a) (.ok b)
  | error (e : ε) : Agree R (.error e) (.error e)

namespace Renaming

/-- No id stands for two others, nor do two stand for one. -/
structure OneToOne (ρ : Renaming) : Prop where
  rows : Relator.BiUnique ρ.rows
  sessions : Relator.BiUnique ρ.sessions

/-- The renaming with more ids. -/
instance : LE Renaming :=
  ⟨fun ρ ρ' => (∀ a b, ρ.rows a b → ρ'.rows a b) ∧ ∀ a b, ρ.sessions a b → ρ'.sessions a b⟩

def withRow (ρ : Renaming) (a b : Int) : Renaming :=
  { ρ with rows := fun x y => ρ.rows x y ∨ x = a ∧ y = b }

def withSession (ρ : Renaming) (a b : Uuid) : Renaming :=
  { ρ with sessions := fun x y => ρ.sessions x y ∨ x = a ∧ y = b }

structure OnTokens (ρ : Renaming) (t t' : RefreshToken) : Prop extends t.Twin t' where
  id : ρ.rows t.id t'.id
  session : Option.Rel ρ.sessions t.ssoSessionId t'.ssoSessionId

structure OnSessions (ρ : Renaming) (s s' : SsoSession) : Prop where
  id : ρ.sessions s.id s'.id
  userId : s.userId = s'.userId
  providerId : s.providerId = s'.providerId
  notBefore : s.notBefore = s'.notBefore
  notAfter : s.notAfter = s'.notAfter
  idpInitiated : s.idpInitiated = s'.idpInitiated

structure OnBindings (ρ : Renaming) (b b' : SsoBinding) : Prop where
  session : ρ.OnSessions b.session b'.session
  provider : b.provider = b'.provider

structure OnIssued (ρ : Renaming) (i i' : IssuedToken) : Prop where
  token : ρ.OnTokens i.token i'.token
  sso : Option.Rel ρ.OnBindings i.sso i'.sso

inductive OnAnswers (ρ : Renaming) : Answer → Answer → Prop where
  | issued {o o' : Except Error IssuedToken} (agree : Agree ρ.OnIssued o o') :
      OnAnswers ρ (.issued o) (.issued o')
  | found {o o' : Except Error RefreshToken} (agree : Agree ρ.OnTokens o o') :
      OnAnswers ρ (.found o) (.found o')
  | done (o : Except Error Unit) : OnAnswers ρ (.done o) (.done o)
  | nothing : OnAnswers ρ .nothing .nothing

variable {ρ ρ' ρ'' : Renaming}

theorem le_refl (ρ : Renaming) : ρ ≤ ρ := ⟨fun _ _ h => h, fun _ _ h => h⟩

theorem le_trans (h : ρ ≤ ρ') (h' : ρ' ≤ ρ'') : ρ ≤ ρ'' :=
  ⟨fun a b hr => h'.1 a b (h.1 a b hr), fun a b hr => h'.2 a b (h.2 a b hr)⟩

theorem le_withRow (ρ : Renaming) (a b : Int) : ρ ≤ ρ.withRow a b :=
  ⟨fun _ _ => .inl, fun _ _ h => h⟩

theorem le_withSession (ρ : Renaming) (a b : Uuid) : ρ ≤ ρ.withSession a b :=
  ⟨fun _ _ h => h, fun _ _ => .inl⟩

theorem OnTokens.mono (hle : ρ ≤ ρ') {t t' : RefreshToken} (h : ρ.OnTokens t t') :
    ρ'.OnTokens t t' :=
  ⟨h.toTwin, hle.1 _ _ h.id, option_rel_mono hle.2 h.session⟩

theorem OnSessions.mono (hle : ρ ≤ ρ') {s s' : SsoSession} (h : ρ.OnSessions s s') :
    ρ'.OnSessions s s' :=
  { h with id := hle.2 _ _ h.id }

theorem OnIssued.mono (hle : ρ ≤ ρ') {i i' : IssuedToken} (h : ρ.OnIssued i i') :
    ρ'.OnIssued i i' :=
  ⟨h.token.mono hle, option_rel_mono (fun _ _ hb => ⟨hb.session.mono hle, hb.provider⟩) h.sso⟩

theorem OnAnswers.mono (hle : ρ ≤ ρ') {a a' : Answer} (h : ρ.OnAnswers a a') :
    ρ'.OnAnswers a a' := by
  cases h with
  | issued agree =>
    cases agree with
    | ok hi => exact .issued (.ok (hi.mono hle))
    | error e => exact .issued (.error e)
  | found agree =>
    cases agree with
    | ok ht => exact .found (.ok (ht.mono hle))
    | error e => exact .found (.error e)
  | done o => exact .done o
  | nothing => exact .nothing

/-- What callers get to hold is the same. -/
theorem OnAnswers.token? {a a' : Answer} (h : ρ.OnAnswers a a') :
    Option.Rel ρ.OnTokens a.token? a'.token? := by
  cases h with
  | issued agree =>
    cases agree with
    | ok hi => exact .some hi.token
    | error => exact .none
  | found agree =>
    cases agree with
    | ok ht => exact .some ht
    | error => exact .none
  | done => exact .none
  | nothing => exact .none

/-- A pair of new ids can be added. -/
theorem biUnique_or {α β : Type} {R : α → β → Prop} (h : Relator.BiUnique R) {a : α} {b : β}
    (ha : ∀ y, ¬ R a y) (hb : ∀ x, ¬ R x b) :
    Relator.BiUnique fun x y => R x y ∨ x = a ∧ y = b := by
  constructor
  · rintro x x' y (hx | ⟨rfl, rfl⟩) (hx' | ⟨rfl, hy⟩)
    · exact h.1 hx hx'
    · exact absurd (hy ▸ hx) (hb x)
    · exact absurd hx' (hb x')
    · rfl
  · rintro x y y' (hy | ⟨rfl, rfl⟩) (hy' | ⟨hx, rfl⟩)
    · exact h.2 hy hy'
    · exact absurd (hx ▸ hy) (ha y)
    · exact absurd hy' (ha y')
    · rfl

end Renaming

/-! ## Contents where the rows of a group are the same -/

/-- The rows of the group are the same in both contents, but for ids and the time. -/
structure SameRows (mine : Uuid → Bool) (ρ : Renaming) (db db' : Database) : Prop where
  tokens : List.Forall₂ ρ.OnTokens (db.tokensOf mine) (db'.tokensOf mine)
  sessions : List.Forall₂ ρ.OnSessions (db.sessionsOf mine) (db'.sessionsOf mine)
  users : List.Forall₂ User.Twin (db.usersOf mine) (db'.usersOf mine)
  audit : List.Forall₂ AuditEntry.Twin (db.auditOf mine) (db'.auditOf mine)

/-- Besides, the ids of the renaming are in use, and what the group looks up is the same. -/
structure Mirrors (mine : Uuid → Bool) (ρ : Renaming) (db db' : Database) : Prop
    extends SameRows mine ρ db db' where
  oneToOne : ρ.OneToOne
  bounded : ∀ a b, ρ.rows a b → a ≤ db.lastTokenId ∧ b ≤ db'.lastTokenId
  lookup : ∀ a b, ρ.sessions a b →
    ∃ s s', db.session? a = some s ∧ db'.session? b = some s' ∧ ρ.OnSessions s s'
  providers : db.providers = db'.providers
  lastTokenId : db'.lastTokenId ≤ db.lastTokenId

namespace Mirrors

variable {mine : Uuid → Bool} {ρ : Renaming} {db db' db₁ : Database}

/-- What leaves the group's rows alone does not matter. -/
theorem untouched (h : Mirrors mine ρ db db') (hu : Untouched mine db db₁) :
    Mirrors mine ρ db₁ db' where
  tokens := hu.tokens ▸ h.tokens
  sessions := hu.sessions ▸ h.sessions
  users := hu.users ▸ h.users
  audit := hu.audit ▸ h.audit
  oneToOne := h.oneToOne
  bounded a b hr := ⟨Int.le_trans (h.bounded a b hr).1 hu.lastTokenId, (h.bounded a b hr).2⟩
  lookup a b hr := by
    obtain ⟨s, s', hs, hs', hr⟩ := h.lookup a b hr
    exact ⟨s, s', hu.session? a s hs, hs', hr⟩
  providers := hu.providers.trans h.providers
  lastTokenId := Int.le_trans h.lastTokenId hu.lastTokenId

/-! ## Changes on both sides -/

theorem revoking (h : Mirrors mine ρ db db') (now now' : Instant) {q q' : RefreshToken → Bool}
    (hq : ∀ t ∈ db.tokensOf mine, ∀ t' ∈ db'.tokensOf mine, ρ.OnTokens t t' → q t = q' t') :
    Mirrors mine ρ (db.revoking now q) (db'.revoking now' q') := by
  have htokens : ∀ (db : Database) now q, (db.revoking now q).tokensOf mine =
      (db.tokensOf mine).map fun t => if q t then t.revokedAt now else t := by
    intro db now q
    rw [Database.tokensOf, Database.revoking, List.filter_map, Database.tokensOf]
    congr 1
    refine List.filter_congr fun t _ => ?_
    rw [Function.comp, (Database.becomes_revoking now q t).kin.userId]
  refine { h with tokens := ?_ }
  rw [htokens, htokens]
  refine forall₂_map_of_mem h.tokens fun t ht t' ht' hr => ?_
  rw [hq t ht t' ht' hr]
  cases q' t' with
  | true => exact { hr with revoked := rfl }
  | false => exact hr

theorem loggedOut (h : Mirrors mine ρ db db') (instanceId userId : Uuid) :
    Mirrors mine ρ (db.loggedOut instanceId userId) (db'.loggedOut instanceId userId) := by
  have htokens : ∀ db : Database, (db.loggedOut instanceId userId).tokensOf mine =
      (db.tokensOf mine).filter fun t => !(t.instanceId = instanceId && t.userId = userId) := by
    intro db
    rw [Database.tokensOf, Database.loggedOut, List.filter_filter, Database.tokensOf,
      List.filter_filter]
    exact List.filter_congr fun t _ => Bool.and_comm _ _
  refine { h with tokens := ?_ }
  rw [htokens, htokens]
  exact forall₂_filter h.tokens fun t t' hr => by rw [hr.instanceId, hr.userId]

theorem recording (h : Mirrors mine ρ db db') (now now' : Instant) {user user' : User}
    (hu : user.Alike user') :
    Mirrors mine ρ (db.recording now user) (db'.recording now' user') := by
  refine { h with audit := forall₂_filter_concat h.audit ?_ ?_ }
  · exact ⟨hu.instanceId, congrArg some hu.id, congrArg some hu.email, rfl, rfl⟩
  · exact congrArg mine hu.id

theorem signingIn (h : Mirrors mine ρ db db') (now now' : Instant) {user user' : User}
    (hu : user.Alike user') :
    Mirrors mine ρ (db.signingIn now user) (db'.signingIn now' user') := by
  have husers : ∀ (db : Database) now (user : User), (db.signingIn now user).usersOf mine =
      (db.usersOf mine).map fun u => if u.id = user.id then u.signedInAt now else u := by
    intro db now user
    rw [Database.usersOf, Database.signingIn, List.filter_map, Database.usersOf]
    congr 1
    refine List.filter_congr fun u _ => ?_
    dsimp only [Function.comp]
    split <;> rfl
  refine { h with users := ?_ }
  rw [husers, husers]
  refine forall₂_map_of_mem h.users fun u _ u' _ hr => ?_
  rw [hu.id, hr.id]
  split
  · exact ⟨⟨hr.instanceId, hr.id, hr.email⟩, rfl⟩
  · exact hr

theorem opening (h : Mirrors mine ρ db db') (session session' : SsoSession)
    (hnew : db.session? session.id = none) (hnew' : db'.session? session'.id = none)
    (hr : (ρ.withSession session.id session'.id).OnSessions session session') :
    Mirrors mine (ρ.withSession session.id session'.id)
      { db with sessions := db.sessions ++ [session] }
      { db' with sessions := db'.sessions ++ [session'] } := by
  have hle := ρ.le_withSession session.id session'.id
  refine { h with tokens := ?_, sessions := ?_, oneToOne := ?_, lookup := ?_ }
  · exact h.tokens.imp fun _ _ => .mono hle
  · exact forall₂_filter_concat (h.sessions.imp fun _ _ => .mono hle) hr
      (congrArg mine hr.userId)
  · refine ⟨h.oneToOne.rows, Renaming.biUnique_or h.oneToOne.sessions ?_ ?_⟩
    · rintro b hb
      obtain ⟨s, s', hs, -⟩ := h.lookup _ _ hb
      rw [hnew] at hs
      cases hs
    · rintro a ha
      obtain ⟨s, s', -, hs, -⟩ := h.lookup _ _ ha
      rw [hnew'] at hs
      cases hs
  · rintro a b (hab | ⟨rfl, rfl⟩)
    · obtain ⟨s, s', hs, hs', hss⟩ := h.lookup a b hab
      exact ⟨s, s', Database.session?_append [session] hs, Database.session?_append [session'] hs',
        hss.mono hle⟩
    · exact ⟨session, session', Database.session?_append_self hnew,
        Database.session?_append_self hnew', hr⟩

theorem minting (h : Mirrors mine ρ db db') (hn : db.Numbered) (hn' : db'.Numbered)
    {t t' : RefreshToken} (hid : t.id = db.nextTokenId) (hid' : t'.id = db'.nextTokenId)
    (hr : (ρ.withRow t.id t'.id).OnTokens t t') :
    Mirrors mine (ρ.withRow t.id t'.id) (db.withToken t) (db'.withToken t') := by
  have hle := ρ.le_withRow t.id t'.id
  have hlt : db.lastTokenId < t.id := hid ▸ db.lastTokenId_lt_nextTokenId
  have hlt' : db'.lastTokenId < t'.id := hid' ▸ db'.lastTokenId_lt_nextTokenId
  refine { h with
    tokens := ?_, sessions := ?_, oneToOne := ?_, bounded := ?_, lookup := ?_, lastTokenId := ?_ }
  · exact forall₂_filter_concat (h.tokens.imp fun _ _ => .mono hle) hr (congrArg mine hr.userId)
  · exact h.sessions.imp fun _ _ => .mono hle
  · refine ⟨Renaming.biUnique_or h.oneToOne.rows ?_ ?_, h.oneToOne.sessions⟩
    · intro b hb
      exact absurd (h.bounded _ _ hb).1 (Int.not_le.mpr hlt)
    · intro a ha
      exact absurd (h.bounded _ _ ha).2 (Int.not_le.mpr hlt')
  · rintro a b (hab | ⟨rfl, rfl⟩)
    · exact ⟨Int.le_trans (h.bounded a b hab).1 (Int.le_of_lt hlt),
        Int.le_trans (h.bounded a b hab).2 (Int.le_of_lt hlt')⟩
    · exact ⟨Int.le_refl _, Int.le_refl _⟩
  · intro a b hab
    obtain ⟨s, s', hs, hs', hss⟩ := h.lookup a b hab
    exact ⟨s, s', hs, hs', hss.mono hle⟩
  · show t'.id ≤ t.id
    have := h.lastTokenId
    rw [hid, hid', hn.nextTokenId_eq, hn'.nextTokenId_eq]
    omega

end Mirrors

end RefreshChain
