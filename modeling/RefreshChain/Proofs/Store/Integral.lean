import Mathlib.Tactic.ByContra
import RefreshChain.Family
import RefreshChain.Proofs.Store.References

/-!
# Row statements keep a store integral

A store is integral if no reference leads nowhere and all keys are unique. On a fully migrated store
every statement that writes rows keeps it so: insertions and changes of any columns, and deletions
with all that goes with them.

* `Database.Integral`: what holds of an integral store, `Database.integral_iff`: and of no other.
* `Statement.OfRows`: the statements that write rows. `Statement.OfRows.balanced`: starting from an
  integral store they keep their count right.
* `Database.withoutUsers`, `Database.withoutProviders`: what a deletion leaves.
  `Statement.deleteUsers_run`, `Statement.deleteProviders_run`: it succeeds and leaves just that.
-/

namespace RefreshChain

/-! ## New rows -/

namespace Kind

variable {db : Database}

theorem clash?_user {u : User} (hnew : db.user? u.id = none) :
    users.clash? u (users.rows db) = none := by
  have hids : ∀ v ∈ db.users, u.id ≠ v.id := fun v hv he => by
    simpa [he] using List.find?_eq_none.mp hnew v hv
  simpa [clash?_eq_none, users] using hids

theorem clash?_provider {p : SsoProvider} (hnew : db.provider? p.id = none) :
    providers.clash? p (providers.rows db) = none := by
  have hids : ∀ q ∈ db.providers, p.id ≠ q.id := fun q hq he => by
    simpa [he] using List.find?_eq_none.mp hnew q hq
  simpa [clash?_eq_none, providers] using hids

theorem clash?_session {s : SsoSession} (hnew : db.session? s.id = none) :
    sessions.clash? s (sessions.rows db) = none := by
  have hids : ∀ s' ∈ db.sessions, s.id ≠ s'.id := fun s' hs' he => by
    simpa [he] using List.find?_eq_none.mp hnew s' hs'
  simpa [clash?_eq_none, sessions] using hids

theorem clash?_token {t : RefreshToken} (hid : db.tokenById? t.id = none)
    (hstring : db.token? t.token = none) : tokens.clash? t (tokens.rows db) = none := by
  have hids : ∀ u ∈ db.tokens, t.id ≠ u.id := fun u hu he => by
    simpa [he] using List.find?_eq_none.mp hid u hu
  have hstrings : ∀ u ∈ db.tokens, t.token ≠ u.token := fun u hu he => by
    simpa [he] using List.find?_eq_none.mp hstring u hu
  simpa [clash?_eq_none, tokens] using ⟨hids, hstrings⟩

end Kind

namespace Database

variable {db : Database}

theorem alike_users (u : User) :
    (Kind.users.put (u :: db.users) db).Alike { db with users := db.users ++ [u] } :=
  ⟨rfl, (List.perm_append_singleton u db.users).symm, .refl _, .refl _, .refl _⟩

theorem alike_providers (p : SsoProvider) :
    (Kind.providers.put (p :: db.providers) db).Alike
      { db with providers := db.providers ++ [p] } :=
  ⟨rfl, .refl _, (List.perm_append_singleton p db.providers).symm, .refl _, .refl _⟩

theorem alike_sessions (s : SsoSession) :
    (Kind.sessions.put (s :: db.sessions) db).Alike { db with sessions := db.sessions ++ [s] } :=
  ⟨rfl, .refl _, .refl _, (List.perm_append_singleton s db.sessions).symm, .refl _⟩

theorem alike_tokens (t : RefreshToken) (last : Int) :
    (Kind.tokens.put (t :: db.tokens) db).Alike
      { db with tokens := insertById t db.tokens, lastTokenId := last } :=
  ⟨rfl, .refl _, .refl _, .refl _, (Kind.tokens_put_perm _ db).trans (insertById_perm t _).symm⟩

end Database

/-- A change that leaves a column as it is in each row leaves the whole column as it is. -/
theorem map_column {α β : Type} {p : α → Bool} {f : α → α} (column : α → β)
    (hf : ∀ a, column (f a) = column a) (rows : List α) :
    (rows.map fun a => if p a then f a else a).map column = rows.map column := by
  refine List.map_map.trans (List.map_congr_left fun a _ => ?_)
  rw [Function.comp]
  split
  · exact hf a
  · rfl

/-- A new row that clashes with none. -/
theorem Kind.Lawful.insert {α : Type} {k : Kind α} (hk : k.Lawful) {db db' : Database} {row : α}
    (hd : db.Distinct) (hc : k.clash? row (k.rows db) = none)
    (ha : (k.put (row :: k.rows db) db).Alike db') : db'.Distinct := by
  have hself : db.Alike (k.put (k.rows db) db) := hk.alike (.refl _)
  exact ha.distinct (hk.distinct_more (hself.distinct hd) hc)

/-! ## Integral stores -/

namespace Database

variable {db db' : Database}

/-- Keys are unique, and what rows refer to is there. -/
structure Integral (db : Database) : Prop where
  userIds : (db.users.map (·.id)).Nodup
  providerIds : (db.providers.map (·.id)).Nodup
  sessionIds : (db.sessions.map (·.id)).Nodup
  tokenIds : (db.tokens.map (·.id)).Nodup
  tokenStrings : (db.tokens.map (·.token)).Nodup
  tokenUser : ∀ t ∈ db.tokens, ∃ u ∈ db.users, u.id = t.userId
  tokenSession : ∀ t ∈ db.tokens, ∀ id, t.ssoSessionId = some id → ∃ s ∈ db.sessions, s.id = id
  sessionUser : ∀ s ∈ db.sessions, ∃ u ∈ db.users, u.id = s.userId
  sessionProvider : ∀ s ∈ db.sessions, ∃ p ∈ db.providers, p.id = s.providerId

theorem mem_names_user {id : Uuid} : ⟨.users, id⟩ ∈ db.names ↔ ∃ u ∈ db.users, u.id = id := by
  simp [names]

theorem mem_names_provider {id : Uuid} :
    ⟨.ssoProviders, id⟩ ∈ db.names ↔ ∃ p ∈ db.providers, p.id = id := by
  simp [names]

theorem mem_names_session {id : Uuid} :
    ⟨.ssoSessions, id⟩ ∈ db.names ↔ ∃ s ∈ db.sessions, s.id = id := by
  simp [names]

theorem looseEnds_eq_zero : db.looseEnds = 0 ↔ ∀ r ∈ db.mentions, r ∈ db.names := by
  simp [looseEnds, List.countP_eq_zero]

theorem integral_iff : db.Integral ↔ db.Distinct ∧ db.looseEnds = 0 := by
  rw [looseEnds_eq_zero]
  constructor
  · intro h
    refine ⟨⟨nodup_names.mpr ⟨h.userIds, h.providerIds, h.sessionIds⟩, h.tokenIds,
      h.tokenStrings⟩, fun r hr => ?_⟩
    rcases List.mem_append.mp hr with hr | hr
    · obtain ⟨s, hs, hr⟩ := List.mem_flatMap.mp hr
      simp only [SsoSession.references, List.mem_cons, List.not_mem_nil, or_false] at hr
      rcases hr with rfl | rfl
      · exact mem_names_provider.mpr (h.sessionProvider s hs)
      · exact mem_names_user.mpr (h.sessionUser s hs)
    · obtain ⟨t, ht, hr⟩ := List.mem_flatMap.mp hr
      simp only [RefreshToken.references, List.mem_append, Option.mem_toList,
        Option.map_eq_some_iff, List.mem_singleton] at hr
      rcases hr with ⟨id, hid, rfl⟩ | rfl
      · exact mem_names_session.mpr (h.tokenSession t ht id hid)
      · exact mem_names_user.mpr (h.tokenUser t ht)
  · rintro ⟨hd, hm⟩
    obtain ⟨hu, hp, hs⟩ := nodup_names.mp hd.names
    have hsession : ∀ s ∈ db.sessions, ∀ r ∈ s.references, r ∈ db.names := fun s hs r hr =>
      hm r (List.mem_append_left _ (List.mem_flatMap.mpr ⟨s, hs, hr⟩))
    have htoken : ∀ t ∈ db.tokens, ∀ r ∈ t.references, r ∈ db.names := fun t ht r hr =>
      hm r (List.mem_append_right _ (List.mem_flatMap.mpr ⟨t, ht, hr⟩))
    exact {
      userIds := hu
      providerIds := hp
      sessionIds := hs
      tokenIds := hd.tokenIds
      tokenStrings := hd.tokenStrings
      tokenUser := fun t ht =>
        mem_names_user.mp (htoken t ht _ (RefreshToken.mem_references_user.mpr rfl))
      tokenSession := fun t ht id hid =>
        mem_names_session.mp (htoken t ht _ (RefreshToken.mem_references_session.mpr hid))
      sessionUser := fun s hs =>
        mem_names_user.mp (hsession s hs _ (SsoSession.mem_references_user.mpr rfl))
      sessionProvider := fun s hs =>
        mem_names_provider.mp (hsession s hs _ (SsoSession.mem_references_provider.mpr rfl)) }

namespace Integral

theorem distinct (h : db.Integral) : db.Distinct := (integral_iff.mp h).1

theorem looseEnds (h : db.Integral) : db.looseEnds = 0 := (integral_iff.mp h).2

theorem mem_names (h : db.Integral) {r : Reference} (hr : r ∈ db.mentions) : r ∈ db.names :=
  looseEnds_eq_zero.mp h.looseEnds r hr

theorem migrated : Database.migrated.Integral := by
  constructor <;> simp [Database.migrated]

/-- Only the keys and the references matter. -/
theorem of_same (h : db.Integral) (hn : db.names.Perm db'.names)
    (hm : db.mentions.Perm db'.mentions) (hi : (db.tokens.map (·.id)).Perm (db'.tokens.map (·.id)))
    (hs : (db.tokens.map (·.token)).Perm (db'.tokens.map (·.token))) : db'.Integral := by
  have hd := h.distinct
  refine integral_iff.mpr ⟨⟨hn.nodup_iff.mp hd.names, hi.nodup_iff.mp hd.tokenIds,
    hs.nodup_iff.mp hd.tokenStrings⟩, looseEnds_eq_zero.mpr fun r hr => ?_⟩
  exact hn.mem_iff.mp (h.mem_names (hm.mem_iff.mpr hr))

theorem of_alike (h : db.Integral) (ha : db.Alike db') : db'.Integral :=
  h.of_same ha.names ha.mentions (ha.tokens.map _) (ha.tokens.map _)

/-- A new row that clashes with none, and whose references lead to rows. -/
theorem insert (h : db.Integral) {α : Type} {k : Kind α} (hk : k.Lawful) (row : α)
    (hc : k.clash? row (k.rows db) = none) (hr : ∀ r ∈ k.references row, r ∈ db.names)
    (ha : (k.put (row :: k.rows db) db).Alike db') : db'.Integral := by
  have hself : db.Alike (k.put (k.rows db) db) := hk.alike (.refl _)
  have hm := hk.mentions row (k.rows db) db
  have hn := hk.names row (k.rows db) db
  refine integral_iff.mpr ⟨hk.insert h.distinct hc ha, looseEnds_eq_zero.mpr fun r hmem => ?_⟩
  refine (ha.names.symm.trans hn).mem_iff.mpr
    (List.mem_append_right _ (hself.names.mem_iff.mp ?_))
  rcases List.mem_append.mp ((ha.mentions.symm.trans hm).mem_iff.mp hmem) with hmem | hmem
  · exact hr r hmem
  · exact h.mem_names (hself.mentions.mem_iff.mpr hmem)

theorem addUser (h : db.Integral) {u : User} (hnew : db.user? u.id = none) :
    ({ db with users := db.users ++ [u] } : Database).Integral :=
  h.insert Kind.lawful_users u (Kind.clash?_user hnew) (fun _ hr => by cases hr) (alike_users u)

theorem addProvider (h : db.Integral) {p : SsoProvider} (hnew : db.provider? p.id = none) :
    ({ db with providers := db.providers ++ [p] } : Database).Integral :=
  h.insert Kind.lawful_providers p (Kind.clash?_provider hnew) (fun _ hr => by cases hr)
    (alike_providers p)

theorem addSession (h : db.Integral) {s : SsoSession} (hnew : db.session? s.id = none)
    (hrefs : ∀ r ∈ s.references, db.dangles r = false) :
    ({ db with sessions := db.sessions ++ [s] } : Database).Integral := by
  refine h.insert Kind.lawful_sessions s (Kind.clash?_session hnew) (fun r hr => ?_)
    (alike_sessions s)
  simpa [dangles_eq (SsoSession.proper_of_mem hr)] using hrefs r hr

theorem addToken (h : db.Integral) {t : RefreshToken} {last : Int}
    (hid : db.tokenById? t.id = none) (hstring : db.token? t.token = none)
    (hrefs : ∀ r ∈ t.references, db.dangles r = false) :
    ({ db with tokens := insertById t db.tokens, lastTokenId := last } : Database).Integral := by
  refine h.insert Kind.lawful_tokens t (Kind.clash?_token hid hstring) (fun r hr => ?_)
    (alike_tokens t last)
  simpa [dangles_eq (RefreshToken.proper_of_mem hr)] using hrefs r hr

theorem changeUsers (h : db.Integral) {p : User → Bool} {f : User → User}
    (hf : ∀ u, (f u).id = u.id) :
    ({ db with users := db.users.map fun u => if p u then f u else u } : Database).Integral := by
  have hids := map_column (p := p) (fun u : User => Reference.mk .users u.id)
    (fun u => by rw [hf]) db.users
  exact h.of_same (.of_eq (congrArg (· ++ _) hids.symm)) (.refl _) (.refl _) (.refl _)

end Integral

end Database

/-! ## Statements that write rows -/

/-- The token after a change that sets the given references, perhaps, and neither of its keys. -/
structure RefreshToken.ChangesAt (touched : List ForeignKey) (t u : RefreshToken) : Prop where
  id : u.id = t.id
  token : u.token = t.token
  userId : .tokenUser ∉ touched → u.userId = t.userId
  ssoSessionId : .tokenSession ∉ touched → u.ssoSessionId = t.ssoSessionId

/-- A reference of a kind that is not set is as it was. -/
theorem RefreshToken.ChangesAt.mem_references {touched : List ForeignKey} {t u : RefreshToken}
    (h : t.ChangesAt touched u) {r : Reference} (hr : r ∈ u.references)
    (hn : touched.any (·.parent = r.parent) = false) : r ∈ t.references := by
  have huntouched : ∀ k : ForeignKey, k.parent = r.parent → k ∉ touched := by
    intro k hk hmem
    simpa [hk] using List.any_eq_false.mp hn k hmem
  obtain ⟨parent, key⟩ := r
  rcases RefreshToken.proper_of_mem hr with hp | hp | hp <;> cases hp
  · rw [mem_references_user] at hr ⊢
    rw [← h.userId (huntouched .tokenUser rfl), hr]
  · simp [references] at hr
  · rw [mem_references_session] at hr ⊢
    rw [← h.ssoSessionId (huntouched .tokenSession rfl), hr]

namespace Statement

/-- Insertions, changes and deletions of rows. -/
inductive OfRows : ∀ ⦃α : Type⦄, Statement α → Prop where
  | insertUser (u : User) : OfRows (insertUser u)
  | insertProvider (p : SsoProvider) : OfRows (insertProvider p)
  | insertSession (s : SsoSession) : OfRows (insertSession s)
  | insertToken (t : RefreshToken) (id? : Option Int) : OfRows (insertToken t id?)
  | insertAuditEntry (e : AuditEntry) : OfRows (insertAuditEntry e)
  /-- A change of columns of users other than the key. -/
  | updateUsers (p : User → Bool) {f : User → User} (hf : ∀ u, (f u).id = u.id) :
      OfRows (updateUsers p f)
  /-- A change of columns of tokens other than the keys. -/
  | updateTokens {touched : List ForeignKey} (p : RefreshToken → Bool)
      {f : RefreshToken → RefreshToken} (hf : ∀ t : RefreshToken, t.ChangesAt touched (f t)) :
      OfRows (updateTokens touched p f)
  | revokeFamily (now : Instant) (start : RefreshToken) : OfRows (revokeFamily now start)
  /-- A change of any columns of the rows of one of the tables. -/
  | changeUsers (p : User → Bool) (f : User → User) : OfRows (change .users p f)
  | changeProviders (p : SsoProvider → Bool) (f : SsoProvider → SsoProvider) :
      OfRows (change .providers p f)
  | changeSessions (p : SsoSession → Bool) (f : SsoSession → SsoSession) :
      OfRows (change .sessions p f)
  | changeTokens (p : RefreshToken → Bool) (f : RefreshToken → RefreshToken) :
      OfRows (change .tokens p f)
  | changeAuditEntries (p : AuditEntry → Bool) (f : AuditEntry → AuditEntry) :
      OfRows (change .audit p f)
  | deleteUsers (p : User → Bool) : OfRows (deleteUsers p)
  | deleteProviders (p : SsoProvider → Bool) : OfRows (deleteProviders p)
  | deleteSessions (p : SsoSession → Bool) : OfRows (deleteSessions p)
  | deleteTokens (p : RefreshToken → Bool) : OfRows (deleteTokens p)
  | deleteAuditEntries (p : AuditEntry → Bool) : OfRows (deleteAuditEntries p)

variable {db : Database} {w : Work}

section

variable (hm : db.schema = .migrated)

include hm

/-- An insertion of a token, under a given or a new id. -/
theorem insertToken_given {t : RefreshToken} {id? : Option Int} {id : Int}
    (run : (insertToken t id?).run (.start db) = .ok (id, w)) :
    db.tokenById? id = none ∧ db.token? t.token = none ∧
      (∀ r ∈ t.references, db.dangles r = false) ∧
      w = .start { db with
        tokens := Database.insertById { t with id } db.tokens
        lastTokenId := max db.lastTokenId id } := by
  obtain ⟨_, -, run⟩ := except_bind_ok.mp run
  obtain ⟨new, -, run⟩ := except_bind_ok.mp run
  dsimp only at run
  split at run
  · cases run
  rename_i hid
  split at run
  · cases run
  rename_i hstring
  obtain ⟨w₁, haccept, run⟩ := except_bind_ok.mp run
  rw [Work.accept_migrated (w := .start db) hm rfl rfl] at haccept
  split at haccept <;> cases haccept
  rename_i hrefs
  rw [Work.keepOr_migrated hm] at run
  cases run
  exact ⟨by simpa using hid, by simpa using hstring, hrefs, rfl⟩

/-- The count after the references of a token have been counted anew. Those before the change lead
to rows, so only those after it matter. -/
theorem recount_eq {touched : List ForeignKey} {f : RefreshToken → RefreshToken} {t : RefreshToken}
    (hf : t.ChangesAt touched (f t)) (hrefs : ∀ r ∈ t.references, r ∈ db.names) (n : Nat) :
    ((Work.start db).withCount n).recount touched f t = (Work.start db).withCount
      ((n + (f t).references.countP (· ∉ db.names) : Nat) : Int) := by
  have hbefore : (t.references.filter fun r => touched.any (·.parent = r.parent)).countP
      (· ∉ db.names) = 0 := by
    refine List.countP_eq_zero.mpr fun r hr => ?_
    simpa using hrefs r (List.mem_filter.mp hr).1
  have hafter : ((f t).references.filter fun r => touched.any (·.parent = r.parent)).countP
      (· ∉ db.names) = (f t).references.countP (· ∉ db.names) := by
    rw [List.countP_filter]
    refine List.countP_congr fun r hr => ?_
    cases htouched : touched.any (·.parent = r.parent) with
    | true => simp
    | false => simp [hrefs r (hf.mem_references hr htouched)]
  have hproper : ∀ r ∈ t.references.filter fun r => touched.any (·.parent = r.parent), r.Proper :=
    fun r hr => RefreshToken.proper_of_mem (List.mem_filter.mp hr).1
  have hforget := Work.forget_eq (w := (Work.start db).withCount n) rfl hm hproper
    (by rw [Work.withCount_data, Work.start_data, hbefore]; exact Int.natCast_nonneg n)
  rw [Work.withCount_data, Work.start_data, hbefore] at hforget
  unfold Work.recount
  dsimp only
  rw [hforget, Work.dangling_eq fun r hr => RefreshToken.proper_of_mem (List.mem_filter.mp hr).1]
  simp only [Work.withCount_data, Work.withCount_violations, Work.withCount_withCount,
    Work.start_data, Int.natCast_zero, Int.sub_zero, hafter]
  exact Work.owe_eq (w := (Work.start db).withCount n) rfl _

/-- The count after a change of tokens is that of the loose ends of the changed tokens. -/
theorem updateTokens_balanced (hi : db.Integral) {touched : List ForeignKey}
    {p : RefreshToken → Bool} {f : RefreshToken → RefreshToken}
    (hf : ∀ t : RefreshToken, t.ChangesAt touched (f t)) {n : Nat}
    (run : (updateTokens touched p f).run (.start db) = .ok (n, w)) : w.Balanced := by
  have hrefs : ∀ t ∈ db.tokens, ∀ r ∈ t.references, r ∈ db.names := fun t ht r hr =>
    hi.mem_names (List.mem_append_right _ (List.mem_flatMap.mpr ⟨t, ht, hr⟩))
  have hfold : ∀ (ts : List RefreshToken) (m : Nat), (∀ t ∈ ts, t ∈ db.tokens) →
      (ts.filter p).foldl (Work.recount touched f) ((Work.start db).withCount m) =
        (Work.start db).withCount ((m + ((ts.map fun t => if p t then f t else t).flatMap
          RefreshToken.references).countP (· ∉ db.names) : Nat) : Int) := by
    intro ts
    induction ts with
    | nil => exact fun m _ => rfl
    | cons t ts ih =>
      intro m hmem
      have ht := hrefs t (hmem t (.head _))
      have hrest := fun m => ih m fun u hu => hmem u (.tail _ hu)
      rw [List.map_cons, List.flatMap_cons, List.countP_append]
      by_cases hp : p t = true
      · rw [List.filter_cons_of_pos hp, List.foldl_cons, recount_eq hm (hf t) ht, hrest, if_pos hp,
          Nat.add_assoc]
      · have hnone : t.references.countP (· ∉ db.names) = 0 :=
          List.countP_eq_zero.mpr fun r hr => by simpa using ht r hr
        rw [List.filter_cons_of_neg hp, hrest, if_neg hp, hnone, Nat.zero_add]
  obtain ⟨_, -, run⟩ := except_bind_ok.mp run
  obtain ⟨_, -, run⟩ := except_bind_ok.mp run
  obtain ⟨_, -, run⟩ := except_bind_ok.mp run
  have hall := hfold db.tokens 0 fun _ h => h
  have hzero : (Work.start db).withCount (0 : Nat) = .start db := rfl
  rw [hzero] at hall
  rw [Work.start_data, hall] at run
  cases run
  have hids := map_column (p := p) (·.id) (fun t => (hf t).id) db.tokens
  have hstrings := map_column (p := p) (·.token) (fun t => (hf t).token) db.tokens
  have hsessions : (db.sessions.flatMap SsoSession.references).countP (· ∉ db.names) = 0 :=
    List.countP_eq_zero.mpr fun r hr => by simpa using hi.mem_names (List.mem_append_left _ hr)
  refine ⟨hm, rfl, ⟨hi.distinct.names, hids ▸ hi.tokenIds, hstrings ▸ hi.tokenStrings⟩, ?_⟩
  refine congrArg Nat.cast (Eq.symm ?_)
  refine List.countP_append.trans ?_
  exact congrArg (· + _) hsessions

/-- A change of whole rows. -/
theorem change_balanced (hi : db.Integral) {α : Type} {k : Kind α} (hk : k.Lawful) {p : α → Bool}
    {f : α → α} {n : Nat} (run : (change k p f).run (.start db) = .ok (n, w)) : w.Balanced := by
  obtain ⟨_, -, run⟩ := except_bind_ok.mp run
  obtain ⟨_, -, run⟩ := except_bind_ok.mp run
  obtain ⟨_, -, run⟩ := except_bind_ok.mp run
  obtain ⟨w', hrows, run⟩ := except_bind_ok.mp run
  cases run
  exact (Work.Balanced.start hm hi.distinct hi.looseEnds).changeRows hk (.refl _) hrows

/-- What a statement that writes rows counts is right. Only a change or a deletion may count
anything. -/
theorem OfRows.balanced (hi : db.Integral) {α : Type} {s : Statement α} (hs : s.OfRows) {a : α}
    (run : s.run (.start db) = .ok (a, w)) :
    w.Balanced ∧ (s.purpose = .change ∨ w.violations = 0) := by
  have hstart := Work.Balanced.start hm hi.distinct hi.looseEnds
  have hinto : ∀ {db' : Database}, db'.schema = .migrated → db'.Integral →
      (Work.start db').Balanced := fun hm' hi' => .start hm' hi'.distinct hi'.looseEnds
  cases hs with
  | insertUser u =>
    obtain ⟨hnew, rfl⟩ := (insertUser_start hm).mp run
    exact ⟨hinto hm (hi.addUser hnew), .inr rfl⟩
  | insertProvider p =>
    obtain ⟨hnew, rfl⟩ := (insertProvider_start hm).mp run
    exact ⟨hinto hm (hi.addProvider hnew), .inr rfl⟩
  | insertSession session =>
    rw [insertSession_start hm] at run
    obtain ⟨db', hopen, he⟩ := except_map_ok run
    obtain ⟨hnew, hsup, rfl⟩ := Database.openSession_ok hopen
    cases he
    exact ⟨hinto hm (hi.addSession hnew (by simpa [Database.supports] using hsup)), .inr rfl⟩
  | insertToken t id? =>
    obtain ⟨hid, hstring, hrefs, rfl⟩ := insertToken_given hm run
    exact ⟨hinto hm (hi.addToken hid hstring hrefs), .inr rfl⟩
  | insertAuditEntry e =>
    rw [insertAuditEntry_start hm] at run
    cases run
    exact ⟨hinto hm (hi.of_alike ⟨rfl, .refl _, .refl _, .refl _, .refl _⟩), .inr rfl⟩
  | updateUsers p hf =>
    rw [updateUsers_start hm] at run
    cases run
    exact ⟨hinto hm (hi.changeUsers hf), .inr rfl⟩
  | updateTokens p hf => exact ⟨updateTokens_balanced hm hi hf run, .inl rfl⟩
  | revokeFamily now start =>
    have hf : ∀ t : RefreshToken, t.ChangesAt [] (t.revokedAt now) := fun _ =>
      ⟨rfl, rfl, fun _ => rfl, fun _ => rfl⟩
    exact ⟨updateTokens_balanced hm hi hf run, .inl rfl⟩
  | changeUsers p f => exact ⟨change_balanced hm hi Kind.lawful_users run, .inl rfl⟩
  | changeProviders p f => exact ⟨change_balanced hm hi Kind.lawful_providers run, .inl rfl⟩
  | changeSessions p f => exact ⟨change_balanced hm hi Kind.lawful_sessions run, .inl rfl⟩
  | changeTokens p f => exact ⟨change_balanced hm hi Kind.lawful_tokens run, .inl rfl⟩
  | changeAuditEntries p f => exact ⟨change_balanced hm hi Kind.lawful_audit run, .inl rfl⟩
  | deleteUsers p => exact ⟨hstart.removeUsers (deletion_ok run), .inl rfl⟩
  | deleteProviders p => exact ⟨hstart.removeProviders (deletion_ok run), .inl rfl⟩
  | deleteSessions p => exact ⟨hstart.removeSessions (deletion_ok run), .inl rfl⟩
  | deleteTokens p => exact ⟨hstart.removeTokens (deletion_ok run), .inl rfl⟩
  | deleteAuditEntries p =>
    obtain ⟨_, -, run⟩ := except_bind_ok.mp run
    obtain ⟨_, -, run⟩ := except_bind_ok.mp run
    cases run
    exact ⟨hinto hm (hi.of_alike ⟨rfl, .refl _, .refl _, .refl _, .refl _⟩), .inr rfl⟩

end

end Statement

/-! ## What a deletion leaves -/

namespace Database

variable {db : Database}

/-- The contents without the users that fit, their tokens and sessions, and the tokens of those. -/
def withoutUsers (db : Database) (p : User → Bool) : Database :=
  let gone (id : Uuid) : Bool := db.users.any fun u => p u && u.id = id
  { db with
    users := db.users.filter (!p ·)
    sessions := db.sessions.filter fun s => !gone s.userId
    tokens := db.tokens.filter fun t => !gone t.userId ∧
      ∀ s ∈ db.sessions, gone s.userId → t.ssoSessionId ≠ some s.id }

/-- The contents without the providers that fit, their sessions, and the tokens of those. -/
def withoutProviders (db : Database) (p : SsoProvider → Bool) : Database :=
  let gone (id : Uuid) : Bool := db.providers.any fun q => p q && q.id = id
  { db with
    providers := db.providers.filter (!p ·)
    sessions := db.sessions.filter fun s => !gone s.providerId
    tokens := db.tokens.filter fun t =>
      ∀ s ∈ db.sessions, gone s.providerId → t.ssoSessionId ≠ some s.id }

/-- Where keys tell rows apart, the rows with other keys than those that fit are those that do not
fit. -/
theorem filter_of_other_key {α : Type} {key : α → Uuid} {rows : List α}
    (hkeys : (rows.map key).Nodup) (p : α → Bool) :
    rows.filter (key · ∉ (rows.filter p).map key) = rows.filter (!p ·) := by
  refine List.filter_congr fun row hrow => ?_
  rw [Bool.eq_iff_iff, decide_eq_true_eq, Bool.not_eq_true', List.mem_map]
  constructor
  · intro hn
    by_contra hp
    exact hn ⟨row, List.mem_filter.mpr ⟨hrow, by simpa using hp⟩, rfl⟩
  · rintro hp ⟨other, hother, he⟩
    obtain ⟨hother, hp'⟩ := List.mem_filter.mp hother
    rw [List.inj_on_of_nodup_map hkeys hother hrow he] at hp'
    simp [hp] at hp'

/-- Sessions that are told by their ids go with their tokens. -/
theorem dropSessions_filter (db : Database) (hids : (db.sessions.map (·.id)).Nodup)
    (q : SsoSession → Bool) :
    db.dropSessions ((db.sessions.filter q).map (·.id)) = { db with
      sessions := db.sessions.filter (!q ·)
      tokens := db.tokens.filter fun t =>
        ∀ s ∈ db.sessions, q s → t.ssoSessionId ≠ some s.id } := by
  have htokens : db.tokens.filter (fun t => ∀ id ∈ (db.sessions.filter q).map (·.id),
      t.ssoSessionId ≠ some id) = db.tokens.filter fun t =>
        ∀ s ∈ db.sessions, q s → t.ssoSessionId ≠ some s.id := by
    refine List.filter_congr fun t _ => decide_eq_decide.mpr
      ⟨fun h s hs hq => ?_, fun h id hid => ?_⟩
    · exact h s.id (List.mem_map.mpr ⟨s, List.mem_filter.mpr ⟨hs, hq⟩, rfl⟩)
    · obtain ⟨s, hs, rfl⟩ := List.mem_map.mp hid
      exact h s (List.mem_filter.mp hs).1 (List.mem_filter.mp hs).2
  rw [dropSessions_eq, filter_of_other_key hids, htokens]

/-- A token is bound to none of the sessions that go with several rows just if it is bound to none
that goes with the first and to none that goes with one of the others. -/
theorem unbound_cons {sessions : List SsoSession} (key : SsoSession → Uuid) {id : Uuid}
    {ids : List Uuid} {t : RefreshToken} :
    ((∀ s ∈ sessions.filter (key · ≠ id), key s ∈ ids → t.ssoSessionId ≠ some s.id) ∧
        ∀ s ∈ sessions, key s = id → t.ssoSessionId ≠ some s.id) ↔
      ∀ s ∈ sessions, key s ∈ id :: ids → t.ssoSessionId ≠ some s.id := by
  simp only [List.mem_filter, decide_eq_true_eq, List.mem_cons]
  constructor
  · rintro ⟨hothers, hfirst⟩ s hs hkey
    by_cases he : key s = id
    · exact hfirst s hs he
    · exact hothers s ⟨hs, he⟩ (hkey.resolve_left he)
  · exact fun h => ⟨fun s hs hkey => h s hs.1 (.inr hkey), fun s hs he => h s hs (.inl he)⟩

theorem dropUser_eq (hids : (db.sessions.map (·.id)).Nodup) (id : Uuid) :
    db.dropUser id = { db with
      users := db.users.filter (·.id ≠ id)
      sessions := db.sessions.filter (·.userId ≠ id)
      tokens := db.tokens.filter fun t => t.userId ≠ id ∧
        ∀ s ∈ db.sessions, s.userId = id → t.ssoSessionId ≠ some s.id } := by
  rw [dropUser]
  refine (dropSessions_filter { db with
    users := db.users.filter (·.id ≠ id)
    tokens := db.tokens.filter (·.userId ≠ id) } hids (·.userId = id)).trans ?_
  simp [List.filter_filter, Bool.and_comm]

theorem dropProvider_eq (hids : (db.sessions.map (·.id)).Nodup) (id : Uuid) :
    db.dropProvider id = { db with
      providers := db.providers.filter (·.id ≠ id)
      sessions := db.sessions.filter (·.providerId ≠ id)
      tokens := db.tokens.filter fun t =>
        ∀ s ∈ db.sessions, s.providerId = id → t.ssoSessionId ≠ some s.id } := by
  rw [dropProvider]
  refine (dropSessions_filter { db with providers := db.providers.filter (·.id ≠ id) } hids
    (·.providerId = id)).trans ?_
  simp

theorem dropUsers_eq (hids : (db.sessions.map (·.id)).Nodup) (ids : List Uuid) :
    db.dropUsers ids = { db with
      users := db.users.filter (·.id ∉ ids)
      sessions := db.sessions.filter (·.userId ∉ ids)
      tokens := db.tokens.filter fun t => t.userId ∉ ids ∧
        ∀ s ∈ db.sessions, s.userId ∈ ids → t.ssoSessionId ≠ some s.id } := by
  induction ids generalizing db with
  | nil => simp [dropUsers]
  | cons id ids ih =>
    have hids' : ((db.dropUser id).sessions.map (·.id)).Nodup := by
      rw [dropUser_eq hids]
      exact hids.sublist (List.filter_sublist.map _)
    have hcons : db.dropUsers (id :: ids) = (db.dropUser id).dropUsers ids := rfl
    have htokens : ∀ t : RefreshToken,
        ((t.userId ∉ ids ∧ ∀ s ∈ db.sessions.filter (·.userId ≠ id),
            s.userId ∈ ids → t.ssoSessionId ≠ some s.id) ∧
          (t.userId ≠ id ∧ ∀ s ∈ db.sessions, s.userId = id → t.ssoSessionId ≠ some s.id)) ↔
        t.userId ∉ id :: ids ∧
          ∀ s ∈ db.sessions, s.userId ∈ id :: ids → t.ssoSessionId ≠ some s.id := by
      intro t
      rw [← unbound_cons, List.mem_cons, not_or, and_and_and_comm, and_comm (a := t.userId ∉ ids)]
    rw [hcons, ih hids', dropUser_eq hids]
    simp only [List.filter_filter, ← Bool.decide_and, htokens]
    simp [and_comm]

theorem dropProviders_eq (hids : (db.sessions.map (·.id)).Nodup) (ids : List Uuid) :
    db.dropProviders ids = { db with
      providers := db.providers.filter (·.id ∉ ids)
      sessions := db.sessions.filter (·.providerId ∉ ids)
      tokens := db.tokens.filter fun t =>
        ∀ s ∈ db.sessions, s.providerId ∈ ids → t.ssoSessionId ≠ some s.id } := by
  induction ids generalizing db with
  | nil => simp [dropProviders]
  | cons id ids ih =>
    have hids' : ((db.dropProvider id).sessions.map (·.id)).Nodup := by
      rw [dropProvider_eq hids]
      exact hids.sublist (List.filter_sublist.map _)
    have hcons : db.dropProviders (id :: ids) = (db.dropProvider id).dropProviders ids := rfl
    rw [hcons, ih hids', dropProvider_eq hids]
    simp only [List.filter_filter, ← Bool.decide_and, unbound_cons]
    simp [and_comm]

theorem mem_keys_filter {α : Type} {key : α → Uuid} {rows : List α} {p : α → Bool} {id : Uuid} :
    id ∈ (rows.filter p).map key ↔ (rows.any fun row => p row && key row = id) = true := by
  simp [and_assoc]

theorem Integral.dropUsers_filter (h : db.Integral) (p : User → Bool) :
    db.dropUsers ((db.users.filter p).map (·.id)) = db.withoutUsers p := by
  rw [dropUsers_eq h.sessionIds, filter_of_other_key h.userIds]
  simp only [withoutUsers, mem_keys_filter, Bool.not_eq_true', Bool.not_eq_true,
    Bool.decide_eq_false]

theorem Integral.dropProviders_filter (h : db.Integral) (p : SsoProvider → Bool) :
    db.dropProviders ((db.providers.filter p).map (·.id)) = db.withoutProviders p := by
  rw [dropProviders_eq h.sessionIds, filter_of_other_key h.providerIds]
  simp only [withoutProviders, mem_keys_filter, decide_not, Bool.decide_eq_true]

/-- A row that a kept row refers to is not among those that fit. -/
theorem mem_filter_of_not_any {α : Type} {key : α → Uuid} {rows : List α} {p : α → Bool} {row : α}
    (hrow : row ∈ rows) (hn : (rows.any fun other => p other && key other = key row) = false) :
    row ∈ rows.filter (!p ·) := by
  have hp := List.any_eq_false.mp hn row hrow
  exact List.mem_filter.mpr ⟨hrow, by simpa using hp⟩

theorem Integral.withoutUsers (h : db.Integral) (p : User → Bool) :
    (db.withoutUsers p).Integral where
  userIds := h.userIds.sublist (List.filter_sublist.map _)
  providerIds := h.providerIds
  sessionIds := h.sessionIds.sublist (List.filter_sublist.map _)
  tokenIds := h.tokenIds.sublist (List.filter_sublist.map _)
  tokenStrings := h.tokenStrings.sublist (List.filter_sublist.map _)
  tokenUser := by
    intro t ht
    obtain ⟨ht, hkept⟩ := List.mem_filter.mp ht
    obtain ⟨u, hu, hid⟩ := h.tokenUser t ht
    have hn := (of_decide_eq_true hkept).1
    rw [← hid, Bool.not_eq_true'] at hn
    exact ⟨u, mem_filter_of_not_any hu hn, hid⟩
  tokenSession := by
    intro t ht id hsession
    obtain ⟨ht, hkept⟩ := List.mem_filter.mp ht
    obtain ⟨s, hs, rfl⟩ := h.tokenSession t ht id hsession
    refine ⟨s, List.mem_filter.mpr ⟨hs, ?_⟩, rfl⟩
    rw [Bool.not_eq_true', ← Bool.not_eq_true]
    exact fun hgone => (of_decide_eq_true hkept).2 s hs hgone hsession
  sessionUser := by
    intro s hs
    obtain ⟨hs, hkept⟩ := List.mem_filter.mp hs
    obtain ⟨u, hu, hid⟩ := h.sessionUser s hs
    rw [← hid, Bool.not_eq_true'] at hkept
    exact ⟨u, mem_filter_of_not_any hu hkept, hid⟩
  sessionProvider := fun s hs => h.sessionProvider s (List.mem_filter.mp hs).1

theorem Integral.withoutProviders (h : db.Integral) (p : SsoProvider → Bool) :
    (db.withoutProviders p).Integral where
  userIds := h.userIds
  providerIds := h.providerIds.sublist (List.filter_sublist.map _)
  sessionIds := h.sessionIds.sublist (List.filter_sublist.map _)
  tokenIds := h.tokenIds.sublist (List.filter_sublist.map _)
  tokenStrings := h.tokenStrings.sublist (List.filter_sublist.map _)
  tokenUser := fun t ht => h.tokenUser t (List.mem_filter.mp ht).1
  tokenSession := by
    intro t ht id hsession
    obtain ⟨ht, hkept⟩ := List.mem_filter.mp ht
    obtain ⟨s, hs, rfl⟩ := h.tokenSession t ht id hsession
    refine ⟨s, List.mem_filter.mpr ⟨hs, ?_⟩, rfl⟩
    rw [Bool.not_eq_true', ← Bool.not_eq_true]
    exact fun hgone => of_decide_eq_true hkept s hs hgone hsession
  sessionUser := fun s hs => h.sessionUser s (List.mem_filter.mp hs).1
  sessionProvider := by
    intro s hs
    obtain ⟨hs, hkept⟩ := List.mem_filter.mp hs
    obtain ⟨q, hq, hid⟩ := h.sessionProvider s hs
    rw [← hid, Bool.not_eq_true'] at hkept
    exact ⟨q, mem_filter_of_not_any hq hkept, hid⟩

end Database

namespace Statement

variable {db : Database}

/-- A deletion of users takes them with all that goes with them, and leaves nothing that dangles. -/
theorem deleteUsers_run (hm : db.schema = .migrated) (hi : db.Integral) (p : User → Bool) :
    ∃ w, (deleteUsers p).run (.start db) = .ok (db.users.countP p, w) ∧
      w.data = db.withoutUsers p ∧ w.violations = 0 := by
  obtain ⟨w, hw, hdata, -⟩ := Work.removeUsers_leaves (w := .start db) hm rfl p
  rw [Work.start_data, hi.dropUsers_filter] at hdata
  have hb := (Work.Balanced.start hm hi.distinct hi.looseEnds).removeUsers hw
  have hcount := hb.count
  rw [hdata, (hi.withoutUsers p).looseEnds] at hcount
  refine ⟨w, ?_, hdata, hcount⟩
  rw [deleteUsers]
  dsimp only
  rw [Work.needTable_migrated (w := .start db) hm, Work.needForDeletion_migrated (w := .start db) hm,
    hw]
  rfl

/-- The same for a deletion of providers. -/
theorem deleteProviders_run (hm : db.schema = .migrated) (hi : db.Integral)
    (p : SsoProvider → Bool) :
    ∃ w, (deleteProviders p).run (.start db) = .ok (db.providers.countP p, w) ∧
      w.data = db.withoutProviders p ∧ w.violations = 0 := by
  obtain ⟨w, hw, hdata, -⟩ := Work.removeProviders_leaves (w := .start db) hm rfl p
  rw [Work.start_data, hi.dropProviders_filter] at hdata
  have hb := (Work.Balanced.start hm hi.distinct hi.looseEnds).removeProviders hw
  have hcount := hb.count
  rw [hdata, (hi.withoutProviders p).looseEnds] at hcount
  refine ⟨w, ?_, hdata, hcount⟩
  rw [deleteProviders]
  dsimp only
  rw [Work.needTable_migrated (w := .start db) hm, Work.needForDeletion_migrated (w := .start db) hm,
    hw]
  rfl

end Statement

end RefreshChain
