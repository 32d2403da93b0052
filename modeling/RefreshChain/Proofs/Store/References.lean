import Mathlib.Algebra.GroupWithZero.Nat
import Mathlib.Data.List.Nodup
import Mathlib.Data.List.Perm.Basic
import RefreshChain.Proofs.Success
import RefreshChain.Store.Change

/-!
# The count of dangling references

On a fully migrated store the count that a statement keeps is the number of references that lead
nowhere, at each of its steps. So a statement that starts where none does and ends with the count
zero leaves none that does.

* `Database.names`, `Database.mentions`: the keys of rows, and the references to them.
* `Work.Balanced`: the count is right, and what has to be unique is.
* `Kind.Lawful`: the kinds of rows are what they should be, so that a row may be taken out and put
  in again (`Work.Balanced.takeOut`, `Work.Balanced.putIn`).
* `Work.Balanced.removeUsers` and its kin: removals keep the count right while they pass from row to
  row.
-/

namespace RefreshChain

/-! ## Names and mentions -/

/-- The reference is to a row that others may refer to. -/
def Reference.Proper (r : Reference) : Prop :=
  r.parent = .users ∨ r.parent = .ssoProviders ∨ r.parent = .ssoSessions

theorem SsoSession.proper_of_mem {s : SsoSession} {r : Reference} (h : r ∈ s.references) :
    r.Proper := by
  simp only [references, List.mem_cons, List.not_mem_nil, or_false] at h
  rcases h with rfl | rfl <;> simp [Reference.Proper]

theorem RefreshToken.proper_of_mem {t : RefreshToken} {r : Reference} (h : r ∈ t.references) :
    r.Proper := by
  simp only [references, List.mem_append, Option.mem_toList, Option.map_eq_some_iff,
    List.mem_singleton] at h
  rcases h with ⟨_, -, rfl⟩ | rfl <;> simp [Reference.Proper]

theorem SsoSession.nodup_references (s : SsoSession) : s.references.Nodup := by
  simp [references]

theorem RefreshToken.nodup_references (t : RefreshToken) : t.references.Nodup := by
  cases h : t.ssoSessionId <;> simp [references, h]

namespace Database

variable {db db' : Database}

/-- How the rows are named that others may refer to. -/
def names (db : Database) : List Reference :=
  db.users.map (fun u => ⟨.users, u.id⟩) ++ (db.providers.map (fun p => ⟨.ssoProviders, p.id⟩) ++
    db.sessions.map fun s => ⟨.ssoSessions, s.id⟩)

/-- All references that rows make. -/
def mentions (db : Database) : List Reference :=
  db.sessions.flatMap SsoSession.references ++ db.tokens.flatMap RefreshToken.references

theorem nodup_names : db.names.Nodup ↔ (db.users.map (·.id)).Nodup ∧
    (db.providers.map (·.id)).Nodup ∧ (db.sessions.map (·.id)).Nodup := by
  have hkeys : ∀ (parent : Table) (ids : List Uuid),
      (ids.map (Reference.mk parent)).Nodup ↔ ids.Nodup := fun parent ids =>
    List.nodup_map_iff fun _ _ h => by cases h; rfl
  have hnames : db.names = (db.users.map (·.id)).map (.mk .users) ++
      ((db.providers.map (·.id)).map (.mk .ssoProviders) ++
        (db.sessions.map (·.id)).map (.mk .ssoSessions)) := by
    simp [names, Function.comp_def]
  have hapart : ∀ r ∈ (db.users.map (·.id)).map (Reference.mk .users),
      ∀ r' ∈ (db.providers.map (·.id)).map (.mk .ssoProviders) ++
        (db.sessions.map (·.id)).map (.mk .ssoSessions), r ≠ r' := by
    simp only [List.mem_map, List.mem_append]
    rintro _ ⟨_, -, rfl⟩ _ (⟨_, -, rfl⟩ | ⟨_, -, rfl⟩) <;> simp
  have hapart' : ∀ r ∈ (db.providers.map (·.id)).map (Reference.mk .ssoProviders),
      ∀ r' ∈ (db.sessions.map (·.id)).map (.mk .ssoSessions), r ≠ r' := by
    simp only [List.mem_map]
    rintro _ ⟨_, -, rfl⟩ _ ⟨_, -, rfl⟩
    simp
  rw [hnames, List.nodup_append, List.nodup_append, hkeys, hkeys, hkeys]
  exact ⟨fun ⟨hu, ⟨hp, hs, _⟩, _⟩ => ⟨hu, hp, hs⟩,
    fun ⟨hu, hp, hs⟩ => ⟨hu, ⟨hp, hs, hapart'⟩, hapart⟩⟩

/-- How many references lead nowhere. -/
def looseEnds (db : Database) : Nat := db.mentions.countP (· ∉ db.names)

/-- How many references there are to a row, if it can be referred to. -/
def mentionsOf (db : Database) : Option Reference → Nat
  | none => 0
  | some r => db.mentions.count r

theorem dangles_eq {r : Reference} (h : r.Proper) : db.dangles r = decide (r ∉ db.names) := by
  obtain ⟨parent, key⟩ := r
  rcases h with h | h | h <;> cases h <;> rw [Bool.eq_iff_iff] <;>
    simp [dangles, user?, provider?, session?, names]

/-- A row that goes takes its references along and leaves those to it loose. -/
theorem looseEnds_without {refs : List Reference} {key : Option Reference}
    (hm : db.mentions.Perm (refs ++ db'.mentions)) (hn : db.names.Perm (key.toList ++ db'.names))
    (hd : db.names.Nodup) :
    db'.looseEnds + refs.countP (· ∉ db.names) = db.looseEnds + db'.mentionsOf key := by
  have hdb : db.looseEnds =
      refs.countP (· ∉ db.names) + db'.mentions.countP (· ∉ db.names) := by
    rw [looseEnds, hm.countP_eq, List.countP_append]
  have hsplit : ∀ ms : List Reference,
      ms.countP (· ∉ db'.names) = ms.countP (· ∉ db.names) + (key.map ms.count).getD 0 := by
    intro ms
    cases key with
    | none => simp [hn.mem_iff]
    | some r =>
      have hr : r ∉ db'.names := (List.nodup_cons.mp (hn.nodup_iff.mp hd)).1
      induction ms with
      | nil => rfl
      | cons m ms ih =>
        simp only [List.countP_cons, ih, hn.mem_iff, Option.toList_some, List.cons_append,
          List.nil_append, List.mem_cons, Option.map_some, Option.getD_some, List.count_cons]
        by_cases hmr : m = r
        · subst hmr
          simp [hr]
          omega
        · simp [hmr]
          omega
  have hkey : (key.map db'.mentions.count).getD 0 = db'.mentionsOf key := by cases key <;> rfl
  rw [hdb, looseEnds, hsplit, hkey]
  omega

/-- What has to be unique is. -/
structure Distinct (db : Database) : Prop where
  names : db.names.Nodup
  tokenIds : (db.tokens.map (·.id)).Nodup
  tokenStrings : (db.tokens.map (·.token)).Nodup

namespace Distinct

variable {r : Reference}

/-- One more row with a new key. -/
theorem named (hd : db'.Distinct) (hn : db.names.Perm (r :: db'.names))
    (ht : db.tokens = db'.tokens) (hr : r ∉ db'.names) : db.Distinct :=
  ⟨hn.nodup_iff.mpr (List.nodup_cons.mpr ⟨hr, hd.names⟩), ht ▸ hd.tokenIds, ht ▸ hd.tokenStrings⟩

/-- One row with a key less. -/
theorem unnamed (hd : db.Distinct) (hn : db.names.Perm (r :: db'.names))
    (ht : db.tokens = db'.tokens) : db'.Distinct :=
  ⟨(List.nodup_cons.mp (hn.nodup_iff.mp hd.names)).2, ht ▸ hd.tokenIds, ht ▸ hd.tokenStrings⟩

theorem of_sublist (hd : db.Distinct) (hn : db'.names.Sublist db.names)
    (ht : db'.tokens.Sublist db.tokens) : db'.Distinct :=
  ⟨hd.names.sublist hn, hd.tokenIds.sublist (ht.map _), hd.tokenStrings.sublist (ht.map _)⟩

end Distinct

/-- The same schema and rows, the rows perhaps in another order. -/
structure Alike (db db' : Database) : Prop where
  schema : db'.schema = db.schema
  users : db.users.Perm db'.users
  providers : db.providers.Perm db'.providers
  sessions : db.sessions.Perm db'.sessions
  tokens : db.tokens.Perm db'.tokens

namespace Alike

theorem names (h : db.Alike db') : db.names.Perm db'.names :=
  (h.users.map _).append ((h.providers.map _).append (h.sessions.map _))

theorem mentions (h : db.Alike db') : db.mentions.Perm db'.mentions :=
  (h.sessions.flatMap_right _).append (h.tokens.flatMap_right _)

theorem distinct (h : db.Alike db') (hd : db.Distinct) : db'.Distinct :=
  ⟨h.names.nodup_iff.mp hd.names, (h.tokens.map _).nodup_iff.mp hd.tokenIds,
    (h.tokens.map _).nodup_iff.mp hd.tokenStrings⟩

end Alike

theorem insertById_perm (t : RefreshToken) (ts : List RefreshToken) :
    (insertById t ts).Perm (t :: ts) := by
  induction ts with
  | nil => exact .refl _
  | cons u us ih =>
    rw [insertById]
    split
    · exact .refl _
    · exact (ih.cons u).trans (.swap t u us)

theorem foldr_insertById_perm (ts : List RefreshToken) : (ts.foldr insertById []).Perm ts := by
  induction ts with
  | nil => exact .refl _
  | cons t ts ih => exact (insertById_perm t _).trans (ih.cons t)

end Database

/-! ## Whole removals -/

namespace Database

theorem dropSessions_eq (db : Database) (ids : List Uuid) : db.dropSessions ids =
    { db with
      sessions := db.sessions.filter (·.id ∉ ids)
      tokens := db.tokens.filter fun t => ∀ id ∈ ids, t.ssoSessionId ≠ some id } := by
  induction ids generalizing db with
  | nil => simp [dropSessions]
  | cons id ids ih =>
    have hcons : db.dropSessions (id :: ids) = (db.dropSession id).dropSessions ids := rfl
    rw [hcons, ih, dropSession]
    simp [List.filter_filter, Bool.and_comm]

end Database

/-! ## Kinds of rows -/

namespace Kind

variable {α : Type}

/-- The rows of a kind are where it says, they are named and refer to others as it says, and what
has to be unique is what it says. -/
structure Lawful (k : Kind α) : Prop where
  schema : ∀ rows db, (k.put rows db).schema = db.schema
  alike : ∀ {db rows}, (k.rows db).Perm rows → db.Alike (k.put rows db)
  rows_put : ∀ rows db, (k.rows (k.put rows db)).Perm rows
  put_put : ∀ rows rows' db, k.put rows (k.put rows' db) = k.put rows db
  names : ∀ row others db, (k.put (row :: others) db).names.Perm
    ((k.named row).toList ++ (k.put others db).names)
  mentions : ∀ row others db, (k.put (row :: others) db).mentions.Perm
    (k.references row ++ (k.put others db).mentions)
  distinct_more : ∀ {row others db}, (k.put others db).Distinct → k.clash? row others = none →
    (k.put (row :: others) db).Distinct
  distinct_less : ∀ {row others db}, (k.put (row :: others) db).Distinct →
    (k.put others db).Distinct
  proper_named : ∀ {row r}, r ∈ k.named row → r.Proper
  proper_references : ∀ {row r}, r ∈ k.references row → r.Proper
  /-- No row refers to a row of its own table. -/
  apart : ∀ {row row' r}, r ∈ k.named row → r ∉ k.references row'

theorem clash?_eq_none {k : Kind α} {row : α} {others : List α} :
    k.clash? row others = none ↔ ∀ u ∈ k.unique, ∀ a ∈ others, u.2 row a = false := by
  simp [clash?, List.findSome?_eq_none_iff]

/-- The order in which rows are put does not matter. -/
theorem Lawful.alike_of_perm {k : Kind α} (hk : k.Lawful) {rows rows' : List α} (db : Database)
    (h : rows.Perm rows') : (k.put rows db).Alike (k.put rows' db) := by
  have ha := hk.alike ((hk.rows_put rows db).trans h)
  rwa [hk.put_put] at ha

theorem names_users (row : User) (others : List User) (db : Database) :
    (users.put (row :: others) db).names.Perm
      (⟨.users, row.id⟩ :: (users.put others db).names) :=
  .refl _

theorem lawful_users : users.Lawful where
  schema _ _ := rfl
  alike h := ⟨rfl, h, .refl _, .refl _, .refl _⟩
  rows_put _ _ := .refl _
  put_put _ _ _ := rfl
  names := names_users
  mentions _ _ _ := .refl _
  distinct_more {row others db} hd hc := by
    refine hd.named (names_users row others db) rfl ?_
    have hnew : ∀ a ∈ others, a.id ≠ row.id := fun a ha he =>
      of_decide_eq_false (clash?_eq_none.mp hc _ (.head _) a ha) he.symm
    simpa [users, Database.names] using hnew
  distinct_less hd := hd.unnamed (names_users _ _ _) rfl
  proper_named h := by cases h; exact .inl rfl
  proper_references h := by cases h
  apart _ h := by cases h

theorem names_providers (row : SsoProvider) (others : List SsoProvider) (db : Database) :
    (providers.put (row :: others) db).names.Perm
      (⟨.ssoProviders, row.id⟩ :: (providers.put others db).names) :=
  List.perm_middle

theorem lawful_providers : providers.Lawful where
  schema _ _ := rfl
  alike h := ⟨rfl, .refl _, h, .refl _, .refl _⟩
  rows_put _ _ := .refl _
  put_put _ _ _ := rfl
  names := names_providers
  mentions _ _ _ := .refl _
  distinct_more {row others db} hd hc := by
    refine hd.named (names_providers row others db) rfl ?_
    have hnew : ∀ a ∈ others, a.id ≠ row.id := fun a ha he =>
      of_decide_eq_false (clash?_eq_none.mp hc _ (.head _) a ha) he.symm
    simpa [providers, Database.names] using hnew
  distinct_less hd := hd.unnamed (names_providers _ _ _) rfl
  proper_named h := by cases h; exact .inr (.inl rfl)
  proper_references h := by cases h
  apart _ h := by cases h

theorem names_sessions (row : SsoSession) (others : List SsoSession) (db : Database) :
    (sessions.put (row :: others) db).names.Perm
      (⟨.ssoSessions, row.id⟩ :: (sessions.put others db).names) :=
  (List.Perm.append_left _ List.perm_middle).trans List.perm_middle

theorem lawful_sessions : sessions.Lawful where
  schema _ _ := rfl
  alike h := ⟨rfl, .refl _, .refl _, h, .refl _⟩
  rows_put _ _ := .refl _
  put_put _ _ _ := rfl
  names := names_sessions
  mentions _ _ _ := .of_eq (List.append_assoc _ _ _)
  distinct_more {row others db} hd hc := by
    refine hd.named (names_sessions row others db) rfl ?_
    have hnew : ∀ a ∈ others, a.id ≠ row.id := fun a ha he =>
      of_decide_eq_false (clash?_eq_none.mp hc _ (.head _) a ha) he.symm
    simpa [sessions, Database.names] using hnew
  distinct_less hd := hd.unnamed (names_sessions _ _ _) rfl
  proper_named h := by cases h; exact .inr (.inr rfl)
  proper_references := SsoSession.proper_of_mem
  apart {s s' r} h h' := by
    cases h
    simp [sessions, SsoSession.references] at h'

theorem tokens_put_perm (rows : List RefreshToken) (db : Database) :
    (tokens.put rows db).tokens.Perm rows :=
  Database.foldr_insertById_perm rows

theorem lawful_tokens : tokens.Lawful where
  schema _ _ := rfl
  alike {db rows} h := ⟨rfl, .refl _, .refl _, .refl _, h.trans (tokens_put_perm rows db).symm⟩
  rows_put := tokens_put_perm
  put_put _ _ _ := rfl
  names _ _ _ := .refl _
  mentions row others db := by
    have hrow := (tokens_put_perm (row :: others) db).trans
      ((tokens_put_perm others db).symm.cons row)
    exact ((hrow.flatMap_right _).append_left _).trans (List.perm_append_comm_assoc _ _ _)
  distinct_more {row others db} hd hc := by
    have hnew := clash?_eq_none.mp hc
    simp only [tokens, List.mem_cons, List.not_mem_nil, or_false, forall_eq_or_imp, forall_eq,
      decide_eq_false_iff_not] at hnew
    refine ⟨hd.names, ((tokens_put_perm (row :: others) db).map _).nodup_iff.mpr ?_,
      ((tokens_put_perm (row :: others) db).map _).nodup_iff.mpr ?_⟩
    · refine List.nodup_cons.mpr ⟨?_, ((tokens_put_perm others db).map _).nodup_iff.mp hd.tokenIds⟩
      simpa [eq_comm] using hnew.1
    · refine List.nodup_cons.mpr
        ⟨?_, ((tokens_put_perm others db).map _).nodup_iff.mp hd.tokenStrings⟩
      simpa [eq_comm] using hnew.2
  distinct_less {row others db} hd := by
    have hids := ((tokens_put_perm (row :: others) db).map _).nodup_iff.mp hd.tokenIds
    have hstrings := ((tokens_put_perm (row :: others) db).map _).nodup_iff.mp hd.tokenStrings
    exact ⟨hd.names, ((tokens_put_perm others db).map _).nodup_iff.mpr (List.nodup_cons.mp hids).2,
      ((tokens_put_perm others db).map _).nodup_iff.mpr (List.nodup_cons.mp hstrings).2⟩
  proper_named h := by cases h
  proper_references := RefreshToken.proper_of_mem
  apart h := by cases h

theorem lawful_audit : audit.Lawful where
  schema _ _ := rfl
  alike _ := ⟨rfl, .refl _, .refl _, .refl _, .refl _⟩
  rows_put _ _ := .refl _
  put_put _ _ _ := rfl
  names _ _ _ := .refl _
  mentions _ _ _ := .refl _
  distinct_more hd _ := ⟨hd.names, hd.tokenIds, hd.tokenStrings⟩
  distinct_less hd := ⟨hd.names, hd.tokenIds, hd.tokenStrings⟩
  proper_named h := by cases h
  proper_references h := by cases h
  apart h := by cases h

end Kind

/-! ## What moves the count -/

namespace Database

variable (db : Database) (r : Reference)

theorem count_flatMap {α : Type} {g : α → List Reference} (hg : ∀ a, (g a).Nodup) (rows : List α) :
    (rows.flatMap g).count r = rows.countP fun a => (g a).contains r := by
  induction rows with
  | nil => rfl
  | cons a rows ih =>
    rw [List.flatMap_cons, List.count_append, ih, List.countP_cons, (hg a).count, Nat.add_comm]
    simp

theorem referring_sessions :
    db.referring r .ssoSessions = (db.sessions.flatMap SsoSession.references).count r :=
  (count_flatMap r SsoSession.nodup_references db.sessions).symm

theorem referring_tokens :
    db.referring r .refreshTokens = (db.tokens.flatMap RefreshToken.references).count r :=
  (count_flatMap r RefreshToken.nodup_references db.tokens).symm

variable {db r}

/-- The references to a row are in the tables below its own. -/
theorem mentionsOf_eq (hm : db.schema = .migrated) (hp : r.Proper) :
    db.mentionsOf (some r) = ((db.schema.childrenOf r.parent).map (db.referring r)).sum := by
  obtain ⟨parent, key⟩ := r
  have hsplit : (db.sessions.flatMap SsoSession.references ++
      db.tokens.flatMap RefreshToken.references).count ⟨parent, key⟩ =
        (db.sessions.flatMap SsoSession.references).count ⟨parent, key⟩ +
          (db.tokens.flatMap RefreshToken.references).count ⟨parent, key⟩ := List.count_append
  rw [mentionsOf, mentions, hsplit, hm]
  rcases hp with h | h | h <;> cases h
  · show _ = ([Table.refreshTokens, .ssoSessions].map _).sum
    simp only [List.map_cons, List.map_nil, List.sum_cons, List.sum_nil, referring_sessions,
      referring_tokens]
    omega
  · have hnone : (db.tokens.flatMap RefreshToken.references).count ⟨.ssoProviders, key⟩ = 0 := by
      refine List.count_eq_zero.mpr fun h => ?_
      obtain ⟨t, -, h⟩ := List.mem_flatMap.mp h
      simp [RefreshToken.references] at h
    show _ = ([Table.ssoSessions].map _).sum
    simp [referring_sessions, hnone]
  · have hnone : (db.sessions.flatMap SsoSession.references).count ⟨.ssoSessions, key⟩ = 0 := by
      refine List.count_eq_zero.mpr fun h => ?_
      obtain ⟨s, -, h⟩ := List.mem_flatMap.mp h
      simp [SsoSession.references] at h
    show _ = ([Table.refreshTokens].map _).sum
    simp [referring_tokens, hnone]

end Database

namespace Work

variable {w : Work}

/-- The same work with another count. -/
def withCount (w : Work) (n : Int) : Work := { w with violations := n }

@[simp] theorem withCount_data (n : Int) : (w.withCount n).data = w.data := rfl

@[simp] theorem withCount_enforced (n : Int) : (w.withCount n).enforced = w.enforced := rfl

@[simp] theorem withCount_violations (n : Int) : (w.withCount n).violations = n := rfl

@[simp]
theorem withCount_withCount (m n : Int) : (w.withCount m).withCount n = w.withCount n := rfl

@[simp] theorem withCount_self (w : Work) : w.withCount w.violations = w := rfl

theorem dangling_eq {rs : List Reference} (hp : ∀ r ∈ rs, r.Proper) :
    w.dangling rs = rs.countP (· ∉ w.data.names) :=
  List.countP_congr fun r hr => by rw [Database.dangles_eq (hp r hr)]

section

variable (he : w.enforced = true)

include he

theorem owe_eq (n : Int) : w.owe n = w.withCount (w.violations + n) := if_pos he

theorem offset_eq {n : Nat} (hn : n ≤ w.violations) :
    w.offset n = w.withCount (w.violations - n) := by
  unfold offset
  split
  · rename_i hv
    have h0 : n = 0 := by omega
    simp [h0]
  · rw [owe_eq he, Int.sub_eq_add_neg]

theorem forget_eq (hm : w.data.schema = .migrated) {rs : List Reference}
    (hp : ∀ r ∈ rs, r.Proper) (hle : rs.countP (· ∉ w.data.names) ≤ w.violations) :
    w.forget rs = w.withCount (w.violations - rs.countP (· ∉ w.data.names)) := by
  induction rs generalizing w with
  | nil => simp [forget]
  | cons r rs ih =>
    have hp' := fun r' hr' => hp r' (List.mem_cons_of_mem _ hr')
    rw [List.countP_cons] at hle ⊢
    rw [forget, Database.hasTable_of_migrated hm, Database.dangles_eq (hp r (.head _))]
    by_cases hr : r ∈ w.data.names
    · simp only [hr, not_true_eq_false, decide_false, Bool.false_eq_true, if_false, Bool.not_true,
        Nat.add_zero] at hle ⊢
      exact ih he hm hp' hle
    · simp only [hr, not_false_eq_true, decide_true, if_true, Bool.not_true, Bool.false_eq_true,
        if_false] at hle ⊢
      have hs : w.settle = w.withCount (w.violations + -1) := by
        rw [settle, if_neg (by omega), owe_eq he]
      have hrest := ih (w := w.withCount (w.violations + -1)) he hm hp'
        (by rw [withCount_data, withCount_violations]; omega)
      rw [hs, hrest, withCount_data, withCount_violations, withCount_withCount]
      congr 1
      omega

theorem orphan_eq (hm : w.data.schema = .migrated) {key : Option Reference}
    (hp : ∀ r ∈ key, r.Proper) :
    w.orphan key = w.withCount (w.violations + w.data.mentionsOf key) := by
  have hfold : ∀ (r : Reference) (ts : List Table) (v : Work), v.enforced = true →
      ts.foldl (fun w t => w.owe (w.data.referring r t)) v =
        v.withCount (v.violations + ((ts.map (v.data.referring r)).sum : Nat)) := by
    intro r ts v hv
    induction ts generalizing v with
    | nil => simp
    | cons t ts ih =>
      have hrest := ih (v.withCount (v.violations + v.data.referring r t)) hv
      rw [List.foldl_cons, owe_eq hv, hrest]
      simp [Int.add_assoc]
  cases key with
  | none => simp [orphan, Database.mentionsOf]
  | some r => rw [orphan, hfold r _ w he, Database.mentionsOf_eq hm (hp r rfl)]

theorem adopt_eq (hm : w.data.schema = .migrated) {key : Option Reference}
    (hp : ∀ r ∈ key, r.Proper) (hle : w.data.mentionsOf key ≤ w.violations) :
    w.adopt key = w.withCount (w.violations - w.data.mentionsOf key) := by
  have hfold : ∀ (r : Reference) (ts : List Table) (v : Work), v.enforced = true →
      ((ts.map (v.data.referring r)).sum : Nat) ≤ v.violations →
      ts.foldl (fun w t => w.offset (w.data.referring r t)) v =
        v.withCount (v.violations - ((ts.map (v.data.referring r)).sum : Nat)) := by
    intro r ts v hv hle
    induction ts generalizing v with
    | nil => simp
    | cons t ts ih =>
      rw [List.map_cons, List.sum_cons] at hle
      have hrest := ih (v.withCount (v.violations - v.data.referring r t)) hv
        (by rw [withCount_data, withCount_violations]; omega)
      rw [List.foldl_cons, offset_eq hv (by omega), hrest]
      simp only [withCount_data, withCount_violations, withCount_withCount, List.map_cons,
        List.sum_cons]
      congr 1
      omega
  cases key with
  | none => simp [adopt, Database.mentionsOf]
  | some r =>
    have hsum := Database.mentionsOf_eq hm (hp r rfl)
    rw [adopt, hfold r _ w he (hsum ▸ hle), hsum]

end

/-! ## Balanced work -/

/-- Work on a fully migrated store whose count is right. -/
structure Balanced (w : Work) : Prop where
  schema : w.data.schema = .migrated
  enforced : w.enforced = true
  distinct : w.data.Distinct
  count : w.violations = w.data.looseEnds

namespace Balanced

theorem start {db : Database} (hm : db.schema = .migrated) (hd : db.Distinct)
    (h0 : db.looseEnds = 0) : (Work.start db).Balanced :=
  ⟨hm, rfl, hd, by simp [Work.start, h0]⟩

/-- What is counted as rows go that make some references, and one of which may be referred to. -/
theorem leave_eq (h : w.Balanced) {refs : List Reference} {key : Option Reference}
    {rest : List Reference} (hm : w.data.mentions.Perm (refs ++ rest))
    (hrefs : ∀ r ∈ refs, r.Proper) (hkey : ∀ r ∈ key, r.Proper) :
    (w.forget refs).orphan key = w.withCount
      (w.violations - refs.countP (· ∉ w.data.names) + w.data.mentionsOf key) := by
  have hle : refs.countP (· ∉ w.data.names) ≤ w.violations := by
    rw [h.count, Database.looseEnds, hm.countP_eq, List.countP_append]
    omega
  rw [forget_eq h.enforced h.schema hrefs hle]
  exact orphan_eq (w := w.withCount (w.violations - refs.countP (· ∉ w.data.names))) h.enforced
    h.schema hkey

/-- Rows go that make some references, and one of which may be referred to. -/
theorem leave (h : w.Balanced) (db : Database) {refs : List Reference} {key : Option Reference}
    (hs : db.schema = w.data.schema) (hm : w.data.mentions.Perm (refs ++ db.mentions))
    (hn : w.data.names.Perm (key.toList ++ db.names)) (hd : db.Distinct)
    (hrefs : ∀ r ∈ refs, r.Proper) (hkey : ∀ r ∈ key, r.Proper) (hapart : ∀ r ∈ key, r ∉ refs) :
    ({ (w.forget refs).orphan key with data := db } : Work).Balanced := by
  rw [h.leave_eq hm hrefs hkey]
  refine ⟨hs.trans h.schema, h.enforced, hd, ?_⟩
  have hsame : w.data.mentionsOf key = db.mentionsOf key := by
    cases key with
    | none => rfl
    | some r =>
      have hzero : refs.count r = 0 := List.count_eq_zero.mpr (hapart r rfl)
      rw [Database.mentionsOf, hm.count_eq, List.count_append, hzero, Nat.zero_add]
      rfl
  have hloose := Database.looseEnds_without hm hn h.distinct.names
  show w.violations - _ + _ = (db.looseEnds : Int)
  rw [h.count, hsame]
  omega

/-! ### Single rows -/

section

variable {α : Type} {k : Kind α} {row : α} {before after : List α}

theorem takeOut (h : w.Balanced) (before : List α) (hk : k.Lawful)
    (hr : (k.rows w.data).Perm (before ++ row :: after)) :
    (w.takeOut k row before after).Balanced ∧
      (k.rows (w.takeOut k row before after).data).Perm (before ++ after) := by
  have ha := hk.alike (hr.trans List.perm_middle)
  have hdata : ((w.forget (k.references row)).orphan (k.named row)).data = w.data := by
    rw [h.leave_eq (ha.mentions.trans (hk.mentions _ _ _)) (fun _ => hk.proper_references)
      fun _ => hk.proper_named]
    rfl
  have hrows : (w.takeOut k row before after).data = k.put (before ++ after) w.data := by
    rw [Work.takeOut]
    exact congrArg (k.put _) hdata
  constructor
  · have hleave := h.leave (k.put (before ++ after) w.data)
      (hk.schema _ _) (ha.mentions.trans (hk.mentions _ _ _))
      (ha.names.trans (hk.names _ _ _)) (hk.distinct_less (ha.distinct h.distinct))
      (fun _ => hk.proper_references) (fun _ => hk.proper_named) fun _ => hk.apart
    rw [Work.takeOut]
    simpa only [hdata] using hleave
  · rw [hrows]
    exact hk.rows_put _ _

theorem putIn (h : w.Balanced) (hk : k.Lawful) (hr : (k.rows w.data).Perm (before ++ after))
    (hc : k.clash? row (before ++ after) = none) :
    (w.putIn k row before after).Balanced ∧
      (k.rows (w.putIn k row before after).data).Perm (before ++ row :: after) := by
  have ha := hk.alike hr
  have hmiddle : (row :: (before ++ after)).Perm (before ++ row :: after) := List.perm_middle.symm
  have ha' := hk.alike_of_perm w.data hmiddle
  have hd := ha'.distinct (hk.distinct_more (ha.distinct h.distinct) hc)
  have hm := (ha'.mentions.symm.trans (hk.mentions row _ w.data)).trans
    (ha.mentions.symm.append_left _)
  have hn := (ha'.names.symm.trans (hk.names row _ w.data)).trans (ha.names.symm.append_left _)
  have hloose := Database.looseEnds_without hm hn hd.names
  -- The row does not refer to itself.
  have hsame : (k.references row).countP (· ∉ (k.put (before ++ row :: after) w.data).names) =
      (k.references row).countP (· ∉ w.data.names) := by
    refine List.countP_congr fun r hmem => ?_
    have hne : r ∉ (k.named row).toList := fun hin =>
      hk.apart (Option.mem_toList.mp hin) hmem
    simp [hn.mem_iff, hne]
  rw [hsame] at hloose
  have hcount : (w.owe (w.dangling (k.references row))).adopt (k.named row) = w.withCount
      (w.violations + (k.references row).countP (· ∉ w.data.names)
        - w.data.mentionsOf (k.named row)) := by
    rw [dangling_eq fun _ => hk.proper_references, owe_eq h.enforced]
    refine adopt_eq (w := w.withCount (w.violations
      + (k.references row).countP (· ∉ w.data.names))) h.enforced h.schema
      (fun _ => hk.proper_named) ?_
    rw [withCount_data, withCount_violations, h.count]
    omega
  rw [Work.putIn, hcount]
  refine ⟨⟨(hk.schema _ _).trans h.schema, h.enforced, hd, ?_⟩, hk.rows_put _ _⟩
  show w.violations + _ - _ = ((k.put (before ++ row :: after) w.data).looseEnds : Int)
  rw [h.count]
  omega

theorem changeRow (h : w.Balanced) (hk : k.Lawful) {old : α} {w' : Work}
    (hr : (k.rows w.data).Perm (before ++ old :: after))
    (run : w.changeRow k old row before after = .ok w') :
    w'.Balanced ∧ (k.rows w'.data).Perm (before ++ row :: after) := by
  unfold Work.changeRow at run
  split at run
  · cases run
  · rename_i hc
    cases run
    obtain ⟨h₁, hr₁⟩ := h.takeOut before hk hr
    exact h₁.putIn hk hr₁ hc

end

/-- Row by row, a change keeps the count right. -/
theorem changeRows {α : Type} {k : Kind α} (hk : k.Lawful) {p : α → Bool} {f : α → α}
    {before after : List α} {w' : Work} (h : w.Balanced)
    (hr : (k.rows w.data).Perm (before ++ after))
    (run : Work.changeRows k p f before after w = .ok w') : w'.Balanced := by
  induction after generalizing before w with
  | nil =>
    cases run
    exact h
  | cons row after ih =>
    unfold Work.changeRows at run
    split at run
    · obtain ⟨w₁, hrow, run⟩ := except_bind_ok.mp run
      obtain ⟨h₁, hr₁⟩ := h.changeRow hk hr hrow
      exact ih h₁ (by rwa [List.append_assoc]) run
    · exact ih h (by rwa [List.append_assoc]) run

/-! ### Removals -/

theorem dropTokens (h : w.Balanced) (p : RefreshToken → Bool) : (w.dropTokens p).Balanced := by
  have hrefs : ∀ r ∈ (w.data.tokens.filter p).flatMap RefreshToken.references, r.Proper := by
    intro r hr
    obtain ⟨t, -, hr⟩ := List.mem_flatMap.mp hr
    exact RefreshToken.proper_of_mem hr
  have hsplit : (w.data.tokens.flatMap RefreshToken.references).Perm
      ((w.data.tokens.filter p).flatMap RefreshToken.references ++
        (w.data.tokens.filter (!p ·)).flatMap RefreshToken.references) := by
    rw [← List.flatMap_append]
    exact (List.filter_append_perm p _).symm.flatMap_right _
  have hnone : ∀ r, r ∉ (none : Option Reference) := nofun
  have hleave := h.leave { w.data with tokens := w.data.tokens.filter (!p ·) } rfl
    ((hsplit.append_left _).trans (List.perm_append_comm_assoc _ _ _)) (.refl _)
    (h.distinct.of_sublist (List.Sublist.refl _) List.filter_sublist) hrefs
    (fun r hr => absurd hr (hnone r)) fun r hr => absurd hr (hnone r)
  rw [Work.dropTokens, (forget_same w _).1]
  exact hleave

theorem removeTokens (h : w.Balanced) {p : RefreshToken → Bool} {w' : Work}
    (run : w.removeTokens p = .ok w') : w'.Balanced := by
  obtain ⟨_, -, run⟩ := except_bind_ok.mp run
  cases run
  exact h.dropTokens p

/-- A removal row by row, where the rows that are still to go stay there. -/
theorem removeEach {α : Type} (rows : Database → List α) (key : α → Uuid)
    {remove : Work → α → Except Refusal Work}
    (hr : ∀ {w a w'}, Balanced w → a ∈ rows w.data → remove w a = .ok w' →
      w'.Balanced ∧ ∀ b ∈ rows w.data, key b ≠ key a → b ∈ rows w'.data)
    {as : List α} {w' : Work} (h : w.Balanced) (hmem : ∀ a ∈ as, a ∈ rows w.data)
    (hkeys : (as.map key).Nodup) (run : Work.removeEach remove as w = .ok w') : w'.Balanced := by
  induction as generalizing w with
  | nil =>
    cases run
    exact h
  | cons a as ih =>
    obtain ⟨w₁, hw, run⟩ := except_bind_ok.mp run
    obtain ⟨h₁, hrest⟩ := hr h (hmem a (.head _)) hw
    obtain ⟨hnew, hkeys⟩ := List.nodup_cons.mp hkeys
    refine ih h₁ (fun b hb => hrest b (hmem b (.tail _ hb)) fun he => ?_) hkeys run
    exact hnew (he ▸ List.mem_map_of_mem hb)

theorem perm_cons_filter {α : Type} {key : α → Uuid} {rows : List α} (hkeys : (rows.map key).Nodup)
    {a : α} (ha : a ∈ rows) : rows.Perm (a :: rows.filter (key · ≠ key a)) := by
  induction rows with
  | nil => cases ha
  | cons b rows ih =>
    obtain ⟨hnew, hkeys⟩ := List.nodup_cons.mp hkeys
    rcases List.mem_cons.mp ha with rfl | ha
    · have hrest : rows.filter (key · ≠ key a) = rows := by
        refine List.filter_eq_self.mpr fun b hb => decide_eq_true fun he => hnew ?_
        exact List.mem_map.mpr ⟨b, hb, he⟩
      rw [List.filter_cons_of_neg (by simp), hrest]
    · have hne : key b ≠ key a := fun he => hnew (he ▸ List.mem_map_of_mem ha)
      rw [List.filter_cons_of_pos (by simpa using hne)]
      exact ((ih hkeys ha).cons b).trans (.swap a b _)

theorem dropSession (h : w.Balanced) {s : SsoSession} (hs : s ∈ w.data.sessions) {w' : Work}
    (run : w.dropSession s = .ok w') : w'.Balanced := by
  have hv := (forget_same w s.references).1
  have horphan : (w.forget s.references).orphan (some ⟨.ssoSessions, s.id⟩) =
      (w.forget s.references).owe (w.data.referring ⟨.ssoSessions, s.id⟩ .refreshTokens) := by
    rw [orphan, hv, h.schema, ← hv]
    rfl
  have hdata : ((w.forget s.references).orphan (some ⟨.ssoSessions, s.id⟩)).data = w.data := by
    rw [horphan, owe_data, hv]
  have hids := (Database.nodup_names.mp h.distinct.names).2.2
  have hout := (h.takeOut [] Kind.lawful_sessions (perm_cons_filter hids hs)).1
  have hsame : w.takeOut .sessions s [] (w.data.sessions.filter (·.id ≠ s.id)) =
      { (w.forget s.references).owe (w.data.referring ⟨.ssoSessions, s.id⟩ .refreshTokens) with
        data.sessions := ((w.forget s.references).owe (w.data.referring ⟨.ssoSessions, s.id⟩
          .refreshTokens)).data.sessions.filter (·.id ≠ s.id) } := by
    rw [← horphan, hdata]
    rfl
  rw [hsame] at hout
  unfold Work.dropSession at run
  dsimp only at run
  split at run
  · exact hout.removeTokens run
  · cases run
    exact hout

theorem removeSessions (h : w.Balanced) {p : SsoSession → Bool} {w' : Work}
    (run : w.removeSessions p = .ok w') : w'.Balanced := by
  have hids := (Database.nodup_names.mp h.distinct.names).2.2
  refine h.removeEach Database.sessions SsoSession.id (fun {v s v'} hv hs run => ?_)
    (fun s hs => (List.mem_filter.mp hs).1) (hids.sublist (List.filter_sublist.map _)) run
  rw [unlessRefused_migrated hv.schema] at run
  refine ⟨hv.dropSession hs run, fun s' hs' hne => ?_⟩
  obtain ⟨u, hu, hdata, -⟩ := dropSession_leaves hv.schema hv.enforced s
  cases hu.symm.trans run
  rw [hdata]
  exact List.mem_filter.mpr ⟨hs', decide_eq_true hne⟩

theorem removeReferring (h : w.Balanced) {r : Reference} {t : Table} {w' : Work}
    (run : Work.removeReferring r w t = .ok w') : w'.Balanced := by
  unfold Work.removeReferring at run
  split at run
  · exact h.removeSessions run
  · exact h.removeTokens run
  · cases run
    exact h

/-- A row of a kind that makes no references goes, and then the rows that refer to it. -/
theorem passOn {α : Type} {k : Kind α} (hk : k.Lawful) (h : w.Balanced) {row : α}
    {others : List α} {r : Reference} (hr : (k.rows w.data).Perm (row :: others))
    (hrefs : k.references row = []) (hnamed : k.named row = some r)
    (hsame : (k.put others w.data).mentions = w.data.mentions) {w' : Work}
    (run : ({ w with data := k.put others w.data } : Work).passOn r = .ok w') : w'.Balanced := by
  have hp : ∀ r' ∈ some r, r'.Proper := fun r' hr' => hk.proper_named (hnamed ▸ hr')
  have hout := (h.takeOut [] hk hr).1
  have hpassed : ({ w with data := k.put others w.data } : Work).orphan (some r) =
      w.takeOut k row [] others := by
    have hcount : (k.put others w.data).mentionsOf (some r) = w.data.mentionsOf (some r) := by
      rw [Database.mentionsOf, hsame]
      rfl
    have hm : (k.put others w.data).schema = .migrated := (hk.schema _ _).trans h.schema
    rw [orphan_eq (w := { w with data := k.put others w.data }) h.enforced hm hp, hcount,
      Work.takeOut, hrefs, hnamed, forget, orphan_eq h.enforced h.schema hp]
    rfl
  have hfrom : ∀ (ts : List Table) {v : Work}, v.Balanced →
      Work.removeEach (Work.removeReferring r) ts v = .ok w' → w'.Balanced := by
    intro ts
    induction ts with
    | nil =>
      rintro v hv ⟨⟩
      exact hv
    | cons t ts ih =>
      intro v hv run
      obtain ⟨v₁, ht, run⟩ := except_bind_ok.mp run
      exact ih (hv.removeReferring ht) run
  rw [← hpassed] at hout
  unfold Work.passOn at run
  dsimp only at run
  split at run
  · exact hfrom _ hout run
  · cases run
    exact hout

theorem dropUser (h : w.Balanced) {u : User} (hu : u ∈ w.data.users) {w' : Work}
    (run : w.dropUser u = .ok w') : w'.Balanced := by
  have hids := (Database.nodup_names.mp h.distinct.names).1
  exact h.passOn Kind.lawful_users (perm_cons_filter hids hu) rfl rfl rfl run

theorem dropProvider (h : w.Balanced) {p : SsoProvider} (hp : p ∈ w.data.providers) {w' : Work}
    (run : w.dropProvider p = .ok w') : w'.Balanced := by
  have hids := (Database.nodup_names.mp h.distinct.names).2.1
  exact h.passOn Kind.lawful_providers (perm_cons_filter hids hp) rfl rfl rfl run

theorem removeUsers (h : w.Balanced) {p : User → Bool} {w' : Work}
    (run : w.removeUsers p = .ok w') : w'.Balanced := by
  have hids := (Database.nodup_names.mp h.distinct.names).1
  refine h.removeEach Database.users User.id (fun {v u v'} hv hu run => ?_)
    (fun u hu => (List.mem_filter.mp hu).1) (hids.sublist (List.filter_sublist.map _)) run
  rw [unlessRefused_migrated hv.schema] at run
  refine ⟨hv.dropUser hu run, fun u' hu' hne => ?_⟩
  obtain ⟨v₁, hv₁, hdata, -⟩ := dropUser_leaves hv.schema hv.enforced u
  cases hv₁.symm.trans run
  rw [hdata, Database.dropUser, Database.dropSessions_eq]
  exact List.mem_filter.mpr ⟨hu', decide_eq_true hne⟩

theorem removeProviders (h : w.Balanced) {p : SsoProvider → Bool} {w' : Work}
    (run : w.removeProviders p = .ok w') : w'.Balanced := by
  have hids := (Database.nodup_names.mp h.distinct.names).2.1
  refine h.removeEach Database.providers SsoProvider.id
    (fun {v q v'} hv hq run => ?_) (fun q hq => (List.mem_filter.mp hq).1)
    (hids.sublist (List.filter_sublist.map _)) run
  rw [unlessRefused_migrated hv.schema] at run
  refine ⟨hv.dropProvider hq run, fun q' hq' hne => ?_⟩
  obtain ⟨v₁, hv₁, hdata, -⟩ := dropProvider_leaves hv.schema hv.enforced q
  cases hv₁.symm.trans run
  rw [hdata, Database.dropProvider, Database.dropSessions_eq]
  exact List.mem_filter.mpr ⟨hq', decide_eq_true hne⟩

end Balanced

end Work

end RefreshChain
