import Mathlib.Data.List.Defs
import RefreshChain.Migration
import RefreshChain.Proofs.Transaction

/-!
# Steady connections

A connection to a fully migrated store, as a service uses it: checks are on, no dangling reference
is tolerated, and the store may be written. There statements are simple.

* `Connection.Steady`: such a connection. `Connection.Ordinary`: the same with any schema, whether
  checks are on or not.
* `Connection.Ordinary.execute_ok`, `Connection.Ordinary.execute_error`: what a statement does
  there.
* `Connection.Since`: a property of what the connection shows and may go back to, up to a point in
  the past. Beginning and ending transactions keeps both.
-/

namespace RefreshChain

/-! ## Migrated stores -/

/-- What all migrations set up. -/
def Schema.migrated : Schema where
  definitions := [.migrations, .users, .ssoProviders, .ssoSessions, .refreshTokens,
    .auditLogEntries].map Table.definition
  indexes := [.usersByInstance, .sessionsByUser, .tokensByParent, .tokensByInstanceUser,
    .auditByInstance]

/-- A store that has just been migrated. -/
def Database.migrated : Database where
  schema := .migrated
  migrations := Migration.all.map Migration.name

-- It is what the migrations lead to from a store without any table.
example : Migrations.up none ⟨.connect .empty, ()⟩ = (.ok (), ⟨.connect .migrated, ()⟩) := by
  cbv

namespace Schema

@[simp] theorem migrated_refusal? (t : Table) (c : RowChange) :
    Schema.migrated.refusal? t c = none := rfl

@[simp] theorem migrated_vanishes (t : Table) : Schema.migrated.vanishes t = false := rfl

@[simp]
theorem migrated_watchesInserts (t : Table) : Schema.migrated.watchesInserts t = false := rfl

theorem migrated_tables_contains (t : Table) : Schema.migrated.tables.contains t = true := by
  cases t <;> rfl

end Schema

theorem Database.hasTable_of_migrated {db : Database} (h : db.schema = .migrated) (t : Table) :
    db.hasTable t = true := by
  rw [hasTable, h, Schema.migrated_tables_contains]

/-- The work of a statement that starts with the given contents and nothing counted. -/
def Work.start (db : Database) : Work := ⟨db, true, false, false, 0⟩

@[simp] theorem Work.start_data (db : Database) : (Work.start db).data = db := rfl

namespace Connection

variable {c c' : Connection} {α : Type}

/-- A connection in ordinary use: no dangling reference is tolerated, and the store may be
written. -/
structure Ordinary (c : Connection) : Prop where
  deferred : c.deferred = false
  violations : c.violations = 0
  tolerant : c.tolerant = []
  readOnly : c.readOnly = false
  closed : c.closed = false
  tracked : c.Tracked
  saved : ∀ k ∈ c.checkpoints, k.violations = 0

/-- A connection to a fully migrated store, in ordinary use. -/
structure Steady (c : Connection) : Prop where
  enforced : c.enforced = true
  deferred : c.deferred = false
  violations : c.violations = 0
  tolerant : c.tolerant = []
  readOnly : c.readOnly = false
  closed : c.closed = false
  tracked : c.Tracked
  schema : c.data.schema = .migrated
  saved : ∀ k ∈ c.checkpoints, k.violations = 0 ∧ k.saved.schema = .migrated

theorem steady_connect : (connect .migrated).Steady :=
  ⟨rfl, rfl, rfl, rfl, rfl, rfl, fun _ => rfl, rfl, by simp [connect]⟩

/-- The same connection with other contents. -/
def showing (c : Connection) (db : Database) : Connection := { c with data := db }

@[simp] theorem showing_data (c : Connection) (db : Database) : (c.showing db).data = db := rfl

/-- Nothing lapses where nothing is tolerated. -/
theorem lapse_eq (hd : c.deferred = false) (hv : c.violations = 0) : c.lapse = c := by
  unfold lapse
  split
  · rfl
  · rcases c with ⟨⟩
    cases hd; cases hv; rfl

namespace Ordinary

theorem connect (db : Database) : (Connection.connect db).Ordinary :=
  ⟨rfl, rfl, rfl, rfl, rfl, fun _ => rfl, by simp [Connection.connect]⟩

theorem showing (h : c.Ordinary) (db : Database) : (c.showing db).Ordinary :=
  ⟨h.deferred, h.violations, h.tolerant, h.readOnly, h.closed, h.tracked, h.saved⟩

theorem enforce (h : c.Ordinary) (on : Bool) : (c.enforce on).Ordinary :=
  ⟨h.deferred, h.violations, rfl, h.readOnly, h.closed, h.tracked, h.saved⟩

theorem prepared (h : c.Ordinary) (p : Purpose) : c.prepared p = c := by
  unfold Connection.prepared
  split
  · simp [h.deferred]
  · rfl

theorem withData (h : c.Ordinary) (db : Database) : c.withData db = c.showing db := by
  simp [Connection.withData, Connection.showing, h.tolerant]

/-- A statement succeeds with what it does to the contents, if that leaves no reference dangling. -/
theorem execute_ok (h : c.Ordinary) {s : Statement α} {a : α} :
    c.execute s = (.ok a, c') ↔
      ∃ w, s.run (c.work s.purpose) = .ok (a, w) ∧ w.violations ≤ 0 ∧ c.showing w.data = c' := by
  unfold Connection.execute
  rcases s.run (c.work s.purpose) with r | ⟨b, w⟩
  · simp [Connection.refuse]
  · simp only [h.readOnly, Bool.false_and, Bool.false_eq_true, if_false]
    unfold Connection.settle
    simp only [h.deferred, Bool.and_false, Bool.false_eq_true, if_false, h.prepared, h.withData]
    rw [lapse_eq (c := c.showing w.data) h.deferred h.violations]
    by_cases hv : w.violations ≤ 0
    · simp only [if_pos hv, Except.ok.injEq, Prod.mk.injEq]
      constructor
      · rintro ⟨rfl, rfl⟩
        exact ⟨w, ⟨rfl, rfl⟩, hv, rfl⟩
      · rintro ⟨w', ⟨rfl, rfl⟩, -, rfl⟩
        exact ⟨rfl, rfl⟩
    · simp only [if_neg hv]
      constructor
      · intro run
        split at run
        · cases run
        · simp [Connection.refuse] at run
      · rintro ⟨w', hw, hv', -⟩
        cases hw
        exact absurd hv' hv

/-- A statement that is refused leaves the contents, or the store drops what was not committed, or
the statement leaves its row behind because a reference of it dangles. -/
theorem execute_error (h : c.Ordinary) {s : Statement α} {r : Refusal}
    (run : c.execute s = (.error r, c')) :
    c' = c ∨ c' = c.abandoned ∨
      ∃ a w, s.run (c.work s.purpose) = .ok (a, w) ∧
        (0 < w.violations ∧ s.purpose.leavesRow c.data.schema = true) ∧
        c' = c.showing w.data := by
  have refused : ∀ {p : Purpose} {r' : Refusal}, c.refuse p r' = ((.error r : Except _ α), c') →
      c' = c ∨ c' = c.abandoned := by
    intro p r' hr
    obtain ⟨-, rfl⟩ := Prod.mk.inj hr
    rw [h.prepared, lapse_eq h.deferred h.violations]
    split
    · exact .inl rfl
    · split
      · exact .inr rfl
      · exact .inl rfl
  unfold Connection.execute at run
  rcases hw : s.run (c.work s.purpose) with r' | ⟨b, w⟩ <;> rw [hw] at run
  · rcases refused run with hc | hc
    · exact .inl hc
    · exact .inr (.inl hc)
  · simp only [h.readOnly, Bool.false_and, Bool.false_eq_true, if_false] at run
    unfold Connection.settle at run
    simp only [h.deferred, Bool.and_false, Bool.false_eq_true, if_false, h.prepared, h.withData]
      at run
    split at run
    · cases run
    · rename_i hv
      split at run
      · rename_i hl
        cases run
        exact .inr (.inr ⟨b, w, rfl, ⟨Int.not_le.mp hv, (Bool.and_eq_true_iff.mp hl).2⟩, rfl⟩)
      · rcases refused run with hc | hc
        · exact .inl hc
        · exact .inr (.inl hc)

theorem look (h : c.Ordinary) {tables : List Table} (f : Database → α)
    (ht : ∀ t ∈ tables, c.data.hasTable t = true) : c.look tables f = (.ok (f c.data), c) := by
  have hn : tables.find? (fun t => !c.data.hasTable t) = none := by simpa using ht
  rw [Connection.look, hn, lapse_eq h.deferred h.violations]

end Ordinary

namespace Steady

theorem ordinary (h : c.Steady) : c.Ordinary :=
  ⟨h.deferred, h.violations, h.tolerant, h.readOnly, h.closed, h.tracked,
    fun k hk => (h.saved k hk).1⟩

theorem showing (h : c.Steady) {db : Database} (hdb : db.schema = .migrated) :
    (c.showing db).Steady :=
  ⟨h.enforced, h.deferred, h.violations, h.tolerant, h.readOnly, h.closed, h.tracked, hdb, h.saved⟩

theorem withData (h : c.Steady) (db : Database) : c.withData db = c.showing db :=
  h.ordinary.withData db

theorem work (h : c.Steady) (p : Purpose) : c.work p = .start c.data := by
  simp [Connection.work, Work.start, h.enforced, h.deferred, h.tolerant, h.violations]

theorem execute_ok (h : c.Steady) {s : Statement α} {a : α} :
    c.execute s = (.ok a, c') ↔
      ∃ w, s.run (.start c.data) = .ok (a, w) ∧ w.violations ≤ 0 ∧ c.showing w.data = c' :=
  h.work s.purpose ▸ h.ordinary.execute_ok

theorem execute_error (h : c.Steady) {s : Statement α} {r : Refusal}
    (run : c.execute s = (.error r, c')) :
    c' = c ∨ c' = c.abandoned ∨
      ∃ a w, s.run (.start c.data) = .ok (a, w) ∧
        (0 < w.violations ∧ s.purpose.leavesRow c.data.schema = true) ∧
        c' = c.showing w.data :=
  h.work s.purpose ▸ h.ordinary.execute_error run

theorem look (h : c.Steady) (tables : List Table) (f : Database → α) :
    c.look tables f = (.ok (f c.data), c) :=
  h.ordinary.look f fun t _ => Database.hasTable_of_migrated h.schema t

end Steady

/-! ## The past -/

/-- `P` holds of the contents, and of all that they may go back to while the `n` oldest of the open
transactions stay open. With `n = 0` that is all that they may go back to at all. -/
structure Since (n : Nat) (P : Database → Prop) (c : Connection) : Prop where
  now : P c.data
  saved : ∀ newer k outer, c.checkpoints = newer ++ k :: outer → n ≤ outer.length → P k.saved

section

variable {n : Nat} {P : Database → Prop}

theorem Since.saved_of_mem (h : c.Since 0 P) {k : Checkpoint} (hk : k ∈ c.checkpoints) :
    P k.saved := by
  obtain ⟨newer, outer, hk⟩ := List.append_of_mem hk
  exact h.saved newer k outer hk (Nat.zero_le _)

/-- Transactions may end, innermost first, and the contents may change. -/
theorem Since.of_suffix (h : c.Since n P) (hs : c'.checkpoints <:+ c.checkpoints)
    (hp : P c'.data) : c'.Since n P := by
  refine ⟨hp, fun newer k outer hk hn => ?_⟩
  obtain ⟨ended, he⟩ := hs
  refine h.saved (ended ++ newer) k outer ?_ hn
  rw [← he, hk, List.append_assoc]

theorem Since.showing (h : c.Since n P) {db : Database} (hp : P db) : (c.showing db).Since n P :=
  h.of_suffix (List.suffix_refl _) hp

theorem Since.begin (h : c.Since n P) : c.begin.Since n P := by
  refine ⟨h.now, fun newer k outer hk hn => ?_⟩
  rcases List.cons_eq_append_iff.mp hk with ⟨-, hfirst⟩ | ⟨newer', -, hrest⟩
  · cases hfirst
    exact h.now
  · exact h.saved newer' k outer hrest hn

end

/-! ## The end of transactions -/

/-- A commit either fails and changes nothing, or forgets what a transaction would go back to. -/
theorem Steady.commit_cases (h : c.Steady) :
    c.commit.2 = c ∨ ∃ level k outer, c.depth = level + 1 ∧
      outTo level c.checkpoints = some (k, outer) ∧
      c.commit = (.ok (), { c with checkpoints := outer, depth := level }) := by
  unfold commit
  split
  · exact .inl rfl
  · rename_i level hd
    cases ho : outTo level c.checkpoints with
    | none => exact .inl (lapse_eq h.deferred h.violations)
    | some p =>
      obtain ⟨k, outer⟩ := p
      refine .inr ⟨level, k, outer, hd, ho, ?_⟩
      have hv : ¬ (outer.isEmpty ∧ 0 < c.violations) := by rw [h.violations]; simp
      simp only [if_neg hv]
      exact congrArg (Prod.mk _) (lapse_eq h.deferred h.violations)

/-- A rollback either fails and changes nothing, or goes back. -/
theorem Steady.rollback_cases (h : c.Steady) :
    c.rollback.2 = c ∨ ∃ level k outer, c.depth = level + 1 ∧
      outTo level c.checkpoints = some (k, outer) ∧
      c.rollback = (.ok (), { c.showing k.saved with
        checkpoints := if level = 0 ∨ outer ≠ [] then outer else [k], depth := level }) := by
  unfold rollback
  split
  · exact .inl rfl
  · rename_i level hd
    cases ho : outTo level c.checkpoints with
    | none => exact .inl (lapse_eq h.deferred h.violations)
    | some p =>
      obtain ⟨k, outer⟩ := p
      refine .inr ⟨level, k, outer, hd, ho, ?_⟩
      obtain ⟨⟨newer, hk⟩, -⟩ := outTo_some ho
      obtain ⟨hv, -⟩ := h.saved k (by simp [hk])
      simp only [undone, h.withData, hv, ← h.violations]
      exact congrArg (Prod.mk _) (lapse_eq h.deferred h.violations)

/-- The end of the innermost transaction would leave the `n` oldest of the open ones open. -/
def EndsWithin (n : Nat) (c : Connection) : Prop :=
  ∀ level k outer, c.depth = level + 1 → outTo level c.checkpoints = some (k, outer) →
    n ≤ outer.length

theorem endsWithin_zero (c : Connection) : c.EndsWithin 0 := fun _ _ _ _ _ => Nat.zero_le _

/-- A transaction that its work has left open ends within those that were open at its begin. -/
theorem SameOpen.endsWithin (ht : c.Tracked) (hs : c.begin.SameOpen c') {n : Nat}
    (hn : n ≤ c.checkpoints.length) : c'.EndsWithin n := by
  obtain ⟨hk, hd⟩ := hs.begun
  intro level k outer hd' ho
  have hl : level = c.depth := by omega
  rw [hl, hk, outTo_begin ht] at ho
  cases ho
  exact hn

namespace Steady

theorem begin (h : c.Steady) : c.begin.Steady where
  enforced := h.enforced
  deferred := h.deferred
  violations := h.violations
  tolerant := h.tolerant
  readOnly := h.readOnly
  closed := h.closed
  tracked h0 := absurd h0 (Nat.succ_ne_zero _)
  schema := h.schema
  saved k hk := by
    rcases List.mem_cons.mp hk with rfl | hk
    · exact ⟨h.violations, h.schema⟩
    · exact h.saved k hk

/-- Ending transactions, innermost first, leaves a connection steady. -/
theorem of_suffix (h : c.Steady) {db : Database} {ks : List Checkpoint} {depth : Nat}
    (hdb : db.schema = .migrated) (hs : ks <:+ c.checkpoints) (ht : depth = 0 → ks = []) :
    ({ c.showing db with checkpoints := ks, depth } : Connection).Steady :=
  ⟨h.enforced, h.deferred, h.violations, h.tolerant, h.readOnly, h.closed, ht, hdb,
    fun k hk => h.saved k (hs.subset hk)⟩

section

variable {n : Nat} {P : Database → Prop} (h : c.Steady) (hn : n ≤ c.checkpoints.length)
  (hs : c.Since n P) (hw : c.EndsWithin n)

include h hn hs hw

theorem commit :
    c.commit.2.Steady ∧ n ≤ c.commit.2.checkpoints.length ∧ c.commit.2.Since n P := by
  rcases h.commit_cases with hc | ⟨level, k, outer, hd, ho, hc⟩
  · rw [hc]; exact ⟨h, hn, hs⟩
  · obtain ⟨⟨newer, hk⟩, hl⟩ := outTo_some ho
    have hsuf : outer <:+ c.checkpoints := ⟨newer ++ [k], by simp [hk]⟩
    rw [hc]
    exact ⟨h.of_suffix h.schema hsuf hl, hw level k outer hd ho, hs.of_suffix hsuf hs.now⟩

theorem rollback :
    c.rollback.2.Steady ∧ n ≤ c.rollback.2.checkpoints.length ∧ c.rollback.2.Since n P := by
  rcases h.rollback_cases with hc | ⟨level, k, outer, hd, ho, hc⟩
  · rw [hc]; exact ⟨h, hn, hs⟩
  obtain ⟨⟨newer, hk⟩, hl⟩ := outTo_some ho
  have hle := hw level k outer hd ho
  have hp : P k.saved := hs.saved newer k outer hk hle
  have hm : k.saved.schema = .migrated := (h.saved k (by simp [hk])).2
  rw [hc]
  by_cases hlast : level = 0 ∨ outer ≠ []
  · have hsuf : outer <:+ c.checkpoints := ⟨newer ++ [k], by simp [hk]⟩
    rw [if_pos hlast]
    exact ⟨h.of_suffix hm hsuf hl, hle, hs.of_suffix hsuf hp⟩
  · -- The transaction stays open and is the outermost one.
    obtain ⟨h0, hnil⟩ := not_or.mp hlast
    have hnil : outer = [] := by simpa using hnil
    have hsuf : [k] <:+ c.checkpoints := ⟨newer, by rw [hk, hnil]⟩
    rw [if_neg hlast]
    refine ⟨h.of_suffix hm hsuf fun h0' => absurd h0' h0, ?_, hs.of_suffix hsuf hp⟩
    have hzero : n = 0 := by simpa [hnil] using hle
    rw [hzero]
    exact Nat.zero_le _

end

/-- The store ends all transactions, so none of the past may be out of reach. -/
theorem abandoned (h : c.Steady) : c.abandoned.Steady ∧ c.abandoned.checkpoints = [] ∧
    ∀ P, c.Since 0 P → c.abandoned.Since 0 P := by
  have hc : c.abandoned = { c.showing c.committed with checkpoints := [], depth := c.depth } := by
    unfold Connection.abandoned
    rw [h.withData]
    exact lapse_eq h.deferred h.violations
  have hd : c.committed = c.data ∨ ∃ k ∈ c.checkpoints, c.committed = k.saved := by
    unfold Connection.committed
    cases hl : c.checkpoints.getLast? with
    | none => exact .inl rfl
    | some k => exact .inr ⟨k, List.mem_of_getLast? hl, rfl⟩
  have hm : c.committed.schema = .migrated := by
    rcases hd with hd | ⟨k, hk, hd⟩
    · rw [hd]; exact h.schema
    · rw [hd]; exact (h.saved k hk).2
  rw [hc]
  refine ⟨h.of_suffix hm (List.nil_suffix) fun _ => rfl, rfl, fun P hs => ⟨?_, by simp⟩⟩
  show P c.committed
  rcases hd with hd | ⟨k, hk, hd⟩
  · rw [hd]; exact hs.now
  · rw [hd]; exact hs.saved_of_mem hk

end Steady

end Connection

end RefreshChain
