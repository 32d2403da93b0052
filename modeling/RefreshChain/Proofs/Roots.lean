import RefreshChain.Proofs.Settling

/-!
# Roots of chains

A token that a sign-in gives has no parent, and one that comes from another names that one's string
as its parent. `RefreshToken.isRoot` takes an empty parent for none, but the string of a token may
be empty, and then its child names an empty parent.

* `Linked`: the tokens that others name as their parents are there, `linked_settling`.
* `roots_iff_no_empty_parent`: so the roots are the tokens that are nobody's child, unless some
  token names an empty parent.
* `child_of_empty_token_is_root`: some token may.
-/

namespace RefreshChain

/-! ## Links -/

/-- Nothing is deleted, and a swap is given a copy of a token that the store has: one that was
issued, and not taken back with the transaction that it was issued in. -/
def Event.Lengthens : Event → Database → Prop
  | .request (.swap _ old), db => ∃ t ∈ db.tokens, old.Becomes t
  | e, db => e.DeletesNoToken db

/-- Parents are there, and also the token with the awaited string, if one is awaited. All strings
come from the source. -/
structure Linked {σ : Type} (s : Service σ) (awaited : Option String) (db : Database) : Prop where
  migrated : db.schema = .migrated
  parent : ∀ t ∈ db.tokens, ∀ p, t.parent = some p → ∃ r ∈ db.tokens, r.token = p
  string : ∀ t ∈ db.tokens, ∃ x, t.token = (s.generate x).1
  awaits : ∀ p, awaited = some p → ∃ r ∈ db.tokens, r.token = p

namespace Linked

variable {σ : Type} {s : Service σ} {awaited : Option String} {db db' : Database}

theorem of_eq (h : Linked s awaited db) (hs : db'.schema = db.schema)
    (ht : db'.tokens = db.tokens) : Linked s awaited db' :=
  ⟨hs.trans h.migrated, ht ▸ h.parent, ht ▸ h.string, ht ▸ h.awaits⟩

theorem revoking (h : Linked s awaited db) (now : Instant) (q : RefreshToken → Bool) :
    Linked s awaited (db.revoking now q) := by
  have there : ∀ p, (∃ r ∈ db.tokens, r.token = p) →
      ∃ r ∈ (db.revoking now q).tokens, r.token = p := by
    rintro p ⟨r, hr, rfl⟩
    exact ⟨_, (Database.mem_revoking now q).mpr ⟨r, hr, rfl⟩,
      (Database.becomes_revoking now q r).token⟩
  refine ⟨h.migrated, fun t ht p hp => ?_, fun t ht => ?_, fun p hp => there p (h.awaits p hp)⟩
  · obtain ⟨u, hu, hb⟩ := Database.becomes_of_mem_revoking ht
    exact there p (h.parent u hu p (hb.parent.symm.trans hp))
  · obtain ⟨u, hu, hb⟩ := Database.becomes_of_mem_revoking ht
    rw [hb.token]
    exact h.string u hu

/-- The token that is rotated is awaited as the parent of a new one. -/
theorem awaiting (h : Linked s none db) {p : String} (hp : ∃ r ∈ db.tokens, r.token = p) :
    Linked s (some p) db :=
  ⟨h.migrated, h.parent, h.string, fun _ he => Option.some.inj he ▸ hp⟩

theorem withToken {t : RefreshToken} {x : σ} (h : Linked s t.parent db)
    (hx : t.token = (s.generate x).1) : Linked s none (db.withToken t) := by
  refine ⟨h.migrated, fun u hu p hp => ?_, fun u hu => ?_, nofun⟩
  · have there : ∃ r ∈ db.tokens, r.token = p := by
      rcases Database.mem_withToken.mp hu with hm | rfl
      · exact h.parent u hm p hp
      · exact h.awaits p hp
    obtain ⟨r, hr, he⟩ := there
    exact ⟨r, Database.mem_withToken.mpr (.inl hr), he⟩
  · rcases Database.mem_withToken.mp hu with hm | rfl
    · exact h.string u hm
    · exact ⟨x, hx⟩

theorem start (s : Service σ) : Linked s none .migrated := ⟨rfl, nofun, nofun, nofun⟩

/-- A child is one of a token that is there. -/
theorem exists_parent_iff (h : Linked s awaited db) {t : RefreshToken} (ht : t ∈ db.tokens) :
    (∃ p ∈ db.tokens, t.isChildOf p) ↔ t.parent ≠ none := by
  constructor
  · rintro ⟨p, -, hlink⟩ hnone
    rw [RefreshToken.isChildOf_iff.mp hlink] at hnone
    cases hnone
  · intro hsome
    obtain ⟨string, hp⟩ := Option.ne_none_iff_exists'.mp hsome
    obtain ⟨p, hmem, rfl⟩ := h.parent t ht string hp
    exact ⟨p, hmem, RefreshToken.isChildOf_iff.mpr hp⟩

end Linked

/-! ## Requests -/

section

variable {σ : Type} {s : Service σ} {h h' : Host σ}

/-- The string that is awaited at a stage of a request. -/
def awaitedAt (stage : Option (User × Origin)) : Option String := stage.bind (·.2.parent?)

theorem linked_settling : Settling s Event.Lengthens fun stage => Linked s (awaitedAt stage) where
  migrated _ _ h := h.migrated
  same _ _ _ h hm ht _ := h.of_eq hm ht
  revoking _ _ now q h := h.revoking now q
  thinned e _ _ fit h hd hno := by
    refine h.of_eq hd.schema (hno ?_)
    unfold Event.Lengthens at fit
    split at fit
    · trivial
    · exact fit
  signIn _ _ _ h := h
  noted now user old db h hold := by
    refine (h.awaiting ?_).of_eq rfl rfl
    rcases hold with hmem | ⟨t, hmem, hb⟩
    · exact ⟨old, hmem, rfl⟩
    · exact ⟨t, hmem, hb.token⟩
  minted _ _ _ _ _ _ _ h := h.withToken rfl

/-- What a new token names as its parent. -/
def Request.parent? : Request → Option String
  | .grant _ _ => none
  | .swap _ old => some old.token
  | .exchange token => some token

theorem Service.serve_parent (ha : s.audit = .table) (hu : s.users = .table) {now : Instant}
    {r : Request} {i : IssuedToken} (hm : h.connection.data.schema = .migrated)
    (run : s.serve now r h = (.ok i, h')) : i.token.parent = r.parent? := by
  have parent : ∀ {user : User} {origin : Origin} {db db' : Database},
      Issues now user origin db i db' → i.token.parent = origin.parent? := by
    intro user origin db db' hi
    obtain ⟨sid, string, hi⟩ := hi.token
    rw [hi]
    rfl
  cases r with
  | grant user conditions =>
    exact parent (Action.transaction_makes (issue_makes now user hu (.signIn conditions)) hm run)
  | swap user old =>
    obtain ⟨q, hi⟩ := Action.transaction_makes (swapWork_makes now user ha hu old) hm run
    exact parent hi
  | exchange token =>
    obtain ⟨user, old, q, rfl, hi⟩ := exchange_makes ha hu hm run
    exact parent hi

/-! ## Roots -/

theorem RefreshToken.isRoot_iff {t : RefreshToken} :
    t.isRoot ↔ t.parent = none ∨ t.parent = some "" := by
  unfold isRoot
  cases t.parent <;> simp

/-- In all that such runs lead to, `isRoot` tells which tokens are nobody's child just if no token
names an empty parent. -/
theorem Linked.isRoot_iff {awaited : Option String} {db : Database} (hl : Linked s awaited db) :
    (∀ t ∈ db.tokens, t.isRoot ↔ ¬∃ p ∈ db.tokens, t.isChildOf p) ↔
      ∀ t ∈ db.tokens, t.parent ≠ some "" := by
  refine forall₂_congr fun t ht => ?_
  rw [hl.exists_parent_iff ht, RefreshToken.isRoot_iff]
  cases t.parent <;> simp

/-- Whoever is in a family names a parent. -/
theorem InFamily.parent_ne_none {tokens : List RefreshToken} {start t : RefreshToken}
    (hf : InFamily tokens start t) : t.parent ≠ none := by
  have link : ∃ p, t.isChildOf p := by
    cases hf with
    | child mem link => exact ⟨start, (Bool.and_eq_true_iff.mp link).1⟩
    | further above mem link => exact ⟨_, link⟩
  obtain ⟨p, hp⟩ := link
  rw [RefreshToken.isChildOf_iff.mp hp]
  exact Option.some_ne_none _

/-- A token from a sign-in is a root, and one that comes from another is not, unless the string of
the other is empty. So in all that runs lead to, the roots are the tokens that are nobody's child
just if no token names an empty parent. A root that is in a family does, and none does if the source
never gives an empty string. -/
theorem roots_iff_no_empty_parent (ha : s.audit = .table) (hu : s.users = .table)
    (hr : Reached s Event.Lengthens h) :
    let tokens := h.connection.data.tokens
    (∀ now user conditions i h', s.grant now user conditions h = (.ok i, h') →
      i.token.isRoot) ∧
    (∀ now user old i h', s.swap now user old h = (.ok i, h') →
      (i.token.isRoot ↔ old.token = "")) ∧
    (∀ now token i h', s.exchange now token h = (.ok i, h') →
      (i.token.isRoot ↔ token = "")) ∧
    ((∀ t ∈ tokens, t.isRoot ↔ ¬∃ p ∈ tokens, t.isChildOf p) ↔
      ∀ t ∈ tokens, t.parent ≠ some "") ∧
    (∀ start t, InFamily tokens start t → t.isRoot → t.parent = some "") ∧
    ((∀ x, (s.generate x).1 ≠ "") → ∀ t ∈ tokens, t.parent ≠ some "") := by
  have hrecords : s.users.LeavesRecords := hu ▸ UserDirectory.table_leavesRecords
  have hup := linked_settling.reached_upholds ha hrecords (.start s) hr
  have hl : Linked s none h.connection.data := hup.all _ (.inl rfl)
  have minted : ∀ {now r i h'}, s.serve now r h = (.ok i, h') →
      (i.token.isRoot ↔ r.parent? = none ∨ r.parent? = some "") := fun run => by
    rw [RefreshToken.isRoot_iff, Service.serve_parent ha hu hl.migrated run]
  refine ⟨fun now user conditions i h' run => ?_, fun now user old i h' run => ?_,
    fun now token i h' run => ?_, hl.isRoot_iff, fun start t hf hroot => ?_, fun hx t ht he => ?_⟩
  · have run : s.serve now (.grant user conditions) h = (.ok i, h') := run
    simp [minted run, Request.parent?]
  · have run : s.serve now (.swap user old) h = (.ok i, h') := run
    simp [minted run, Request.parent?]
  · have run : s.serve now (.exchange token) h = (.ok i, h') := run
    simp [minted run, Request.parent?]
  · exact (RefreshToken.isRoot_iff.mp hroot).resolve_left hf.parent_ne_none
  · obtain ⟨p, hp, hempty⟩ := hl.parent t ht "" he
    obtain ⟨x, hgiven⟩ := hl.string p hp
    exact hx x (hgiven.symm.trans hempty)

end

/-- Alice's second token is a child, and no root. -/
theorem rotated_roots_iff_no_empty_parent :
    let tokens := Sample.rotated.connection.data.tokens
    Reached Sample.service Event.Lengthens Sample.rotated ∧
      tokens.map (fun t => (t.token, t.parent, t.isRoot)) =
        [("t", none, true), ("tt", some "t", false)] ∧
      ∀ t ∈ tokens, t.isRoot ↔ ¬∃ p ∈ tokens, t.isChildOf p := by
  intro tokens
  have reached : Reached Sample.service Event.Lengthens Sample.rotated := by
    have started : Reached Sample.service Event.Lengthens (Sample.after []) := .start 0
    have added := started.step Sample.time (.addUser Sample.alice) trivial
    have granted := added.step Sample.time (.request (.grant Sample.alice none)) trivial
    exact granted.step Sample.time (.request (.exchange "t")) trivial
  obtain ⟨-, -, -, hiff, -, hnever⟩ := roots_iff_no_empty_parent rfl rfl reached
  exact ⟨reached, by rfl, hiff.mpr (hnever fun n => by simp [Sample.service])⟩

/-- A source whose first string is empty. -/
def Sample.blank : Service Nat :=
  { service with generate := fun n => (String.ofList (List.replicate n 'x'), n + 1) }

/-- A host where Alice has signed in and got a token with an empty string. -/
def Sample.unnamed : Host Nat :=
  [Event.addUser alice, .request (.grant alice none)].foldl
    (fun h e => e.perform blank time h) ⟨.connect .migrated, 0⟩

/-- She exchanges that token. The new one is in its family, and a root. -/
theorem child_of_empty_token_is_root :
    let served := Sample.blank.exchange Sample.time "" Sample.unnamed
    let tokens := served.2.connection.data.tokens
    Reached Sample.blank Event.Lengthens Sample.unnamed ∧
      Reached Sample.blank Event.Lengthens served.2 ∧
      (∃ i, served.1 = .ok i ∧ i.token.isRoot = true) ∧
      ∃ p ∈ tokens, ∃ t ∈ tokens, InFamily tokens p t ∧ t.isChildOf p = true ∧
        t.isRoot = true := by
  intro served tokens
  have reached : Reached Sample.blank Event.Lengthens Sample.unnamed := by
    have started : Reached Sample.blank Event.Lengthens ⟨.connect .migrated, 0⟩ := .start 0
    have added := started.step Sample.time (.addUser Sample.alice) trivial
    exact added.step Sample.time (.request (.grant Sample.alice none)) trivial
  let parent : RefreshToken := { Sample.first with token := "" }
  let child : RefreshToken :=
    { Sample.second Sample.alice.instanceId with token := "x", parent := some "" }
  have answer : served.1 = .ok ⟨child, none⟩ := by rfl
  have rows : tokens = [parent, child] := by rfl
  refine ⟨reached, reached.step Sample.time (.request (.exchange "")) trivial,
    ⟨_, answer, by decide⟩, parent, ?_, child, ?_, ?_, by decide, by decide⟩
  · simp [rows]
  · simp [rows]
  · exact .child (by simp [rows]) (by decide)

end RefreshChain
