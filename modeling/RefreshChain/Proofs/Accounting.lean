import RefreshChain.Proofs.Settling

/-!
# Rotations and their notes

A token that came from another one was rotated, and the audit log has a note of that for its user.

* `Database.rotated`, `Database.revocations`: how many such tokens there are, and how many notes.
* `Accounted`: the notes make up for the tokens, and for those that are due. One is due between the
  note and the insertion of the token; a failure in between is undone.
* `revocations_cover_rotations`: in all that runs lead to there are as many notes as tokens at
  least, and no more if none was ever deleted.
-/

namespace RefreshChain

/-! ## Counts -/

namespace Database

/-- How many tokens of a user within an instance came from others. -/
def rotated (db : Database) (instanceId userId : Uuid) : Nat :=
  db.tokens.countP fun t => t.instanceId = instanceId && t.userId = userId && t.parent.isSome

/-- How many notes say of a user within an instance that a token was revoked. -/
def revocations (db : Database) (instanceId userId : Uuid) : Nat :=
  db.audit.countP fun e => e.instanceId = instanceId && e.userId = some userId &&
    e.action = AuditAction.tokenRevoked.word

end Database

/-- What is due when nothing is. -/
def nothingDue : Uuid → Uuid → Nat := fun _ _ => 0

/-- One token of the user is due. -/
def User.due (user : User) (instanceId userId : Uuid) : Nat :=
  if user.instanceId = instanceId ∧ user.id = userId then 1 else 0

/-- What is due when a token of this origin is about to be issued to the user. -/
def Origin.due (user : User) : Origin → Uuid → Uuid → Nat
  | .signIn _ => nothingDue
  | .rotation _ => user.due

/-- What is due at a stage of a request. -/
def dueAt : Option (User × Origin) → Uuid → Uuid → Nat
  | none => nothingDue
  | some (user, origin) => origin.due user

/-- There is a note for each token that came from another, and for those that are due. If `exact`,
there are no others. -/
structure Accounted (exact : Prop) (due : Uuid → Uuid → Nat) (db : Database) : Prop where
  migrated : db.schema = .migrated
  covered : ∀ i u, db.rotated i u + due i u ≤ db.revocations i u
  noOthers : exact → ∀ i u, db.revocations i u ≤ db.rotated i u + due i u

namespace Accounted

variable {exact : Prop} {due : Uuid → Uuid → Nat} {db db' : Database}

/-- Only tokens and notes matter. -/
theorem of_eq (h : Accounted exact due db) (hs : db'.schema = db.schema)
    (ht : db'.tokens = db.tokens) (ha : db'.audit = db.audit) : Accounted exact due db' := by
  have hrot : ∀ i u, db'.rotated i u = db.rotated i u := fun i u => by
    rw [Database.rotated, ht, Database.rotated]
  have hrev : ∀ i u, db'.revocations i u = db.revocations i u := fun i u => by
    rw [Database.revocations, ha, Database.revocations]
  refine ⟨hs.trans h.migrated, fun i u => ?_, fun hx i u => ?_⟩
  · rw [hrot, hrev]
    exact h.covered i u
  · rw [hrot, hrev]
    exact h.noOthers hx i u

/-- Tokens may be removed, unless that would leave notes without tokens. -/
theorem thinned (h : Accounted exact due db) (hd : db.Thinned db')
    (hx : exact → db'.tokens = db.tokens) : Accounted exact due db' := by
  by_cases he : exact
  · exact h.of_eq hd.schema (hx he) hd.audit
  · refine ⟨hd.schema.trans h.migrated, fun i u => ?_, fun hx => absurd hx he⟩
    have hle : db'.rotated i u ≤ db.rotated i u := hd.tokens.countP_le
    have hrev : db'.revocations i u = db.revocations i u := by
      rw [Database.revocations, hd.audit, Database.revocations]
    have hc := h.covered i u
    omega

theorem revoking (h : Accounted exact due db) (now : Instant) (q : RefreshToken → Bool) :
    Accounted exact due (db.revoking now q) := by
  have hrot : ∀ i u, (db.revoking now q).rotated i u = db.rotated i u := by
    intro i u
    unfold Database.rotated Database.revoking
    rw [List.countP_map]
    congr 1
    funext t
    by_cases hq : q t = true <;> simp [hq, RefreshToken.revokedAt]
  refine ⟨h.migrated, fun i u => ?_, fun hx i u => ?_⟩
  · rw [hrot]
    exact h.covered i u
  · rw [hrot]
    exact h.noOthers hx i u

/-- With a note, a token is due. -/
theorem recording (h : Accounted exact nothingDue db) (now : Instant) (user : User) :
    Accounted exact user.due (db.recording now user) := by
  have hrev : ∀ i u, (db.recording now user).revocations i u =
      db.revocations i u + user.due i u := by
    intro i u
    unfold Database.revocations Database.recording User.due
    rw [List.countP_append]
    simp [List.countP_cons, List.countP_nil]
  refine ⟨h.migrated, fun i u => ?_, fun hx i u => ?_⟩
  · have hc := h.covered i u
    have hr : (db.recording now user).rotated i u = db.rotated i u := rfl
    rw [hrev, hr]
    unfold nothingDue at hc
    omega
  · have hc := h.noOthers hx i u
    have hr : (db.recording now user).rotated i u = db.rotated i u := rfl
    rw [hrev, hr]
    unfold nothingDue at hc
    omega

/-- With the token, nothing is due any more. -/
theorem withToken {user : User} {origin : Origin} {t : RefreshToken}
    (h : Accounted exact (origin.due user) db) (hi : t.instanceId = user.instanceId)
    (hu : t.userId = user.id) (hp : t.parent = origin.parent?) :
    Accounted exact nothingDue (db.withToken t) := by
  have hrot : ∀ i u, (db.withToken t).rotated i u = db.rotated i u + origin.due user i u := by
    intro i u
    unfold Database.rotated Database.withToken
    rw [List.countP_append]
    cases origin <;>
      simp [List.countP_cons, List.countP_nil, hi, hu, hp, Origin.due, Origin.parent?, User.due,
        nothingDue]
  refine ⟨h.migrated, fun i u => ?_, fun hx i u => ?_⟩
  · rw [hrot]
    exact h.covered i u
  · rw [hrot]
    exact h.noOthers hx i u

theorem start (exact : Prop) : Accounted exact nothingDue .migrated :=
  ⟨rfl, fun _ _ => Nat.le_refl 0, fun _ _ _ => Nat.le_refl 0⟩

end Accounted

/-! ## Runs -/

section

variable {σ : Type} {s : Service σ} {fits : Event → Database → Prop} {h : Host σ} {exact : Prop}

/-- A rotation makes its note first, then its token. -/
theorem accounted_settling (hx : exact → ∀ e db, fits e db → e.DeletesNoToken db) :
    Settling s fits fun stage => Accounted exact (dueAt stage) where
  migrated _ _ h := h.migrated
  same _ _ _ h hm ht ha := h.of_eq hm ht ha
  revoking _ _ now q h := h.revoking now q
  thinned e db _ fit h hd hno := h.thinned hd fun he => hno (hx he e db fit)
  signIn _ _ _ h := h
  noted now user _ _ h _ := h.recording now user
  minted _ _ _ _ _ _ _ h := h.withToken rfl rfl rfl

/-- In all that a run from an empty store leads to, each token that came from another one is made up
for by a note that a token of its user was revoked. There are no other notes, unless tokens were
deleted. -/
theorem revocations_cover_rotations (ha : s.audit = .table) (hu : s.users.LeavesRecords)
    (hr : Reached s fits h) {db : Database} (hd : h.connection.Reaches db)
    (instanceId userId : Uuid) :
    db.rotated instanceId userId ≤ db.revocations instanceId userId ∧
      ((∀ e db, fits e db → e.DeletesNoToken db) →
        db.revocations instanceId userId = db.rotated instanceId userId) := by
  have accounted : ∀ {exact : Prop}, (exact → ∀ e db, fits e db → e.DeletesNoToken db) →
      Accounted exact nothingDue db := fun hx =>
    ((accounted_settling hx).reached_upholds ha hu (.start _) hr).all db hd
  have hle := (accounted fun h : False => h.elim).covered instanceId userId
  refine ⟨hle, fun hx => Nat.le_antisymm ?_ hle⟩
  exact (accounted fun _ : True => hx).noOthers trivial instanceId userId

end

/-- A service whose users table is down each time that an even number of strings has been drawn. -/
def Sample.moody : Service Nat :=
  { service with
    users := fun now user => do
      UserDirectory.table now user
      if ← Action.draw fun n => (n % 2 == 0, n) then Action.fail (.custom "down") }

/-- What becomes of Alice's first token: one exchange fails at its end, the next one succeeds, and
the last one comes too late. -/
def Sample.served : List Event := [
  .addUser alice,
  .request (.grant alice none),
  .request (.exchange "t"),
  .request (.exchange "t"),
  .request (.exchange "t")]

theorem Sample.moody_leavesRecords : moody.users.LeavesRecords := fun now user R =>
  .bind (UserDirectory.table_leavesRecords now user R) fun _ => .bind (.draw _) fun b => by
    split
    · exact .fail _
    · exact .pure _

/-- Of the three exchanges one has left a token, and one a note. -/
theorem moody_revocations_cover_rotations :
    let h := Sample.served.foldl (fun h e => e.perform Sample.moody Sample.time h)
      ⟨.connect .migrated, 0⟩
    Reached Sample.moody Event.DeletesNoToken h ∧
      h.connection.data.tokens.map (·.token) = ["t", "ttt"] ∧
      h.connection.data.rotated Sample.alice.instanceId Sample.alice.id = 1 ∧
      h.connection.data.revocations Sample.alice.instanceId Sample.alice.id = 1 := by
  intro h
  have reached : Reached Sample.moody Event.DeletesNoToken h := by
    have started : Reached Sample.moody Event.DeletesNoToken ⟨.connect .migrated, 0⟩ := .start 0
    have added := started.step Sample.time (.addUser Sample.alice) trivial
    have granted := added.step Sample.time (.request (.grant Sample.alice none)) trivial
    have failed := granted.step Sample.time (.request (.exchange "t")) trivial
    have rotated := failed.step Sample.time (.request (.exchange "t")) trivial
    exact rotated.step Sample.time (.request (.exchange "t")) trivial
  have one : h.connection.data.rotated Sample.alice.instanceId Sample.alice.id = 1 := by
    decide +kernel
  have covered := revocations_cover_rotations rfl Sample.moody_leavesRecords reached (.inl rfl)
    Sample.alice.instanceId Sample.alice.id
  exact ⟨reached, by decide +kernel, one, (covered.2 fun _ _ hf => hf).trans one⟩

end RefreshChain
