import RefreshChain.Proofs.Operations
import RefreshChain.Proofs.Script

/-!
# Runs

What happens to a store over time: requests to a service, and what its surroundings do.

* `Event`, `Event.perform`: the host after an event, whatever its outcome.
* `Reached`: the hosts that runs from an empty store lead to.
* `Onward`: the hosts that runs from a given one lead to without going back to before it.
* `Onward.sound`: a property is kept by runs if it is kept by requests, and by changes of users.
-/

namespace RefreshChain

inductive Event where
  | request (r : Request)
  | revokeFamily (t : RefreshToken)
  | logout (instanceId userId : Uuid)
  /-- A transaction of the caller. -/
  | begin
  | commit
  | rollback
  | addUser (u : User)
  | changeUser (id : Uuid) (c : UserChange)
  | removeUsers (p : User → Bool)
  | addProvider (p : SsoProvider)
  | removeProviders (p : SsoProvider → Bool)
  | removeSessions (p : SsoSession → Bool)

variable {σ : Type}

namespace Event

/-- The host after an event. -/
def perform (s : Service σ) (now : Instant) (h : Host σ) : Event → Host σ
  | .request r => (s.serve now r h).2
  | .revokeFamily t => (RefreshChain.revokeFamily now t h).2
  | .logout instanceId userId => (RefreshChain.logout instanceId userId h).2
  | .begin => (Action.begin h : Except StoreError Unit × Host σ).2
  | .commit => (Action.commit h : Except StoreError Unit × Host σ).2
  | .rollback => (Action.rollback h : Except StoreError Unit × Host σ).2
  | .addUser u => (Action.write (.insertUser u) h).2
  | .changeUser id c => (Action.write (.amendUser id c) h).2
  | .removeUsers p => (Action.write (.deleteUsers p) h).2
  | .addProvider p => (Action.write (.insertProvider p) h).2
  | .removeProviders p => (Action.write (.deleteProviders p) h).2
  | .removeSessions p => (Action.write (.deleteSessions p) h).2

/-- The event does not go back to before the begin of any but the `n` oldest of the open
transactions, nor end one of those, but for a commit. A request may end them only as the store does
for want of ids. -/
def Stays (s : Service σ) (now : Instant) (n : Nat) (h : Host σ) : Event → Prop
  | .commit => True
  | .rollback => h.connection.EndsWithin n
  | e => n ≤ (e.perform s now h).connection.checkpoints.length

end Event

/-- The hosts that a run leads to from an empty store that has just been migrated. `fits` says which
events there may be, given the contents at their time. -/
inductive Reached (s : Service σ) (fits : Event → Database → Prop) : Host σ → Prop where
  | start (outside : σ) : Reached s fits ⟨.connect .migrated, outside⟩
  | step {h : Host σ} (now : Instant) (e : Event) (before : Reached s fits h)
      (fit : fits e h.connection.data) : Reached s fits (e.perform s now h)

/-- The hosts that a run leads to from `h₀`, with the number of transactions open that were open
there. No event goes back to before `h₀`. -/
inductive Onward (s : Service σ) (fits : Event → Database → Prop) (h₀ : Host σ) :
    Nat → Host σ → Prop where
  | start : Onward s fits h₀ h₀.connection.checkpoints.length h₀
  | step {n : Nat} {h : Host σ} (now : Instant) (e : Event) (before : Onward s fits h₀ n h)
      (fit : fits e h.connection.data) (stays : e.Stays s now n h) :
      Onward s fits h₀ (min n (e.perform s now h).connection.checkpoints.length) (e.perform s now h)

theorem Reached.mono {s : Service σ} {fits fits' : Event → Database → Prop} {h : Host σ}
    (hr : Reached s fits h) (hf : ∀ e db, fits e db → fits' e db) : Reached s fits' h := by
  induction hr with
  | start outside => exact .start outside
  | step now e _ fit ih => exact .step now e ih (hf _ _ fit)

/-- From an empty store there is nothing to go back to. -/
theorem Reached.onward {s : Service σ} {fits : Event → Database → Prop} {h : Host σ}
    (hr : Reached s fits h) : ∃ outside, Onward s fits ⟨.connect .migrated, outside⟩ 0 h := by
  induction hr with
  | start outside => exact ⟨outside, .start⟩
  | step now e _ fit ih =>
    obtain ⟨outside, ih⟩ := ih
    refine ⟨outside, Nat.zero_min _ ▸ .step now e ih fit ?_⟩
    cases e <;> first | exact trivial | exact Connection.endsWithin_zero _ | exact Nat.zero_le _

/-! ## What runs keep -/

/-- `P` is kept by all that happens in runs where at most the `n` oldest of the open transactions
are to be relied on. -/
structure KeptByRuns (s : Service σ) (fits : Event → Database → Prop) (n : Nat)
    (P : Database → Prop) : Prop where
  lasting : Lasting P
  request : ∀ m ≤ n, ∀ now r, (s.serve now r).Keeps m P (fits (.request r)) fun _ _ => True
  change : ∀ id c db, fits (.changeUser id c) db → P db →
    P { db with users := db.users.map fun u => if u.id = id then c.apply u else u }

theorem KeptByRuns.mono {s : Service σ} {fits : Event → Database → Prop} {n m : Nat}
    {P : Database → Prop} (hk : KeptByRuns s fits n P) (hm : m ≤ n) : KeptByRuns s fits m P :=
  ⟨hk.lasting, fun l hl => hk.request l (Nat.le_trans hl hm), hk.change⟩

section

open RefreshChain.Action (Keeps)

variable {s : Service σ} {fits : Event → Database → Prop} {n : Nat} {P Q : Database → Prop}

/-- New users do not matter to the tokens. -/
theorem Database.spared_addUser (db : Database) (u : User) :
    db.Spared { db with users := db.users ++ [u] } where
  tokens := rfl
  lastTokenId := rfl
  owners t _ v hv := by
    refine ⟨v, ?_, rfl⟩
    have hv : db.users.find? (·.id = t.userId) = some v := hv
    rw [user?, List.find?_append, hv]
    rfl

theorem addUser_keeps (hP : Lasting P) (u : User) :
    (Action.write (.insertUser u) : Action σ StoreError Unit).Keeps n P (fun _ => True)
      fun _ _ => True := by
  refine .write fun db a w hm hp _ hw => ?_
  obtain ⟨-, rfl⟩ := (Statement.insertUser_start hm).mp hw
  exact ⟨hm, hP.spared (db.spared_addUser u) hp, trivial⟩

theorem addProvider_keeps (hP : Lasting P) (p : SsoProvider) :
    (Action.write (.insertProvider p) : Action σ StoreError Unit).Keeps n P (fun _ => True)
      fun _ _ => True := by
  refine .write fun db a w hm hp _ hw => ?_
  obtain ⟨-, rfl⟩ := (Statement.insertProvider_start hm).mp hw
  have hs : db.Spared { db with providers := db.providers ++ [p] } :=
    ⟨rfl, rfl, fun _ _ u hu => ⟨u, hu, rfl⟩⟩
  exact ⟨hm, hP.spared hs hp, trivial⟩

theorem changeUser_keeps {id : Uuid} {c : UserChange}
    (hc : ∀ db, Q db → P db →
      P { db with users := db.users.map fun u => if u.id = id then c.apply u else u }) :
    (Action.write (.amendUser id c) : Action σ StoreError Nat).Keeps n P Q fun _ _ => True := by
  refine .write fun db a w hm hp hq hw => ?_
  rw [Statement.amendUser, Statement.updateUsers_start hm] at hw
  cases hw
  exact ⟨hm, by simpa using hc db hq hp, trivial⟩

/-- A deletion that leaves whole chains. -/
theorem deletion_keeps (hP : Lasting P) {st : Statement Nat} {drop : Database → Database}
    (hst : ∀ db m w, db.schema = .migrated → st.run (.start db) = .ok (m, w) → w.data = drop db)
    (hd : ∀ db : Database, db.Pruned (drop db)) (hm : ∀ db, (drop db).schema = db.schema) :
    (Action.write st : Action σ StoreError Nat).Keeps n P (fun _ => True) fun _ _ => True := by
  refine .write fun db a w hs hp _ hw => ?_
  rw [hst db a w hs hw]
  exact ⟨(hm db).trans hs, hP.pruned db _ (hd db) hp, trivial⟩

variable {h : Host σ}

/-- After an action that keeps `P`, what is still open is to be relied on. -/
theorem Action.Keeps.outcome {ε α : Type} {R : α → Database → Prop} {x : Action σ ε α}
    (hx : x.Keeps n P Q R) (hs : h.Sound n P) (hq : Q h.connection.data)
    (hn : n ≤ (x h).2.connection.checkpoints.length) :
    (x h).2.Sound (min n (x h).2.connection.checkpoints.length) P := by
  rw [Nat.min_eq_left hn]
  exact (hx hs hq rfl).1.sound hn

/-- A commit may end transactions from before; what is left open then is from before, too. -/
theorem commit_sound (hs : h.Sound n P) {c : Connection} (hc : h.connection.commit.2 = c) :
    (⟨c, h.outside⟩ : Host σ).Sound (min n c.checkpoints.length) P := by
  rcases hs.steady.commit_cases with he | ⟨level, k, outer, -, ho, he⟩
  · rw [← hc, he, Nat.min_eq_left hs.enough]
    exact ⟨hs.steady, hs.enough, hs.since⟩
  · obtain ⟨⟨newer, hk⟩, hl⟩ := Connection.outTo_some ho
    have hsuf : outer <:+ h.connection.checkpoints := ⟨newer ++ [k], by simp [hk]⟩
    rw [← hc, he]
    refine ⟨hs.steady.of_suffix hs.steady.schema hsuf hl, Nat.min_le_right _ _, hs.since.now, ?_⟩
    intro newer' k' outer' hk' hn
    have hk' : outer = newer' ++ k' :: outer' := hk'
    have hlen : outer'.length < outer.length := by rw [hk']; simp; omega
    have hn : n ≤ outer'.length := by simp only at hn; omega
    exact hs.since.saved (newer ++ k :: newer') k' outer' (by rw [hk, hk']; simp) hn

theorem Event.perform_sound (hk : KeptByRuns s fits n P) {now : Instant} {e : Event}
    (hs : h.Sound n P) (fit : fits e h.connection.data) (stays : e.Stays s now n h) :
    (e.perform s now h).Sound (min n (e.perform s now h).connection.checkpoints.length) P := by
  have hP := hk.lasting
  cases e with
  | commit =>
    unfold perform
    rw [Action.commit_apply hs.steady.closed]
    exact commit_sound hs rfl
  | rollback =>
    have hr := hs.rollback stays
    unfold perform
    rwa [Nat.min_eq_left hr.enough]
  | begin => exact (Keeps.begin (Q := fun _ => True)).outcome hs trivial stays
  | request r => exact (hk.request n (Nat.le_refl n) now r).outcome hs fit stays
  | revokeFamily t => exact (revokeFamily_keeps hP t).outcome hs trivial stays
  | logout instanceId userId => exact (logout_keeps hP instanceId userId).outcome hs trivial stays
  | addUser u => exact (addUser_keeps hP u).outcome hs trivial stays
  | addProvider p => exact (addProvider_keeps hP p).outcome hs trivial stays
  | changeUser id c => exact (changeUser_keeps (hk.change id c)).outcome hs fit stays
  | removeUsers p =>
    have hx := deletion_keeps (σ := σ) (n := n) hP
      (fun _ _ _ hm => Statement.deleteUsers_start hm (p := p))
      (fun _ => Database.pruned_dropUsers _ _) fun _ => Database.dropUsers_schema _ _
    exact hx.outcome hs trivial stays
  | removeProviders p =>
    have hx := deletion_keeps (σ := σ) (n := n) hP
      (fun _ _ _ hm => Statement.deleteProviders_start hm (p := p))
      (fun _ => Database.pruned_dropProviders _ _) fun _ => Database.dropProviders_schema _ _
    exact hx.outcome hs trivial stays
  | removeSessions p =>
    have hx := deletion_keeps (σ := σ) (n := n) hP
      (fun _ _ _ hm => Statement.deleteSessions_start hm (p := p))
      (fun _ => Database.pruned_dropSessions _ _) fun _ => Database.dropSessions_schema _ _
    exact hx.outcome hs trivial stays

/-- What runs keep holds all along. -/
theorem Onward.sound {h₀ : Host σ} (hk : KeptByRuns s fits h₀.connection.checkpoints.length P)
    (hst : h₀.connection.Steady) (hp : P h₀.connection.data) (hr : Onward s fits h₀ n h) :
    n ≤ h₀.connection.checkpoints.length ∧ h.Sound n P := by
  induction hr with
  | start =>
    refine ⟨Nat.le_refl _, hst, Nat.le_refl _, hp, fun newer k outer he hn => ?_⟩
    simp only [he, List.length_append, List.length_cons] at hn
    omega
  | step now e _ fit stays ih =>
    obtain ⟨hle, hs⟩ := ih
    exact ⟨Nat.le_trans (Nat.min_le_left _ _) hle, Event.perform_sound (hk.mono hle) hs fit stays⟩

/-- What runs keep from an empty store on holds of all that a connection may ever go back to. -/
theorem Reached.sound (hk : KeptByRuns s fits 0 P) (hp : P .migrated) (hr : Reached s fits h) :
    h.Sound 0 P := by
  obtain ⟨outside, ho⟩ := hr.onward
  exact (Onward.sound hk Connection.steady_connect hp ho).2

end

/-! ## A small store -/

namespace Sample

/-- A service with the strings `t`, `tt`, `ttt` and so on for tokens. -/
def service : Service Nat where
  generate n := (String.ofList (List.replicate (n + 1) 't'), n + 1)
  freshId n := (.ofNat n, n + 1)

def time : Instant := ⟨0, 0⟩

def alice : User where
  instanceId := .ofNat 1
  id := .ofNat 2
  email := "alice@example.test"
  createdAt := time
  updatedAt := time

def provider : SsoProvider where
  id := .ofNat 4
  createdAt := time
  updatedAt := time

/-- What the provider says about a sign-in. -/
def conditions : Conditions where
  providerId := provider.id
  notBefore := ⟨time, 0⟩
  notAfter := ⟨time, 0⟩
  initiatedByProvider := false

/-- What some events make of an empty store. -/
def after (es : List Event) : Host Nat :=
  es.foldl (fun h e => e.perform service time h) ⟨.connect .migrated, 0⟩

/-- A host where Alice has signed in and has exchanged her first token. -/
def rotated : Host Nat :=
  after [.addUser alice, .request (.grant alice none), .request (.exchange "t")]

/-- Alice's first token, once it has been exchanged. -/
def first : RefreshToken :=
  { instanceId := alice.instanceId, id := 1, token := "t", parent := none, userId := alice.id,
    ssoSessionId := none, revoked := true, createdAt := time, updatedAt := time }

/-- Alice's second token, issued to her in the given instance. -/
def second (instanceId : Uuid) : RefreshToken :=
  { instanceId, id := 2, token := "tt", parent := some "t", userId := alice.id,
    ssoSessionId := none, createdAt := time, updatedAt := time }

/-- Alice's first token while it is valid, under the last id that there is. -/
def last : RefreshToken := { first with id := Work.maxId, revoked := false }

/-- A host with that token only, where no id is left for another one. -/
def filled : Host Nat :=
  (Action.write (.insertToken last (some Work.maxId)) (after [.addUser alice])).2

/-- A service whose audit log also inserts a token and revokes all tokens. If the insertion is
refused, it carries on. -/
def heedless : Service Nat :=
  { service with
    audit := fun _ _ _ _ _ => do
      let _ ← Action.attempt (Action.write (.insertToken (second alice.instanceId) none))
      let _ ← Action.write (.updateTokens [] (fun _ => true) (·.revokedAt time)) }

end Sample

end RefreshChain
