import RefreshChain.Proofs.Success

/-!
# What all reachable contents have in common

A property of the contents that a connection shows and of all that it may go back to, on any
connection. Work may break it for a while, as long as the work is undone unless it mends it.

* `Connection.Reaches`: what the connection shows or may go back to. Ending transactions leads to
  nothing else, nor does a statement that is refused.
* `Action.Upholds`: an action keeps the property, with a rule for each way to build one.
* `Action.Settles`: work in a transaction that ends with the property, or fails with the transaction
  open. `Action.Settles.opened`: in the end the property holds again.
-/

namespace RefreshChain

/-! ## Connections -/

namespace Connection

variable {c : Connection} {db : Database}

/-- The connection shows these contents, or may go back to them. -/
def Reaches (c : Connection) (db : Database) : Prop :=
  db = c.data ∨ ∃ k ∈ c.checkpoints, db = k.saved

theorem reaches_committed (c : Connection) : c.Reaches c.committed := by
  unfold committed
  cases hl : c.checkpoints.getLast? with
  | none => exact .inl rfl
  | some k => exact .inr ⟨k, List.mem_of_getLast? hl, rfl⟩

theorem Reaches.of_lapse (h : c.lapse.Reaches db) : c.Reaches db := by
  rcases h with h | ⟨k, hk, h⟩
  · exact .inl (h.trans (lapse_data c))
  · exact .inr ⟨k, lapse_checkpoints c ▸ hk, h⟩

theorem Reaches.of_undone {level : Nat} {k : Checkpoint} {outer : List Checkpoint}
    (ho : outTo level c.checkpoints = some (k, outer)) (h : (c.undone level k outer).Reaches db) :
    c.Reaches db := by
  obtain ⟨⟨newer, hk⟩, -⟩ := outTo_some ho
  rcases h with h | ⟨k', hk', h⟩
  · exact .inr ⟨k, by simp [hk], h.trans (undone_data _ _ _ _)⟩
  · refine .inr ⟨k', ?_, h⟩
    rw [undone_checkpoints] at hk'
    rw [hk]
    split at hk' <;> simp_all

theorem Reaches.of_begin (h : c.begin.Reaches db) : c.Reaches db := by
  rcases h with h | ⟨k, hk, h⟩
  · exact .inl h
  · rcases List.mem_cons.mp hk with rfl | hk
    · exact .inl h
    · exact .inr ⟨k, hk, h⟩

theorem Reaches.of_commit (h : c.commit.2.Reaches db) : c.Reaches db := by
  unfold commit at h
  split at h
  · exact h
  · split at h
    · exact h.of_lapse
    · rename_i k outer ho
      split at h
      · exact h.of_undone ho
      · obtain ⟨⟨newer, hk⟩, -⟩ := outTo_some ho
        rcases h.of_lapse with h | ⟨k', hk', h⟩
        · exact .inl h
        · exact .inr ⟨k', by rw [hk]; exact List.mem_append_right _ (.tail _ hk'), h⟩

theorem Reaches.of_rollback (h : c.rollback.2.Reaches db) : c.Reaches db := by
  unfold rollback at h
  split at h
  · exact h
  · split at h
    · exact h.of_lapse
    · exact h.of_undone ‹_›

theorem Reaches.of_abandoned (h : c.abandoned.Reaches db) : c.Reaches db := by
  rcases h.of_lapse with h | ⟨k, hk, -⟩
  · exact h ▸ reaches_committed c
  · cases hk

theorem Reaches.of_prepared {p : Purpose} (h : (c.prepared p).Reaches db) : c.Reaches db := by
  unfold prepared at h
  split at h
  · split at h <;> exact h
  · exact h

theorem Reaches.of_refuse {α : Type} {p : Purpose} {r : Refusal}
    (h : (c.refuse p r : Except Refusal α × Connection).2.Reaches db) : c.Reaches db := by
  unfold refuse at h
  dsimp only at h
  split at h
  · exact h
  · split at h
    · exact h.of_abandoned.of_prepared
    · exact h.of_lapse.of_prepared

theorem Reaches.of_look {α : Type} {tables : List Table} {f : Database → α}
    (h : (c.look tables f).2.Reaches db) : c.Reaches db := by
  unfold look at h
  split at h
  · exact h
  · exact h.of_lapse

theorem Reaches.of_settle {α : Type} {p : Purpose} {a : α} {w : Work}
    (h : (c.settle p a w).2.Reaches db) : c.Reaches db ∨ db = w.data := by
  have changed : ∀ {c' : Connection}, c'.Reaches db → c'.data = w.data →
      c'.checkpoints = (c.prepared p).checkpoints → c.Reaches db ∨ db = w.data := by
    rintro c' (h | ⟨k, hmem, h⟩) hd hk
    · exact .inr (h.trans hd)
    · exact .inl (Reaches.of_prepared (.inr ⟨k, hk ▸ hmem, h⟩))
  unfold settle at h
  dsimp only at h
  split at h
  · exact changed h rfl rfl
  · split at h
    · exact changed h (by simp [withData]) (by simp [withData])
    · split at h
      · exact changed h rfl rfl
      · exact .inl h.of_refuse

/-- A statement leads to what it makes of the contents, if to anything new. -/
theorem Reaches.of_execute {α : Type} {s : Statement α} (h : (c.execute s).2.Reaches db) :
    c.Reaches db ∨ ∃ a w, s.run (c.work s.purpose) = .ok (a, w) ∧ db = w.data := by
  unfold execute at h
  split at h
  · exact .inl h.of_refuse
  · rename_i a w hw
    split at h
    · exact .inl h.of_refuse
    · exact Or.imp_right (fun hd => ⟨a, w, hw, hd⟩) h.of_settle

end Connection

/-! ## Actions -/

/-- `P` holds of all that the connection shows or may go back to. -/
structure Host.Upholds {σ : Type} (P : Database → Prop) (h : Host σ) : Prop where
  tracked : h.connection.Tracked
  all : ∀ db, h.connection.Reaches db → P db

/-- `P` holds after a statement if it holds of what the statement makes of the contents. -/
theorem Host.Upholds.write {σ α : Type} {P : Database → Prop} {h : Host σ} {s : Statement α}
    {E : Database → α → Database → Prop} (hp : h.Upholds P) (hs : s.Makes E)
    (hm : h.connection.data.schema = .migrated) (hE : ∀ a db', E h.connection.data a db' → P db') :
    (Action.write s h).2.Upholds P := by
  cases hc : h.connection.closed with
  | true => rwa [Action.write, Action.onConnection, hc]
  | false =>
    rw [Action.write, Action.onConnection_apply hc]
    refine ⟨hp.tracked.execute s, fun db hd => ?_⟩
    rcases hd.of_execute with hd | ⟨a, w, hw, rfl⟩
    · exact hp.all _ hd
    · exact hE _ _ (hs (w := h.connection.work s.purpose) hm hw).2

namespace Action

variable {σ ε α β : Type} {P Q : Database → Prop}

/-- `x` keeps `P`, however it ends. -/
def Upholds (P : Database → Prop) (x : Action σ ε α) : Prop :=
  ∀ ⦃h⦄, h.Upholds P → (x h).2.Upholds P

namespace Upholds

theorem of_iff {x : Action σ ε α} (hx : x.Upholds P) (hi : ∀ db, P db ↔ Q db) : x.Upholds Q :=
  funext (fun db => propext (hi db)) ▸ hx

theorem pure (a : α) : (Pure.pure a : Action σ ε α).Upholds P := fun _ hp => hp

theorem fail (e : ε) : (Action.fail e : Action σ ε α).Upholds P := fun _ hp => hp

theorem draw (f : σ → α × σ) : (Action.draw f : Action σ ε α).Upholds P :=
  fun _ hp => ⟨hp.tracked, hp.all⟩

theorem bind {x : Action σ ε α} {f : α → Action σ ε β} (hx : x.Upholds P)
    (hf : ∀ a, (f a).Upholds P) : (x >>= f).Upholds P := by
  intro h hp
  have hx := hx hp
  rw [bind_apply]
  rcases hr : x h with ⟨e | a, h₁⟩ <;> rw [hr] at hx
  · exact hx
  · exact hf a hx

theorem attempt {ε' : Type} {x : Action σ ε α} (hx : x.Upholds P) :
    (Action.attempt x : Action σ ε' (Except ε α)).Upholds P :=
  fun _ hp => hx hp

theorem during {x : Action σ StoreError α} (hx : x.Upholds P) (context : String) :
    (x.during context).Upholds P := by
  intro h hp
  have hx := hx hp
  unfold Action.during mapError
  rcases hr : x h with ⟨_ | _, _⟩ <;> rw [hr] at hx <;> exact hx

theorem onConnection {kind : Fault → StoreError}
    {step : Connection → Except Refusal α × Connection}
    (ht : ∀ c, c.Tracked → (step c).2.Tracked)
    (hs : ∀ c db, (∀ db, c.Reaches db → P db) → (step c).2.Reaches db → P db) :
    (Action.onConnection kind step : Action σ StoreError α).Upholds P := by
  intro h hp
  cases hc : h.connection.closed with
  | true => rwa [Action.onConnection, hc]
  | false =>
    rw [onConnection_apply hc]
    exact ⟨ht _ hp.tracked, fun db hd => hs _ db hp.all hd⟩

theorem commit : (Action.commit : Action σ StoreError Unit).Upholds P :=
  onConnection (fun _ ht => ht.commit) fun _ _ hp hd => hp _ hd.of_commit

theorem rollback : (Action.rollback : Action σ StoreError Unit).Upholds P :=
  onConnection (fun _ ht => ht.rollback) fun _ _ hp hd => hp _ hd.of_rollback

theorem begin : (Action.begin : Action σ StoreError Unit).Upholds P :=
  onConnection (fun c _ => c.tracked_begin) fun _ _ hp hd => hp _ hd.of_begin

/-- A statement keeps what is kept where it succeeds. -/
theorem write {s : Statement α} {E : Database → α → Database → Prop} (hs : s.Makes E)
    (hm : ∀ db, P db → db.schema = .migrated) (hE : ∀ db a db', P db → E db a db' → P db') :
    (Action.write s : Action σ StoreError α).Upholds P :=
  fun _ hp => hp.write hs (hm _ (hp.all _ (.inl rfl))) fun a db' =>
    hE _ a db' (hp.all _ (.inl rfl))

theorem finish (o : Except Error α) : (Action.finish o).Upholds (σ := σ) P := by
  cases o with
  | ok a => exact .bind (.during .commit _) fun _ => .pure a
  | error e => exact .bind (.attempt .rollback) fun _ => .fail e

end Upholds

/-! ## Work in a transaction -/

/-- In a transaction, `P` holds after `x` if `Q` did before it and `P` of all that the connection
may go back to, unless `x` fails and leaves the transaction open. -/
def Settles (P Q : Database → Prop) (x : Action σ ε α) : Prop :=
  ∀ ⦃h o h'⦄, h.connection.Tracked → h.connection.checkpoints ≠ [] →
    (∀ k ∈ h.connection.checkpoints, P k.saved) → Q h.connection.data → x h = (o, h') →
    h'.Upholds P ∨ (∃ e, o = .error e) ∧ h.connection.SameOpen h'.connection

namespace Settles

theorem of_upholds {x : Action σ ε α} (hx : x.Upholds P) (hq : ∀ db, Q db → P db) :
    x.Settles P Q := by
  intro h o h' ht _ hk hQ run
  have hp : h.Upholds P := by
    refine ⟨ht, fun db hd => ?_⟩
    rcases hd with rfl | ⟨k, hmem, rfl⟩
    · exact hq _ hQ
    · exact hk k hmem
  have hx := hx hp
  rw [run] at hx
  exact .inl hx

theorem of_imp {Q' : Database → Prop} {x : Action σ ε α} (hx : x.Settles P Q')
    (hq : ∀ db, Q db → Q' db) : x.Settles P Q :=
  fun _ _ _ ht ho hk hQ run => hx ht ho hk (hq _ hQ) run

theorem fail (e : ε) : (Action.fail e : Action σ ε α).Settles P Q := by
  rintro h o h' - - - - ⟨⟩
  exact .inr ⟨⟨e, rfl⟩, .refl _⟩

/-- A step that fails leaves the transaction open, or the store has ended all transactions. -/
theorem bind {x : Action σ Error α} {f : α → Action σ Error β} {E : Database → α → Database → Prop}
    {R : α → Database → Prop} (hx : x.Makes E) (hl : x.LeavesOpen (Error.EndsAll fun _ => False))
    (hm : ∀ db, Q db → db.schema = .migrated) (hE : ∀ db a db', Q db → E db a db' → R a db')
    (hf : ∀ a, (f a).Settles P (R a)) : (x >>= f).Settles P Q := by
  intro h o h' ht ho hk hQ run
  rw [bind_apply] at run
  rcases hr : x h with ⟨e | a, h₁⟩ <;> rw [hr] at run
  · cases run
    rcases hl hr with hs | ⟨-, he⟩
    · exact .inr ⟨⟨e, rfl⟩, hs⟩
    · refine .inl ⟨fun _ => he.none_open, ?_⟩
      rintro db (rfl | ⟨k, hmem, -⟩)
      · obtain ⟨k, hlast⟩ := Option.isSome_iff_exists.mp (List.getLast?_isSome.mpr ho)
        rw [he.data, Connection.committed, hlast]
        exact hk k (List.mem_of_getLast? hlast)
      · rw [he.none_open] at hmem
        cases hmem
  · have hs := hl.of_ok hr
    obtain ⟨-, hR⟩ := hx (hm _ hQ) hr
    rcases hf a (hs.tracked ht) (hs.checkpoints ▸ ho) (hs.checkpoints ▸ hk) (hE _ _ _ hQ hR) run
      with hp | ⟨he, hs'⟩
    · exact .inl hp
    · exact .inr ⟨he, hs.trans hs'⟩

theorem look {x : Action σ Error α} {f : α → Action σ Error β} (hx : x.Looks)
    (hl : x.LeavesOpen (Error.EndsAll fun _ => False)) (hm : ∀ db, Q db → db.schema = .migrated)
    (hf : ∀ a, (f a).Settles P Q) : (x >>= f).Settles P Q :=
  .bind (.of_looks hx) hl hm (fun _ _ _ hq hd => hd ▸ hq) hf

theorem followed {x : Action σ ε α} {f : α → Action σ ε β} (hx : x.Settles P Q)
    (hf : ∀ a, (f a).Upholds P) : (x >>= f).Settles P Q := by
  intro h o h' ht ho hk hQ run
  rw [bind_apply] at run
  rcases hr : x h with ⟨e | a, h₁⟩ <;> rw [hr] at run
  · cases run
    exact (hx ht ho hk hQ hr).imp_right fun he => ⟨⟨e, rfl⟩, he.2⟩
  · rcases hx ht ho hk hQ hr with hp | ⟨⟨_, he⟩, -⟩
    · have run : f a h₁ = (o, h') := run
      have hp := hf a hp
      rw [run] at hp
      exact .inl hp
    · cases he

/-- Where work does not come to, there is nothing to settle. -/
theorem of_never {x : Action σ ε α} (hq : ∀ db, ¬Q db) : x.Settles P Q :=
  fun _ _ _ _ _ _ hQ => absurd hQ (hq _)

end Settles

/-- Work that settles, in a transaction that is closed by what comes after it. -/
theorem Settles.opened {x : Action σ Error α} {k : Except Error α → Action σ Error β}
    {context : String} {h : Host σ} (hx : x.Settles P Q) (hk : ∀ o, (k o).Upholds P)
    (he : ∀ e, k (.error e) = Action.finish (.error e)) (hp : h.Upholds P)
    (hq : Q h.connection.data) :
    ((Action.begin.during context >>= fun _ => Action.attempt x >>= k) h).2.Upholds P := by
  cases hc : h.connection.closed with
  | true =>
    rw [bind_of_error (during_of_error (begin_closed hc))]
    exact hp
  | false =>
    rw [bind_of_ok (during_ok.mpr (begin_apply hc)), bind_of_ok (attempt_apply x)]
    have hsaved : ∀ k ∈ h.connection.begin.checkpoints, P k.saved := fun k hmem =>
      hp.all _ (Connection.Reaches.of_begin (.inr ⟨k, hmem, rfl⟩))
    rcases hr : x { h with connection := h.connection.begin } with ⟨o, h₁⟩
    rcases hx (h := { h with connection := h.connection.begin }) h.connection.tracked_begin
      (List.cons_ne_nil _ _) hsaved hq hr with hp₁ | ⟨⟨e, rfl⟩, hs⟩
    · exact hk o hp₁
    · -- The work is undone, and what it left is forgotten.
      rw [he, finish_error, rollback_of_sameOpen hc hp.tracked hs]
      refine ⟨Connection.tracked_undone (Connection.outTo_begin hp.tracked), fun db hd => ?_⟩
      refine hp.all db ?_
      rcases hd with rfl | ⟨k, hmem, rfl⟩
      · exact .inl (Connection.undone_data _ _ _ _)
      · rcases Connection.undone_open h.connection h₁.connection with hopen | ⟨-, hopen⟩
        · exact .inr ⟨k, hopen ▸ hmem, rfl⟩
        · rw [hopen, List.mem_singleton] at hmem
          exact .inl (by rw [hmem]; rfl)

theorem Settles.transaction {x : Action σ Error α} {h : Host σ} (hx : x.Settles P Q)
    (hp : h.Upholds P) (hq : Q h.connection.data) : (Action.transaction x h).2.Upholds P :=
  hx.opened .finish (fun _ => rfl) hp hq

end Action

end RefreshChain
