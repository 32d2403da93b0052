import RefreshChain.Proofs.Store.Rows

/-!
# What actions keep

`Action.Keeps n P Q x R`: where `P` holds of all contents that a steady connection shows or may go
back to while the `n` oldest of the open transactions stay open, and `Q` of those that it shows,
there `P` still holds of all of them after `x`, however `x` ends, if those transactions are still
open. If `x` succeeds, they are, and `R` holds of its result and of the contents.

There is a rule for each way to build an action. The one for statements (`Action.Keeps.write`) asks
only what a statement does that is carried out: one that is refused changes nothing, or the store
ends all transactions. With `n = 0` nothing need be known of what is left open. Otherwise the work
of a transaction has to leave open what is open (`Action.Keeps.begun`).
-/

namespace RefreshChain

/-- A steady connection on which the `n` oldest transactions are open, and `P` holds since. -/
structure Host.Sound {σ : Type} (n : Nat) (P : Database → Prop) (h : Host σ) : Prop where
  steady : h.connection.Steady
  enough : n ≤ h.connection.checkpoints.length
  since : h.connection.Since n P

/-- The same, unless those transactions have ended. -/
structure Host.SoundIfOpen {σ : Type} (n : Nat) (P : Database → Prop) (h : Host σ) : Prop where
  steady : h.connection.Steady
  since : n ≤ h.connection.checkpoints.length → h.connection.Since n P

namespace Action

variable {σ ε α β : Type}

def Keeps (n : Nat) (P Q : Database → Prop) (x : Action σ ε α) (R : α → Database → Prop) : Prop :=
  ∀ ⦃h o h'⦄, h.Sound n P → Q h.connection.data → x h = (o, h') →
    h'.SoundIfOpen n P ∧
      ∀ a, o = .ok a → n ≤ h'.connection.checkpoints.length ∧ R a h'.connection.data

end Action

section

variable {σ : Type} {n : Nat} {P : Database → Prop} {h : Host σ}

theorem Host.sound_of_steady (hst : h.connection.Steady) : h.Sound 0 fun _ => True :=
  ⟨hst, Nat.zero_le _, trivial, fun _ _ _ _ _ => trivial⟩

theorem Host.Sound.ifOpen (hs : h.Sound n P) : h.SoundIfOpen n P := ⟨hs.steady, fun _ => hs.since⟩

theorem Host.SoundIfOpen.sound (hs : h.SoundIfOpen n P) (hn : n ≤ h.connection.checkpoints.length) :
    h.Sound n P := ⟨hs.steady, hn, hs.since hn⟩

namespace Host.Sound

theorem begin (hs : h.Sound n P) :
    ({ h with connection := h.connection.begin } : Host σ).Sound n P :=
  ⟨hs.steady.begin, Nat.le_succ_of_le hs.enough, hs.since.begin⟩

theorem rollback (hs : h.Sound n P) (hw : h.connection.EndsWithin n) :
    (Action.rollback h : Except StoreError Unit × Host σ).2.Sound n P := by
  rw [Action.rollback_apply hs.steady.closed]
  obtain ⟨hst, hn, hp⟩ := hs.steady.rollback hs.enough hs.since hw
  exact ⟨hst, hn, hp⟩

theorem commit (hs : h.Sound n P) (hw : h.connection.EndsWithin n) :
    (Action.commit h : Except StoreError Unit × Host σ).2.Sound n P := by
  rw [Action.commit_apply hs.steady.closed]
  obtain ⟨hst, hn, hp⟩ := hs.steady.commit hs.enough hs.since hw
  exact ⟨hst, hn, hp⟩

end Host.Sound

end

namespace Action

variable {σ α : Type} {h : Host σ} (hst : h.connection.Steady)

include hst

/-- A statement that nothing stands in the way of. -/
theorem write_apply {s : Statement α} {a : α} {db : Database}
    (hs : s.run (.start h.connection.data) = .ok (a, .start db)) :
    (Action.write s : Action σ StoreError α) h =
      (.ok a, { h with connection := h.connection.showing db }) := by
  have hx := hst.execute_ok.mpr ⟨_, hs, Int.le_refl 0, rfl⟩
  exact onConnection_ok.mpr ⟨hst.closed, _, hx, rfl⟩

theorem read_apply (tables : List Table) (f : Database → α) :
    (Action.read tables f : Action σ StoreError α) h = (.ok (f h.connection.data), h) :=
  onConnection_ok.mpr ⟨hst.closed, _, hst.look tables f, rfl⟩

end Action

namespace Action.Keeps

variable {σ ε α β : Type} {n : Nat} {P Q : Database → Prop} {R : α → Database → Prop}
  {S : β → Database → Prop}

theorem of_sound {x : Action σ ε α}
    (hx : ∀ ⦃h o h'⦄, h.Sound n P → Q h.connection.data → x h = (o, h') →
      h'.Sound n P ∧ ∀ a, o = .ok a → R a h'.connection.data) : x.Keeps n P Q R := by
  intro h o h' hs hQ run
  obtain ⟨hs', hr⟩ := hx hs hQ run
  exact ⟨hs'.ifOpen, fun a ha => ⟨hs'.enough, hr a ha⟩⟩

/-! ## Rules -/

theorem weaken {Q' : Database → Prop} {R' : α → Database → Prop} {x : Action σ ε α}
    (hx : x.Keeps n P Q' R') (hq : ∀ db, P db → Q db → Q' db) (hr : ∀ a db, R' a db → R a db) :
    x.Keeps n P Q R := by
  intro h o h' hs hQ run
  obtain ⟨hs', hR⟩ := hx hs (hq _ hs.since.now hQ) run
  exact ⟨hs', fun a ha => ⟨(hR a ha).1, hr a _ (hR a ha).2⟩⟩

theorem pure {a : α} (hr : ∀ db, Q db → R a db) : (pure a : Action σ ε α).Keeps n P Q R := by
  refine of_sound ?_
  rintro h o h' hs hQ ⟨⟩
  refine ⟨hs, fun b hb => ?_⟩
  cases hb
  exact hr _ hQ

theorem fail (e : ε) : (fail e : Action σ ε α).Keeps n P Q R := by
  refine of_sound ?_
  rintro h o h' hs - ⟨⟩
  exact ⟨hs, by simp⟩

theorem orFail {e : ε} {o : Option α} (hr : ∀ a, o = some a → ∀ db, Q db → R a db) :
    (orFail e o : Action σ ε α).Keeps n P Q R := by
  cases o with
  | none => exact fail e
  | some a => exact pure (hr a rfl)

theorem draw {f : σ → α × σ} (hr : ∀ a db, Q db → R a db) :
    (draw f : Action σ ε α).Keeps n P Q R := by
  refine of_sound ?_
  rintro h o h' hs hQ ⟨⟩
  exact ⟨⟨hs.steady, hs.enough, hs.since⟩, fun a _ => hr a _ hQ⟩

theorem bind {x : Action σ ε α} {f : α → Action σ ε β} (hx : x.Keeps n P Q R)
    (hf : ∀ a, (f a).Keeps n P (R a) S) : (x >>= f).Keeps n P Q S := by
  intro h o h' hs hQ run
  rw [bind_apply] at run
  rcases hr : x h with ⟨e | a, h₁⟩ <;> rw [hr] at run
  · cases run
    exact ⟨(hx hs hQ hr).1, by simp⟩
  · obtain ⟨hs₁, hR⟩ := hx hs hQ hr
    obtain ⟨hn, hR⟩ := hR a rfl
    exact hf a (hs₁.sound hn) hR run

theorem during {x : Action σ StoreError α} (hx : x.Keeps n P Q R) (context : String) :
    (x.during context).Keeps n P Q R := by
  intro h o h' hs hQ run
  rcases o with e | a
  · obtain ⟨source, hr, -⟩ := during_error.mp run
    exact ⟨(hx hs hQ hr).1, by simp⟩
  · obtain ⟨hs', hR⟩ := hx hs hQ (during_ok.mp run)
    refine ⟨hs', fun b hb => ?_⟩
    cases hb
    exact hR a rfl

theorem write {s : Statement α}
    (hs : ∀ db a w, db.schema = .migrated → P db → Q db → s.run (.start db) = .ok (a, w) →
      w.data.schema = .migrated ∧ P w.data ∧ R a w.data) :
    (Action.write s : Action σ StoreError α).Keeps n P Q R := by
  intro h o h' hh hQ run
  have hrun := fun a w => hs h.connection.data a w hh.steady.schema hh.since.now hQ
  rcases o with e | a
  · refine ⟨?_, by simp⟩
    rcases onConnection_error.mp run with ⟨hc, -⟩ | ⟨-, r, c, hr, -, rfl⟩
    · rw [hh.steady.closed] at hc; cases hc
    · rcases hh.steady.execute_error hr with rfl | rfl | ⟨a, w, hw, -, rfl⟩
      · exact hh.ifOpen
      · obtain ⟨hst, hk, hP⟩ := hh.steady.abandoned
        refine ⟨hst, fun hn => ?_⟩
        have h0 : n = 0 := by simpa [hk] using hn
        subst h0
        exact hP P hh.since
      · obtain ⟨hm, hp, -⟩ := hrun a w hw
        exact ⟨hh.steady.showing hm, fun _ => hh.since.showing hp⟩
  · obtain ⟨-, c, hr, rfl⟩ := onConnection_ok.mp run
    obtain ⟨w, hw, -, rfl⟩ := hh.steady.execute_ok.mp hr
    obtain ⟨hm, hp, hR⟩ := hrun a w hw
    refine ⟨⟨hh.steady.showing hm, fun _ => hh.since.showing hp⟩, fun b hb => ?_⟩
    cases hb
    exact ⟨hh.enough, hR⟩

theorem read (tables : List Table) (f : Database → α) :
    (Action.read tables f : Action σ StoreError α).Keeps n P Q fun a db => Q db ∧ f db = a := by
  refine of_sound fun h o h' hh hQ run => ?_
  rw [read_apply hh.steady] at run
  cases run
  refine ⟨hh, fun b hb => ?_⟩
  cases hb
  exact ⟨hQ, rfl⟩

/-! ## Transactions -/

theorem begin : (Action.begin : Action σ StoreError Unit).Keeps n P Q fun _ => Q := by
  refine of_sound fun h o h' hh hQ run => ?_
  rw [begin_apply hh.steady.closed] at run
  cases run
  exact ⟨hh.begin, fun _ _ => hQ⟩

end Action.Keeps

namespace Action

variable {σ α β : Type} {n : Nat} {P Q : Database → Prop} {R : α → Database → Prop}

/-- Where a transaction has been begun, `y` keeps `P`. It may end the transaction. -/
def Closes (n : Nat) (P : Database → Prop) (y : Action σ Error β) : Prop :=
  ∀ ⦃h o h'⦄, h.Sound n P → h.connection.EndsWithin n → y h = (o, h') →
    h'.SoundIfOpen n P ∧ ∀ b, o = .ok b → n ≤ h'.connection.checkpoints.length

theorem Closes.finish (o : Except Error α) : (Action.finish o : Action σ Error α).Closes n P := by
  intro h o' h' hh hw run
  have hs : h'.Sound n P := by
    cases o with
    | error e =>
      rw [finish_error] at run
      cases run
      exact hh.rollback hw
    | ok a =>
      have hs := hh.commit hw
      rcases hc : (Action.commit h : Except StoreError Unit × Host σ) with ⟨e | ⟨⟩, h₁⟩ <;>
        rw [hc] at hs
      · rw [Action.finish, bind_of_error (during_of_error hc)] at run
        cases run
        exact hs
      · rw [Action.finish, bind_of_ok (during_ok.mpr hc)] at run
        cases run
        exact hs
  exact ⟨hs.ifOpen, fun _ _ => hs.enough⟩

/-- What runs in a transaction and is closed by it. If the transaction may be lost on the way, none
of the older ones may be relied on. -/
theorem Keeps.begun {x : Action σ Error α} {k : Except Error α → Action σ Error β}
    {context : String} (hx : x.Keeps n P Q R) (hl : n = 0 ∨ ∃ ends, x.LeavesOpen ends)
    (hk : ∀ a, (k (.ok a)).Closes n P) (he : ∀ e, k (.error e) = Action.finish (.error e)) :
    (Action.begin.during context >>= fun _ => Action.attempt x >>= k).Keeps n P Q
      fun _ _ => True := by
  intro h o h' hh hQ run
  rw [bind_of_ok (during_ok.mpr (begin_apply hh.steady.closed)),
    bind_of_ok (attempt_apply x)] at run
  rcases hr : x { h with connection := h.connection.begin } with ⟨o₁, h₁⟩
  rw [hr] at run
  obtain ⟨hs₁, hR⟩ := hx hh.begin hQ hr
  by_cases hopen : n ≤ h₁.connection.checkpoints.length ∧ h₁.connection.EndsWithin n
  · have hclose : (k o₁).Closes n P := by
      cases o₁ with
      | ok a => exact hk a
      | error e => rw [he]; exact .finish _
    obtain ⟨hs', hn⟩ := hclose (hs₁.sound hopen.1) hopen.2 run
    exact ⟨hs', fun b hb => ⟨hn b hb, trivial⟩⟩
  · -- The store has ended all transactions, so nothing is left to roll back.
    obtain ⟨ends, hl⟩ := hl.resolve_left fun h0 =>
      hopen (h0 ▸ ⟨Nat.zero_le _, Connection.endsWithin_zero _⟩)
    rcases hl hr with hs | ⟨⟨e, rfl, -⟩, hended⟩
    · have hlen : n ≤ h₁.connection.checkpoints.length := hs.checkpoints ▸ hh.begin.enough
      exact absurd ⟨hlen, hs.endsWithin hh.steady.tracked hh.enough⟩ hopen
    · rw [he, finish_error, rollback_of_ended hh.steady.closed hended] at run
      cases run
      refine ⟨?_, by simp⟩
      rw [Connection.lapse_eq hs₁.steady.deferred hs₁.steady.violations]
      exact hs₁

theorem Keeps.transaction {x : Action σ Error α} (hx : x.Keeps n P Q R)
    (hl : n = 0 ∨ ∃ ends, x.LeavesOpen ends) :
    (Action.transaction x).Keeps n P Q fun _ _ => True :=
  .begun hx hl (fun _ => .finish _) fun _ => rfl

end Action

end RefreshChain
