import RefreshChain.Proofs.Transaction

/-!
# Connections inside transactions

The same connection twice: with nothing around it, and with what is open on it inside further
transactions.

* `Connection.InOrder`: what is believed to be open is open, and references are checked as each
  statement ends.
* `Connection.within`: the connection inside the given transactions.
* `Connection.Transparent`: a step does the same there. So do all steps (`commit_transparent` and
  its kin), but for a statement that finds no id left for a new token (`execute_transparent`).
-/

namespace RefreshChain

/-- A transaction, once `n` more are open outside of it. -/
def Checkpoint.inside (n : Nat) (k : Checkpoint) : Checkpoint := { k with level := k.level + n }

namespace Connection

/-- Open transactions, innermost first. The level of each is the number of those outside of it, and
nothing was counted at its begin. -/
def Nested : List Checkpoint → Prop
  | [] => True
  | k :: ks => k.level = ks.length ∧ k.violations = 0 ∧ Nested ks

/-- What is believed to be open is open, no dangling reference is tolerated, and the connection is
not closed. -/
structure InOrder (c : Connection) : Prop where
  nested : Nested c.checkpoints
  depth : c.depth = c.checkpoints.length
  deferred : c.deferred = false
  violations : c.violations = 0
  closed : c.closed = false

/-- What is open on the connection is open inside the transactions of `ks`. -/
def within (ks : List Checkpoint) (c : Connection) : Connection :=
  { c with
    checkpoints := c.checkpoints.map (·.inside ks.length) ++ ks
    depth := c.depth + ks.length }

variable {c c' : Connection} {k : Checkpoint} {ks outer : List Checkpoint} {α : Type}

/-! ## Order -/

theorem Nested.append {cs : List Checkpoint} (hc : Nested cs) (hk : Nested ks) :
    Nested (cs.map (·.inside ks.length) ++ ks) := by
  induction cs with
  | nil => exact hk
  | cons k cs ih =>
    obtain ⟨hl, hv, hc⟩ := hc
    refine ⟨?_, hv, ih hc⟩
    simp [Checkpoint.inside, hl]

theorem InOrder.within (h : c.InOrder) (hk : Nested ks) : (c.within ks).InOrder where
  nested := h.nested.append hk
  depth := by simp [Connection.within, h.depth]
  deferred := h.deferred
  violations := h.violations
  closed := h.closed

theorem InOrder.begin (h : c.InOrder) : c.begin.InOrder where
  nested := ⟨h.depth, h.violations, h.nested⟩
  depth := congrArg (· + 1) h.depth
  deferred := h.deferred
  violations := h.violations
  closed := h.closed

theorem InOrder.lapse (h : c.InOrder) : c.lapse = c := by
  unfold Connection.lapse
  split
  · rfl
  · rcases c with ⟨⟩
    cases h.deferred
    cases h.violations
    rfl

theorem InOrder.prepared (h : c.InOrder) (p : Purpose) : c.prepared p = c := by
  unfold Connection.prepared
  split
  · simp [h.deferred]
  · rfl

theorem InOrder.withData (h : c.InOrder) (db : Database) : (c.withData db).InOrder :=
  ⟨h.nested, h.depth, h.deferred, h.violations, h.closed⟩

theorem within_inTransaction (ho : c.checkpoints ≠ []) (ks : List Checkpoint) :
    (c.within ks).inTransaction = c.inTransaction := by
  cases hc : c.checkpoints with
  | nil => exact absurd hc ho
  | cons k cs => simp [inTransaction, within, hc]

/-- A step at `c` leaves open the transactions of `left`, and inside other transactions it does the
same. -/
structure Transparent (c : Connection) (step : Connection → Except Refusal α × Connection)
    (left : List Checkpoint) : Prop where
  inOrder : (step c).2.InOrder
  left : (step c).2.checkpoints = left
  within : ∀ ks, Nested ks → step (c.within ks) = ((step c).1, (step c).2.within ks)

/-! ## Begin and end of transactions -/

theorem begin_transparent (h : c.InOrder) :
    c.Transparent (fun c => (.ok (), c.begin)) (c.checkpoint :: c.checkpoints) :=
  ⟨h.begin, rfl, fun ks _ => by simp [begin, within, Checkpoint.inside, Nat.add_right_comm]⟩

/-- The innermost transaction is found by its level. -/
theorem outTo_innermost (hl : k.level = outer.length) :
    outTo outer.length (k :: outer) = some (k, outer) := by
  cases outer with
  | nil => rfl
  | cons k' ks => rw [List.length_cons] at hl ⊢; rw [outTo, if_pos hl]

section

variable (h : c.InOrder) (hc : c.checkpoints = k :: outer)

include h hc

theorem InOrder.rest : Nested outer := by
  have hn := h.nested
  rw [hc] at hn
  exact hn.2.2

theorem InOrder.level : k.level = outer.length ∧ k.violations = 0 := by
  have hn := h.nested
  rw [hc] at hn
  exact ⟨hn.1, hn.2.1⟩

theorem InOrder.commit :
    c.commit = (.ok (), { c with checkpoints := outer, depth := outer.length }) := by
  have hd : c.depth = outer.length + 1 := by rw [h.depth, hc, List.length_cons]
  have hout : outTo outer.length c.checkpoints = some (k, outer) :=
    hc ▸ outTo_innermost (h.level hc).1
  have hv : ¬ (outer.isEmpty ∧ 0 < c.violations) := by simp [h.violations]
  simp only [Connection.commit, hd, hout, if_neg hv]
  exact congrArg (Prod.mk _) (InOrder.lapse ⟨h.rest hc, rfl, h.deferred, h.violations, h.closed⟩)

theorem InOrder.rollback :
    c.rollback =
      (.ok (), { c.withData k.saved with checkpoints := outer, depth := outer.length }) := by
  have hd : c.depth = outer.length + 1 := by rw [h.depth, hc, List.length_cons]
  obtain ⟨hl, hv⟩ := h.level hc
  have hout : outTo outer.length c.checkpoints = some (k, outer) := hc ▸ outTo_innermost hl
  have hlast : outer.length = 0 ∨ outer ≠ [] := by
    by_cases ho : outer = []
    · exact .inl (by simp [ho])
    · exact .inr ho
  simp only [Connection.rollback, hd, hout, undone, if_pos hlast, hv, ← h.violations]
  exact congrArg (Prod.mk _) (InOrder.lapse ⟨h.rest hc, rfl, h.deferred, h.violations, h.closed⟩)

omit h in
theorem within_checkpoints (ks : List Checkpoint) : (c.within ks).checkpoints =
    k.inside ks.length :: (outer.map (·.inside ks.length) ++ ks) := by
  simp [within, hc]

theorem commit_transparent : c.Transparent Connection.commit outer := by
  refine ⟨?_, by rw [h.commit hc], fun ks hk => ?_⟩
  · rw [h.commit hc]
    exact ⟨h.rest hc, rfl, h.deferred, h.violations, h.closed⟩
  · rw [(h.within hk).commit (within_checkpoints hc ks), h.commit hc]
    simp [within]

theorem rollback_transparent : c.Transparent Connection.rollback outer := by
  refine ⟨?_, by rw [h.rollback hc], fun ks hk => ?_⟩
  · rw [h.rollback hc]
    exact ⟨h.rest hc, rfl, h.deferred, h.violations, h.closed⟩
  · rw [(h.within hk).rollback (within_checkpoints hc ks), h.rollback hc]
    simp [within, Connection.withData, Checkpoint.inside]
    rfl

end

/-! ## Statements -/

theorem look_transparent (h : c.InOrder) (tables : List Table) (f : Database → α) :
    c.Transparent (·.look tables f) c.checkpoints := by
  have hlook : ∀ d : Connection, d.InOrder → (d.look tables f).2 = d := by
    intro d hd
    unfold look
    rw [hd.lapse]
    cases tables.find? (fun t => !d.data.hasTable t) <;> rfl
  refine ⟨by rw [hlook c h]; exact h, by rw [hlook c h], fun ks hk => Prod.ext ?_ ?_⟩
  · unfold look
    cases ht : tables.find? (fun t => !c.data.hasTable t) <;> simp [within, ht]
  · rw [hlook _ (h.within hk), hlook c h]

theorem refuse_within (h : c.InOrder) (hk : Nested ks) (p : Purpose) {r : Refusal}
    (hr : r ≠ .full true) : (c.refuse p r : Except Refusal α × Connection) = (.error r, c) ∧
      ((c.within ks).refuse p r : Except Refusal α × Connection) = (.error r, c.within ks) := by
  have hall : ∀ d : Connection, d.InOrder →
      (d.refuse p r : Except Refusal α × Connection) = (.error r, d) := by
    intro d hd
    rw [refuse, hd.prepared, if_neg hr, hd.lapse]
    simp
  exact ⟨hall c h, hall _ (h.within hk)⟩

theorem settle_within (h : c.InOrder) (hk : Nested ks) {p : Purpose}
    (hin : c.checkpoints ≠ [] ∨ p = .change) (a : α) (w : Work) :
    (c.settle p a w).2.InOrder ∧
      (c.within ks).settle p a w = ((c.settle p a w).1, (c.settle p a w).2.within ks) := by
  have hl : ((c.within ks).inTransaction && p.leavesRow c.data.schema) =
      (c.inTransaction && p.leavesRow c.data.schema) := by
    rcases hin with ho | rfl
    · rw [within_inTransaction ho]
    · simp [Purpose.leavesRow]
  obtain ⟨hr, hr'⟩ := refuse_within (α := α) h hk p (r := .foreignKey) nofun
  have hlapse := (h.withData w.data).lapse
  have hlapse' := ((h.within hk).withData w.data).lapse
  unfold settle
  simp only [(h.within hk).prepared, h.prepared, (h.within hk).deferred, h.deferred,
    Bool.and_false, Bool.false_eq_true, if_false, hlapse, hlapse', hr, hr']
  have hdata : (c.within ks).data.schema = c.data.schema := rfl
  simp only [hdata, hl]
  by_cases hv : w.violations ≤ 0
  · simp only [if_pos hv]
    exact ⟨h.withData _, rfl⟩
  · simp only [if_neg hv]
    split
    · exact ⟨h.withData _, rfl⟩
    · exact ⟨h, rfl⟩

theorem refuse_full {p : Purpose} {r : Refusal}
    (run : (c.refuse p r : Except Refusal α × Connection) = (.error (.full true), c')) :
    c'.checkpoints = [] := by
  obtain ⟨hr, rfl⟩ := Prod.mk.inj run
  cases hr
  simp [Refusal.atPreparation, abandoned]

/-- A statement that finds no id left leaves nothing open. -/
theorem execute_full {s : Statement α} (run : c.execute s = (.error (.full true), c')) :
    c'.checkpoints = [] := by
  unfold execute at run
  split at run
  · exact refuse_full run
  · split at run
    · exact refuse_full run
    · unfold settle at run
      dsimp only at run
      split at run
      · cases run
      · split at run
        · cases run
        · split at run
          · cases run
          · exact refuse_full run

/-- A statement does the same inside other transactions. Where none is open at all, that is so of
changes; insertions need one. -/
theorem execute_transparent (h : c.InOrder) {s : Statement α}
    (hin : c.checkpoints ≠ [] ∨ s.purpose = .change) :
    (c.execute s).1 = .error (.full true) ∨ c.Transparent (·.execute s) c.checkpoints := by
  by_cases hfull : (c.execute s).1 = .error (.full true)
  · exact .inl hfull
  have hs : c.SameOpen (c.execute s).2 := by
    rcases execute_sameOpen_or_ended (c := c) (s := s) rfl with hs | ⟨he, -⟩
    · exact hs
    · exact absurd he hfull
  have hboth : ∀ ks, Nested ks → (c.execute s).2.InOrder ∧
      (c.within ks).execute s = ((c.execute s).1, (c.execute s).2.within ks) := by
    intro ks hk
    have hwork : (c.within ks).work s.purpose = c.work s.purpose := rfl
    rcases hrun : s.run (c.work s.purpose) with r | ⟨a, w⟩
    · have hexec : ∀ d : Connection, d.work s.purpose = c.work s.purpose →
          d.execute s = d.refuse s.purpose
            (if d.readOnly && !r.atPreparation then .readOnly else r) := by
        intro d hd
        rw [execute, hd, hrun]
      rw [hexec c rfl] at hfull ⊢
      rw [hexec _ hwork]
      have hr : (if c.readOnly && !r.atPreparation then Refusal.readOnly else r) ≠ .full true :=
        fun hr => hfull (congrArg Except.error hr)
      obtain ⟨hc, hw⟩ := refuse_within (α := α) h hk s.purpose hr
      rw [hc]
      exact ⟨h, hw⟩
    · have hexec : ∀ d : Connection, d.work s.purpose = c.work s.purpose →
          d.execute s =
            if d.readOnly && (s.purpose ≠ .definition || w.data ≠ d.data) then
              d.refuse s.purpose .readOnly
            else d.settle s.purpose a w := by
        intro d hd
        rw [execute, hd, hrun]
      rw [hexec c rfl, hexec _ hwork]
      by_cases hro : (c.readOnly && (s.purpose ≠ .definition || w.data ≠ c.data)) = true
      · obtain ⟨hc, hw⟩ := refuse_within (α := α) h hk s.purpose (r := .readOnly) nofun
        rw [if_pos hro, if_pos (by exact hro), hc]
        exact ⟨h, hw⟩
      · rw [if_neg hro, if_neg (by exact hro)]
        exact settle_within h hk hin a w
  exact .inr ⟨(hboth [] trivial).1, hs.checkpoints, fun ks hk => (hboth ks hk).2⟩

end Connection

end RefreshChain
