import RefreshChain.Proofs.Nesting.Within

/-!
# Plain actions

What a collaborator may do within the transaction that it is given, whatever it is for: read and
write rows, fail, go on after a failure, and nest transactions of its own.

* `Action.Plain`: the actions that are put together from these.
* `Action.Plain.sheltered`: inside other transactions a plain action does the same, unless the store
  ends all transactions under it.
* `Connection.Drifting`: how one can tell that the store did that. No plain action can undo it
  (`Action.Plain.drifts`).
-/

namespace RefreshChain

namespace Action

/-- Actions put together from statements, looks, draws from the own source, and failures. They end
no transaction but those that they have begun, and do not put off the check of references. To
switch the check on or off has no effect while a transaction is open. -/
inductive Plain {σ : Type} : {ε α : Type} → Action σ ε α → Prop where
  | pure {ε α : Type} (a : α) : Plain (Pure.pure a : Action σ ε α)
  | fail {ε α : Type} (e : ε) : Plain (fail e : Action σ ε α)
  | draw {ε α : Type} (f : σ → α × σ) : Plain (draw f : Action σ ε α)
  | write {α : Type} (s : Statement α) : Plain (write s)
  | read {α : Type} (tables : List Table) (f : Database → α) : Plain (read tables f)
  | enforce (on : Bool) : Plain (adjust (Connection.enforce · on))
  | bind {ε α β : Type} {x : Action σ ε α} {f : α → Action σ ε β} (first : Plain x)
      (next : ∀ a, Plain (f a)) : Plain (x >>= f)
  | attempt {ε ε' α : Type} {x : Action σ ε α} (work : Plain x) :
      Plain (attempt x : Action σ ε' (Except ε α))
  | mapError {ε ε' α : Type} {x : Action σ ε α} (f : ε → ε') (work : Plain x) :
      Plain (x.mapError f)
  | transaction {α : Type} {x : Action σ Error α} (work : Plain x) : Plain (transaction x)

namespace Plain

variable {σ α : Type}

theorem during {x : Action σ StoreError α} (hx : x.Plain) (context : String) :
    (x.during context).Plain :=
  .mapError _ hx

theorem orFail {ε : Type} (e : ε) (o : Option α) : (Action.orFail e o : Action σ ε α).Plain := by
  cases o with
  | none => exact .fail e
  | some a => exact .pure a

end Plain

end Action

/-! ## Lost transactions -/

namespace Connection

variable {c c' : Connection} {d : Nat} {α : Type}

/-- The transactions with a level below `d` have been lost, but are believed to be open. -/
structure Drifting (d : Nat) (c : Connection) : Prop where
  depth : d ≤ c.depth
  levels : ∀ k ∈ c.checkpoints, d ≤ k.level

theorem Drifting.of_sameOpen (h : c.Drifting d) (hs : c.SameOpen c') : c'.Drifting d :=
  ⟨hs.depth ▸ h.depth, hs.checkpoints ▸ h.levels⟩

theorem Ended.drifting (h : c.Ended c') (hd : d ≤ c.depth) : c'.Drifting d :=
  ⟨h.depth ▸ hd, by simp [h.none_open]⟩

theorem Drifting.begin (h : c.Drifting d) : c.begin.Drifting d := by
  refine ⟨Nat.le_succ_of_le h.depth, fun k hk => ?_⟩
  rcases List.mem_cons.mp hk with rfl | hk
  · exact h.depth
  · exact h.levels k hk

/-- What the end of a transaction leaves open was open before. -/
theorem Drifting.undone (h : c.Drifting d) {level : Nat} {k : Checkpoint} {outer : List Checkpoint}
    (ho : outTo level c.checkpoints = some (k, outer)) (hd : d ≤ level) :
    (c.undone level k outer).Drifting d := by
  obtain ⟨⟨newer, hk⟩, -⟩ := outTo_some ho
  refine ⟨by rwa [undone_depth], fun k' hk' => h.levels k' ?_⟩
  rw [undone_checkpoints] at hk'
  split at hk' <;> simp_all

theorem Drifting.commit (h : c.Drifting d) (hd : d + 1 ≤ c.depth) :
    c.commit.2.Drifting d ∧ c.depth ≤ c.commit.2.depth + 1 := by
  unfold Connection.commit
  split
  · omega
  · rename_i level hl
    split
    · exact ⟨h.of_sameOpen (sameOpen_lapse c), by simp⟩
    · rename_i ho
      split
      · exact ⟨h.undone ho (by omega), by rw [undone_depth]; omega⟩
      · obtain ⟨⟨newer, hk⟩, -⟩ := outTo_some ho
        refine ⟨⟨by rw [lapse_depth]; simp only; omega, fun k' hk' => h.levels k' ?_⟩, ?_⟩
        · rw [lapse_checkpoints] at hk'
          rw [hk]
          exact List.mem_append_right _ (.tail _ hk')
        · rw [lapse_depth]
          simp only
          omega

theorem Drifting.rollback (h : c.Drifting d) (hd : d + 1 ≤ c.depth) :
    c.rollback.2.Drifting d ∧ c.depth ≤ c.rollback.2.depth + 1 := by
  unfold Connection.rollback
  split
  · omega
  · rename_i level hl
    split
    · exact ⟨h.of_sameOpen (sameOpen_lapse c), by simp⟩
    · rename_i ho
      exact ⟨h.undone ho (by omega), by rw [undone_depth]; omega⟩

/-- Where all is in order, the innermost transaction is not lost. -/
theorem InOrder.not_drifting (h : c.InOrder) (ho : c.checkpoints ≠ []) : ¬ c.Drifting c.depth := by
  intro hd
  obtain ⟨k, ks, hk⟩ := List.exists_cons_of_ne_nil ho
  have hlevel := (h.level hk).1
  have hle := hd.levels k (by simp [hk])
  rw [h.depth, hk, List.length_cons] at hle
  omega

end Connection

/-! ## Plain actions where transactions are lost -/

namespace Action

variable {σ ε ε' α β : Type}

/-- `x` gets no lost transaction back, and as many are believed to be open after it, if not more. -/
def Drifts (x : Action σ ε α) : Prop :=
  ∀ ⦃h⦄, (∀ d, h.connection.Drifting d → (x h).2.connection.Drifting d) ∧
    h.connection.depth ≤ (x h).2.connection.depth

namespace Drifts

theorem of_same {x : Action σ ε α} (hx : ∀ h, (x h).2.connection = h.connection) : x.Drifts := by
  intro h
  rw [hx]
  exact ⟨fun _ hd => hd, Nat.le_refl _⟩

theorem onConnection {kind : Fault → StoreError}
    {step : Connection → Except Refusal α × Connection}
    (hs : ∀ c, (∀ d, c.Drifting d → (step c).2.Drifting d) ∧ c.depth ≤ (step c).2.depth) :
    (Action.onConnection kind step : Action σ StoreError α).Drifts := by
  intro h
  rw [onConnection_connection]
  split
  · exact ⟨fun _ hd => hd, Nat.le_refl _⟩
  · exact hs h.connection

theorem write (s : Statement α) : (Action.write s : Action σ StoreError α).Drifts := by
  refine onConnection fun c => ?_
  rcases Connection.execute_sameOpen_or_ended (c := c) (s := s) rfl with
    hs | ⟨-, he⟩
  · exact ⟨fun d hd => hd.of_sameOpen hs, Nat.le_of_eq hs.depth.symm⟩
  · exact ⟨fun d hd => he.drifting hd.depth, Nat.le_of_eq he.depth.symm⟩

theorem read (tables : List Table) (f : Database → α) :
    (Action.read tables f : Action σ StoreError α).Drifts := by
  refine onConnection fun c => ?_
  have hs : c.SameOpen (c.look tables f).2 := Connection.look_sameOpen rfl
  exact ⟨fun d hd => hd.of_sameOpen hs, Nat.le_of_eq hs.depth.symm⟩

theorem enforce (on : Bool) :
    (Action.adjust (Connection.enforce · on) : Action σ StoreError Unit).Drifts :=
  onConnection fun _ => ⟨fun _ hd => ⟨hd.depth, hd.levels⟩, Nat.le_refl _⟩

theorem bind {x : Action σ ε α} {f : α → Action σ ε β} (hx : x.Drifts) (hf : ∀ a, (f a).Drifts) :
    (x >>= f).Drifts := by
  intro h
  obtain ⟨hd, hle⟩ := hx (h := h)
  rw [bind_apply]
  rcases hr : x h with ⟨e | a, h₁⟩ <;> rw [hr] at hd hle
  · exact ⟨hd, hle⟩
  · obtain ⟨hd', hle'⟩ := hf a (h := h₁)
    exact ⟨fun d h0 => hd' d (hd d h0), Nat.le_trans hle hle'⟩

theorem mapError {x : Action σ ε α} (hx : x.Drifts) (f : ε → ε') : (x.mapError f).Drifts := by
  intro h
  obtain ⟨hd, hle⟩ := hx (h := h)
  unfold Action.mapError
  rcases hr : x h with ⟨e | a, h₁⟩ <;> rw [hr] at hd hle <;> exact ⟨hd, hle⟩

end Drifts

theorem finish_ok_host (a : α) (h : Host σ) :
    (finish (.ok a) h : Except Error α × Host σ).2 =
      (commit h : Except StoreError Unit × Host σ).2 := by
  rw [finish, bind_apply]
  unfold during mapError
  rcases (commit h : Except StoreError Unit × Host σ) with ⟨_ | _, _⟩ <;> rfl

/-- The end of a transaction, where it or one outside of it is lost. -/
theorem finish_drifting {h : Host σ} {d : Nat} (o : Except Error α)
    (hd : h.connection.Drifting d) (hle : d + 1 ≤ h.connection.depth) :
    (finish o h).2.connection.Drifting d ∧
      h.connection.depth ≤ (finish o h).2.connection.depth + 1 := by
  cases o with
  | error e =>
    rw [finish_error, rollback, onConnection_connection]
    split
    · exact ⟨hd, Nat.le_succ _⟩
    · exact hd.rollback hle
  | ok a =>
    rw [finish_ok_host, commit, onConnection_connection]
    split
    · exact ⟨hd, Nat.le_succ _⟩
    · exact hd.commit hle

theorem Drifts.transaction {x : Action σ Error α} (hx : x.Drifts) : (transaction x).Drifts := by
  intro h
  cases hc : h.connection.closed with
  | true =>
    rw [transaction_closed _ hc]
    exact ⟨fun _ hd => hd, Nat.le_refl _⟩
  | false =>
    rw [transaction_apply x hc]
    obtain ⟨hd, hle⟩ := hx (h := { h with connection := h.connection.begin })
    replace hle : h.connection.depth + 1 ≤
      (x { h with connection := h.connection.begin }).2.connection.depth := hle
    refine ⟨fun d h0 => ?_, ?_⟩
    · have hlow := h0.depth
      exact (finish_drifting _ (hd d h0.begin) (by omega)).1
    · -- With `d = 0` nothing is said about levels, and the depth alone is followed.
      have hzero : h.connection.begin.Drifting 0 := ⟨Nat.zero_le _, fun _ _ => Nat.zero_le _⟩
      have := (finish_drifting (x { h with connection := h.connection.begin }).1 (hd 0 hzero)
        (by omega)).2
      omega

theorem Plain.drifts {x : Action σ ε α} (hx : x.Plain) : x.Drifts := by
  induction hx with
  | pure a => exact .of_same fun _ => rfl
  | fail e => exact .of_same fun _ => rfl
  | draw f => exact .of_same fun _ => rfl
  | write s => exact .write s
  | read tables f => exact .read tables f
  | enforce on => exact .enforce on
  | bind _ _ hx hf => exact hx.bind hf
  | attempt _ hx => exact fun h => hx (h := h)
  | mapError f _ hx => exact hx.mapError f
  | transaction _ hx => exact hx.transaction

end Action

/-! ## Plain actions where all is in order -/

/-- The host, with what is open on its connection inside the transactions of `ks`. -/
def Host.within {σ : Type} (ks : List Checkpoint) (h : Host σ) : Host σ :=
  { h with connection := h.connection.within ks }

namespace Action

variable {σ ε ε' α β : Type} {h h₁ : Host σ} {left : List Checkpoint}

open Connection (Nested)

/-- At `h`, `x` leaves open the transactions of `left`, and inside other transactions it does the
same. -/
structure Transparent (x : Action σ ε α) (h : Host σ) (left : List Checkpoint) : Prop where
  inOrder : (x h).2.connection.InOrder
  left : (x h).2.connection.checkpoints = left
  within : ∀ ks, Nested ks → x (h.within ks) = ((x h).1, (x h).2.within ks)

theorem Transparent.sameOpen {x : Action σ ε α} (h₀ : h.connection.InOrder)
    (hx : x.Transparent h h.connection.checkpoints) :
    h.connection.SameOpen (x h).2.connection where
  checkpoints := hx.left
  depth := by rw [hx.inOrder.depth, hx.left, h₀.depth]
  closed := hx.inOrder.closed.trans h₀.closed.symm

namespace Transparent

/-- What comes after an action that succeeds. -/
theorem after {x : Action σ ε α} {f : α → Action σ ε β} {a : α} {mid : List Checkpoint}
    (hx : x.Transparent h mid) (run : x h = (.ok a, h₁)) (hf : (f a).Transparent h₁ left) :
    (x >>= f).Transparent h left := by
  have hrun : (x >>= f) h = f a h₁ := bind_of_ok run
  refine ⟨by rw [hrun]; exact hf.inOrder, by rw [hrun]; exact hf.left, fun ks hk => ?_⟩
  have hw := hx.within ks hk
  rw [run] at hw
  rw [hrun, bind_of_ok hw]
  exact hf.within ks hk

theorem bind {x : Action σ ε α} {f : α → Action σ ε β} (hx : x.Transparent h left)
    (hf : ∀ a, (x h).1 = .ok a → (f a).Transparent (x h).2 left) :
    (x >>= f).Transparent h left := by
  rcases hr : x h with ⟨e | a, h₁⟩
  · have hrun : (x >>= f) h = (.error e, h₁) := bind_of_error hr
    have hi := hx.inOrder
    have hl := hx.left
    rw [hr] at hi hl
    refine ⟨by rwa [hrun], by rwa [hrun], fun ks hk => ?_⟩
    have hw := hx.within ks hk
    rw [hr] at hw
    rw [hrun, bind_of_error hw]
  · have hy := hf a (by rw [hr])
    rw [hr] at hy
    exact hx.after hr hy

theorem mapError {x : Action σ ε α} (hx : x.Transparent h left) (f : ε → ε') :
    (x.mapError f).Transparent h left := by
  have happly : ∀ h, x.mapError f h = ((x h).1.mapError f, (x h).2) := by
    intro h
    unfold Action.mapError
    rcases x h with ⟨_ | _, _⟩ <;> rfl
  refine ⟨by rw [happly]; exact hx.inOrder, by rw [happly]; exact hx.left, fun ks hk => ?_⟩
  rw [happly, happly, hx.within ks hk]

theorem during {x : Action σ StoreError α} (hx : x.Transparent h left) (context : String) :
    (x.during context).Transparent h left :=
  hx.mapError _

theorem attempt {x : Action σ ε α} (hx : x.Transparent h left) :
    (Action.attempt x : Action σ ε' (Except ε α)).Transparent h left :=
  ⟨hx.inOrder, hx.left, fun ks hk => by rw [attempt_apply, attempt_apply, hx.within ks hk]⟩

section

variable (h₀ : h.connection.InOrder)

include h₀

theorem pure (a : α) : (Pure.pure a : Action σ ε α).Transparent h h.connection.checkpoints :=
  ⟨h₀, rfl, fun _ _ => rfl⟩

theorem fail (e : ε) : (Action.fail e : Action σ ε α).Transparent h h.connection.checkpoints :=
  ⟨h₀, rfl, fun _ _ => rfl⟩

theorem orFail (e : ε) (o : Option α) :
    (Action.orFail e o : Action σ ε α).Transparent h h.connection.checkpoints := by
  cases o with
  | none => exact fail h₀ e
  | some a => exact pure h₀ a

theorem draw (f : σ → α × σ) :
    (Action.draw f : Action σ ε α).Transparent h h.connection.checkpoints :=
  ⟨h₀, rfl, fun _ _ => rfl⟩

theorem onConnection {kind : Fault → StoreError}
    {step : Connection → Except Refusal α × Connection} (hs : h.connection.Transparent step left) :
    (Action.onConnection kind step : Action σ StoreError α).Transparent h left := by
  have happly : Action.onConnection kind step h = _ := onConnection_apply h₀.closed
  refine ⟨by rw [happly]; exact hs.inOrder, by rw [happly]; exact hs.left, fun ks hk => ?_⟩
  have hclosed : (h.within ks).connection.closed = false := h₀.closed
  have hw := hs.within ks hk
  rw [happly, onConnection_apply hclosed]
  simp only [Host.within] at hw ⊢
  rw [hw]

theorem read (tables : List Table) (f : Database → α) :
    (Action.read tables f).Transparent h h.connection.checkpoints :=
  onConnection h₀ (Connection.look_transparent h₀ tables f)

theorem begin : Action.begin.Transparent h (h.connection.checkpoint :: h.connection.checkpoints) :=
  onConnection h₀ (Connection.begin_transparent h₀)

variable {k : Checkpoint} (hc : h.connection.checkpoints = k :: left)

include hc

theorem rollback : Action.rollback.Transparent h left :=
  onConnection h₀ (Connection.rollback_transparent h₀ hc)

/-- Where all is in order, nothing stands in the way of the end of a transaction. -/
theorem finish (o : Except Error α) : (Action.finish o).Transparent h left := by
  cases o with
  | error e =>
    have hr := rollback h₀ hc
    exact hr.attempt.after (attempt_apply _) (hr.left ▸ fail hr.inOrder e)
  | ok a =>
    have hcommit : (Action.commit h : Except StoreError Unit × Host σ) =
        (.ok (), { h with connection := h.connection.commit.2 }) := by
      rw [commit_apply h₀.closed, h₀.commit hc]
      rfl
    have hx : Action.commit.Transparent h left :=
      onConnection h₀ (Connection.commit_transparent h₀ hc)
    have hi := hx.inOrder
    have hl := hx.left
    rw [hcommit] at hi hl
    refine (hx.during _).after (during_ok.mpr hcommit) ?_
    exact hl ▸ pure hi a

end

end Transparent

/-- Where all is in order and some transaction is open, `x` is transparent, unless the store ends
all transactions under it. -/
def Sheltered (x : Action σ ε α) : Prop :=
  ∀ ⦃h⦄, h.connection.InOrder → h.connection.checkpoints ≠ [] →
    (x h).2.connection.Drifting h.connection.depth ∨ x.Transparent h h.connection.checkpoints

namespace Sheltered

theorem write (s : Statement α) : (Action.write s : Action σ StoreError α).Sheltered := by
  intro h h₀ ho
  rcases Connection.execute_transparent h₀ (s := s) (.inl ho) with he | hs
  · left
    rw [Action.write, onConnection_connection, if_neg (by simp [h₀.closed])]
    rcases Connection.execute_sameOpen_or_ended (c := h.connection) (s := s) rfl with
      hso | ⟨-, hended⟩
    · exact absurd (hso.checkpoints.symm.trans (Connection.execute_full (Prod.ext he rfl))) ho
    · exact hended.drifting (Nat.le_refl _)
  · exact .inr (.onConnection h₀ hs)

theorem enforce (on : Bool) :
    (Action.adjust (Connection.enforce · on) : Action σ StoreError Unit).Sheltered := by
  intro h h₀ ho
  have hin : h.connection.inTransaction = true := by simp [Connection.inTransaction, ho]
  refine .inr (.onConnection h₀ ⟨⟨h₀.nested, h₀.depth, h₀.deferred, h₀.violations, h₀.closed⟩, rfl,
    fun ks _ => ?_⟩)
  simp [Connection.enforce, Connection.within_inTransaction ho, hin]
  rfl

theorem bind {x : Action σ ε α} {f : α → Action σ ε β} (hx : x.Sheltered)
    (hf : ∀ a, (f a).Sheltered) (hd : ∀ a, (f a).Drifts) : (x >>= f).Sheltered := by
  intro h h₀ ho
  rcases hx h₀ ho with hlost | ht
  · -- No plain action gets a lost transaction back.
    left
    rw [bind_apply]
    rcases hr : x h with ⟨e | a, h₁⟩ <;> rw [hr] at hlost
    · exact hlost
    · exact (hd a (h := h₁)).1 _ hlost
  · rcases hr : x h with ⟨e | a, h₁⟩
    · exact .inr (ht.bind fun a ha => by rw [hr] at ha; cases ha)
    · have hi := ht.inOrder
      have hso := ht.sameOpen h₀
      rw [hr] at hi hso
      rcases hf a hi (hso.checkpoints ▸ ho) with hlost | hy
      · left
        rw [bind_of_ok hr, ← hso.depth]
        exact hlost
      · exact .inr (ht.after hr (hso.checkpoints ▸ hy))

theorem transaction {x : Action σ Error α} (hx : x.Sheltered) : (transaction x).Sheltered := by
  intro h h₀ ho
  have hb := Transparent.begin (σ := σ) h₀
  have happly := begin_apply (σ := σ) h₀.closed
  rcases hx (h := { h with connection := h.connection.begin }) h₀.begin (List.cons_ne_nil _ _) with
    hlost | ht
  · left
    rw [transaction_apply x h₀.closed]
    have hlow : h.connection.depth + 1 ≤ _ := hlost.depth
    refine (finish_drifting _ ⟨?_, fun k hk => ?_⟩ hlow).1
    · exact Nat.le_of_succ_le hlow
    · exact Nat.le_of_succ_le (hlost.levels k hk)
  · right
    refine (hb.during _).after (during_ok.mpr happly) ?_
    exact ht.attempt.after (attempt_apply x) (.finish ht.inOrder ht.left _)

end Sheltered

/-- Inside other transactions a plain action does the same, unless the store ends all under it. -/
theorem Plain.sheltered {x : Action σ ε α} (hx : x.Plain) : x.Sheltered := by
  induction hx with
  | pure a => exact fun h h₀ _ => .inr (.pure h₀ a)
  | fail e => exact fun h h₀ _ => .inr (.fail h₀ e)
  | draw f => exact fun h h₀ _ => .inr (.draw h₀ f)
  | write s => exact .write s
  | read tables f => exact fun h h₀ _ => .inr (.read h₀ tables f)
  | enforce on => exact .enforce on
  | bind _ next hx hf => exact hx.bind hf fun a => (next a).drifts
  | attempt _ hx => exact fun h h₀ ho => (hx h₀ ho).imp id .attempt
  | mapError f _ hx =>
    intro h h₀ ho
    refine (hx h₀ ho).imp (fun hlost => ?_) fun ht => ht.mapError f
    unfold Action.mapError
    split <;> simp_all
  | transaction _ hx => exact hx.transaction

end Action

end RefreshChain
