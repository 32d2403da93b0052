import RefreshChain.Proofs.Calls
import RefreshChain.Proofs.Upholding

/-!
# Actions put together from statements

An action that works on the connection only through statements of some kind, looks, and the begin
and the end of transactions keeps whatever these keep.

* `Action.MadeOf`: such an action. `Call.madeOf`: the calls of the library are, where the
  collaborators are and the kind of statements includes those of the library.
* `Connection.Stable`: what each single step keeps. `Action.MadeOf.keeps`: then the action keeps it.
* `Connection.Enduring`: what steps keep, whatever the statements are.
  `Connection.Ordinary.enduring`: a connection stays in ordinary use.
* `Connection.stable_reaches`: what statements make of contents that have a property has it, too.
-/

namespace RefreshChain

namespace Action

/-- Actions put together from statements that `A` holds of, looks, the begin and the end of
transactions, draws from the own source, and failures. -/
inductive MadeOf {σ : Type} (A : ∀ ⦃α : Type⦄, Statement α → Prop) :
    {ε α : Type} → Action σ ε α → Prop where
  | pure {ε α : Type} (a : α) : MadeOf A (Pure.pure a : Action σ ε α)
  | fail {ε α : Type} (e : ε) : MadeOf A (fail e : Action σ ε α)
  | draw {ε α : Type} (f : σ → α × σ) : MadeOf A (draw f : Action σ ε α)
  | write {α : Type} {s : Statement α} (hs : A s) : MadeOf A (write s)
  | read {α : Type} (tables : List Table) (f : Database → α) : MadeOf A (read tables f)
  | begin : MadeOf A begin
  | commit : MadeOf A commit
  | rollback : MadeOf A rollback
  | bind {ε α β : Type} {x : Action σ ε α} {f : α → Action σ ε β} (first : MadeOf A x)
      (next : ∀ a, MadeOf A (f a)) : MadeOf A (x >>= f)
  | attempt {ε ε' α : Type} {x : Action σ ε α} (work : MadeOf A x) :
      MadeOf A (attempt x : Action σ ε' (Except ε α))
  | mapError {ε ε' α : Type} {x : Action σ ε α} (f : ε → ε') (work : MadeOf A x) :
      MadeOf A (x.mapError f)

namespace MadeOf

variable {σ ε α : Type} {A : ∀ ⦃α : Type⦄, Statement α → Prop}

theorem during {x : Action σ StoreError α} (hx : x.MadeOf A) (context : String) :
    (x.during context).MadeOf A :=
  .mapError _ hx

theorem orFail (e : ε) (o : Option α) : (Action.orFail e o : Action σ ε α).MadeOf A := by
  cases o with
  | none => exact .fail e
  | some a => exact .pure a

theorem finish (o : Except Error α) : (Action.finish o : Action σ Error α).MadeOf A := by
  cases o with
  | ok a => exact .bind (.during .commit _) fun _ => .pure a
  | error e => exact .bind (.attempt .rollback) fun _ => .fail e

theorem transaction {x : Action σ Error α} (hx : x.MadeOf A) : (Action.transaction x).MadeOf A :=
  .bind (.during .begin _) fun _ => .bind (.attempt hx) .finish

end MadeOf

end Action

/-! ## What single steps keep -/

namespace Connection

/-- `I` is kept by each step of an action that is made of statements of the kind `A`. -/
structure Stable (A : ∀ ⦃α : Type⦄, Statement α → Prop) (I : Connection → Prop) : Prop where
  begin : ∀ ⦃c : Connection⦄, I c → I c.begin
  commit : ∀ ⦃c : Connection⦄, I c → I c.commit.2
  rollback : ∀ ⦃c : Connection⦄, I c → I c.rollback.2
  look : ∀ ⦃c : Connection⦄ {α : Type} (tables : List Table) (f : Database → α),
    I c → I (c.look tables f).2
  execute : ∀ ⦃c : Connection⦄ {α : Type} {s : Statement α}, A s → I c → I (c.execute s).2

end Connection

namespace Action

variable {σ ε α : Type} {A : ∀ ⦃α : Type⦄, Statement α → Prop} {I : Connection → Prop}

/-- A step on the connection keeps what it keeps of the connection. On one that is closed there are
no steps. -/
theorem onConnection_keeps (I : Connection → Prop) {kind : Fault → StoreError}
    {step : Connection → Except Refusal α × Connection} (hs : ∀ c, I c → I (step c).2) {h : Host σ}
    (hI : I h.connection) : I (onConnection kind step h).2.connection := by
  cases hc : h.connection.closed with
  | true => rwa [onConnection, hc]
  | false =>
    rw [onConnection_apply hc]
    exact hs _ hI

/-- What each step keeps is kept by the whole, however it ends. -/
theorem MadeOf.keeps {x : Action σ ε α} (hx : x.MadeOf A) (hst : Connection.Stable A I)
    {h : Host σ} (hI : I h.connection) : I (x h).2.connection := by
  induction hx generalizing h with
  | pure a => exact hI
  | fail e => exact hI
  | draw f => exact hI
  | write hs => exact onConnection_keeps I (fun _ => hst.execute hs) hI
  | read tables f => exact onConnection_keeps I (fun _ => hst.look tables f) hI
  | begin => exact onConnection_keeps I (fun _ hc => hst.begin hc) hI
  | commit => exact onConnection_keeps I (fun _ hc => hst.commit hc) hI
  | rollback => exact onConnection_keeps I (fun _ hc => hst.rollback hc) hI
  | @bind _ _ _ x _ _ _ first next =>
    have hI₁ := first hI
    rw [bind_apply]
    rcases hr : x h with ⟨e | a, h₁⟩ <;> rw [hr] at hI₁
    · exact hI₁
    · exact next a hI₁
  | attempt _ work => exact work hI
  | @mapError _ _ _ x _ _ work =>
    have hI₁ := work hI
    rw [Action.mapError]
    rcases hr : x h with ⟨e | a, h₁⟩ <;> rw [hr] at hI₁ <;> exact hI₁

end Action

namespace Connection

variable {A : ∀ ⦃α : Type⦄, Statement α → Prop} {I J : Connection → Prop}

theorem Stable.and (hI : Stable A I) (hJ : Stable A J) : Stable A fun c => I c ∧ J c where
  begin _ h := ⟨hI.begin h.1, hJ.begin h.2⟩
  commit _ h := ⟨hI.commit h.1, hJ.commit h.2⟩
  rollback _ h := ⟨hI.rollback h.1, hJ.rollback h.2⟩
  look _ _ tables f h := ⟨hI.look tables f h.1, hJ.look tables f h.2⟩
  execute _ _ _ hs h := ⟨hI.execute hs h.1, hJ.execute hs h.2⟩

/-- What statements keep of the contents holds of all that a connection shows or may go back to. -/
theorem stable_reaches {P : Database → Prop}
    (hP : ∀ ⦃α : Type⦄ ⦃s : Statement α⦄, A s → ∀ ⦃w a w'⦄, P w.data → s.run w = .ok (a, w') →
      P w'.data) : Stable A fun c => ∀ db, c.Reaches db → P db where
  begin _ h db hd := h db hd.of_begin
  commit _ h db hd := h db hd.of_commit
  rollback _ h db hd := h db hd.of_rollback
  look _ _ _ _ h db hd := h db hd.of_look
  execute c _ s hs h db hd := by
    rcases hd.of_execute with hd | ⟨a, w, hw, rfl⟩
    · exact h db hd
    · exact hP hs (h _ (.inl rfl)) hw

/-- `I` is kept by all that steps are put together from, whatever the statements are. -/
structure Enduring (I : Connection → Prop) : Prop where
  begin : ∀ ⦃c : Connection⦄, I c → I c.begin
  lapse : ∀ ⦃c : Connection⦄, I c → I c.lapse
  prepared : ∀ ⦃c : Connection⦄ (p : Purpose), I c → I (c.prepared p)
  abandoned : ∀ ⦃c : Connection⦄, I c → I c.abandoned
  undone : ∀ ⦃c : Connection⦄ ⦃level k outer⦄, outTo level c.checkpoints = some (k, outer) → I c →
    I (c.undone level k outer)
  ended : ∀ ⦃c : Connection⦄ ⦃level k outer⦄, outTo level c.checkpoints = some (k, outer) → I c →
    I ({ c with checkpoints := outer, depth := level } : Connection).lapse
  withData : ∀ ⦃c : Connection⦄ (db : Database), I c → I (c.withData db)
  counting : ∀ ⦃c : Connection⦄ (n : Int), c.inTransaction = true → c.deferred = true → I c →
    I { c with violations := n }

/-- The preparation of a statement leaves all alone but what it prepares. -/
theorem prepared_same (c : Connection) (p : Purpose) :
    (c.prepared p).deferred = c.deferred ∧ (c.prepared p).violations = c.violations := by
  unfold prepared
  split
  · split <;> exact ⟨rfl, rfl⟩
  · exact ⟨rfl, rfl⟩

namespace Enduring

variable {c : Connection} {α : Type}

theorem refuse (hI : Enduring I) (hc : I c) (p : Purpose) (r : Refusal) :
    I (c.refuse p r : Except Refusal α × Connection).2 := by
  unfold Connection.refuse
  dsimp only
  split
  · exact hc
  · split
    · exact hI.abandoned (hI.prepared p hc)
    · exact hI.lapse (hI.prepared p hc)

theorem settle (hI : Enduring I) (hc : I c) (p : Purpose) (a : α) (w : Work) :
    I (c.settle p a w).2 := by
  have hafter : I ((c.prepared p).withData w.data) := hI.withData _ (hI.prepared p hc)
  unfold Connection.settle
  dsimp only
  split
  · rename_i hopen
    obtain ⟨htrans, hdef⟩ := Bool.and_eq_true_iff.mp hopen
    refine hI.counting _ ?_ ((prepared_same c p).1.trans hdef) hafter
    have hk : ((c.prepared p).withData w.data).checkpoints = c.checkpoints :=
      (sameOpen_prepared c p).checkpoints
    rwa [inTransaction, hk]
  · split
    · exact hI.lapse hafter
    · split
      · exact hafter
      · exact hI.refuse hc p _

theorem stable (hI : Enduring I) : Stable A I where
  begin := hI.begin
  commit c hc := by
    unfold Connection.commit
    split
    · exact hc
    · split
      · exact hI.lapse hc
      · rename_i ho
        split
        · exact hI.undone ho hc
        · exact hI.ended ho hc
  rollback c hc := by
    unfold Connection.rollback
    split
    · exact hc
    · split
      · exact hI.lapse hc
      · rename_i ho
        exact hI.undone ho hc
  look c _ tables f hc := by
    unfold Connection.look
    split
    · exact hc
    · exact hI.lapse hc
  execute c _ s _ hc := by
    unfold Connection.execute
    split
    · exact hI.refuse hc _ _
    · split
      · exact hI.refuse hc _ _
      · exact hI.settle hc _ _ _

/-- What does not depend on the contents, on what is open or on what is tolerated stays as it is. -/
theorem of_setting {β : Type} (setting : Connection → β)
    (hs : ∀ (c : Connection) data deferred violations checkpoints depth tolerant,
      setting { c with data, deferred, violations, checkpoints, depth, tolerant } = setting c)
    (b : β) : Enduring fun c => setting c = b := by
  have hlapse : ∀ c : Connection, setting c.lapse = setting c := by
    intro c
    unfold Connection.lapse
    split
    · rfl
    · exact hs c c.data false 0 c.checkpoints c.depth c.tolerant
  exact {
    begin := fun c h => (hs c c.data c.deferred c.violations _ _ c.tolerant).trans h
    lapse := fun c h => (hlapse c).trans h
    prepared := fun c p h => by
      unfold Connection.prepared
      split
      · split
        · exact (hs c c.data c.deferred c.violations c.checkpoints c.depth _).trans h
        · exact h
      · exact h
    abandoned := fun c h => (hlapse _).trans ((hs c _ c.deferred c.violations _ c.depth _).trans h)
    undone := fun c _ _ _ _ h => (hlapse _).trans ((hs c _ c.deferred _ _ _ _).trans h)
    ended := fun c _ _ _ _ h =>
      (hlapse _).trans ((hs c c.data c.deferred c.violations _ _ c.tolerant).trans h)
    withData := fun c _ h => (hs c _ c.deferred c.violations c.checkpoints c.depth _).trans h
    counting := fun c _ _ _ h => (hs c c.data c.deferred _ c.checkpoints c.depth c.tolerant).trans h }

end Enduring

/-! ## Connections in ordinary use -/

variable {c : Connection}

namespace Ordinary

theorem lapse (h : c.Ordinary) : c.lapse.Ordinary := by
  rwa [lapse_eq h.deferred h.violations]

/-- Transactions may end, innermost first. -/
theorem of_suffix (h : c.Ordinary) (db : Database) {ks : List Checkpoint} {depth : Nat}
    (hs : ks <:+ c.checkpoints) (ht : depth = 0 → ks = []) :
    ({ c.showing db with checkpoints := ks, depth } : Connection).Ordinary :=
  ⟨h.deferred, h.violations, h.tolerant, h.readOnly, h.closed, ht,
    fun k hk => h.saved k (hs.subset hk)⟩

theorem begin (h : c.Ordinary) : c.begin.Ordinary where
  deferred := h.deferred
  violations := h.violations
  tolerant := h.tolerant
  readOnly := h.readOnly
  closed := h.closed
  tracked := c.tracked_begin
  saved k hk := by
    rcases List.mem_cons.mp hk with rfl | hk
    · exact h.violations
    · exact h.saved k hk

theorem undone (h : c.Ordinary) {level : Nat} {k : Checkpoint} {outer : List Checkpoint}
    (ho : outTo level c.checkpoints = some (k, outer)) : (c.undone level k outer).Ordinary := by
  obtain ⟨⟨newer, hk⟩, hl⟩ := outTo_some ho
  have hviol : k.violations = c.violations := (h.saved k (by simp [hk])).trans h.violations.symm
  rw [Connection.undone, h.withData, hviol]
  refine lapse (h.of_suffix k.saved ?_ fun h0 => ?_)
  · split
    · exact ⟨newer ++ [k], by simp [hk]⟩
    · rename_i hlast
      obtain ⟨-, hnil⟩ := not_or.mp hlast
      exact ⟨newer, by rw [hk, Decidable.not_not.mp hnil]⟩
  · rw [if_pos (.inl h0)]
    exact hl h0

theorem enduring : Enduring Ordinary where
  begin _ := begin
  lapse _ := lapse
  prepared _ p h := by rwa [h.prepared p]
  undone _ _ _ _ ho h := h.undone ho
  withData _ db h := by
    rw [h.withData db]
    exact h.showing db
  abandoned c h := by
    rw [Connection.abandoned, h.withData]
    exact lapse (h.of_suffix c.committed List.nil_suffix fun _ => rfl)
  ended c level k outer ho h := by
    obtain ⟨⟨newer, hk⟩, hl⟩ := outTo_some ho
    exact lapse (h.of_suffix c.data ⟨newer ++ [k], by simp [hk]⟩ hl)
  counting _ _ _ hd h := absurd (hd.symm.trans h.deferred) (by simp)

end Ordinary

end Connection

/-! ## Operations -/

/-- The statements that the library makes on its own account are of the kind `A`. -/
structure Statement.Serves (A : ∀ ⦃α : Type⦄, Statement α → Prop) : Prop where
  session : ∀ session, A (.insertSession session)
  token : ∀ t, A (.insertToken t none)
  revocation : ∀ now p, A (.updateTokens [] p (·.revokedAt now))
  family : ∀ now start, A (.revokeFamily now start)
  logout : ∀ p, A (.deleteTokens p)

/-- The collaborators of a service are made of statements of the kind `A`. -/
structure Service.MadeOf {σ : Type} (A : ∀ ⦃α : Type⦄, Statement α → Prop) (s : Service σ) :
    Prop where
  audit : ∀ now instanceId user action detail,
    (s.audit now instanceId user action detail).MadeOf A
  users : ∀ now user, (s.users now user).MadeOf A

section

variable {σ : Type} {A : ∀ ⦃α : Type⦄, Statement α → Prop}

/-- The collaborators that use the store's own tables. -/
theorem Service.madeOf_table {s : Service σ} (ha : s.audit = .table) (hu : s.users = .table)
    (entry : ∀ e, A (.insertAuditEntry e))
    (user : ∀ id now, A (.updateUsers (·.id = id) (·.signedInAt now))) : s.MadeOf A where
  audit now instanceId user action detail := by
    rw [ha]
    refine .bind (.write (entry _)) fun kept => ?_
    split
    · exact .pure ()
    · exact .fail _
  users now u := by
    rw [hu]
    exact .bind (.write (user u.id now)) fun _ => .pure ()

theorem findToken_madeOf (token : String) :
    (findToken token : Action σ Error RefreshToken).MadeOf A :=
  .bind (.during (.read _ _) _) fun _ => .orFail _ _

theorem findUserWithToken_madeOf (token : String) :
    (findUserWithToken token : Action σ Error (User × RefreshToken)).MadeOf A :=
  .bind (findToken_madeOf token) fun _ => .bind (.during (.read _ _) _) fun _ =>
    .bind (.orFail _ _) fun _ => .pure _

theorem findValidChild_madeOf (start : RefreshToken) :
    (findValidChild start : Action σ Error (Option RefreshToken)).MadeOf A :=
  .during (.read _ _) _

variable (hA : Statement.Serves A)

include hA

theorem revokeFamily_madeOf (now : Instant) (start : RefreshToken) :
    (revokeFamily now start : Action σ Error Unit).MadeOf A :=
  .bind (.during (.write (hA.family now start)) _) fun _ => .pure _

theorem logout_madeOf (instanceId userId : Uuid) :
    (logout instanceId userId : Action σ Error Unit).MadeOf A :=
  .bind (.during (.write (hA.logout _)) _) fun _ => .pure _

namespace Service

variable {s : Service σ} (hs : s.MadeOf A) (now : Instant) (user : User)

omit hs in
theorem sessionFor_madeOf (origin : Origin) : (s.sessionFor now user origin).MadeOf A := by
  rcases origin with (_ | c) | old
  · exact .pure _
  · have hinsert : ∀ session, (insertSession session : Action σ StoreError SsoSession).MadeOf A :=
      fun session => .bind (.write (hA.session session)) fun _ => .bind (.read _ _) fun _ =>
        .orFail _ _
    exact .bind (.bind (.draw _) fun _ => .during (hinsert _) _) fun _ => .pure _
  · exact .pure _

omit hA hs in
theorem bindingOf_madeOf (t : RefreshToken) :
    (bindingOf t : Action σ Error (Option SsoBinding)).MadeOf A := by
  unfold bindingOf
  split
  · exact .pure _
  · exact .bind (.bind (.during (.read _ _) _) fun _ => .bind (.orFail _ _) fun _ =>
      .bind (.orFail _ _) fun _ => .pure _) fun _ => .pure _

include hs

theorem issue_madeOf (origin : Origin) : (s.issue now user origin).MadeOf A :=
  .bind (sessionFor_madeOf hA now user origin) fun _ => .bind (.draw _) fun _ =>
    .bind (.during (.write (hA.token _)) _) fun _ =>
      .bind (.bind (.during (.read _ _) _) fun _ => .orFail _ _) fun stored =>
        .bind (bindingOf_madeOf stored) fun _ => .bind (.during (hs.users now user) _) fun _ =>
          .pure _

omit hA in
theorem recordRevocation_madeOf : (s.recordRevocation now user).MadeOf A :=
  .during (hs.audit now user.instanceId user .tokenRevoked none) _

theorem swapWork_madeOf (old : RefreshToken) : (s.swapWork now user old).MadeOf A := by
  refine .bind (recordRevocation_madeOf hs now user) fun _ =>
    .bind (.during (.write (hA.revocation now _)) _) fun n => ?_
  split
  · exact .fail _
  · exact issue_madeOf hA hs now user _

theorem exchangeWork_madeOf (token : String) : (s.exchangeWork now token).MadeOf A := by
  refine .bind (findUserWithToken_madeOf token) fun (user, old) => ?_
  dsimp only
  split
  · exact .pure _
  · refine .bind (recordRevocation_madeOf hs now user) fun _ =>
      .bind (.during (.write (hA.revocation now _)) _) fun n => ?_
    split
    · exact .bind (findToken_madeOf _) fun _ => .pure _
    · exact .bind (issue_madeOf hA hs now user _) fun _ => .pure _

omit hs in
theorem punish_madeOf (t : RefreshToken) : (s.punish now t).MadeOf A := by
  refine .bind (.during .rollback _) fun _ => ?_
  split
  · exact .bind (revokeFamily_madeOf hA now t) fun _ => .fail _
  · exact .fail _

theorem exchange_madeOf (token : String) : (s.exchange now token).MadeOf A := by
  refine .bind (.during .begin _) fun _ => .bind (.attempt (exchangeWork_madeOf hA hs now token))
    fun o => ?_
  rcases o with e | p
  · exact .finish _
  · cases p with
    | issued t => exact .finish _
    | reused t => exact punish_madeOf hA now t

theorem serve_madeOf (r : Request) : (s.serve now r).MadeOf A := by
  cases r with
  | grant user conditions => exact .transaction (issue_madeOf hA hs now user _)
  | swap user old => exact .transaction (swapWork_madeOf hA hs now user old)
  | exchange token => exact exchange_madeOf hA hs now token

end Service

/-- The calls of the library are made of its own statements and those of the collaborators. -/
theorem Call.madeOf {s : Service σ} (hs : s.MadeOf A) (now : Instant) (c : Call) :
    (c.perform s now).MadeOf A := by
  cases c with
  | request r => exact .bind (Service.serve_madeOf hA hs now r) fun _ => .pure _
  | revokeFamily start => exact .bind (revokeFamily_madeOf hA now start) fun _ => .pure _
  | logout instanceId userId => exact .bind (logout_madeOf hA instanceId userId) fun _ => .pure _
  | find token => exact .bind (findToken_madeOf token) fun _ => .pure _
  | findOwner token => exact .bind (findUserWithToken_madeOf token) fun _ => .pure _
  | findValidChild start => exact .bind (findValidChild_madeOf start) fun _ => .pure _
  | getValidChild start =>
    exact .bind (.bind (findValidChild_madeOf start) fun _ => .orFail _ _) fun _ => .pure _

end

end RefreshChain
