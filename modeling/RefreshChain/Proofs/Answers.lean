import RefreshChain.Proofs.Effects
import RefreshChain.Proofs.Reuse

/-!
# What requests answer

On a steady connection, with the store's own tables for the audit log and the users, requests do
what `Database.serve` says.

* `Action.Answers`: a whole transaction gives an answer and leaves given contents. One that fails
  leaves the connection as it was, `Connection.Resumed`, unless no id is left for a new token.
* `Service.serve_answers`: what requests answer.
* `Service.NotFound`: a request finds no token and leaves all as it was.
-/

namespace RefreshChain

/-! ## Transactions -/

/-- `c'` is `c` with other contents. Only if the store had ended all transactions before and those
who opened them do not know, one may be open that goes back to the contents of `c`. -/
structure Connection.Resumed (c : Connection) (db : Database) (c' : Connection) : Prop where
  steady : c'.Steady
  data : c'.data = db
  depth : c'.depth = c.depth
  checkpoints : c'.checkpoints = c.checkpoints ∨ c.Adrift ∧ c'.checkpoints = [c.checkpoint]

/-- What a request at `c` leaves that fails with `e`: the given contents, unless no id was left for
a new token and the store has ended all transactions. -/
def Connection.Failed (c : Connection) (db : Database) (e : Error) (c' : Connection) : Prop :=
  c.Resumed db c' ∨ e.EndsAll (fun _ => False) ∧ c'.Steady ∧ c.begin.Ended c'

/-- At `h`, `x` answers and leaves the contents as `o` says, and after a success also `outside`.
Nothing else on the connection changes. -/
structure Action.Answers {σ α : Type} (x : Action σ Error α) (h : Host σ)
    (o : Except Error α × Database) (outside : σ) : Prop where
  ok : ∀ a db, o = (.ok a, db) →
    db.schema = .migrated ∧ x h = (.ok a, ⟨h.connection.showing db, outside⟩)
  error : ∀ e db, o = (.error e, db) →
    (x h).1 = .error e ∧ h.connection.Failed db e (x h).2.connection

section

variable {σ α : Type} {h h₁ : Host σ} (hst : h.connection.Steady)

theorem Action.Answers.of_ok {x : Action σ Error α} {a : α} {db : Database} {outside : σ}
    (hm : db.schema = .migrated) (run : x h = (.ok a, ⟨h.connection.showing db, outside⟩)) :
    x.Answers h (.ok a, db) outside :=
  ⟨fun _ _ he => by cases he; exact ⟨hm, run⟩, nofun⟩

theorem Action.Answers.of_error {x : Action σ Error α} {e : Error} {db : Database} {outside : σ}
    (run : (x h).1 = .error e ∧ h.connection.Failed db e (x h).2.connection) :
    x.Answers h (.error e, db) outside :=
  ⟨nofun, fun _ _ he => by cases he; exact run⟩

theorem Connection.Resumed.showing {c c' : Connection} {db db' : Database} (h : c.Resumed db c')
    (hm : db'.schema = .migrated) : c.Resumed db' (c'.showing db') :=
  ⟨h.steady.showing hm, rfl, h.depth, h.checkpoints⟩

theorem Connection.Failed.steady {c c' : Connection} {db : Database} {e : Error}
    (h : c.Failed db e c') : c'.Steady := by
  rcases h with h | ⟨-, h, -⟩
  · exact h.steady
  · exact h

/-- What holds since a point in the past still does after a failure, if the transactions from then
are still open. -/
theorem Connection.Failed.since {c c' : Connection} {db : Database} {e : Error} {n : Nat}
    {P : Database → Prop} (h : c.Failed db e c') (hs : c.Since n P) (hp : P db)
    (hn : n ≤ c'.checkpoints.length) : c'.Since n P := by
  rcases h with h | ⟨-, -, h⟩
  · refine ⟨h.data.symm ▸ hp, fun newer k outer hk hle => ?_⟩
    rcases h.checkpoints with hc | ⟨-, hc⟩
    · exact hs.saved newer k outer (hc ▸ hk) hle
    · have hmem : k ∈ [c.checkpoint] := hc ▸ hk ▸ by simp
      rw [List.mem_singleton.mp hmem]
      exact hs.now
  · have h0 : n = 0 := by simpa [h.none_open] using hn
    subst h0
    refine ⟨?_, by simp [h.none_open]⟩
    rw [h.data, Connection.committed]
    cases hl : c.begin.checkpoints.getLast? with
    | none => exact hs.now
    | some k => exact hs.begin.saved_of_mem (List.mem_of_getLast? hl)

include hst

/-- Work that is undone leaves the contents from before it. -/
theorem Action.rollback_resumed (h₁ : Host σ) (hst₁ : h₁.connection.Steady)
    (hs : h.connection.begin.SameOpen h₁.connection) :
    ∃ h₂ : Host σ, (Action.rollback h₁ : Except StoreError Unit × Host σ) = (.ok (), h₂) ∧
      h.connection.Resumed h.connection.data h₂.connection ∧ h₂.outside = h₁.outside := by
  have hr := Action.rollback_of_sameOpen hst.closed hst.tracked hs
  have hsound := (Host.sound_of_steady hst₁).rollback (Connection.endsWithin_zero _)
  rw [hr] at hsound
  exact ⟨_, hr, ⟨hsound.steady, Connection.undone_data _ _ _ _, Connection.undone_depth _ _ _ _,
    Connection.undone_open _ _⟩, rfl⟩

variable {x : Action σ Error α} {R : α → Database → Prop}
  (hk : x.Keeps 0 (fun _ => True) (fun _ => True) R)
  (hl : x.LeavesOpen (Error.EndsAll fun _ => False))

include hk hl

/-- Work that fails is undone. -/
theorem Action.finish_error_failed {e : Error} {β : Type}
    (run : x { h with connection := h.connection.begin } = (.error e, h₁)) :
    h.connection.Failed h.connection.data e
      (Action.finish (.error e : Except Error β) h₁).2.connection := by
  obtain ⟨hst₁, -⟩ := hk (Host.sound_of_steady hst).begin trivial run
  rw [Action.finish_error]
  rcases hl run with hs | ⟨⟨e', he, hends⟩, hended⟩
  · obtain ⟨h₂, hr, hres, -⟩ := Action.rollback_resumed hst h₁ hst₁.steady hs
    rw [hr]
    exact .inl hres
  · cases he
    rw [Action.rollback_of_ended hst.closed hended,
      Connection.lapse_eq hst₁.steady.deferred hst₁.steady.violations]
    exact .inr ⟨hends, hst₁.steady, hended⟩

omit hk hl in
/-- Work that succeeds is committed. -/
theorem Action.finish_ok_apply {db : Database} {outside : σ} (a : α) :
    (Action.finish (.ok a) : Action σ Error α) ⟨h.connection.begin.showing db, outside⟩ =
      (.ok a, ⟨h.connection.showing db, outside⟩) := by
  generalize hwork : (⟨h.connection.begin.showing db, outside⟩ : Host σ) = h₁
  have hs : h.connection.begin.SameOpen h₁.connection := hwork ▸ ⟨rfl, rfl, rfl⟩
  have hc := Action.commit_of_sameOpen hst.closed hst.tracked hs
  subst hwork
  have hv : ¬ (h.connection.checkpoints.isEmpty ∧
      0 < (h.connection.begin.showing db).violations) := by
    have : (h.connection.begin.showing db).violations = 0 := hst.violations
    omega
  rw [if_neg hv, Connection.lapse_eq (by exact hst.deferred) (by exact hst.violations)] at hc
  rw [Action.finish, Action.bind_of_ok (Action.during_ok.mpr hc)]
  rfl

/-- A transaction comes to what its work does. -/
theorem Action.transaction_answers {o : Except Error (α × Database)} {outside : σ}
    (hx : x.Yields { h with connection := h.connection.begin } o outside) :
    (Action.transaction x).Answers h (h.connection.data.settled o) outside := by
  have happly := Action.transaction_apply x hst.closed
  rcases o with e | ⟨a, db⟩
  · refine .of_error ?_
    have he := hx.error e rfl
    rcases hr : x { h with connection := h.connection.begin } with ⟨o, h₁⟩
    rw [hr] at he happly
    cases he
    rw [happly]
    exact ⟨rfl, Action.finish_error_failed hst hk hl hr⟩
  · obtain ⟨hm, run⟩ := hx.ok a db rfl
    refine .of_ok hm ?_
    rw [happly, run]
    exact Action.finish_ok_apply hst a

end

/-! ## Requests -/

namespace Service

variable {σ : Type} {s : Service σ} {h : Host σ} (hst : h.connection.Steady)

include hst

/-- What follows where a token was used before. -/
theorem punish_failed (h₁ : Host σ) (hst₁ : h₁.connection.Steady)
    (hs : h.connection.begin.SameOpen h₁.connection) (now : Instant) (t : RefreshToken) :
    (s.punish now t h₁).1 = .error .tokenReused ∧
      h.connection.Failed
        (if s.config.rotationEnabled then h.connection.data.revokingFamily now t
          else h.connection.data)
        .tokenReused (s.punish now t h₁).2.connection := by
  obtain ⟨h₂, hr, hres, -⟩ := Action.rollback_resumed hst h₁ hst₁ hs
  rw [punish, Action.bind_of_ok (Action.during_ok.mpr hr)]
  cases s.config.rotationEnabled with
  | false => exact ⟨rfl, .inl hres⟩
  | true =>
    rw [if_pos rfl, Action.bind_of_ok (revokeFamily_apply hres.steady t), hres.data]
    exact ⟨rfl, .inl (hres.showing hst.schema)⟩

variable (ha : s.audit = .table) (hu : s.users = .table)

include ha hu

theorem exchange_answers (now : Instant) (token : String) :
    (s.exchange now token).Answers h
      (h.connection.data.serve s.config.rotationEnabled now (s.supply h.outside false).1
        (.exchange token))
      (s.supply h.outside false).2 := by
  have hb : ({ h with connection := h.connection.begin } : Host σ).connection.Steady := hst.begin
  have hla : s.audit.LeavesOpen fun _ => False := ha ▸ AuditLog.table_leavesOpen
  have hlu : s.users.LeavesOpen fun _ => False := hu ▸ UserDirectory.table_leavesOpen
  have hl := exchangeWork_leavesOpen now hla hlu token
  have hk : (s.exchangeWork now token).Keeps 0 (fun _ => True) (fun _ => True) _ :=
    exchangeWork_keeps (R := fun _ _ => True) (careful_table ha hu 0) true_lasting
      (fun _ _ _ _ => trivial) (fun _ _ _ _ _ => trivial) token
      fun _ _ _ _ _ _ _ _ => ⟨trivial, trivial⟩
  obtain ⟨outside, hx, hout⟩ := exchangeWork_yields hb ha hu now token
  dsimp only [Connection.begin] at hx hout
  have happly := exchange_apply s now token hst.closed
  rw [Database.serve]
  rcases ho : h.connection.data.exchange now token (s.supply h.outside false).1 with
    e | ⟨i | t, db⟩ <;> rw [ho] at hx hout
  · refine .of_error ?_
    have he := hx.error e rfl
    rcases hr : s.exchangeWork now token { h with connection := h.connection.begin } with ⟨o, h₁⟩
    rw [Connection.begin] at hr happly
    rw [hr] at he happly
    cases he
    rw [happly]
    exact ⟨rfl, Action.finish_error_failed hst hk hl hr⟩
  · obtain ⟨hm, run⟩ := hx.ok (.issued i) db rfl
    refine .of_ok hm ?_
    rw [happly, Connection.begin, run, hout i db rfl]
    exact Action.finish_ok_apply hst i
  · obtain ⟨hm, run⟩ := hx.ok (.reused t) db rfl
    refine .of_error ?_
    rw [happly, Connection.begin, run]
    exact punish_failed hst ⟨_, outside⟩ (hst.begin.showing hm) ⟨rfl, rfl, rfl⟩ now t

/-- A request answers and leaves the contents as `Database.serve` says. -/
theorem serve_answers (now : Instant) (r : Request) :
    (s.serve now r).Answers h
      (h.connection.data.serve s.config.rotationEnabled now
        (s.supply h.outside r.opensSession).1 r)
      (s.supply h.outside r.opensSession).2 := by
  have hb : ({ h with connection := h.connection.begin } : Host σ).connection.Steady := hst.begin
  have hcareful : s.Careful 0 := careful_table ha hu 0
  have hla : s.audit.LeavesOpen fun _ => False := ha ▸ AuditLog.table_leavesOpen
  have hlu : s.users.LeavesOpen fun _ => False := hu ▸ UserDirectory.table_leavesOpen
  cases r with
  | grant user conditions =>
    refine Action.transaction_answers hst (R := fun _ _ => True) ?_
      (issue_leavesOpen now user hlu _) ?_
    · exact issue_keeps (R := fun _ _ => True) hcareful (fun _ _ _ _ => trivial)
        (fun _ _ _ _ _ => trivial) user _ (fun _ _ _ _ _ => trivial)
        fun _ _ _ _ _ => ⟨trivial, trivial⟩
    · exact issue_yields hb hu hst.schema now user (.signIn conditions)
  | swap user old =>
    refine Action.transaction_answers hst (R := fun _ _ => True) ?_
      (swapWork_leavesOpen now user hla hlu old) (swapWork_yields hb ha hu now user old)
    exact swapWork_keeps (R := fun _ _ => True) hcareful true_lasting (fun _ _ _ _ => trivial)
      (fun _ _ _ _ _ => trivial) user old fun _ _ _ _ _ _ => ⟨trivial, trivial⟩
  | exchange token => exact exchange_answers hst ha hu now token

/-! ## Tokens that are not there -/

/-- `r` fails, as no token fits, and leaves all as it was, the sources included. -/
def NotFound (h : Host σ) (r : Except Error IssuedToken × Host σ) : Prop :=
  r.1 = .error .tokenNotFound ∧ h.connection.Resumed h.connection.data r.2.connection ∧
    r.2.outside = h.outside

omit hst ha hu in
/-- Work that finds no token, before it has drawn from the sources, leaves all as it was. -/
theorem notFound_finish (hst : h.connection.Steady) {db : Database} (hm : db.schema = .migrated) :
    NotFound h (Action.finish (.error .tokenNotFound)
      ⟨h.connection.begin.showing db, h.outside⟩) := by
  obtain ⟨h₂, hr, hres, ho⟩ := Action.rollback_resumed hst
    ⟨h.connection.begin.showing db, h.outside⟩ (hst.begin.showing hm) ⟨rfl, rfl, rfl⟩
  rw [Action.finish_error, hr]
  exact ⟨rfl, hres, ho⟩

omit hu in
theorem swapWork_notFound (now : Instant) (user : User) {old : RefreshToken}
    (hnone : ∀ t ∈ h.connection.data.tokens, t.id ≠ old.id) :
    s.swapWork now user old h = (.error .tokenNotFound, ⟨h.connection.showing
      ((h.connection.data.recording now user).revoking now (·.id = old.id)), h.outside⟩) := by
  have hcount : h.connection.data.tokens.countP (·.id = old.id) = 0 := by
    simpa [List.countP_eq_zero] using hnone
  refine (revocation_apply hst ha now user (·.id = old.id) _ _).trans ?_
  rw [if_pos hcount]
  rfl

omit hu in
theorem swap_notFound (now : Instant) (user : User) {old : RefreshToken}
    (hnone : ∀ t ∈ h.connection.data.tokens, t.id ≠ old.id) :
    NotFound h (s.swap now user old h) := by
  rw [swap, Action.transaction_apply _ hst.closed, swapWork_notFound
    (h := { h with connection := h.connection.begin }) hst.begin ha now user hnone]
  exact notFound_finish hst hst.schema

omit ha hu in
theorem exchange_notFound (now : Instant) {token : String}
    (hnone : h.connection.data.token? token = none) :
    NotFound h (s.exchange now token h) := by
  have hb : ({ h with connection := h.connection.begin } : Host σ).connection.Steady := hst.begin
  have hp : h.connection.begin.data.presented token = .error .tokenNotFound := by
    rw [Database.presented]
    exact hnone ▸ rfl
  have hw : s.exchangeWork now token { h with connection := h.connection.begin } =
      (.error .tokenNotFound, ⟨h.connection.begin.showing h.connection.data, h.outside⟩) := by
    have hfind := findUserWithToken_eq hb token
    rw [hp] at hfind
    exact Action.bind_of_error hfind
  rw [exchange_apply s now token hst.closed, hw]
  exact notFound_finish hst hst.schema

end Service

end RefreshChain
