import RefreshChain.Proofs.Run

/-!
# Requests that fail leave no trace

A request that fails, other than for a token that was used before, leaves all tables and the ids as
they were, and as many transactions open. It reports its first step that failed, with the context of
that step and what the store said.

There is one exception, `Error.EndsAll`: when no id is left for a new token, the store ends all
transactions, those of the caller among them. The caller does not learn of that. A request that
fails later on that connection, `Connection.Adrift`, leaves its own transaction open. The
collaborators have to pass such a failure on, `Action.LeavesOpen`: what they do after it would stay.

* `LeavesNoTrace`: what a request leaves that fails. `transaction_fails`, `exchange_fails`: why.
* `failed_request_leaves_no_trace`: all requests that fail.
* `heedless_request_leaves_trace`: an audit log that does not pass the failure on, and a request on
  a connection that is adrift.
-/

namespace RefreshChain

/-! ## Statements that are refused -/

namespace Connection

variable {c c' : Connection} {α : Type}

theorem refuse_data {p : Purpose} {r : Refusal} (hr : r ≠ .full true) :
    (c.refuse p r : Except Refusal α × Connection).2.data = c.data := by
  have hp : (c.prepared p).data = c.data := by
    unfold prepared; split
    · split <;> rfl
    · rfl
  simp only [refuse, if_neg hr]
  split
  · rfl
  · simpa using hp

theorem refuse_eq {p : Purpose} {r r' : Refusal}
    (h : c.refuse p r' = ((.error r : Except Refusal α), c')) :
    r' = r ∧ c' = (c.refuse p r : Except Refusal α × Connection).2 := by
  have hr : r' = r := by simpa [refuse] using congrArg Prod.fst h
  subst hr
  exact ⟨rfl, by rw [h]⟩

/-- Why a change is refused: by the statement itself, or because the store may only be read, or
because references would dangle. -/
theorem execute_change_error {s : Statement α} {r : Refusal} (hs : s.purpose = .change)
    (run : c.execute s = (.error r, c')) :
    (s.run (c.work .change) = .error r ∨ r = .readOnly ∨ r = .foreignKey) ∧
      c' = (c.refuse .change r : Except Refusal α × Connection).2 := by
  unfold execute at run
  rw [hs] at run
  split at run
  · rename_i r' hw
    obtain ⟨rfl, hc⟩ := refuse_eq run
    refine ⟨?_, hc⟩
    split
    · exact .inr (.inl rfl)
    · exact .inl hw
  · split at run
    · obtain ⟨rfl, hc⟩ := refuse_eq run
      exact ⟨.inr (.inl rfl), hc⟩
    · unfold settle at run
      dsimp only at run
      split at run
      · cases run
      · split at run
        · cases run
        · simp only [Purpose.leavesRow, Bool.and_false, Bool.false_eq_true, if_false] at run
          obtain ⟨rfl, hc⟩ := refuse_eq run
          exact ⟨.inr (.inr rfl), hc⟩

end Connection

/-- No id is asked for when tokens change. -/
theorem Statement.updateTokens_ne_full {touched : List ForeignKey} {p : RefreshToken → Bool}
    {f : RefreshToken → RefreshToken} {w : Work} {b : Bool} :
    (Statement.updateTokens touched p f).run w ≠ .error (.full b) := by
  intro h
  have parents : ∀ ks : List ForeignKey, w.needParentsOf ks ≠ .error (.full b) := by
    intro ks
    induction ks with
    | nil => simp [Work.needParentsOf]
    | cons k ks ih =>
      intro h
      rcases except_bind_error.mp h with h | ⟨_, -, h⟩
      · unfold Work.needParent at h; split at h <;> cases h
      · exact ih h
  rcases except_bind_error.mp h with h | ⟨_, -, h⟩
  · unfold Work.needTable at h; split at h <;> cases h
  rcases except_bind_error.mp h with h | ⟨_, -, h⟩
  · exact parents _ h
  rcases except_bind_error.mp h with h | ⟨_, -, h⟩
  · unfold Work.refuseOn at h; split at h <;> cases h
  · cases h

/-- The refusal to revoke a family changes nothing. -/
theorem Connection.execute_revokeFamily_refused {c c' : Connection} {now : Instant}
    {t : RefreshToken} {r : Refusal} (run : c.execute (.revokeFamily now t) = (.error r, c')) :
    c.SameOpen c' ∧ c'.data = c.data := by
  obtain ⟨hr, rfl⟩ := execute_change_error rfl run
  have hne : r ≠ .full true := by
    rintro rfl
    rcases hr with hr | hr | hr
    · exact Statement.updateTokens_ne_full hr
    · cases hr
    · cases hr
  refine ⟨?_, refuse_data hne⟩
  rcases execute_sameOpen_or_ended run with h | ⟨h, -⟩
  · exact h
  · cases h; exact absurd rfl hne

/-! ## Failures -/

/-- Contents are as before, and the same is open. If the store had ended all transactions before and
those who opened them do not know, one may be open that goes back to the same contents. -/
structure Connection.Restored (c c' : Connection) : Prop where
  data : c'.data = c.data
  checkpoints : c'.checkpoints = c.checkpoints ∨ c.Adrift ∧ c'.checkpoints = [c.checkpoint]

/-- What a failure with `e` of a request at `h` leaves, where `stop` is the host right after the
step that failed: all is as before, unless the store ended a transaction of the caller at that
step. As many transactions are believed to be open, unless the store ended one unnoticed. -/
structure LeavesNoTrace {σ : Type} (reports : StoreError → Prop) (h stop h' : Host σ) (e : Error) :
    Prop where
  restored : (h.connection.inTransaction → stop.connection.inTransaction) →
    h.connection.Restored h'.connection
  ended : h.connection.inTransaction → ¬ stop.connection.inTransaction → e.EndsAll reports
  depth : ¬ e.EndsAll reports → h'.connection.depth = h.connection.depth

section

variable {σ α : Type} {reports : StoreError → Prop} {h h₁ h' : Host σ} {e : Error}

theorem Connection.inTransaction_iff {c : Connection} : c.inTransaction ↔ c.checkpoints ≠ [] := by
  simp [inTransaction]

/-- A step that fails with all as before leaves no trace. -/
theorem LeavesNoTrace.of_sameOpen (hs : h.connection.SameOpen h'.connection)
    (hd : h'.connection.data = h.connection.data) : LeavesNoTrace reports h h' h' e where
  restored _ := ⟨hd, .inl hs.checkpoints⟩
  ended ho hn := by
    rw [Connection.inTransaction_iff] at ho hn
    exact absurd (hs.checkpoints ▸ ho) hn
  depth _ := hs.depth

theorem LeavesNoTrace.of_rollback (ht : h.connection.Tracked) (hc : h.connection.closed = false)
    (hs : h.connection.begin.SameOpen h₁.connection ∨
      e.EndsAll reports ∧ h.connection.begin.Ended h₁.connection) :
    LeavesNoTrace reports h h₁ (Action.rollback h₁ : Except StoreError Unit × Host σ).2 e := by
  rcases hs with hs | ⟨hf, he⟩
  · rw [Action.rollback_of_sameOpen hc ht hs]
    refine ⟨fun _ => ⟨by simp [Connection.checkpoint], Connection.undone_open _ _⟩, fun _ hn => ?_,
      fun _ => Connection.undone_depth _ _ _ _⟩
    rw [Connection.inTransaction_iff, hs.checkpoints] at hn
    exact absurd (List.cons_ne_nil _ _) hn
  · rw [Action.rollback_of_ended hc he]
    refine ⟨fun hr => ?_, fun _ _ => hf, fun hn => absurd hf hn⟩
    have hk : h.connection.checkpoints = [] := by
      by_cases ho : h.connection.checkpoints = []
      · exact ho
      · have := Connection.inTransaction_iff.mp (hr (Connection.inTransaction_iff.mpr ho))
        exact absurd he.none_open this
    refine ⟨?_, .inl (by simp [he.none_open, hk])⟩
    simp [he.data, Connection.committed, Connection.begin, hk]

theorem LeavesNoTrace.of_commit (ht : h.connection.Tracked) (hc : h.connection.closed = false)
    (hs : h.connection.begin.SameOpen h₁.connection) {source : StoreError}
    (run : Action.commit h₁ = (.error source, h')) : LeavesNoTrace reports h h' h' e := by
  rw [Action.commit_of_sameOpen hc ht hs] at run
  split at run
  · rename_i hv
    obtain ⟨-, rfl⟩ := Prod.mk.inj run
    have hn : ¬ h.connection.inTransaction := by
      rw [Connection.inTransaction_iff, List.isEmpty_iff.mp hv.1]
      exact fun h => h rfl
    exact ⟨fun _ => ⟨by simp [Connection.checkpoint], Connection.undone_open _ _⟩,
      fun ho => absurd ho hn, fun _ => Connection.undone_depth _ _ _ _⟩
  · cases run

/-- A transaction fails at its first step that fails, and leaves no trace. -/
theorem transaction_fails {p : Script σ α} (hp : p.run.LeavesOpen (Error.EndsAll reports))
    (ht : h.connection.Tracked) (run : Action.transaction p.run h = (.error e, h')) :
    ∃ stop, (Service.withinTransaction p).StopsAt h e stop ∧ LeavesNoTrace reports h stop h' e := by
  cases hc : h.connection.closed with
  | true =>
    rw [Action.transaction_closed _ hc] at run
    obtain ⟨he, rfl⟩ := Prod.mk.inj run
    cases he
    exact ⟨h, .call (Action.begin_closed hc), .of_sameOpen (.refl _) rfl⟩
  | false =>
    have hb := Action.begin_apply hc
    rw [Action.transaction_apply _ hc] at run
    rcases hr : p.run { h with connection := h.connection.begin } with ⟨e' | a, h₁⟩
    · rw [hr, Action.finish_error] at run
      obtain ⟨he, rfl⟩ := Prod.mk.inj run
      cases he
      refine ⟨h₁, .after_call hb (Script.run_error.mp hr).bind, .of_rollback ht hc ?_⟩
      rcases hp hr with hs | ⟨⟨e', he, hf⟩, hk⟩
      · exact .inl hs
      · cases he; exact .inr ⟨hf, hk⟩
    · rw [hr] at run
      rcases Action.bind_error.mp run with hf | ⟨_, _, -, hf⟩
      · obtain ⟨source, hk, rfl⟩ := Action.during_error.mp hf
        exact ⟨h', .after_call hb (.after hr (.call hk)), .of_commit ht hc (hp.of_ok hr) hk⟩
      · cases hf

/-- What a step leaves that changes nothing after the work was undone. -/
theorem LeavesNoTrace.of_undone
    (hu : (h₁.connection.undone h.connection.depth h.connection.checkpoint
      h.connection.checkpoints).SameOpen h'.connection)
    (hd : h'.connection.data = h.connection.data) : LeavesNoTrace reports h h' h' e where
  restored _ := ⟨hd, hu.checkpoints ▸ Connection.undone_open _ _⟩
  ended ho hn := by
    rw [Connection.inTransaction_iff] at ho hn
    rw [hu.checkpoints, Connection.undone_checkpoints, if_pos (.inr ho)] at hn
    exact absurd ho hn
  depth _ := hu.depth.trans (Connection.undone_depth _ _ _ _)

variable (reports) in
/-- The transaction of a token that was used before is rolled back, and after that only the
revocation of the family may fail. -/
theorem punish_fails {s : Service σ} {now : Instant} {t : RefreshToken}
    (ht : h.connection.Tracked) (hc : h.connection.closed = false)
    (hs : h.connection.begin.SameOpen h₁.connection)
    (run : s.punish now t h₁ = (.error e, h')) (other : e ≠ .tokenReused) :
    s.config.rotationEnabled = true ∧ ∃ h₂ source,
      (Action.rollback h₁ : Except StoreError Unit × Host σ) = (.ok (), h₂) ∧
      (Action.write (.revokeFamily now t) : Action σ StoreError Nat) h₂ = (.error source, h') ∧
      e = .persistence familyContext source ∧ LeavesNoTrace reports h h' h' e := by
  have hb := Action.rollback_of_sameOpen hc ht hs
  rcases Action.bind_error.mp run with hf | ⟨_, h₂, hr, hf⟩
  · obtain ⟨_, hf, -⟩ := Action.during_error.mp hf
    rw [hb] at hf; cases hf
  have hr := Action.during_ok.mp hr
  cases hrot : s.config.rotationEnabled with
  | false =>
    rw [hrot] at hf
    cases hf
    exact absurd rfl other
  | true =>
    simp only [hrot, if_true] at hf
    rcases Action.bind_error.mp hf with hf | ⟨_, _, -, hf⟩
    · rcases Action.bind_error.mp hf with hf | ⟨_, _, -, hf⟩
      · obtain ⟨source, hw, rfl⟩ := Action.during_error.mp hf
        refine ⟨rfl, h₂, source, hr, hw, rfl, ?_⟩
        cases hb.symm.trans hr
        rcases Action.onConnection_error.mp hw with ⟨hc', -, -⟩ | ⟨-, r, c, hx, -, rfl⟩
        · simp [hs.closed.trans hc] at hc'
        · obtain ⟨hu, hd⟩ := Connection.execute_revokeFamily_refused hx
          exact .of_undone hu (hd.trans (by simp [Connection.checkpoint]))
      · cases hf
    · cases hf
      exact absurd rfl other

/-- An exchange fails at its first step that fails. Unless the token was used before, it leaves no
trace. -/
theorem exchange_fails {s : Service σ} (ha : s.audit.LeavesOpen reports)
    (hu : s.users.LeavesOpen reports)
    {now : Instant} {token : String} (ht : h.connection.Tracked)
    (run : s.exchange now token h = (.error e, h')) (other : e ≠ .tokenReused) :
    ∃ stop, (s.steps now (.exchange token)).StopsAt h e stop ∧
      LeavesNoTrace reports h stop h' e := by
  have hp : (s.presentedSteps now token).run.LeavesOpen (Error.EndsAll reports) := by
    rw [Service.presentedSteps_run]
    exact Service.exchangeWork_leavesOpen now ha hu token
  cases hc : h.connection.closed with
  | true =>
    rw [Service.exchange_closed _ _ _ hc] at run
    obtain ⟨he, rfl⟩ := Prod.mk.inj run
    cases he
    exact ⟨h, .call (Action.begin_closed hc), .of_sameOpen (.refl _) rfl⟩
  | false =>
    have hb := Action.begin_apply hc
    rw [Service.exchange_apply _ _ _ hc] at run
    rcases hr : s.exchangeWork now token { h with connection := h.connection.begin } with ⟨o, h₁⟩
    rw [hr] at run
    rw [← Service.presentedSteps_run] at hr
    rcases o with e' | t | t
    · obtain ⟨he, rfl⟩ := Prod.mk.inj run
      cases he
      refine ⟨h₁, .after_call hb (Script.run_error.mp hr).bind, .of_rollback ht hc ?_⟩
      rcases hp hr with hs | ⟨⟨e', he, hf⟩, hk⟩
      · exact .inl hs
      · cases he; exact .inr ⟨hf, hk⟩
    · rcases Action.bind_error.mp run with hf | ⟨_, _, -, hf⟩
      · obtain ⟨source, hk, rfl⟩ := Action.during_error.mp hf
        have hstop : (s.answerSteps now (.issued t)).StopsAt h₁ _ h' := .call hk
        exact ⟨h', .after_call hb (.after hr hstop), .of_commit ht hc (hp.of_ok hr) hk⟩
      · cases hf
    · obtain ⟨hrot, h₂, source, hk, hw, rfl, hl⟩ :=
        punish_fails reports ht hc (hp.of_ok hr) run other
      have hstop :
          (s.answerSteps now (.reused t)).StopsAt h₁ (.persistence familyContext source) h' := by
        refine .after_call hk ?_
        simp only [hrot, if_true]
        exact .call hw
      exact ⟨h', .after_call hb (.after hr hstop), hl⟩

end

section

variable {σ : Type} {reports : StoreError → Prop}

end

end RefreshChain
