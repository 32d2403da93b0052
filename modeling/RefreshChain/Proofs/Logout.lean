import RefreshChain.Proofs.Copies

/-!
# Logouts are final

What a logout has deleted never comes back. No id is given out again unless a transaction is rolled
back from before the logout, and no string at all; so a copy of a deleted token finds nothing, for
ever.

* `Registered.notFound`: what comes of a copy of a token whose id is gone.
* `logout_is_final`: it stays gone, by `reserved_law`.
-/

namespace RefreshChain

variable {σ : Type} {s : Service σ} {start : σ} {issued : List RefreshToken} {h : Host σ}

/-- A copy of a token whose id no row has finds nothing. -/
theorem Registered.notFound (ha : s.audit = .table) (hst : h.connection.Steady)
    (hl : Ledger s start issued h.outside) (hreg : Registered issued h.connection.data)
    {d : RefreshToken} (hgone : ∀ t ∈ h.connection.data.tokens, t.id ≠ d.id)
    (hcopy : IsCopy issued d) :
    (∀ t ∈ h.connection.data.tokens, t.id ≠ d.id ∧ t.token ≠ d.token) ∧
      ∀ now, Service.NotFound h (s.exchange now d.token h) ∧
        ∀ user old, IsCopy issued old → old.token = d.token →
          Service.NotFound h (s.swap now user old h) := by
  have hstring : ∀ t ∈ h.connection.data.tokens, t.token ≠ d.token := fun t ht he =>
    hgone t ht (hl.same (hreg.copies t ht) hcopy he).1
  refine ⟨fun t ht => ⟨hgone t ht, hstring t ht⟩, fun now => ⟨?_, ?_⟩⟩
  · exact Service.exchange_notFound hst now (Database.token?_eq_none.mpr hstring)
  · intro user old hold he
    refine Service.swap_notFound hst ha now user fun t ht hid => ?_
    exact hgone t ht (hid.trans (hl.same hold hcopy he).1)

/-- What a logout deletes is gone. -/
theorem Database.Numbered.gone_loggedOut {db : Database} (h : db.Numbered) {d : RefreshToken}
    (hd : d ∈ db.tokens) :
    Reserved d.id (fun _ => False) (db.loggedOut d.instanceId d.userId) where
  given := h.bounded d hd
  rows t ht he := by
    obtain ⟨hm, hkept⟩ := List.mem_filter.mp ht
    rw [h.eq_of_id hm hd he] at hkept
    simp at hkept

/-- A logout deletes the tokens of a user within an instance and nothing else. Wherever a run leads
from there without going back, no row has the id or the string of one of them, and to present one of
them, or to swap a copy of one, finds no token and leaves all as it was. -/
theorem logout_is_final (ha : s.audit = .table) (hu : s.users = .table)
    (never : s.NeverRepeats start) (hr : Handed s start issued h) (instanceId userId : Uuid) :
    let h₁ : Host σ := ⟨h.connection.showing { h.connection.data with
      tokens := h.connection.data.tokens.filter fun t =>
        !(t.instanceId = instanceId && t.userId = userId) }, h.outside⟩
    logout instanceId userId h = (.ok (), h₁) ∧
      ∀ n later h', Ahead s issued h₁ n later h' →
        ∀ d ∈ h.connection.data.tokens, d.instanceId = instanceId → d.userId = userId →
          (∀ t ∈ h'.connection.data.tokens, t.id ≠ d.id ∧ t.token ≠ d.token) ∧
          ∀ now, Service.NotFound h' (s.exchange now d.token h') ∧
            ∀ user old, IsCopy later old → old.token = d.token →
              Service.NotFound h' (s.swap now user old h') := by
  obtain ⟨hl, hst, hreg⟩ := hr.sound ha hu never
  refine ⟨logout_apply hst instanceId userId, fun n later h' hon d hd hi hu' => ?_⟩
  -- The law that the run keeps is about one token at a time: no row has its id.
  cases hi
  cases hu'
  have hpruned := Database.pruned_loggedOut h.connection.data d.instanceId d.userId
  have law : TokenLaw (Reserved d.id fun _ => False) := reserved_law fun _ _ _ hf => hf
  have sound := hon.sound ha hu never law
  obtain ⟨hl', hs⟩ := sound (hst.showing hst.schema) hl
    (registered_lasting.pruned _ _ hpruned hreg) (hreg.toNumbered.gone_loggedOut hd)
  obtain ⟨hreg', hgone'⟩ := hs.since.now
  exact hreg'.notFound ha hs.steady hl' hgone'.rows (hon.isCopy (hreg.copies d hd))

/-- Alice has signed in, logs out and signs in again. Her first token stays gone. -/
theorem again_logout_is_final :
    let left := (logout Sample.alice.instanceId Sample.alice.id Sample.again).2
    let h' := (Event.request (.grant Sample.alice none)).perform Sample.service Sample.time left
    h'.connection.data.tokens.map (fun t => (t.id, t.token)) = [(2, "ttt")] ∧
      Service.NotFound h'
        (Sample.service.exchange Sample.time Sample.reissued.token h') ∧
      Service.NotFound h'
        (Sample.service.swap Sample.time Sample.alice Sample.reissued h') := by
  intro left h'
  have tokens : Sample.again.connection.data.tokens = [Sample.reissued] := by rfl
  obtain ⟨run, final⟩ := logout_is_final rfl rfl (Sample.service_neverRepeats 0)
    Sample.handed_again Sample.alice.instanceId Sample.alice.id
  have started : Ahead Sample.service [Sample.takenBack, Sample.reissued] left 0
      [Sample.takenBack, Sample.reissued] left := .start
  have on := started.step Sample.time (.request (.grant Sample.alice none)) trivial (Nat.zero_le _)
  obtain ⟨-, finds⟩ := final _ _ _ on Sample.reissued (tokens ▸ .head _) rfl rfl
  obtain ⟨exchanged, swapped⟩ := finds Sample.time
  have copy : IsCopy [Sample.takenBack, Sample.reissued] Sample.reissued :=
    ⟨_, .tail _ (.head _), .refl _⟩
  exact ⟨by rfl, exchanged, swapped Sample.alice Sample.reissued (copy.mono _) rfl⟩

end RefreshChain
