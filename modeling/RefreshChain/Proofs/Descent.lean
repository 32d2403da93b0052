import RefreshChain.Proofs.Lineage

/-!
# Descent

What was issued after a token, and what of it the revocation of a family finds.

* `Descends`: from token to token by links alone, whatever the instances.
* `mem_family`: the computed family is what `InFamily` says.
* `Database.Lineal.inFamily`: where children are in the instance of their parent, the family is all
  that descends from a token.
-/

namespace RefreshChain

/-- `t` was issued after `start`: it is a child of `start` or of a token issued after it. -/
inductive Descends (tokens : List RefreshToken) (start : RefreshToken) : RefreshToken → Prop where
  | child {t : RefreshToken} (mem : t ∈ tokens) (link : t.isChildOf start) : Descends tokens start t
  | further {p t : RefreshToken} (above : Descends tokens start p) (mem : t ∈ tokens)
      (link : t.isChildOf p) : Descends tokens start t

variable {tokens : List RefreshToken} {start t p : RefreshToken}

theorem Descends.mem (h : Descends tokens start t) : t ∈ tokens := by
  cases h <;> assumption

theorem Descends.trans (h : Descends tokens start p) (h' : Descends tokens p t) :
    Descends tokens start t := by
  induction h' with
  | child mem link => exact .further h mem link
  | further _ mem link ih => exact .further ih mem link

/-- Only the string of the token matters that the descent starts from. -/
theorem Descends.of_token (h : Descends tokens start t) (he : start.token = p.token) :
    Descends tokens p t := by
  induction h with
  | child mem link =>
    rw [RefreshToken.isChildOf_iff, he, ← RefreshToken.isChildOf_iff] at link
    exact .child mem link
  | further _ mem link ih => exact .further ih mem link

theorem InFamily.mem (h : InFamily tokens start t) : t ∈ tokens := by
  cases h <;> assumption

/-- The family of a token was issued after it. -/
theorem InFamily.descends (h : InFamily tokens start t) : Descends tokens start t := by
  induction h with
  | child mem link =>
    rw [RefreshToken.isNearChildOf, Bool.and_eq_true] at link
    exact .child mem link.1
  | further _ mem link ih => exact .further ih mem link

/-! ## The computed family -/

theorem mem_generations_inFamily {n : Nat} {above rest : List RefreshToken}
    (ha : ∀ p ∈ above, InFamily tokens start p) (hr : ∀ t ∈ rest, t ∈ tokens)
    (ht : t ∈ generations n above rest) : InFamily tokens start t := by
  induction n generalizing above rest with
  | zero => simp [generations] at ht
  | succ n ih =>
    have hnext : ∀ u ∈ rest.filter fun u => above.any u.isChildOf, InFamily tokens start u := by
      intro u hu
      obtain ⟨hmem, hany⟩ := List.mem_filter.mp hu
      obtain ⟨p, hp, hlink⟩ := List.any_eq_true.mp hany
      exact .further (ha p hp) (hr u hmem) hlink
    rw [generations] at ht
    split at ht
    · cases ht
    · rcases List.mem_append.mp ht with ht | ht
      · exact hnext t ht
      · exact ih hnext (fun u hu => hr u (List.mem_filter.mp hu).1) ht

/-- Enough generations hold all children of the tokens that they start from, and of each other. -/
theorem generations_closed {n : Nat} {above rest : List RefreshToken} (hn : rest.length ≤ n)
    (hp : p ∈ above ++ generations n above rest) (ht : t ∈ rest) (hlink : t.isChildOf p) :
    t ∈ generations n above rest := by
  induction n generalizing above rest with
  | zero =>
    rw [List.eq_nil_of_length_eq_zero (Nat.le_zero.mp hn)] at ht
    cases ht
  | succ n ih =>
    rw [generations] at hp ⊢
    by_cases hany : above.any t.isChildOf = true
    · have hmem : t ∈ rest.filter fun u => above.any u.isChildOf := List.mem_filter.mpr ⟨ht, hany⟩
      split
      · rename_i hnil
        rw [hnil] at hmem
        cases hmem
      · exact List.mem_append_left _ hmem
    · -- `t` is not among the next generation, so its parent is not among those above.
      have hp' : p ∉ above := fun hp => hany (List.any_eq_true.mpr ⟨p, hp, hlink⟩)
      have ht' : t ∈ rest.filter fun u => !above.any u.isChildOf :=
        List.mem_filter.mpr ⟨ht, by simpa using hany⟩
      split at hp
      · rename_i hnil
        simp at hp
        exact absurd hp hp'
      · rename_i hne
        have hlt : (rest.filter fun u => !above.any u.isChildOf).length ≤ n := by
          obtain ⟨u, hu⟩ := List.exists_mem_of_ne_nil _ hne
          obtain ⟨hmem, hu⟩ := List.mem_filter.mp hu
          have hshorter : (rest.filter fun u => !above.any u.isChildOf).length < rest.length :=
            List.length_filter_lt_length_iff_exists.mpr ⟨u, hmem, by simpa using hu⟩
          omega
        refine List.mem_append_right _ (ih hlt ?_ ht')
        rcases List.mem_append.mp hp with hp | hp
        · exact absurd hp hp'
        · exact hp

/-- The family that a revocation works out is the least set with its members. -/
theorem mem_family : t ∈ family tokens start ↔ InFamily tokens start t := by
  constructor
  · intro ht
    have hnear : ∀ u ∈ tokens.filter (·.isNearChildOf start), InFamily tokens start u := by
      intro u hu
      obtain ⟨hmem, hlink⟩ := List.mem_filter.mp hu
      exact .child hmem hlink
    rcases List.mem_append.mp ht with ht | ht
    · exact hnear t ht
    · exact mem_generations_inFamily hnear (fun u hu => (List.mem_filter.mp hu).1) ht
  · intro ht
    induction ht with
    | child mem link => exact List.mem_append_left _ (List.mem_filter.mpr ⟨mem, link⟩)
    | @further p t _ mem link ih =>
      by_cases hnear : t.isNearChildOf start = true
      · exact List.mem_append_left _ (List.mem_filter.mpr ⟨mem, hnear⟩)
      · refine List.mem_append_right _ (generations_closed (List.length_filter_le _ _) ih ?_ link)
        exact List.mem_filter.mpr ⟨mem, by simpa using hnear⟩

/-! ## After a revocation -/

namespace Database

variable {db : Database} {now : Instant} {q : RefreshToken → Bool}

/-- A row is found as it is unless it is revoked. -/
theorem token?_revoking {now : Instant} {q : RefreshToken → Bool} {string : String}
    (hq : ∀ t ∈ db.tokens, t.token = string → q t = false) :
    (db.revoking now q).token? string = db.token? string := by
  have hp : ((fun t : RefreshToken => decide (t.token = string)) ∘
      fun t => if q t then t.revokedAt now else t) = fun t => decide (t.token = string) :=
    funext fun t => by rw [Function.comp, (becomes_revoking now q t).token]
  rw [token?, revoking, List.find?_map, hp, token?]
  cases hf : db.tokens.find? fun t => decide (t.token = string) with
  | none => rfl
  | some t =>
    obtain ⟨hmem, hs⟩ := mem_of_token? hf
    simp [hq t hmem hs]

/-- Revocations do not touch the links. -/
theorem descends_revoking : Descends (db.revoking now q).tokens start t ↔
    ∃ u, Descends db.tokens start u ∧ (if q u then u.revokedAt now else u) = t := by
  constructor
  · intro h
    induction h with
    | child mem link =>
      obtain ⟨u, hu, rfl⟩ := (mem_revoking now q).mp mem
      have hlink : u.isChildOf start := by
        rw [RefreshToken.isChildOf_iff] at link ⊢
        exact (becomes_revoking now q u).parent ▸ link
      exact ⟨u, .child hu hlink, rfl⟩
    | further _ mem link ih =>
      obtain ⟨p, hp, rfl⟩ := ih
      obtain ⟨u, hu, rfl⟩ := (mem_revoking now q).mp mem
      have hlink : u.isChildOf p := by
        rw [RefreshToken.isChildOf_iff] at link ⊢
        rw [← (becomes_revoking now q u).parent, link, (becomes_revoking now q p).token]
      exact ⟨u, .further hp hu hlink, rfl⟩
  · rintro ⟨u, h, rfl⟩
    induction h with
    | child mem link =>
      refine .child ((mem_revoking now q).mpr ⟨_, mem, rfl⟩) ?_
      rw [RefreshToken.isChildOf_iff] at link ⊢
      rw [(becomes_revoking now q _).parent, link]
    | further _ mem link ih =>
      refine .further ih ((mem_revoking now q).mpr ⟨_, mem, rfl⟩) ?_
      rw [RefreshToken.isChildOf_iff] at link ⊢
      rw [(becomes_revoking now q _).parent, link, (becomes_revoking now q _).token]

/-- Where the rows of a family are known by their ids, the revocation of the family revokes what it
finds and nothing else. -/
theorem Numbered.inFamilyOf_iff (h : db.Numbered) (ht : t ∈ db.tokens) :
    db.inFamilyOf start t = true ↔ InFamily db.tokens start t := by
  simp only [inFamilyOf, List.contains_iff_mem, List.mem_map]
  constructor
  · rintro ⟨u, hu, he⟩
    have hu := mem_family.mp hu
    rwa [← h.eq_of_id hu.mem ht he]
  · intro hf
    exact ⟨t, mem_family.mpr hf, rfl⟩

/-- Where children are in the instance of their parent, all that descends from a token is in its
family. -/
theorem Lineal.inFamily (h : db.Lineal) (hs : start ∈ db.tokens) (hd : Descends db.tokens start t) :
    InFamily db.tokens start t := by
  induction hd with
  | @child t mem link =>
    obtain ⟨p, hp, hps, hk, -⟩ := h.parent t mem _ (RefreshToken.isChildOf_iff.mp link)
    rw [h.distinct p hp start hs hps] at hk
    refine .child mem ?_
    simp [RefreshToken.isNearChildOf, link, hk.instanceId]
  | further _ mem link ih => exact .further ih mem link

end Database

end RefreshChain
