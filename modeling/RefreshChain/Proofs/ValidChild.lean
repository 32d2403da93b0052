import RefreshChain.Proofs.Revocation
import RefreshChain.Proofs.Store.Keys

/-!
# Valid children

What the look for the valid child of a token finds, and what a revocation of the family leaves of
it. The tokens may be linked in any way at all.

* `RefreshToken.IsValidChildOf`: a child that is still valid. `Database.validChild?_eq_some_iff`:
  the one that is found has the least id.
* `Connection.ordered_stable`: row statements keep what tells which one that is.
* `Database.validChild?_revokingFamily`: after the revocation of a family none is left, neither of
  the token that it starts from nor of a member.
* `getValidChild_agrees_with_revokeFamily`: the same of the calls, on any store with the table.
-/

namespace RefreshChain

/-- A child of a token, in its instance, that is not revoked. -/
structure RefreshToken.IsValidChildOf (t p : RefreshToken) : Prop where
  parent : t.parent = some p.token
  instanceId : t.instanceId = p.instanceId
  valid : t.revoked = false

theorem RefreshToken.isNearChildOf_and_valid {t p : RefreshToken} :
    (t.isNearChildOf p && !t.revoked) = true ↔ t.IsValidChildOf p := by
  rw [Bool.and_eq_true, isNearChildOf, Bool.and_eq_true, isChildOf_iff, decide_eq_true_eq,
    Bool.not_eq_true']
  constructor
  · rintro ⟨⟨hp, hi⟩, hv⟩
    exact ⟨hp, hi, hv⟩
  · intro h
    exact ⟨⟨h.parent, h.instanceId⟩, h.valid⟩

/-- A valid child is in the family. -/
theorem RefreshToken.IsValidChildOf.inFamily {t p : RefreshToken} {tokens : List RefreshToken}
    (h : t.IsValidChildOf p) (ht : t ∈ tokens) : InFamily tokens p t :=
  .child ht (Bool.and_eq_true_iff.mp (RefreshToken.isNearChildOf_and_valid.mpr h)).1

/-- What has become a valid child was one before. -/
theorem RefreshToken.IsValidChildOf.of_becomes {t u p : RefreshToken} (h : u.IsValidChildOf p)
    (hb : t.Becomes u) : t.IsValidChildOf p where
  parent := hb.parent ▸ h.parent
  instanceId := hb.kin.instanceId ▸ h.instanceId
  valid := Bool.eq_false_iff.mpr fun hr => by simpa [h.valid] using hb.revoked hr

/-! ## The order -/

/-- Row statements leave the tokens in the order of their ids, and these unique. -/
theorem Connection.ordered_stable : Connection.Stable Statement.OfRows fun c =>
    ∀ db, c.Reaches db → db.Distinct ∧ db.Ascending :=
  Connection.stable_reaches fun _ _ hs _ _ _ h run =>
    ⟨hs.distinct h.1 run, hs.ascending h.2 run⟩

/-- In an ordered list the first is the least. -/
theorem minOn?_of_pairwise {α : Type} {f : α → Int} {xs : List α}
    (h : xs.Pairwise fun x y => f x ≤ f y) : xs.minOn? f = xs.head? := by
  cases xs with
  | nil => rfl
  | cons x xs =>
    rw [List.minOn?_cons, List.head?_cons]
    cases hy : xs.minOn? f with
    | none => rfl
    | some y =>
      have hle := (List.pairwise_cons.mp h).1 y (List.minOn?_mem hy)
      exact congrArg some (minOn_eq_left hle)

namespace Database

variable {db : Database} {start r x : RefreshToken} {now : Instant}

/-- As the tokens are in the order of their ids, the first that fits is found. -/
theorem Numbered.validChild?_eq_find? (h : db.Numbered) (start : RefreshToken) :
    db.validChild? start = db.tokens.find? fun t => t.isNearChildOf start && !t.revoked := by
  have hle := h.ascending.imp fun h => Int.le_of_lt h
  rw [validChild?, minOn?_of_pairwise (hle.filter _), List.head?_filter]

theorem mem_validChildren {t : RefreshToken} :
    t ∈ (db.tokens.filter fun t => t.isNearChildOf start && !t.revoked) ↔
      t ∈ db.tokens ∧ t.IsValidChildOf start := by
  rw [List.mem_filter, RefreshToken.isNearChildOf_and_valid]

theorem validChild?_eq_none_iff :
    db.validChild? start = none ↔ ∀ t ∈ db.tokens, ¬t.IsValidChildOf start := by
  rw [validChild?, ← Option.not_isSome_iff_eq_none, List.isSome_minOn?_iff, not_not,
    List.eq_nil_iff_forall_not_mem]
  simp only [mem_validChildren, not_and]

theorem mem_of_validChild? (h : db.validChild? start = some r) :
    r ∈ db.tokens ∧ r.IsValidChildOf start :=
  mem_validChildren.mp (List.minOn?_mem h)

theorem id_le_of_validChild? (h : db.validChild? start = some r) {t : RefreshToken}
    (ht : t ∈ db.tokens) (hc : t.IsValidChildOf start) : r.id ≤ t.id := by
  have hle := List.apply_get_minOn?_le_of_mem (f := fun t : RefreshToken => t.id)
    (mem_validChildren.mpr ⟨ht, hc⟩)
  rw [validChild?] at h
  simpa only [h, Option.get_some] using hle

theorem validChild?_eq_some_iff (hids : (db.tokens.map (·.id)).Nodup) :
    db.validChild? start = some r ↔ r ∈ db.tokens ∧ r.IsValidChildOf start ∧
      ∀ t ∈ db.tokens, t.IsValidChildOf start → r.id ≤ t.id := by
  constructor
  · intro h
    obtain ⟨hr, hchild⟩ := mem_of_validChild? h
    exact ⟨hr, hchild, fun t => id_le_of_validChild? h⟩
  · rintro ⟨hr, hchild, hleast⟩
    cases h : db.validChild? start with
    | none => exact absurd hchild (validChild?_eq_none_iff.mp h r hr)
    | some t =>
      obtain ⟨ht, hother⟩ := mem_of_validChild? h
      have hle := id_le_of_validChild? h hr hchild
      have hge := hleast t ht hother
      exact congrArg some (List.inj_on_of_nodup_map hids ht hr (Int.le_antisymm hle hge))

/-! ## After a revocation of the family -/

/-- Neither `start` nor who bears the string of a member of its family has a valid child left. -/
theorem validChild?_revokingFamily (hids : (db.tokens.map (·.id)).Nodup)
    (hx : x = start ∨ ∃ y, InFamily db.tokens start y ∧ x.token = y.token) :
    (db.revokingFamily now start).validChild? x = none := by
  refine validChild?_eq_none_iff.mpr fun t ht hc => ?_
  obtain ⟨u, hu, rfl⟩ := (mem_revoking now _).mp ht
  have hchild : u.IsValidChildOf x := hc.of_becomes (becomes_revoking now _ u)
  have hmember : InFamily db.tokens start u := by
    rcases hx with rfl | ⟨y, hy, htoken⟩
    · exact hchild.inFamily hu
    · exact .further hy hu (RefreshToken.isChildOf_iff.mpr (htoken ▸ hchild.parent))
  have hvalid := hc.valid
  rw [if_pos ((inFamilyOf_iff hids hu).mpr hmember)] at hvalid
  cases hvalid

end Database

/-! ## The calls -/

section

variable {σ : Type} {h h' : Host σ} {now : Instant} {start : RefreshToken}

theorem getValidChild_of_hasTable (hclosed : h.connection.closed = false)
    (htable : h.connection.data.hasTable .refreshTokens = true) (start : RefreshToken) :
    getValidChild start h =
      ((match h.connection.data.validChild? start with
        | some r => .ok r
        | none => .error .tokenNotFound),
      { h with connection := h.connection.lapse }) := by
  have hnone : [Table.refreshTokens].find? (fun t => !h.connection.data.hasTable t) = none := by
    simpa using htable
  rw [getValidChild, Action.bind_apply, findValidChild, Action.read, Action.during,
    Action.mapError_of (Action.onConnection_apply hclosed), Connection.look, hnone]
  cases h.connection.data.validChild? start <;> rfl

/-- What a revocation of a family that succeeds has made of the contents. -/
theorem revokeFamily_ok (run : revokeFamily now start h = (.ok (), h')) :
    h'.connection.data = h.connection.data.revokingFamily now start ∧
      h'.connection.closed = false := by
  obtain ⟨n, h₁, hwrite, run⟩ := Action.bind_ok.mp run
  cases run
  have hact := Action.during_ok.mp hwrite
  obtain ⟨w, hw, hdata⟩ := Action.write_ran hact
  obtain ⟨hclosed, -⟩ := Action.onConnection_ok.mp hact
  have hopen := Connection.Enduring.of_setting (·.closed) (fun _ _ _ _ _ _ _ => rfl) false
  have hmade : (Action.write (.revokeFamily now start) : Action σ StoreError Nat).MadeOf
      Statement.OfRows := .write (.revokeFamily now start)
  have hkept := hmade.keeps hopen.stable hclosed
  rw [hact] at hkept
  exact ⟨hdata.trans (Statement.updateTokens_ok hw).2, hkept⟩

section

variable (hclosed : h.connection.closed = false)
  (htable : h.connection.data.hasTable .refreshTokens = true)

include hclosed htable

theorem getValidChild_ok_iff {r : RefreshToken} :
    (getValidChild start h).1 = .ok r ↔ h.connection.data.validChild? start = some r := by
  rw [getValidChild_of_hasTable hclosed htable]
  cases h.connection.data.validChild? start <;> simp

theorem getValidChild_notFound_iff :
    (getValidChild start h).1 = .error .tokenNotFound ↔
      h.connection.data.validChild? start = none := by
  rw [getValidChild_of_hasTable hclosed htable]
  cases h.connection.data.validChild? start <;> simp

/-- What is looked for as the valid child of a token is what the revocation of its family revokes
first. Of the children in the instance of the token that are not revoked, the one with the least id
is found, and none just if there is none; the contents stay as they are. Whatever is found is in the
family, and is revoked with it. Once the family has been revoked, nothing is found any more: not
below the token, and not below what bears the string of one of the family. -/
theorem getValidChild_agrees_with_revokeFamily
    (hids : (h.connection.data.tokens.map (·.id)).Nodup) (start : RefreshToken) :
    let tokens := h.connection.data.tokens
    (∀ r, (getValidChild start h).1 = .ok r ↔ r ∈ tokens ∧ r.IsValidChildOf start ∧
      ∀ t ∈ tokens, t.IsValidChildOf start → r.id ≤ t.id) ∧
    ((getValidChild start h).1 = .error .tokenNotFound ↔ ∀ t ∈ tokens, ¬t.IsValidChildOf start) ∧
    (getValidChild start h).2.connection.data = h.connection.data ∧
    (∀ r, (getValidChild start h).1 = .ok r → InFamily tokens start r) ∧
    ∀ now h', revokeFamily now start h = (.ok (), h') →
      (∀ r, (getValidChild start h).1 = .ok r → r.revokedAt now ∈ h'.connection.data.tokens) ∧
      (getValidChild start h').1 = .error .tokenNotFound ∧
      ∀ x y, InFamily tokens start y → x.token = y.token →
        (getValidChild x h').1 = .error .tokenNotFound := by
  have hfound : ∀ r, (getValidChild start h).1 = .ok r → r ∈ h.connection.data.tokens ∧
      InFamily h.connection.data.tokens start r := fun r hr =>
    have ⟨hmem, hchild⟩ :=
      Database.mem_of_validChild? ((getValidChild_ok_iff hclosed htable).mp hr)
    ⟨hmem, hchild.inFamily hmem⟩
  refine ⟨fun r => (getValidChild_ok_iff hclosed htable).trans
      (Database.validChild?_eq_some_iff hids),
    (getValidChild_notFound_iff hclosed htable).trans Database.validChild?_eq_none_iff,
    getValidChild_looks start h, fun r hr => (hfound r hr).2, fun now h' hrevoke => ?_⟩
  obtain ⟨hdata, hclosed'⟩ := revokeFamily_ok hrevoke
  have hnone : ∀ x, x = start ∨ (∃ y, InFamily h.connection.data.tokens start y ∧
      x.token = y.token) → (getValidChild x h').1 = .error .tokenNotFound := fun x hx => by
    refine (getValidChild_notFound_iff hclosed' (by rw [hdata]; exact htable)).mpr ?_
    rw [hdata]
    exact Database.validChild?_revokingFamily hids hx
  refine ⟨fun r hr => ?_, hnone start (.inl rfl), fun x y hy hx => hnone x (.inr ⟨y, hy, hx⟩)⟩
  obtain ⟨hmem, hfamily⟩ := hfound r hr
  rw [hdata]
  exact (Database.mem_revoking now _).mpr
    ⟨r, hmem, if_pos ((Database.inFamilyOf_iff hids hmem).mpr hfamily)⟩

end

end

/-- Below `a` there are two valid children, and in another instance a third. The family of `a` runs
in a circle; after its revocation none of its members has a valid child left. -/
theorem tangled_validChild :
    let h := Sample.tangled
    let start := Sample.linked 0 "a" none 1
    (h.connection.data.tokens.map (·.id)).Nodup ∧
      (getValidChild start h).1 = .ok (Sample.linked 1 "b" (some "a") 1) ∧
      ∃ h', revokeFamily ⟨1, 0⟩ start h = (.ok (), h') ∧
        (getValidChild start h').1 = .error .tokenNotFound ∧
        (getValidChild (Sample.linked 0 "b" none 2) h').1 = .error .tokenNotFound := by
  have hids : (Sample.tangled.connection.data.tokens.map (·.id)).Nodup := by decide
  obtain ⟨hleast, -, -, hfamily, hafter⟩ := getValidChild_agrees_with_revokeFamily rfl (by decide)
    hids (Sample.linked 0 "a" none 1)
  have hchild : (getValidChild (Sample.linked 0 "a" none 1) Sample.tangled).1 =
      .ok (Sample.linked 1 "b" (some "a") 1) := by
    have hfirst : ∀ t ∈ Sample.tangled.connection.data.tokens, (1 : Int) ≤ t.id := by decide
    exact (hleast _).mpr ⟨by decide, ⟨rfl, rfl, rfl⟩, fun t ht _ => hfirst t ht⟩
  obtain ⟨h', hrun, -⟩ := revokeFamily_revokes_exactly (h := Sample.tangled) rfl rfl
    (.inl (Int.le_refl 0)) (by decide) rfl hids ⟨1, 0⟩ (Sample.linked 0 "a" none 1)
  obtain ⟨-, hstart, hmembers⟩ := hafter _ h' hrun
  exact ⟨hids, hchild, h', hrun, hstart, hmembers _ _ (hfamily _ hchild) rfl⟩

end RefreshChain
