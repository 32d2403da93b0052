import Mathlib.Data.List.Forall2
import Mathlib.Data.List.Nodup
import RefreshChain.Proofs.Composition
import RefreshChain.Proofs.Descent

/-!
# The revocation of a family

What the revocation of a family does to a store whose tokens are linked in any way at all: with
branches, with parents that are not there, or in circles.

* `inFamily_iff_least`: the family as the least set with its members.
* `Statement.revokeFamily_run`: the statement, on any store with the table of tokens and without
  triggers.
* `revokeFamily_revokes_exactly`: it succeeds, revokes the family and nothing else, and if it is
  repeated it revokes nothing more.
-/

namespace RefreshChain

/-! ## The least set -/

section

variable {tokens : List RefreshToken} {start t : RefreshToken}

/-- A set that has the children of `start` in its own instance and, with a token, all children of
that. -/
structure FamilyClosed (tokens : List RefreshToken) (start : RefreshToken)
    (S : RefreshToken → Prop) : Prop where
  near : ∀ t ∈ tokens, t.parent = some start.token → t.instanceId = start.instanceId → S t
  below : ∀ p, S p → ∀ t ∈ tokens, t.parent = some p.token → S t

theorem inFamily_iff_least :
    InFamily tokens start t ↔ ∀ S, FamilyClosed tokens start S → S t := by
  constructor
  · intro h S hS
    induction h with
    | child mem link =>
      obtain ⟨hparent, hinst⟩ := Bool.and_eq_true_iff.mp link
      exact hS.near _ mem (RefreshToken.isChildOf_iff.mp hparent) (by simpa using hinst)
    | further _ mem link ih => exact hS.below _ ih _ mem (RefreshToken.isChildOf_iff.mp link)
  · intro h
    refine h _ ⟨fun t ht hp hi => .child ht ?_, fun p hf t ht hp => .further hf ht ?_⟩
    · simp [RefreshToken.isNearChildOf, RefreshToken.isChildOf, hp, hi]
    · exact RefreshToken.isChildOf_iff.mpr hp

/-- Where the links are as they were, the family consists of the same tokens. -/
theorem InFamily.of_map {f : RefreshToken → RefreshToken} {t' : RefreshToken}
    (htoken : ∀ t, (f t).token = t.token) (hparent : ∀ t, (f t).parent = t.parent)
    (hinst : ∀ t, (f t).instanceId = t.instanceId) (h : InFamily (tokens.map f) start t') :
    ∃ t, InFamily tokens start t ∧ f t = t' := by
  induction h with
  | child mem link =>
    obtain ⟨t, ht, rfl⟩ := List.mem_map.mp mem
    refine ⟨t, .child ht ?_, rfl⟩
    simpa [RefreshToken.isNearChildOf, RefreshToken.isChildOf, hparent, hinst] using link
  | further _ mem link ih =>
    obtain ⟨p, hp, rfl⟩ := ih
    obtain ⟨t, ht, rfl⟩ := List.mem_map.mp mem
    refine ⟨t, .further hp ht ?_, rfl⟩
    simpa [RefreshToken.isChildOf, hparent, htoken] using link

end

/-! ## The statement -/

theorem Statement.revokeFamily_run {w : Work} (htable : w.data.hasTable .refreshTokens = true)
    (htriggers : w.data.schema.triggers = []) (now : Instant) (start : RefreshToken) :
    (revokeFamily now start).run w = .ok (w.data.tokens.countP (w.data.inFamilyOf start),
      { w with data := w.data.revokingFamily now start }) :=
  updateTokens_run htable htriggers _ _

/-- Where ids tell tokens apart, a token has the id of one in the family just if it is in it. -/
theorem Database.inFamilyOf_iff {db : Database} {start t : RefreshToken}
    (hids : (db.tokens.map (·.id)).Nodup) (ht : t ∈ db.tokens) :
    db.inFamilyOf start t = true ↔ InFamily db.tokens start t := by
  simp only [inFamilyOf, List.contains_iff_mem, List.mem_map]
  constructor
  · rintro ⟨u, hu, he⟩
    have hu := mem_family.mp hu
    rwa [← List.inj_on_of_nodup_map hids hu.mem ht he]
  · exact fun hf => ⟨t, mem_family.mpr hf, rfl⟩

namespace Database

variable {db : Database} {start t : RefreshToken} {now : Instant}

/-- Whoever is in the family after its revocation was in it before, so it is revoked. -/
theorem revoked_of_inFamily (hids : (db.tokens.map (·.id)).Nodup)
    (hf : InFamily (db.revokingFamily now start).tokens start t) : t.revoked = true := by
  have hb := becomes_revoking now (db.inFamilyOf start)
  obtain ⟨u, hu, rfl⟩ := hf.of_map (fun u => (hb u).token) (fun u => (hb u).parent)
    fun u => (hb u).kin.instanceId
  rw [if_pos ((inFamilyOf_iff hids hu.mem).mpr hu)]
  rfl

/-- A family that has been revoked has no member left that is valid. -/
theorem revokingFamily_again (hids : (db.tokens.map (·.id)).Nodup) (later : Instant) :
    ((db.revokingFamily now start).revokingFamily later start).tokens.map
        (fun t => (t.id, t.revoked)) =
      (db.revokingFamily now start).tokens.map fun t => (t.id, t.revoked) := by
  have hids' : ((db.revokingFamily now start).tokens.map (·.id)).Nodup := by
    have hsame : (db.revokingFamily now start).tokens.map (·.id) = db.tokens.map (·.id) :=
      List.map_map.trans (List.map_congr_left fun t _ => (becomes_revoking now _ t).id)
    rwa [hsame]
  refine List.map_map.trans (List.map_congr_left fun t ht => ?_)
  rw [Function.comp]
  split
  · rename_i hin
    rw [revoked_of_inFamily hids ((inFamilyOf_iff hids' ht).mp hin)]
    rfl
  · rfl

end Database

/-! ## The call -/

namespace Connection

variable {c : Connection} {α : Type}

/-- Whatever is counted is tolerated. -/
def Settled (c : Connection) : Prop :=
  c.violations ≤ 0 ∨ (c.inTransaction && c.deferred) = true

/-- A change that leaves the count of dangling references alone is carried out. -/
theorem Settled.execute (hs : c.Settled) (hw : c.readOnly = false) {s : Statement α} {a : α}
    {db : Database} (hp : s.purpose = .change)
    (run : s.run (c.work .change) = .ok (a, { c.work .change with data := db })) :
    c.execute s = (.ok a, (c.withData db).lapse) := by
  unfold Connection.execute
  rw [hp, run]
  simp only [hw, Bool.false_and, Bool.false_eq_true, if_false]
  unfold settle
  by_cases hd : (c.inTransaction && c.deferred) = true
  · have hlapse : (c.withData db).lapse = c.withData db := if_pos (Bool.and_eq_true_iff.mp hd).1
    rw [hlapse]
    exact if_pos hd
  · exact (if_neg hd).trans (if_pos (hs.resolve_right hd))

/-- Outside of transactions nothing remains counted. -/
theorem Settled.withData (hs : c.Settled) (db : Database) : (c.withData db).lapse.Settled := by
  unfold Connection.lapse
  split
  · exact hs
  · exact .inl (Int.le_refl 0)

end Connection

section

variable {σ : Type} {h : Host σ} (hclosed : h.connection.closed = false)
  (hwrite : h.connection.readOnly = false) (hcount : h.connection.Settled)
  (htable : h.connection.data.hasTable .refreshTokens = true)
  (htriggers : h.connection.data.schema.triggers = [])

include hclosed hwrite hcount htable htriggers

theorem revokeFamily_apply (now : Instant) (start : RefreshToken) :
    revokeFamily now start h = (.ok (), { h with connection :=
      (h.connection.withData (h.connection.data.revokingFamily now start)).lapse }) := by
  have hrun := Statement.revokeFamily_run (w := h.connection.work .change) htable htriggers now start
  have hexec := hcount.execute (s := .revokeFamily now start) hwrite rfl hrun
  have hact : (Action.write (.revokeFamily now start) : Action σ StoreError Nat) h = _ :=
    Action.onConnection_ok.mpr ⟨hclosed, _, hexec, rfl⟩
  exact Action.bind_of_ok (Action.during_ok.mpr hact)

/-- The revocation of a family succeeds on every store with the table of tokens and without
triggers, however the tokens are linked. It revokes exactly the members of the family, at the given
time, and changes nothing else; a token without a parent is never among them. When it is repeated,
it succeeds again and revokes nothing more. -/
theorem revokeFamily_revokes_exactly
    (hids : (h.connection.data.tokens.map (·.id)).Nodup) (now : Instant) (start : RefreshToken) :
    ∃ h', revokeFamily now start h = (.ok (), h') ∧
      (∃ tokens, h'.connection.data = { h.connection.data with tokens } ∧
        List.Forall₂ (fun t t' =>
          (InFamily h.connection.data.tokens start t →
            t' = { t with revoked := true, updatedAt := now }) ∧
          (¬InFamily h.connection.data.tokens start t → t' = t))
          h.connection.data.tokens tokens) ∧
      (∀ t, t.parent = none → ¬InFamily h.connection.data.tokens start t) ∧
      h'.outside = h.outside ∧ h.connection.SameOpen h'.connection ∧
      ∀ later, ∃ h'', revokeFamily later start h' = (.ok (), h'') ∧
        h''.connection.data.tokens.map (fun t => (t.id, t.revoked)) =
          h'.connection.data.tokens.map (fun t => (t.id, t.revoked)) := by
  have hdata : ∀ {c : Connection} {db : Database}, (c.withData db).lapse.data = db :=
    Connection.lapse_data _
  refine ⟨_, revokeFamily_apply hclosed hwrite hcount htable htriggers now start, ⟨_, hdata, ?_⟩,
    ?_, rfl, (Connection.sameOpen_withData _ _).trans (Connection.sameOpen_lapse _),
    fun later => ⟨_, revokeFamily_apply ?_ ?_ (hcount.withData _) ?_ ?_ later start, ?_⟩⟩
  · refine List.forall₂_map_right_iff.mpr (List.forall₂_same.mpr fun t ht => ?_)
    have hiff : _ ↔ InFamily _ start t := Database.inFamilyOf_iff hids ht
    by_cases hf : InFamily h.connection.data.tokens start t
    · exact ⟨fun _ => if_pos (hiff.mpr hf), fun hn => absurd hf hn⟩
    · exact ⟨fun hf' => absurd hf' hf, fun _ => if_neg fun hi => hf (hiff.mp hi)⟩
  · intro t hnone hf
    have hlink : ∀ p : RefreshToken, t.isChildOf p = false := by simp [RefreshToken.isChildOf, hnone]
    cases hf with
    | child _ link => simp [RefreshToken.isNearChildOf, hlink] at link
    | further _ _ link => simp [hlink] at link
  · rw [Connection.lapse_closed]
    exact hclosed
  · exact hwrite ▸ Connection.lapse_readOnly _
  · rw [hdata]
    exact htable
  · rw [hdata]
    exact htriggers
  · rw [hdata, hdata]
    exact Database.revokingFamily_again hids later

end

namespace Sample

/-- A token with the given id, string, parent and instance. -/
def linked (id : Int) (token : String) (parent : Option String) (instanceId : Nat) : RefreshToken :=
  { instanceId := .ofNat instanceId, id, token, parent, userId := .ofNat 0, createdAt := ⟨0, 0⟩,
    updatedAt := ⟨0, 0⟩ }

/-- A store without any other table. `a` has two children, one of them has a child in another
instance, and that is the parent of `a`. So a third child of `a`, in another instance, is in the
family of `a` by way of that circle. -/
def tangled : Host Unit where
  connection := .connect
    { schema := { definitions := [Table.refreshTokens.definition] }
      tokens := [linked 1 "b" (some "a") 1, linked 2 "c" (some "a") 1, linked 3 "d" (some "b") 2,
        linked 4 "e" (some "e") 1, linked 5 "f" (some "a") 2, linked 6 "g" (some "h") 1,
        linked 7 "h" (some "g") 1, linked 8 "a" (some "d") 1, linked 9 "i" none 1,
        linked 10 "j" (some "nowhere") 1] }
  outside := ()

end Sample

/-- The family of a made-up copy of `a` is revoked, which is not stored as it stands. -/
theorem tangled_family_revoked :
    Sample.tangled.connection.Settled ∧
    (Sample.tangled.connection.data.tokens.map (·.id)).Nodup ∧
    ∃ h', revokeFamily ⟨1, 0⟩ (Sample.linked 0 "a" none 1) Sample.tangled = (.ok (), h') ∧
      (h'.connection.data.tokens.filter (·.revoked)).map (·.id) = [1, 2, 3, 5, 8] := by
  have hcount : Sample.tangled.connection.Settled := .inl (Int.le_refl 0)
  have hids : (Sample.tangled.connection.data.tokens.map (·.id)).Nodup := by decide
  obtain ⟨h', hrun, -⟩ := revokeFamily_revokes_exactly (h := Sample.tangled) rfl rfl hcount
    (by decide) rfl hids ⟨1, 0⟩ (Sample.linked 0 "a" none 1)
  refine ⟨hcount, hids, h', hrun, ?_⟩
  have hh : (revokeFamily ⟨1, 0⟩ (Sample.linked 0 "a" none 1) Sample.tangled).2 = h' := by rw [hrun]
  rw [← hh]
  decide +kernel

end RefreshChain
