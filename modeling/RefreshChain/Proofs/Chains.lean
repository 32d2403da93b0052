import Mathlib.Data.List.Chain
import Mathlib.Data.List.Perm.Subperm
import RefreshChain.Proofs.Run

/-!
# Chains of tokens

While users stay in their instance and tokens are issued to those they belong to, the tokens of a
store form chains: from one that was issued at a sign-in, each to the one that replaced it. Only the
last one of a chain may still be used.

* `Event.Faithful`: the events that this is about.
* `Growing`, `keptByRuns_of_growing`: what such runs keep, `Database.Lineal` among it.
* `TokenChain`, `tokens_form_chains`: the chains, in all that runs lead to.
-/

namespace RefreshChain

/-! ## Runs -/

/-- Tokens are issued to users as they are stored, a token is rotated only for its owner, and users
stay in their instance. -/
def Event.Faithful : Event → Database → Prop
  | .request (.grant user _), db => db.user? user.id = some user
  | .request (.swap _ _), _ => False
  | .changeUser _ c, _ => c.instanceId = none
  | _, _ => True

section

variable {σ : Type} {s : Service σ} {n : Nat} {P : Database → Prop}

/-- `P` survives the tokens that faithful runs bring: roots of new chains, and children of tokens
that were valid up to then. -/
structure Growing (P : Database → Prop) : Prop where
  lineal : ∀ db, P db → db.Lineal
  root : ∀ db t, P db → t.id = db.nextTokenId → db.token? t.token = none → t.parent = none →
    (∃ u, db.user? t.userId = some u ∧ u.instanceId = t.instanceId) → P (db.withToken t)
  child : ∀ db now old t, P db → old ∈ db.tokens → old.revoked = false →
    t.id = (db.revoking now (Service.stillValid old)).nextTokenId →
    (db.revoking now (Service.stillValid old)).token? t.token = none →
    t.parent = some old.token → old.Kin t →
      P ((db.revoking now (Service.stillValid old)).withToken t)

/-- The token that an exchange issues belongs where the presented one does: its user is the owner,
and is in the same instance. -/
theorem Database.Lineal.kin_of_issued {db db' : Database} (h : db.Lineal) {Q : Database → Prop}
    {token : String} {user : User} {old t : RefreshToken}
    (hp : Service.Presents Q token user old db) (hi : Issued db' user (.rotation old) t) :
    old.Kin t := by
  obtain ⟨hmem, -⟩ := mem_of_token? hp.found
  obtain ⟨u, hu, hui⟩ := hp.owner
  obtain ⟨v, hv, hvi⟩ := h.owned old hmem
  rw [hu] at hv
  cases hv
  exact ⟨hvi.symm.trans (hui.trans hi.instanceId.symm), hp.userId.symm.trans hi.userId.symm,
    (hi.session old rfl).symm⟩

/-- The sign-in of a user as stored brings the root of a new chain. -/
theorem issue_keeps_of_growing (hs : s.Careful n) (hP : Lasting P) (hg : Growing P) (now : Instant)
    (user : User) (conditions : Option Conditions) :
    (s.issue now user (.signIn conditions)).Keeps n P (fun db => db.user? user.id = some user)
      fun _ _ => True := by
  refine Service.issue_keeps (R := fun _ _ => True) hs hP.spared (fun _ _ _ _ _ => trivial) user
    (.signIn conditions) (fun _ _ _ _ hq => hq) fun db t hp hq hi => ?_
  refine ⟨hg.root db t hp hi.id hi.fresh hi.parent ⟨user, ?_, hi.instanceId.symm⟩, trivial⟩
  rw [hi.userId]
  exact hq

/-- An exchange brings the child of a token that was valid. -/
theorem exchangeWork_keeps_of_growing (hs : s.Careful n) (hP : Lasting P) (hg : Growing P)
    (now : Instant) (token : String) :
    (s.exchangeWork now token).Keeps n P (fun _ => True)
      (Service.Worked (fun _ _ => True) (fun _ => True) token) := by
  refine Service.exchangeWork_keeps hs hP (fun _ _ _ _ => trivial) (fun _ _ _ _ _ => trivial) token
    fun db t user old hp hq hvalid hi => ?_
  obtain ⟨hmem, -⟩ := Database.mem_of_token? hq.found
  have hkin := (hg.lineal db hp).kin_of_issued hq hi
  exact ⟨hg.child db now old t hp hmem hvalid hi.id hi.fresh hi.parent hkin, trivial⟩

/-- Faithful runs keep a property that survives the tokens that they bring. -/
theorem keptByRuns_of_growing (hs : s.Careful n) (hP : Lasting P) (hg : Growing P) :
    KeptByRuns s Event.Faithful n P where
  lasting := hP
  request m hm now r := by
    have hs : s.Careful m := ⟨hs.audit, hs.users, hs.leavesOpen.imp_left fun h0 => by omega⟩
    cases r with
    | grant user conditions =>
      refine .transaction (issue_keeps_of_growing hs hP hg now user conditions) ?_
      exact hs.leavesOpen.imp_right fun h => ⟨_, Service.issue_leavesOpen now user h.2 _⟩
    | swap user old => exact fun _ _ _ _ hf => absurd hf id
    | exchange token =>
      refine Service.exchange_keeps hP token (exchangeWork_keeps_of_growing hs hP hg now token) ?_
      exact hs.leavesOpen.imp_right fun h => ⟨_, Service.exchangeWork_leavesOpen now h.1 h.2 token⟩
  change id c db hc hp := by
    refine hP.spared (db.spared_map_users (fun u => ?_) fun u => ?_) hp
    · split <;> rfl
    · split
      · simp [UserChange.apply, show c.instanceId = none from hc]
      · rfl

/-- A token that was valid and has just been revoked gets its child. -/
theorem Database.Lineal.rotated {db : Database} (h : db.Lineal) {now : Instant}
    {old t : RefreshToken} (hmem : old ∈ db.tokens) (hvalid : old.revoked = false)
    (hid : t.id = (db.revoking now (Service.stillValid old)).nextTokenId)
    (hnew : (db.revoking now (Service.stillValid old)).token? t.token = none)
    (hlink : t.parent = some old.token) (hkin : old.Kin t) :
    ((db.revoking now (Service.stillValid old)).withToken t).Lineal := by
  have hold : (old.revokedAt now) ∈ (db.revoking now (Service.stillValid old)).tokens :=
    (Database.mem_revoking _ _).mpr ⟨old, hmem, by simp [hvalid]⟩
  refine (h.revoking now (Service.stillValid old)).withChild hid hnew hold hlink
    ⟨hkin.instanceId, hkin.userId, hkin.ssoSessionId⟩ rfl fun u hu => ?_
  obtain ⟨v, hv, rfl⟩ := (Database.mem_revoking _ _).mp hu
  rw [(Database.becomes_revoking now (Service.stillValid old) v).parent]
  exact h.childless hmem hvalid v hv

theorem lineal_migrated : Database.migrated.Lineal where
  ascending := .nil
  bounded _ ht := absurd ht List.not_mem_nil
  distinct _ ht := absurd ht List.not_mem_nil
  parent _ ht := absurd ht List.not_mem_nil
  onlyChild _ ht := absurd ht List.not_mem_nil
  owned _ ht := absurd ht List.not_mem_nil

theorem lineal_growing : Growing Database.Lineal where
  lineal _ h := h
  root _ _ h hid hnew hparent hown := h.withRoot hid hnew hparent hown
  child _ _ _ _ h hmem hvalid hid hnew hlink hkin := h.rotated hmem hvalid hid hnew hlink hkin

/-- Faithful runs keep `Database.Lineal`. -/
theorem lineal_keptByRuns (hs : s.Careful n) : KeptByRuns s Event.Faithful n Database.Lineal :=
  keptByRuns_of_growing hs lineal_lasting lineal_growing

end

/-! ## Chains -/

/-- Tokens each of which replaced the one before it. -/
structure TokenPath (tokens ts : List RefreshToken) : Prop where
  present : ∀ t ∈ ts, t ∈ tokens
  linked : ts.IsChain fun p t => t.isChildOf p = true

/-- A whole chain: it starts with a token without a parent, holds all children and parents of its
tokens, and all of them but the last are spent. -/
structure TokenChain (tokens ts : List RefreshToken) : Prop extends TokenPath tokens ts where
  root : ∃ t, ts.head? = some t ∧ t.parent = none
  closed : ∀ t ∈ ts, ∀ u ∈ tokens, u.isChildOf t ∨ t.isChildOf u → u ∈ ts
  spent : ∀ t ∈ ts.dropLast, t.revoked = true

namespace Database.Lineal

variable {db : Database} {ts : List RefreshToken} {t p u : RefreshToken} (h : db.Lineal)

include h

theorem parent_of_isChildOf (ht : t ∈ db.tokens) (hp : p ∈ db.tokens) (hc : t.isChildOf p) :
    p.Kin t ∧ p.id < t.id ∧ p.revoked = true := by
  obtain ⟨q, hq, hqs, hk⟩ := h.parent t ht p.token (RefreshToken.isChildOf_iff.mp hc)
  rw [h.distinct q hq p hp hqs] at hk
  exact hk

/-- A path has no room for more tokens than there are. -/
theorem length_le_of_path (hts : TokenPath db.tokens ts) : ts.length ≤ db.tokens.length := by
  have hlt : ts.IsChain (·.id < ·.id) :=
    hts.linked.imp_of_mem_imp fun p t hp ht hc =>
      (h.parent_of_isChildOf (hts.present t ht) (hts.present p hp) hc).2.1
  have htrans : Trans (α := RefreshToken) (β := RefreshToken) (γ := RefreshToken)
      (·.id < ·.id) (·.id < ·.id) (·.id < ·.id) := ⟨Int.lt_trans⟩
  have hnodup : ts.Nodup := (List.isChain_iff_pairwise.mp hlt).imp fun hlt he => by
    rw [he] at hlt; omega
  exact (List.Nodup.subperm hnodup hts.present).length_le

/-- A path with a parent of its first token in front. -/
theorem path_cons (hts : TokenPath db.tokens ts) (ht : ts.head? = some t) {str : String}
    (hstr : t.parent = some str) : ∃ p, TokenPath db.tokens (p :: ts) := by
  have hmem := hts.present t (List.mem_of_mem_head? ht)
  obtain ⟨p, hp, hps, -⟩ := h.parent t hmem str hstr
  refine ⟨p, fun u hu => ?_, hts.linked.cons fun u hu => ?_⟩
  · rcases List.mem_cons.mp hu with rfl | hu
    · exact hp
    · exact hts.present u hu
  · have hut : t = u := Option.some.inj (ht.symm.trans hu)
    rw [← hut, RefreshToken.isChildOf_iff, hstr, hps]

omit h in
/-- A path with a child of its last token at the end. -/
theorem path_concat (hts : TokenPath db.tokens ts) (ht : ts.getLast? = some t) (hu : u ∈ db.tokens)
    (hc : u.isChildOf t) : TokenPath db.tokens (ts ++ [u]) := by
  refine ⟨fun v hv => ?_, hts.linked.append (List.isChain_singleton u) fun x hx y hy => ?_⟩
  · rcases List.mem_append.mp hv with hv | hv
    · exact hts.present v hv
    · rwa [List.mem_singleton.mp hv]
  · have hxt : t = x := Option.some.inj (ht.symm.trans hx)
    have hyu : u = y := Option.some.inj hy
    rw [← hxt, ← hyu]
    exact hc

/-- Every path is part of one that cannot be made longer. -/
theorem exists_longest (k : Nat) (hts : TokenPath db.tokens ts) (hne : ts ≠ [])
    (hk : db.tokens.length ≤ ts.length + k) :
    ∃ us, TokenPath db.tokens us ∧ (∀ t ∈ ts, t ∈ us) ∧
      (∃ t, us.head? = some t ∧ t.parent = none) ∧
      ∀ t, us.getLast? = some t → ∀ u ∈ db.tokens, ¬ u.isChildOf t := by
  induction k using Nat.strong_induction_on generalizing ts with | _ k ih
  by_cases hext : ∃ us, TokenPath db.tokens us ∧ (∀ t ∈ ts, t ∈ us) ∧ ts.length < us.length
  · obtain ⟨us, hus, hsub, hlen⟩ := hext
    have hle := h.length_le_of_path hus
    cases k with
    | zero => omega
    | succ k =>
      have hne' : us ≠ [] := fun he => by rw [he] at hlen; simp at hlen
      obtain ⟨vs, hvs, hsub', hend⟩ := ih k (Nat.lt_succ_self k) hus hne' (by omega)
      exact ⟨vs, hvs, fun t ht => hsub' t (hsub t ht), hend⟩
  · refine ⟨ts, hts, fun _ ht => ht, ?_, fun t ht u hu hc => hext ?_⟩
    · obtain ⟨t, rest, rfl⟩ := List.exists_cons_of_ne_nil hne
      refine ⟨t, rfl, ?_⟩
      cases hp : t.parent with
      | none => rfl
      | some str =>
        obtain ⟨p, hpath⟩ := h.path_cons hts rfl hp
        exact absurd ⟨_, hpath, fun u hu => List.mem_cons_of_mem p hu, Nat.lt_succ_self _⟩ hext
    · refine ⟨ts ++ [u], path_concat hts ht hu hc, fun v hv => List.mem_append_left _ hv, ?_⟩
      simp

/-- All children of tokens on a path are on it if its last token has none, as each token has at most
one child. -/
theorem mem_of_child (hts : TokenPath db.tokens ts)
    (hlast : ∀ t, ts.getLast? = some t → ∀ u ∈ db.tokens, ¬ u.isChildOf t) (ht : t ∈ ts)
    (hu : u ∈ db.tokens) (hc : u.isChildOf t) : u ∈ ts := by
  obtain ⟨before, after, rfl⟩ := List.append_of_mem ht
  cases after with
  | nil => exact absurd hc (hlast t (by simp) u hu)
  | cons v after =>
    have hv : v.isChildOf t = true := (List.isChain_append_cons_cons.mp hts.linked).2.1
    have huv : u = v := h.onlyChild u hu v (hts.present v (by simp)) t.token
      (RefreshToken.isChildOf_iff.mp hc) (RefreshToken.isChildOf_iff.mp hv)
    rw [huv]
    simp

/-- All parents of tokens on a path are on it if its first token has none, as strings differ. -/
theorem mem_of_parent (hts : TokenPath db.tokens ts)
    (hroot : ∃ t, ts.head? = some t ∧ t.parent = none) (ht : t ∈ ts) (hp : p ∈ db.tokens)
    (hc : t.isChildOf p) : p ∈ ts := by
  obtain ⟨before, after, rfl⟩ := List.append_of_mem ht
  rcases List.eq_nil_or_concat before with rfl | ⟨before, q, rfl⟩
  · obtain ⟨r, hr, hnone⟩ := hroot
    cases hr
    rw [RefreshToken.isChildOf_iff, hnone] at hc
    cases hc
  · have hlinked := hts.linked
    rw [List.concat_eq_append, List.append_assoc, List.singleton_append] at hlinked
    have hq : t.isChildOf q = true := (List.isChain_append_cons_cons.mp hlinked).2.1
    have hs : q.token = p.token := Option.some.inj
      ((RefreshToken.isChildOf_iff.mp hq).symm.trans (RefreshToken.isChildOf_iff.mp hc))
    rw [← h.distinct q (hts.present q (by simp)) p hp hs]
    simp

/-- All tokens on a path but the last are spent. -/
theorem revoked_of_path (hts : TokenPath db.tokens ts) : ∀ t ∈ ts.dropLast, t.revoked = true := by
  intro t ht
  obtain ⟨before, after, he⟩ := List.append_of_mem ht
  have hne : ts ≠ [] := by rintro rfl; simp at ht
  have hsplit := List.dropLast_append_getLast hne
  rw [he, List.append_assoc, List.cons_append] at hsplit
  obtain ⟨v, rest, hv⟩ := List.exists_cons_of_ne_nil (List.concat_ne_nil (ts.getLast hne) after)
  rw [hv] at hsplit
  have hlinked := hts.linked
  rw [← hsplit] at hlinked
  have hc : v.isChildOf t = true := (List.isChain_append_cons_cons.mp hlinked).2.1
  have hvm := hts.present v (by rw [← hsplit]; simp)
  have htm := hts.present t (by rw [← hsplit]; simp)
  exact (h.parent_of_isChildOf hvm htm hc).2.2

/-- Every token is in a chain. -/
theorem exists_chain (ht : t ∈ db.tokens) : ∃ ts, TokenChain db.tokens ts ∧ t ∈ ts := by
  have hpath : TokenPath db.tokens [t] :=
    ⟨fun u hu => by rwa [List.mem_singleton.mp hu], List.isChain_singleton t⟩
  obtain ⟨ts, hts, hsub, hroot, hlast⟩ :=
    h.exists_longest db.tokens.length hpath (List.cons_ne_nil _ _) (Nat.le_add_left _ _)
  have hclosed : ∀ q ∈ ts, ∀ u ∈ db.tokens, u.isChildOf q ∨ q.isChildOf u → u ∈ ts := by
    rintro q hq u hu (hc | hc)
    · exact h.mem_of_child hts hlast hq hu hc
    · exact h.mem_of_parent hts hroot hq hu hc
  exact ⟨ts, ⟨hts, hroot, hclosed, h.revoked_of_path hts⟩, hsub t List.mem_cons_self⟩

end Database.Lineal

/-! ## The result -/

section

variable {σ : Type} {s : Service σ} {h : Host σ}

/-- However a faithful run goes, tokens form chains: each parent is there, with a smaller id and of
the same instance, user and session, it is spent, and it has one child. -/
theorem tokens_form_chains (hs : s.Careful 0) (hr : Reached s Event.Faithful h) :
    let tokens := h.connection.data.tokens
    (∀ t ∈ tokens, ∀ str, t.parent = some str →
      ∃ p ∈ tokens, p.token = str ∧ p.Kin t ∧ p.id < t.id) ∧
    (∀ p ∈ tokens, ∀ t ∈ tokens, ∀ u ∈ tokens, t.isChildOf p → u.isChildOf p → t = u) ∧
    (∀ p ∈ tokens, ∀ t ∈ tokens, t.isChildOf p → p.revoked = true) ∧
    ∀ t ∈ tokens, ∃ ts, TokenChain tokens ts ∧ t ∈ ts := by
  have hl : h.connection.data.Lineal :=
    (Reached.sound (lineal_keptByRuns hs) lineal_migrated hr).since.now
  refine ⟨fun t ht str hstr => ?_, fun p _ t ht u hu htp hup => ?_, fun p hp t ht htp => ?_,
    fun t ht => hl.exists_chain ht⟩
  · obtain ⟨p, hp, hps, hk, hlt, -⟩ := hl.parent t ht str hstr
    exact ⟨p, hp, hps, hk, hlt⟩
  · exact hl.onlyChild t ht u hu p.token (RefreshToken.isChildOf_iff.mp htp)
      (RefreshToken.isChildOf_iff.mp hup)
  · exact (hl.parent_of_isChildOf ht hp htp).2.2

theorem reached_rotated : Reached Sample.service Event.Faithful Sample.rotated := by
  have started : Reached Sample.service Event.Faithful (Sample.after []) := .start 0
  have added := started.step Sample.time (.addUser Sample.alice) trivial
  have granted := added.step Sample.time (.request (.grant Sample.alice none)) rfl
  exact granted.step Sample.time (.request (.exchange "t")) trivial

/-- Alice's second token is at the end of a chain, after her first. -/
theorem rotated_tokens_form_chains :
    (Sample.rotated.connection.data.tokens.map fun t => (t.token, t.parent, t.revoked)) =
        [("t", none, true), ("tt", some "t", false)] ∧
      ∀ t ∈ Sample.rotated.connection.data.tokens,
        ∃ ts, TokenChain Sample.rotated.connection.data.tokens ts ∧ t ∈ ts :=
  ⟨by rfl, (tokens_form_chains (Service.careful_table rfl rfl 0) reached_rotated).2.2.2⟩

end

end RefreshChain
