import RefreshChain.Proofs.Store.Building

/-!
# Keys under row statements

On any store, whatever it consists of and whether references are checked or not, a statement that
writes rows leaves unique what has to be: the keys of users, providers, sessions and tokens, and the
strings of tokens.

* `Kind.Lawful.replace`: a row comes in the place of another.
* `Statement.OfRows.distinct`: what row statements keep.
* `Statement.OfRows.ascending`: they keep the order of the tokens, too.
-/

namespace RefreshChain

namespace Database.Distinct

variable {db db' : Database}

theorem thinnable : Thinnable Distinct where
  users _ _ h := h.of_sublist ((List.filter_sublist.map _).append_right _) (.refl _)
  providers _ _ h :=
    h.of_sublist (((List.filter_sublist.map _).append_right _).append_left _) (.refl _)
  sessions _ _ h :=
    h.of_sublist (((List.filter_sublist.map _).append_left _).append_left _) (.refl _)
  tokens _ _ h := h.of_sublist (.refl _) List.filter_sublist

/-- Nothing else than the keys matters. -/
theorem of_keys (h : db.Distinct) (hn : db'.names = db.names)
    (hi : db'.tokens.map (·.id) = db.tokens.map (·.id))
    (hs : db'.tokens.map (·.token) = db.tokens.map (·.token)) : db'.Distinct :=
  ⟨hn ▸ h.names, hi ▸ h.tokenIds, hs ▸ h.tokenStrings⟩

end Database.Distinct

/-! ## The order of tokens -/

namespace Database

variable {db : Database}

/-- The tokens stand in the order of their ids. -/
def Ascending (db : Database) : Prop := db.tokens.Pairwise fun t u => t.id ≤ u.id

theorem Ascending.thinnable : Thinnable Ascending where
  users _ _ h := h
  providers _ _ h := h
  sessions _ _ h := h
  tokens _ _ h := h.sublist List.filter_sublist

/-- A token that comes in by its id comes to its place. -/
theorem ascending_insertById (t : RefreshToken) {ts : List RefreshToken}
    (h : ts.Pairwise fun t u => t.id ≤ u.id) :
    (insertById t ts).Pairwise fun t u => t.id ≤ u.id := by
  induction ts with
  | nil => exact List.pairwise_singleton _ t
  | cons u us ih =>
    obtain ⟨hu, hus⟩ := List.pairwise_cons.mp h
    rw [insertById]
    split
    · rename_i hlt
      refine List.pairwise_cons.mpr ⟨fun v hv => ?_, h⟩
      rcases List.mem_cons.mp hv with rfl | hv
      · omega
      · have := hu v hv
        omega
    · refine List.pairwise_cons.mpr ⟨fun v hv => ?_, ih hus⟩
      rcases List.mem_cons.mp ((insertById_perm t us).mem_iff.mp hv) with rfl | hv
      · omega
      · exact hu v hv

/-- Where only keys stay as they are, so does the order. -/
theorem Ascending.of_ids {db' : Database} (h : db.Ascending)
    (hi : db'.tokens.map (·.id) = db.tokens.map (·.id)) : db'.Ascending := by
  have hids := List.pairwise_map.mpr h
  rw [← hi] at hids
  exact List.pairwise_map.mp hids

/-- Tokens are put in by their ids, whatever was there before. -/
theorem ascending_putTokens (rows : List RefreshToken) (db : Database) :
    (Kind.tokens.put rows db).Ascending := by
  change (rows.foldr insertById []).Pairwise _
  induction rows with
  | nil => exact .nil
  | cons t ts ih => exact ascending_insertById t ih

end Database

/-! ## Changes -/

section

variable {α : Type} {k : Kind α} (hk : k.Lawful) {before after : List α}

include hk

/-- A row that comes in the place of another and clashes with none of the rest. -/
theorem Kind.Lawful.replace {db : Database} {old new : α} (hd : db.Distinct)
    (hr : (k.rows db).Perm (before ++ old :: after)) (hc : k.clash? new (before ++ after) = none) :
    (k.put (before ++ new :: after) db).Distinct := by
  have hold : db.Alike (k.put (old :: (before ++ after)) db) :=
    hk.alike (hr.trans List.perm_middle)
  have hrest := hk.distinct_less (hold.distinct hd)
  exact (hk.alike_of_perm db List.perm_middle.symm).distinct (hk.distinct_more hrest hc)

/-- Row by row, a change leaves unique what has to be. -/
theorem Work.changeRows_distinct {p : α → Bool} {f : α → α} {w w' : Work} (hd : w.data.Distinct)
    (hr : (k.rows w.data).Perm (before ++ after))
    (run : changeRows k p f before after w = .ok w') : w'.data.Distinct := by
  induction after generalizing before w with
  | nil =>
    cases run
    exact hd
  | cons row after ih =>
    unfold changeRows at run
    split at run
    · obtain ⟨w₁, hrow, run⟩ := except_bind_ok.mp run
      obtain ⟨hclash, hw₁⟩ := changeRow_ok hrow
      rw [hk.put_put] at hw₁
      have hrows : (k.rows w₁.data).Perm ((before ++ [f row]) ++ after) := by
        rw [hw₁, List.append_assoc]
        exact hk.rows_put _ _
      exact ih (hw₁ ▸ hk.replace hd hr hclash) hrows run
    · exact ih hd (by rwa [List.append_assoc]) run

end

/-! ## Statements -/

namespace Statement

variable {α : Type} {w w' : Work} (hd : w.data.Distinct)

include hd

theorem updateTokens_distinct {touched : List ForeignKey} {p : RefreshToken → Bool}
    {f : RefreshToken → RefreshToken} (hf : ∀ t : RefreshToken, t.ChangesAt touched (f t)) {n : Nat}
    (run : (updateTokens touched p f).run w = .ok (n, w')) : w'.data.Distinct := by
  rw [(updateTokens_ok run).2]
  exact hd.of_keys rfl (map_column _ (fun t => (hf t).id) _)
    (map_column _ (fun t => (hf t).token) _)

theorem change_distinct {k : Kind α} (hk : k.Lawful) {p : α → Bool} {f : α → α} {n : Nat}
    (run : (change k p f).run w = .ok (n, w')) : w'.data.Distinct := by
  obtain ⟨_, -, run⟩ := except_bind_ok.mp run
  obtain ⟨_, -, run⟩ := except_bind_ok.mp run
  obtain ⟨_, -, run⟩ := except_bind_ok.mp run
  obtain ⟨w₁, hrows, run⟩ := except_bind_ok.mp run
  cases run
  exact Work.changeRows_distinct hk hd (.refl _) hrows

/-- A statement that writes rows leaves unique what has to be. -/
theorem OfRows.distinct {s : Statement α} (hs : s.OfRows) {a : α}
    (run : s.run w = .ok (a, w')) : w'.data.Distinct := by
  have hthin := Database.Distinct.thinnable
  cases hs with
  | insertUser u =>
    exact insertUser_keeps hthin run fun hnew =>
      Kind.lawful_users.insert hd (Kind.clash?_user hnew) (Database.alike_users u)
  | insertProvider p =>
    exact insertProvider_keeps hthin run fun hnew =>
      Kind.lawful_providers.insert hd (Kind.clash?_provider hnew) (Database.alike_providers p)
  | insertSession session =>
    exact insertSession_keeps hthin run fun hnew =>
      Kind.lawful_sessions.insert hd (Kind.clash?_session hnew) (Database.alike_sessions session)
  | insertToken t id? =>
    exact insertToken_keeps hthin run fun hid hstring =>
      Kind.lawful_tokens.insert hd (Kind.clash?_token (t := { t with id := a }) hid hstring)
        (Database.alike_tokens _ _)
  | insertAuditEntry e =>
    obtain ⟨_, -, run⟩ := except_bind_ok.mp run
    split at run
    · obtain ⟨_, -, run⟩ := except_bind_ok.mp run
      cases run
      exact hd
    · cases run
      exact hd.of_keys rfl rfl rfl
  | updateUsers p hf =>
    have hnames := map_column (p := p) (fun u : User => Reference.mk .users u.id)
      (fun u => by rw [hf]) w.data.users
    rw [updateUsers_ok run]
    exact hd.of_keys (congrArg (· ++ _) hnames) rfl rfl
  | updateTokens p hf => exact updateTokens_distinct hd hf run
  | revokeFamily now start =>
    have hf : ∀ t : RefreshToken, t.ChangesAt [] (t.revokedAt now) := fun _ =>
      ⟨rfl, rfl, fun _ => rfl, fun _ => rfl⟩
    exact updateTokens_distinct hd hf run
  | changeUsers p f => exact change_distinct hd Kind.lawful_users run
  | changeProviders p f => exact change_distinct hd Kind.lawful_providers run
  | changeSessions p f => exact change_distinct hd Kind.lawful_sessions run
  | changeTokens p f => exact change_distinct hd Kind.lawful_tokens run
  | changeAuditEntries p f => exact change_distinct hd Kind.lawful_audit run
  | deleteUsers p => exact Work.removeUsers_keeps hthin hd (deletion_ok run)
  | deleteProviders p => exact Work.removeProviders_keeps hthin hd (deletion_ok run)
  | deleteSessions p => exact Work.removeSessions_keeps hthin hd (deletion_ok run)
  | deleteTokens p => exact Work.removeTokens_keeps hthin hd (deletion_ok run)
  | deleteAuditEntries p =>
    obtain ⟨_, -, run⟩ := except_bind_ok.mp run
    obtain ⟨_, -, run⟩ := except_bind_ok.mp run
    cases run
    exact hd.of_keys rfl rfl rfl

omit hd in
theorem updateTokens_ascending {touched : List ForeignKey} {p : RefreshToken → Bool}
    {f : RefreshToken → RefreshToken} (ho : w.data.Ascending) (hf : ∀ t, (f t).id = t.id) {n : Nat}
    (run : (updateTokens touched p f).run w = .ok (n, w')) : w'.data.Ascending := by
  rw [(updateTokens_ok run).2]
  exact ho.of_ids (map_column _ hf _)

omit hd in
/-- A statement that writes rows leaves the tokens in the order of their ids. -/
theorem OfRows.ascending {s : Statement α} (hs : s.OfRows) (ho : w.data.Ascending) {a : α}
    (run : s.run w = .ok (a, w')) : w'.data.Ascending := by
  have hthin := Database.Ascending.thinnable
  cases hs with
  | insertUser u => exact insertUser_keeps hthin run fun _ => ho
  | insertProvider p => exact insertProvider_keeps hthin run fun _ => ho
  | insertSession session => exact insertSession_keeps hthin run fun _ => ho
  | insertToken t id? =>
    exact insertToken_keeps hthin run fun _ _ => Database.ascending_insertById _ ho
  | insertAuditEntry e =>
    obtain ⟨_, -, run⟩ := except_bind_ok.mp run
    split at run
    · obtain ⟨_, -, run⟩ := except_bind_ok.mp run
      cases run
      exact ho
    · cases run
      exact ho
  | updateUsers p hf =>
    rw [updateUsers_ok run]
    exact ho
  | updateTokens p hf => exact updateTokens_ascending ho (fun t => (hf t).id) run
  | revokeFamily now start =>
    have hf : ∀ t : RefreshToken, (t.revokedAt now).id = t.id := fun _ => rfl
    exact updateTokens_ascending ho hf run
  | changeUsers p f => exact change_keeps (fun _ _ h => h) ho run
  | changeProviders p f => exact change_keeps (fun _ _ h => h) ho run
  | changeSessions p f => exact change_keeps (fun _ _ h => h) ho run
  | changeTokens p f =>
    exact change_keeps (fun rows db _ => Database.ascending_putTokens rows db) ho run
  | changeAuditEntries p f => exact change_keeps (fun _ _ h => h) ho run
  | deleteUsers p => exact Work.removeUsers_keeps hthin ho (deletion_ok run)
  | deleteProviders p => exact Work.removeProviders_keeps hthin ho (deletion_ok run)
  | deleteSessions p => exact Work.removeSessions_keeps hthin ho (deletion_ok run)
  | deleteTokens p => exact Work.removeTokens_keeps hthin ho (deletion_ok run)
  | deleteAuditEntries p =>
    obtain ⟨_, -, run⟩ := except_bind_ok.mp run
    obtain ⟨_, -, run⟩ := except_bind_ok.mp run
    cases run
    exact ho

end Statement

end RefreshChain
