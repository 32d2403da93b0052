import RefreshChain.Proofs.Isolation.Lockstep
import RefreshChain.Proofs.Run

/-!
# Isolation

Groups of users that share a store do not influence each other. What one group gets to see, and what
the store holds of it, is what it would be had the other one never come.

* `Database.Parted`, `Fair`: at the start the rows of the groups are apart, and in the run each
  group names its own users and presents nothing of the other one.
* `Play.Orderly`: what holds of the store and of the tokens that are held along such a run.
* `groups_isolated`: the result, for the group on the side `true`. It is one about two runs, the
  whole one and that of the group alone, which are led side by side through a growing renaming of
  ids.
* `groups_meet`: groups whose rows or strings are not apart do influence each other.
-/

namespace RefreshChain

/-! ## Runs of two groups -/

/-- The rows of the two groups mention no string of each other, no two tokens look the same, and the
sessions that they refer to are there. A store without tokens is so. -/
structure Database.Parted (mine : Uuid → Bool) (db : Database) : Prop extends db.Numbered where
  bound : ∀ t ∈ db.tokens, ∀ id, t.ssoSessionId = some id → (db.session? id).isSome
  apart : ∀ t ∈ db.tokens, ∀ u ∈ db.tokens, mine t.userId ≠ mine u.userId →
    ∀ x, t.Mentions x → ¬ u.Mentions x

/-- The strings that the turns are given for new tokens. -/
def givenStrings (turns : List Turn) : List String := turns.filterMap (·.move.string?)

/-- The ids that the turns are given for new sessions. -/
def givenIds (turns : List Turn) : List Uuid := turns.filterMap (·.move.sessionId?)

/-- The ids that are given are new and all different. -/
structure NewSessions (turns : List Turn) (db : Database) : Prop where
  distinct : (givenIds turns).Nodup
  unused : ∀ s ∈ db.sessions, s.id ∉ givenIds turns

/-- A connection where nobody has asked for anything yet. The groups hold some tokens that they were
answered with before. -/
def Play.start (c : Connection) (held : List (Bool × RefreshToken)) : Play :=
  ⟨c, held.map fun e => (e.1, .found (.ok e.2))⟩

/-- In the run, each group names its own users and presents no string of a token of the other one.
What it holds at the start are copies of its own tokens, perhaps old ones. No string is given twice,
and the ids suffice. -/
structure Fair (mine : Uuid → Bool) (config : Config) (c : Connection)
    (held : List (Bool × RefreshToken)) (turns : List Turn) : Prop where
  users : ∀ t ∈ turns, ∀ id, t.move.userId? = some id → mine id = t.side
  holds : ∀ side t, (side, t) ∈ held → ∃ r ∈ c.data.tokens, t.Becomes r ∧ mine r.userId = side
  presents : ∀ t ∈ turns, ∀ x, t.move.presented? = some x →
    (∀ r ∈ c.data.tokens, mine r.userId ≠ t.side → ¬ r.Mentions x) ∧
    ∀ side i, (side, .issued (.ok i)) ∈ ((Play.start c held).run config turns).log →
      side ≠ t.side → i.token.token ≠ x
  distinct : (givenStrings turns).Nodup
  unused : ∀ r ∈ c.data.tokens, ∀ x, r.Mentions x → x ∉ givenStrings turns
  sessions : NewSessions turns c.data
  enough : ∀ e ∈ ((Play.start c held).run config turns).log, ¬ e.2.Exhausted

/-- The turns are the same but for session ids and the time. -/
structure Turn.Same (t t' : Turn) : Prop where
  side : t.side = t'.side
  move : t.move.Same t'.move

/-! ## What the turns of a run have in common -/

section

variable {α β : Type} {f : α → Option β} {x : α} {xs : List α}

theorem nodup_filterMap_cons (h : ((x :: xs).filterMap f).Nodup) :
    (xs.filterMap f).Nodup ∧ ∀ y, f x = some y → y ∉ xs.filterMap f := by
  cases hx : f x with
  | none =>
    rw [List.filterMap_cons_none hx] at h
    exact ⟨h, nofun⟩
  | some y =>
    rw [List.filterMap_cons_some hx, List.nodup_cons] at h
    exact ⟨h.2, fun y' hy' => Option.some.inj hy' ▸ h.1⟩

theorem eq_of_nodup_filterMap (h : (xs.filterMap f).Nodup) {a b : α} {y : β} (ha : a ∈ xs)
    (hb : b ∈ xs) (hfa : f a = some y) (hfb : f b = some y) : a = b := by
  induction xs with
  | nil => cases ha
  | cons x xs ih =>
    obtain ⟨h, hx⟩ := nodup_filterMap_cons h
    rcases List.mem_cons.mp ha with rfl | ha' <;> rcases List.mem_cons.mp hb with rfl | hb'
    · rfl
    · exact absurd (List.mem_filterMap.mpr ⟨b, hb', hfb⟩) (hx y hfa)
    · exact absurd (List.mem_filterMap.mpr ⟨a, ha', hfa⟩) (hx y hfb)
    · exact ih h ha' hb'

end

namespace Move.Same

variable {m m' : Move} (h : m.Same m')

include h

theorem userId? : m.userId? = m'.userId? := by
  cases h with
  | grant _ alike => exact congrArg some alike.id
  | swap _ alike => exact congrArg some alike.id
  | _ => rfl

theorem presented? : m.presented? = m'.presented? := by
  cases h with
  | revokeFamily token => exact congrArg some token
  | validChild token => exact congrArg some token
  | _ => rfl

theorem string? : m.string? = m'.string? := by
  cases h with
  | grant _ _ string => exact congrArg some string
  | swap _ _ string => exact congrArg some string
  | exchange _ string => exact congrArg some string
  | _ => rfl

end Move.Same

/-- What is asked of the turns that are left. -/
structure Allowed (mine : Uuid → Bool) (owns : Bool → String → Prop) (turns : List Turn) :
    Prop where
  fits : ∀ t ∈ turns, t.Fits mine owns
  strings : (givenStrings turns).Nodup
  ids : (givenIds turns).Nodup

theorem Allowed.tail {mine : Uuid → Bool} {owns : Bool → String → Prop} {t : Turn}
    {turns : List Turn} (h : Allowed mine owns (t :: turns)) : Allowed mine owns turns :=
  ⟨fun u hu => h.fits u (.tail _ hu), (nodup_filterMap_cons h.strings).1,
    (nodup_filterMap_cons h.ids).1⟩

/-- The turns of a group alone are given the same strings. -/
theorem givenStrings_same {turns turns' : List Turn} (h : List.Forall₂ Turn.Same turns turns') :
    givenStrings turns = givenStrings turns' := by
  induction h with
  | nil => rfl
  | @cons t t' _ _ hs _ ih =>
    rw [givenStrings, List.filterMap_cons, hs.move.string?, ← givenStrings, ih]
    rfl

theorem givenStrings_filter_sublist (turns : List Turn) (keep : Turn → Bool) :
    (givenStrings (turns.filter keep)).Sublist (givenStrings turns) :=
  List.filter_sublist.filterMap _

theorem Turn.Same.fits {mine : Uuid → Bool} {owns : Bool → String → Prop} {t t' : Turn}
    (h : t.Same t') (ht : t.Fits mine owns) : t'.Fits mine owns where
  user id hid := h.side ▸ ht.user id (h.move.userId?.trans hid)
  string x hx := h.side ▸ ht.string x (h.move.presented?.trans hx)

/-! ## One run -/

/-- A token comes with the string that the move is given. -/
theorem Database.respond_issued {db : Database} {rotationEnabled : Bool} {now : Instant}
    {hand : List RefreshToken} {m : Move} {i : IssuedToken}
    (h : (db.respond rotationEnabled now hand m).1 = .issued (.ok i)) :
    m.string? = some i.token.token := by
  have hreply : ∀ given r, (db.reply rotationEnabled now given r).1 = .issued (.ok i) →
      some given.string = some i.token.token := by
    intro given r hr
    rw [reply] at hr
    rcases ho : db.serve rotationEnabled now given r with ⟨o, db'⟩
    rw [ho] at hr
    cases hr
    obtain ⟨_, _, _, -, hg⟩ := serve_ok ho
    rw [hg.string]
  cases m with
  | grant user conditions given => exact hreply given _ h
  | swap user k given =>
    rw [respond] at h
    split at h
    · exact hreply given _ h
    · cases h
  | exchange token given => exact hreply given _ h
  | revokeFamily start => cases h
  | validChild start =>
    rw [respond] at h
    cases hc : db.validChild? start <;> rw [hc] at h <;> cases h
  | find token =>
    rw [respond] at h
    cases hc : db.token? token <;> rw [hc] at h <;> cases h
  | logout instanceId userId => cases h

namespace Play

variable {mine : Uuid → Bool} {owns : Bool → String → Prop} {config : Config} {p : Play}
  {t : Turn} {left : List Turn}

/-- What the store answers to the next turn, and its contents after it. -/
def next (config : Config) (p : Play) (t : Turn) : Answer × Database :=
  p.connection.data.respond config.rotationEnabled t.now (p.hand t.side) t.move

theorem turn_comesTo (hst : p.connection.Steady) :
    Move.ComesTo (t.move.perform config t.now (p.hand t.side) p.connection) (p.next config t) :=
  Move.perform_comesTo hst config t.now _ t.move

theorem turn_data (hst : p.connection.Steady) (henough : ¬ (p.next config t).1.Exhausted) :
    (p.turn config t).connection.data = (p.next config t).2 :=
  (turn_comesTo hst).data henough

theorem next_mem_log (hst : p.connection.Steady) (left : List Turn) :
    (t.side, (p.next config t).1) ∈ ((p.turn config t).run config left).log := by
  refine (p.turn config t).log_run config left ?_
  rw [turn_log, (turn_comesTo hst).answer]
  exact List.mem_append_right _ (List.mem_singleton_self _)

/-- The tokens that were issued have the strings that were given. -/
theorem issued_given (hst : p.connection.Steady) {side : Bool} {i : IssuedToken}
    (h : (side, .issued (.ok i)) ∈ (p.run config left).log) :
    (side, .issued (.ok i)) ∈ p.log ∨
      ∃ t ∈ left, t.side = side ∧ t.move.string? = some i.token.token := by
  induction left generalizing p with
  | nil => exact .inl h
  | cons t left ih =>
    rcases ih (p.turn_steady config t hst) h with hlog | ⟨u, hu, hr⟩
    · rw [turn_log, (turn_comesTo hst).answer] at hlog
      rcases List.mem_append.mp hlog with hlog | hlog
      · exact .inl hlog
      · rw [List.mem_singleton] at hlog
        obtain ⟨rfl, hi⟩ := Prod.mk.inj hlog
        exact .inr ⟨t, .head _, rfl, Database.respond_issued hi.symm⟩
    · exact .inr ⟨u, .tail _ hu, hr⟩

/-- The rows and the strings of the groups are apart, they hold their own tokens, and what the turns
that are left are given is not in use. -/
structure Orderly (mine : Uuid → Bool) (owns : Bool → String → Prop) (p : Play)
    (left : List Turn) : Prop where
  steady : p.connection.Steady
  separate : Separate mine owns p.connection.data
  held : ∀ side, ∀ u ∈ p.hand side, Held mine owns side p.connection.data u
  unused : Unused (givenStrings left) (givenIds left) p.connection.data

variable (apart : ∀ x side side', owns side x → owns side' x → side = side')
  (h : Orderly mine owns p (t :: left)) (allowed : Allowed mine owns (t :: left))
  (hissued : ∀ i, (p.next config t).1 = .issued (.ok i) → owns t.side i.token.token)

include apart h allowed hissued

theorem Orderly.confines :
    Confines mine owns t p.connection.data (p.next config t) :=
  Database.respond_confined apart h.separate (h.held t.side) (allowed.fits t (.head _)) hissued

theorem Orderly.turn (henough : ¬ (p.next config t).1.Exhausted) :
    Orderly mine owns (p.turn config t) left := by
  have hc := h.confines apart allowed hissued
  have hdata := turn_data h.steady henough
  have hs := hc.change.separate h.separate
  refine ⟨p.turn_steady config t h.steady, hdata ▸ hs, fun side u hu => ?_, ?_⟩
  · rw [hdata]
    rw [turn_hand, (turn_comesTo h.steady).answer] at hu
    rcases List.mem_append.mp hu with hu | hu
    · exact hc.change.held (h.held side u hu)
    · by_cases hside : t.side = side
      · rw [if_pos hside, Option.mem_toList] at hu
        obtain ⟨hm, hmine⟩ := hc.gives u hu
        exact hs.held hm (hmine.trans hside)
      · rw [if_neg hside] at hu
        cases hu
  · rw [hdata]
    refine hc.change.unused ⟨fun r hr hx => ?_, fun s hs hx => ?_⟩
      (nodup_filterMap_cons allowed.strings).2 (nodup_filterMap_cons allowed.ids).2
    · obtain ⟨u, hu, he⟩ := List.mem_filterMap.mp hx
      exact h.unused.tokens r hr (List.mem_filterMap.mpr ⟨u, .tail _ hu, he⟩)
    · obtain ⟨u, hu, he⟩ := List.mem_filterMap.mp hx
      exact h.unused.sessions s hs (List.mem_filterMap.mpr ⟨u, .tail _ hu, he⟩)

omit apart allowed hissued in
theorem Orderly.fresh : t.move.Fresh p.connection.data where
  string x hx := Database.token?_eq_none.mpr fun r hr he =>
    h.unused.tokens r hr (List.mem_filterMap.mpr ⟨t, .head _, he ▸ hx⟩)
  session id hid := by
    rw [Database.session?, List.find?_eq_none]
    intro s hs he
    rw [decide_eq_true_eq] at he
    exact h.unused.sessions s hs (List.mem_filterMap.mpr ⟨t, .head _, he ▸ hid⟩)

end Play

/-! ## Two runs -/

section

variable {mine : Uuid → Bool} {owns : Bool → String → Prop} {config : Config} {p p' : Play}
  {ρ : Renaming} {left left' : List Turn}

/-- The group's rows and the answers that it got are the same in both plays, up to the renaming. -/
structure Abreast (mine : Uuid → Bool) (ρ : Renaming) (p p' : Play) : Prop where
  mirrors : Mirrors mine ρ p.connection.data p'.connection.data
  answers : List.Forall₂ ρ.OnAnswers (p.answers true) (p'.answers true)

theorem Abreast.hand (h : Abreast mine ρ p p') :
    List.Forall₂ ρ.OnTokens (p.hand true) (p'.hand true) :=
  List.rel_filterMap (fun _ _ ha => ha.token?) h.answers

/-- What is known of an answer is known of the other. -/
theorem Renaming.OnAnswers.after {a a' : Answer} {side : Bool} (h : ρ.OnAnswers a a')
    (henough : ¬ a.Exhausted) (hissued : ∀ i, a = .issued (.ok i) → owns side i.token.token) :
    ¬ a'.Exhausted ∧ ∀ i, a' = .issued (.ok i) → owns side i.token.token := by
  cases h with
  | issued agree =>
    cases agree with
    | @ok i i' hi =>
      refine ⟨fun hex => hex, fun j hj => ?_⟩
      cases hj
      exact hi.token.token ▸ hissued i rfl
    | error e => exact ⟨henough, fun _ he => by cases he⟩
  | found => exact ⟨fun hex => hex, fun _ he => by cases he⟩
  | done => exact ⟨fun hex => hex, fun _ he => by cases he⟩
  | nothing => exact ⟨fun hex => hex, fun _ he => by cases he⟩

variable (apart : ∀ x side side', owns side x → owns side' x → side = side')

include apart

/-- A turn of the other group does not change what this one has. -/
theorem Abreast.theirs {t : Turn} (h : Abreast mine ρ p p')
    (ho : p.Orderly mine owns (t :: left)) (allowed : Allowed mine owns (t :: left))
    (hside : t.side = false) (henough : ¬ (p.next config t).1.Exhausted)
    (hissued : ∀ i, (p.next config t).1 = .issued (.ok i) → owns t.side i.token.token) :
    Abreast mine ρ (p.turn config t) p' where
  mirrors := by
    rw [Play.turn_data ho.steady henough]
    exact h.mirrors.untouched ((ho.confines apart allowed hissued).change.untouched hside)
  answers := by
    rw [Play.turn_answers, if_neg (by simp [hside]), List.append_nil]
    exact h.answers

/-- A turn of the group comes to the same in both. -/
theorem Abreast.ours {t t' : Turn} (h : Abreast mine ρ p p')
    (ho : p.Orderly mine owns (t :: left)) (ho' : p'.Orderly mine owns (t' :: left'))
    (allowed : Allowed mine owns (t :: left)) (same : t.Same t') (hside : t.side = true)
    (henough : ¬ (p.next config t).1.Exhausted)
    (hissued : ∀ i, (p.next config t).1 = .issued (.ok i) → owns t.side i.token.token) :
    ¬ (p'.next config t').1.Exhausted ∧
      (∀ i, (p'.next config t').1 = .issued (.ok i) → owns t'.side i.token.token) ∧
      ∃ ρ', Abreast mine ρ' (p.turn config t) (p'.turn config t') := by
  have hside' : t'.side = true := same.side.symm.trans hside
  have hheld := ho.held true
  have hheld' := ho'.held true
  have hresponds : SameOutcome mine ρ (p.next config t) (p'.next config t') := by
    rw [Play.next, Play.next, hside, hside']
    exact Database.respond_lockstep apart h.mirrors ho.separate ho'.separate hside same.move
      (allowed.fits t (.head _)) ho.fresh ho'.fresh h.hand hheld hheld' config.rotationEnabled
  obtain ⟨ρ', hle, hmirrors, hanswers⟩ := hresponds.resolve_left henough
  obtain ⟨henough', hissued'⟩ := hanswers.after henough (same.side ▸ hissued)
  refine ⟨henough', hissued', ρ', ?_, ?_⟩
  · rw [Play.turn_data ho.steady henough, Play.turn_data ho'.steady henough']
    exact hmirrors
  · rw [Play.turn_answers, Play.turn_answers, if_pos hside, if_pos hside',
      (Play.turn_comesTo ho.steady).answer, (Play.turn_comesTo ho'.steady).answer]
    exact List.rel_append (h.answers.imp fun _ _ => .mono hle) (.cons hanswers .nil)

/-- Both runs are abreast all along. -/
theorem Abreast.run (h : Abreast mine ρ p p') (ho : p.Orderly mine owns left)
    (ho' : p'.Orderly mine owns left') (allowed : Allowed mine owns left)
    (allowed' : Allowed mine owns left')
    (same : List.Forall₂ Turn.Same (left.filter (·.side)) left')
    (henough : ∀ e ∈ (p.run config left).log, ¬ e.2.Exhausted)
    (hissued : ∀ side i, (side, .issued (.ok i)) ∈ (p.run config left).log →
      owns side i.token.token) :
    ∃ ρ', Abreast mine ρ' (p.run config left) (p'.run config left') := by
  -- On the turns of the whole run: the other one stands still where the other group's turn is.
  induction left generalizing p p' ρ left' with
  | nil =>
    cases same
    exact ⟨ρ, h⟩
  | cons t left ih =>
    have hlog : (t.side, (p.next config t).1) ∈ ((p.turn config t).run config left).log :=
      p.next_mem_log ho.steady left
    have henough₁ := henough _ hlog
    have hissued₁ : ∀ i, (p.next config t).1 = .issued (.ok i) → owns t.side i.token.token :=
      fun i hi => hissued t.side i (hi ▸ hlog)
    have ho₁ := ho.turn apart allowed hissued₁ henough₁
    cases hside : t.side with
    | false =>
      rw [List.filter_cons_of_neg (by simp [hside])] at same
      exact ih (h.theirs apart ho allowed hside henough₁ hissued₁) ho₁ ho' allowed.tail allowed'
        same henough hissued
    | true =>
      rw [List.filter_cons_of_pos (by simp [hside])] at same
      cases same with
      | @cons _ t' _ left' hsame same =>
        obtain ⟨henough', hissued', ρ₁, h₁⟩ :=
          h.ours apart ho ho' allowed hsame hside henough₁ hissued₁
        show ∃ ρ', Abreast mine ρ' ((p.turn config t).run config left)
          ((p'.turn config t').run config left')
        exact ih h₁ ho₁ (ho'.turn apart allowed' hissued' henough') allowed.tail allowed'.tail same
          henough hissued

end

/-! ## The result -/

/-- The strings of a group: those that its rows mention at the start, and those of the tokens that
are issued to it. -/
def Owns (mine : Uuid → Bool) (db : Database) (log : List (Bool × Answer)) (side : Bool)
    (x : String) : Prop :=
  (∃ r ∈ db.tokens, mine r.userId = side ∧ r.Mentions x) ∨
    ∃ i, (side, .issued (.ok i)) ∈ log ∧ i.token.token = x

section

variable {mine : Uuid → Bool} {config : Config} {c : Connection}
  {held : List (Bool × RefreshToken)} {turns : List Turn}

/-- Nothing has been issued yet. -/
theorem Play.issued_not_mem_start {side : Bool} {i : IssuedToken} :
    (side, .issued (.ok i)) ∉ (Play.start c held).log := by
  intro hmem
  obtain ⟨_, -, he⟩ := List.mem_map.mp hmem
  cases he

theorem Play.mem_hand_start {side : Bool} {t : RefreshToken} :
    t ∈ (Play.start c held).hand side ↔ (side, t) ∈ held := by
  cases side <;> simp [hand, answers, start, Answer.token?]

/-- No string is of both groups. -/
theorem Fair.apart (fair : Fair mine config c held turns) (hst : c.Steady)
    (hparted : c.data.Parted mine) (x : String) (side side' : Bool)
    (h : Owns mine c.data ((Play.start c held).run config turns).log side x)
    (h' : Owns mine c.data ((Play.start c held).run config turns).log side' x) : side = side' := by
  have hgiven : ∀ side i, (side, .issued (.ok i)) ∈ ((Play.start c held).run config turns).log →
      ∃ t ∈ turns, t.side = side ∧ t.move.string? = some i.token.token := fun side i hi =>
    (Play.issued_given (p := .start c held) hst hi).resolve_left Play.issued_not_mem_start
  have hold : ∀ r ∈ c.data.tokens, r.Mentions x → ∀ side i,
      (side, .issued (.ok i)) ∈ ((Play.start c held).run config turns).log →
        i.token.token ≠ x := by
    rintro r hr hm side i hi rfl
    obtain ⟨t, ht, -, hstring⟩ := hgiven side i hi
    exact fair.unused r hr _ hm (List.mem_filterMap.mpr ⟨t, ht, hstring⟩)
  -- Mentioned at the start by a row, or issued in the run, on either side.
  rcases h with ⟨r, hr, rfl, hm⟩ | ⟨i, hi, he⟩ <;> rcases h' with ⟨u, hu, rfl, hm'⟩ | ⟨j, hj, he'⟩
  · exact Decidable.byContradiction fun hne => hparted.apart r hr u hu hne x hm hm'
  · exact absurd he' (hold r hr hm _ j hj)
  · exact absurd he (hold u hu hm' _ i hi)
  · obtain ⟨t, ht, rfl, hstring⟩ := hgiven _ i hi
    obtain ⟨t', ht', rfl, hstring'⟩ := hgiven _ j hj
    rw [he] at hstring
    rw [he'] at hstring'
    rw [eq_of_nodup_filterMap fair.distinct ht ht' hstring hstring']

theorem Fair.fits (fair : Fair mine config c held turns) {t : Turn} (ht : t ∈ turns) :
    t.Fits mine (Owns mine c.data ((Play.start c held).run config turns).log) where
  user := fair.users t ht
  string x hx side hside := by
    refine Decidable.byContradiction fun hne => ?_
    obtain ⟨hrows, hissued⟩ := fair.presents t ht x hx
    rcases hside with ⟨r, hr, rfl, hm⟩ | ⟨i, hi, he⟩
    · exact hrows r hr hne hm
    · exact hissued side i hi hne he

theorem Play.orderly_start {owns : Bool → String → Prop} (hst : c.Steady)
    (hparted : c.data.Parted mine)
    (holds : ∀ side t, (side, t) ∈ held → ∃ r ∈ c.data.tokens, t.Becomes r ∧ mine r.userId = side)
    (howns : ∀ r ∈ c.data.tokens, ∀ x, r.Mentions x → owns (mine r.userId) x)
    (hstrings : ∀ r ∈ c.data.tokens, ∀ x, r.Mentions x → x ∉ givenStrings turns)
    (hsessions : NewSessions turns c.data) : (Play.start c held).Orderly mine owns turns := by
  have hs : Separate mine owns c.data :=
    { toNumbered := hparted.toNumbered, mentions := howns, bound := hparted.bound }
  refine ⟨hst, hs, fun side t ht => ?_, fun r hr => hstrings r hr _ (.inl rfl), hsessions.unused⟩
  obtain ⟨r, hr, hb, hside⟩ := holds side t (Play.mem_hand_start.mp ht)
  have hr := hs.held hr hside
  exact ⟨hb.token ▸ hr.string, hb.id ▸ hr.given, fun u hu he => hr.own u hu (he.trans hb.id.symm)⟩

/-- At the start all ids stand for themselves. -/
def Renaming.start (db : Database) : Renaming where
  rows a b := a = b ∧ a ≤ db.lastTokenId
  sessions a b := a = b ∧ (db.session? a).isSome

theorem Database.Parted.mirrors {db : Database} (h : db.Parted mine)
    (hsessions : ∀ s ∈ db.sessions, (db.session? s.id).isSome) :
    Mirrors mine (.start db) db db where
  tokens := List.forall₂_same.mpr fun t ht => by
    have hm := (List.mem_filter.mp ht).1
    refine ⟨⟨rfl, rfl, rfl, rfl, rfl⟩, ⟨rfl, h.bounded t hm⟩, ?_⟩
    cases hs : t.ssoSessionId with
    | none => exact .none
    | some id => exact .some ⟨rfl, h.bound t hm id hs⟩
  sessions := List.forall₂_same.mpr fun s hs =>
    ⟨⟨rfl, hsessions s (List.mem_filter.mp hs).1⟩, rfl, rfl, rfl, rfl, rfl⟩
  users := List.forall₂_same.mpr fun _ _ => ⟨⟨rfl, rfl, rfl⟩, rfl⟩
  audit := List.forall₂_same.mpr fun _ _ => ⟨rfl, rfl, rfl, rfl, rfl⟩
  oneToOne := by
    refine ⟨⟨?_, ?_⟩, ?_, ?_⟩ <;> rintro a b c ⟨rfl, -⟩ ⟨rfl, -⟩ <;> rfl
  bounded := by
    rintro a b ⟨rfl, ha⟩
    exact ⟨ha, ha⟩
  lookup := by
    rintro a b ⟨rfl, ha⟩
    obtain ⟨s, hs⟩ := Option.isSome_iff_exists.mp ha
    have he : s.id = a := by simpa using List.find?_some hs
    exact ⟨s, s, hs, hs, ⟨rfl, he ▸ ha⟩, rfl, rfl, rfl, rfl, rfl⟩
  providers := rfl
  lastTokenId := Int.le_refl _

theorem Database.session?_isSome {db : Database} {s : SsoSession} (hs : s ∈ db.sessions) :
    (db.session? s.id).isSome := by
  rw [session?, List.find?_isSome]
  exact ⟨s, hs, by simp⟩

/-- What the groups hold stands for itself. -/
theorem Database.Parted.holds {db : Database} (h : db.Parted mine) {t r : RefreshToken}
    (hr : r ∈ db.tokens) (hb : t.Becomes r) : (Renaming.start db).OnTokens t t where
  toTwin := ⟨rfl, rfl, rfl, rfl, rfl⟩
  id := ⟨rfl, hb.id ▸ h.bounded r hr⟩
  session := by
    rw [← hb.kin.ssoSessionId]
    cases hs : r.ssoSessionId with
    | none => exact .none
    | some id => exact .some ⟨rfl, h.bound r hr id hs⟩

/-- Two groups of users take turns at a store, each with its own users and tokens. Then the group on
the side `true` gets the same answers as if it had the store for itself, and the store holds the
same rows of its users afterwards, but for ids and the time. -/
theorem groups_isolated (hst : c.Steady) (hparted : c.data.Parted mine)
    (fair : Fair mine config c held turns) {alone : List Turn}
    (same : List.Forall₂ Turn.Same (turns.filter (·.side)) alone)
    (sessions : NewSessions alone c.data) :
    let both := (Play.start c held).run config turns
    let one := (Play.start c held).run config alone
    ∃ ρ : Renaming, ρ.OneToOne ∧
      List.Forall₂ ρ.OnAnswers (both.answers true) (one.answers true) ∧
      SameRows mine ρ both.connection.data one.connection.data := by
  intro both one
  have hsub := givenStrings_filter_sublist turns (·.side)
  rw [givenStrings_same same] at hsub
  have allowed : Allowed mine (Owns mine c.data both.log) turns :=
    ⟨fun t ht => fair.fits ht, fair.distinct, fair.sessions.distinct⟩
  have allowed' : Allowed mine (Owns mine c.data both.log) alone := by
    refine ⟨fun t' ht' => ?_, hsub.nodup fair.distinct, sessions.distinct⟩
    obtain ⟨t, ht, hs⟩ := forall₂_exists same.flip ht'
    exact hs.fits (fair.fits (List.mem_filter.mp ht).1)
  have howns : ∀ r ∈ c.data.tokens, ∀ x, r.Mentions x →
      Owns mine c.data both.log (mine r.userId) x := fun r hr x hx => .inl ⟨r, hr, rfl, hx⟩
  have orderly := Play.orderly_start hst hparted fair.holds howns fair.unused fair.sessions
  have orderly' := Play.orderly_start hst hparted fair.holds howns
    (fun r hr x hx hmem => fair.unused r hr x hx (hsub.subset hmem)) sessions
  have answers : List.Forall₂ (Renaming.start c.data).OnAnswers
      ((Play.start c held).answers true) ((Play.start c held).answers true) := by
    refine List.forall₂_same.mpr fun a ha => ?_
    obtain ⟨⟨side, t⟩, ht, rfl⟩ : ∃ e ∈ held, Answer.found (.ok e.2) = a := by
      simp only [Play.answers, Play.start, List.mem_map, List.mem_filter] at ha
      obtain ⟨_, ⟨⟨e, he, rfl⟩, -⟩, rfl⟩ := ha
      exact ⟨e, he, rfl⟩
    obtain ⟨r, hr, hb, -⟩ := fair.holds side t ht
    exact .found (.ok (hparted.holds hr hb))
  have abreast : Abreast mine (.start c.data) (.start c held) (.start c held) :=
    ⟨hparted.mirrors fun _ => Database.session?_isSome, answers⟩
  obtain ⟨ρ, h⟩ := abreast.run (fair.apart hst hparted) orderly orderly' allowed allowed' same
    fair.enough fun side i hi => .inr ⟨i, hi, rfl⟩
  exact ⟨ρ, h.mirrors.oneToOne, h.answers, h.mirrors.toSameRows⟩

end

/-! ## A small store -/

namespace Sample

def bob : User := { alice with id := .ofNat 3, email := "bob@example.test" }

/-- A store that Alice and Bob share. -/
def shared : Connection :=
  .connect { Database.migrated with users := [alice, bob], providers := [provider] }

/-- Alice is the one group. -/
def isAlice (id : Uuid) : Bool := id = alice.id

/-- Alice signs in, exchanges her token, presents the old one once more, which costs her the new
one, and looks at that. In between, Bob signs in and swaps his token. -/
def turns : List Turn := [
  ⟨true, time, .grant alice (some conditions) ⟨.ofNat 5, "a"⟩⟩,
  ⟨false, time, .grant bob none ⟨.nil, "b"⟩⟩,
  ⟨true, time, .exchange "a" ⟨.nil, "aa"⟩⟩,
  ⟨false, time, .swap bob 0 ⟨.nil, "bb"⟩⟩,
  ⟨true, time, .exchange "a" ⟨.nil, "aaa"⟩⟩,
  ⟨true, time, .find "aa"⟩]

def later : Instant := ⟨1, 0⟩

/-- Alice does the same by herself, at another time and in another session. -/
def alone : List Turn := [
  ⟨true, later, .grant alice (some conditions) ⟨.ofNat 6, "a"⟩⟩,
  ⟨true, later, .exchange "a" ⟨.nil, "aa"⟩⟩,
  ⟨true, later, .exchange "a" ⟨.nil, "aaa"⟩⟩,
  ⟨true, later, .find "aa"⟩]

/-- What the store holds of Alice's tokens. -/
def rowsOfAlice (p : Play) : List (Int × String × Option Uuid × Bool) :=
  (p.connection.data.tokensOf isAlice).map fun t => (t.id, t.token, t.ssoSessionId, t.revoked)

theorem shared_steady : shared.Steady :=
  ⟨rfl, rfl, rfl, rfl, rfl, rfl, fun _ => rfl, rfl, nofun⟩

theorem shared_parted : shared.data.Parted isAlice where
  ascending := .nil
  bounded _ ht := absurd ht List.not_mem_nil
  distinct _ ht := absurd ht List.not_mem_nil
  bound _ ht := absurd ht List.not_mem_nil
  apart _ ht := absurd ht List.not_mem_nil

/-- The tokens that are issued in the run. -/
theorem turns_issued : ((Play.start shared []).run {} turns).log.filterMap (fun e =>
    match e.2 with
    | .issued (.ok i) => some (e.1, i.token.token)
    | _ => none) = [(true, "a"), (false, "b"), (true, "aa"), (false, "bb")] := by rfl

/-- What went wrong in the run. -/
theorem turns_failed : ((Play.start shared []).run {} turns).log.filterMap (fun e =>
    match e.2 with
    | .issued (.error e) => some e
    | _ => none) = [.tokenReused] := by rfl

/-- Whom the turns are for, and what they present. -/
theorem turns_own : turns.all (fun t => t.move.userId?.all (isAlice · = t.side) &&
    t.move.presented?.all fun x => t.side && (x = "a" || x = "aa")) = true := by rfl

theorem turns_fair : Fair isAlice {} shared [] turns where
  holds _ _ ht := absurd ht List.not_mem_nil
  users t ht id hid := by
    have hown := List.all_eq_true.mp turns_own t ht
    rw [hid] at hown
    exact of_decide_eq_true (Bool.and_eq_true_iff.mp hown).1
  presents t ht x hx := by
    refine ⟨fun r hr => absurd hr List.not_mem_nil, fun side i hi hside he => ?_⟩
    have hissued : (side, x) ∈ [(true, "a"), (false, "b"), (true, "aa"), (false, "bb")] :=
      he ▸ turns_issued ▸ List.mem_filterMap.mpr ⟨_, hi, rfl⟩
    have hown := List.all_eq_true.mp turns_own t ht
    rw [hx] at hown
    obtain ⟨hours, hstring⟩ : t.side = true ∧ (x = "a" ∨ x = "aa") := by
      simpa using (Bool.and_eq_true_iff.mp hown).2
    have htheirs : side = true := by
      rcases hstring with rfl | rfl <;> simpa using hissued
    exact hside (htheirs.trans hours.symm)
  distinct := by decide
  unused r hr := absurd hr List.not_mem_nil
  sessions := ⟨by decide, fun s hs => absurd hs List.not_mem_nil⟩
  enough e he hex := by
    obtain ⟨side, a⟩ := e
    rcases a with (error | i) | _ | _ | _
    · have hfailed : error ∈ [Error.tokenReused] :=
        turns_failed ▸ List.mem_filterMap.mpr ⟨_, he, rfl⟩
      rw [List.mem_singleton.mp hfailed] at hex
      obtain ⟨_, hsource, -⟩ := hex
      cases hsource
    all_goals exact hex

theorem turns_alone : List.Forall₂ Turn.Same (turns.filter (·.side)) alone := by
  have alike : alice.Alike alice := ⟨rfl, rfl, rfl⟩
  exact .cons ⟨rfl, .grant (some conditions) alike rfl⟩
    (.cons ⟨rfl, .exchange "a" rfl⟩ (.cons ⟨rfl, .exchange "a" rfl⟩ (.cons ⟨rfl, .find "aa"⟩ .nil)))

end Sample

namespace Sample

/-- The store once Bob has signed in. -/
def signedInto : Play := (Play.start shared []).run {} [⟨false, time, .grant bob none ⟨.nil, "b"⟩⟩]

/-- Bob's token. -/
def bobs : RefreshToken := { first with token := "b", userId := bob.id, revoked := false }

/-- The store once Bob's token has also been swapped for Alice. -/
def crossed : Play := signedInto.run {} [⟨false, time, .swap alice 0 ⟨.nil, "a"⟩⟩]

/-- Whether Alice gets a token at each of her turns. -/
def gets (c : Connection) (turns : List Turn) : List Bool :=
  (((Play.start c []).run {} turns).answers true).map (·.token?.isSome)

/-- Bob revokes the family of his token. Alice exchanges hers. -/
def familyTurns : List Turn :=
  [⟨false, time, .revokeFamily bobs⟩, ⟨true, time, .exchange "a" ⟨.nil, "aa"⟩⟩]

/-- Bob exchanges his token. Then Alice presents it. -/
def strangeTurns : List Turn :=
  [⟨false, time, .exchange "b" ⟨.nil, "bb"⟩⟩, ⟨true, time, .exchange "b" ⟨.nil, "a"⟩⟩]

/-- Bob signs out. Alice signs in and is given the string that his token had. -/
def reusingTurns : List Turn :=
  [⟨false, time, .logout bob.instanceId bob.id⟩, ⟨true, time, .grant alice none ⟨.nil, "b"⟩⟩]

end Sample

/-- Alice has the same tokens with Bob and without. His first one took the id that her second one
would have. -/
theorem alice_isolated :
    let both := (Play.start Sample.shared []).run {} Sample.turns
    let one := (Play.start Sample.shared []).run {} Sample.alone
    Sample.rowsOfAlice both = [(1, "a", some (.ofNat 5), true), (3, "aa", some (.ofNat 5), true)] ∧
      Sample.rowsOfAlice one =
        [(1, "a", some (.ofNat 6), true), (2, "aa", some (.ofNat 6), true)] ∧
      ∃ ρ : Renaming, ρ.OneToOne ∧
        List.Forall₂ ρ.OnAnswers (both.answers true) (one.answers true) ∧
        SameRows Sample.isAlice ρ both.connection.data one.connection.data :=
  ⟨by rfl, by rfl, groups_isolated Sample.shared_steady Sample.shared_parted Sample.turns_fair
    Sample.turns_alone ⟨by decide, fun _ hs => absurd hs List.not_mem_nil⟩⟩

/-- Where a swap has made Alice's token a child of Bob's, he may revoke it with his family. Alice
also notices Bob if she presents his token, or is given a string that his token has had before the
run. -/
theorem groups_meet :
    let alone (turns : List Turn) := turns.filter (·.side)
    let single := Sample.signedInto.connection
    let crossed := Sample.crossed.connection
    crossed.Steady ∧
      crossed.data.tokens.map (fun t => (t.token, t.parent, t.userId)) =
        [("b", none, Sample.bob.id), ("a", some "b", Sample.alice.id)] ∧
      (Sample.gets crossed Sample.familyTurns = [false] ∧
        Sample.gets crossed (alone Sample.familyTurns) = [true]) ∧
      single.Steady ∧ single.data.tokens = [Sample.bobs] ∧
      (Sample.gets single Sample.strangeTurns = [false] ∧
        Sample.gets single (alone Sample.strangeTurns) = [true]) ∧
      Sample.gets single Sample.reusingTurns = [true] ∧
        Sample.gets single (alone Sample.reusingTurns) = [false] := by
  intro alone single crossed
  have steady : single.Steady := Play.run_steady {} _ _ Sample.shared_steady
  exact ⟨Play.run_steady {} _ _ steady, by decide +kernel,
    ⟨by decide +kernel, by decide +kernel⟩, steady, by decide +kernel,
    ⟨by decide +kernel, by decide +kernel⟩, by decide +kernel, by decide +kernel⟩

end RefreshChain
