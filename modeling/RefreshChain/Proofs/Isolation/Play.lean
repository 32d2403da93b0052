import RefreshChain.Proofs.Answers

/-!
# Plays

Callers of two groups of users take turns at one store. A group may present the tokens that it was
answered with before. A request that may issue a token comes with what it takes from the sources, so
that the two groups do not share these.

* `Move`, `Answer`: what a caller asks for, and what comes back.
* `Play.run`: the connection after some turns, with all answers given on the way.
* `Database.respond`, `Move.perform_eq`: on a steady connection a move comes to a function of the
  contents.
-/

namespace RefreshChain

/-- What a caller asks for. -/
inductive Move where
  | grant (user : User) (conditions : Option Conditions) (given : Supply)
  /-- Swaps the token that the caller's group was answered with as its `k`-th, from 0. -/
  | swap (user : User) (k : Nat) (given : Supply)
  | exchange (token : String) (given : Supply)
  | revokeFamily (start : RefreshToken)
  | validChild (start : RefreshToken)
  | find (token : String)
  | logout (instanceId userId : Uuid)
  deriving DecidableEq, Repr

inductive Answer where
  | issued (o : Except Error IssuedToken)
  | found (o : Except Error RefreshToken)
  | done (o : Except Error Unit)
  /-- There was no such token to present. -/
  | nothing

/-- The token that an answer gives to the caller. -/
def Answer.token? : Answer → Option RefreshToken
  | .issued (.ok i) => some i.token
  | .found (.ok t) => some t
  | _ => none

/-- No id was left for a new token. -/
def Answer.Exhausted : Answer → Prop
  | .issued (.error e) => e.EndsAll fun _ => False
  | _ => False

/-- The service whose sources give what is passed to them. -/
def Service.given (config : Config) : Service Supply where
  config := config
  generate x := (x.string, x)
  freshId x := (x.sessionId, x)

namespace Move

variable (config : Config) (now : Instant)

/-- The answer to a request that is given `given`, and the connection after it. -/
def request (c : Connection) (given : Supply) (r : Request) : Answer × Connection :=
  let (o, h) := (Service.given config).serve now r ⟨c, given⟩
  (.issued o, h.connection)

/-- The answer to a move, and the connection after it. `hand` are the tokens that the caller's group
was answered with before. -/
def perform (hand : List RefreshToken) (c : Connection) : Move → Answer × Connection
  | .grant user conditions given => request config now c given (.grant user conditions)
  | .swap user k given =>
    match hand[k]? with
    | some old => request config now c given (.swap user old)
    | none => (.nothing, c)
  | .exchange token given => request config now c given (.exchange token)
  | .revokeFamily start =>
    let (o, h) := RefreshChain.revokeFamily now start ⟨c, ()⟩
    (.done o, h.connection)
  | .validChild start =>
    let (o, h) := getValidChild start ⟨c, ()⟩
    (.found o, h.connection)
  | .find token =>
    let (o, h) := findToken token ⟨c, ()⟩
    (.found o, h.connection)
  | .logout instanceId userId =>
    let (o, h) := RefreshChain.logout instanceId userId ⟨c, ()⟩
    (.done o, h.connection)

end Move

/-- A move of a group. One of the groups is on the side `true`. -/
structure Turn where
  side : Bool
  now : Instant
  move : Move
  deriving DecidableEq, Repr

/-- A connection with the answers that were given so far, each with the side that got it. -/
structure Play where
  connection : Connection
  log : List (Bool × Answer) := []

namespace Play

/-- The answers to a group. -/
def answers (p : Play) (side : Bool) : List Answer := (p.log.filter (·.1 = side)).map (·.2)

/-- The tokens that a group was answered with. -/
def hand (p : Play) (side : Bool) : List RefreshToken := (p.answers side).filterMap Answer.token?

def turn (config : Config) (p : Play) (t : Turn) : Play :=
  let (a, c) := t.move.perform config t.now (p.hand t.side) p.connection
  ⟨c, p.log ++ [(t.side, a)]⟩

def run (config : Config) (p : Play) (turns : List Turn) : Play := turns.foldl (turn config) p

end Play

/-! ## What comes of a move -/

namespace Database

variable (db : Database) (rotationEnabled : Bool) (now : Instant)

/-- The answer to a request that is given `given`, and the contents after it. -/
def reply (given : Supply) (r : Request) : Answer × Database :=
  let (o, db') := db.serve rotationEnabled now given r
  (.issued o, db')

/-- The answer if a token was looked for. -/
def lookedUp : Option RefreshToken → Answer
  | some t => .found (.ok t)
  | none => .found (.error .tokenNotFound)

/-- The answer to a move, and the contents after it. -/
def respond (hand : List RefreshToken) : Move → Answer × Database
  | .grant user conditions given => db.reply rotationEnabled now given (.grant user conditions)
  | .swap user k given =>
    match hand[k]? with
    | some old => db.reply rotationEnabled now given (.swap user old)
    | none => (.nothing, db)
  | .exchange token given => db.reply rotationEnabled now given (.exchange token)
  | .revokeFamily start => (.done (.ok ()), db.revokingFamily now start)
  | .validChild start => (lookedUp (db.validChild? start), db)
  | .find token => (lookedUp (db.token? token), db)
  | .logout instanceId userId => (.done (.ok ()), db.loggedOut instanceId userId)

/-- Only a sign-in with conditions takes the id of a session. -/
theorem serve_supply (config : Config) (given : Supply) (r : Request) :
    db.serve rotationEnabled now ((Service.given config).supply given r.opensSession).1 r =
      db.serve rotationEnabled now given r := by
  rcases r with ⟨user, _ | c⟩ | _ | _ <;> rfl

end Database

section

variable {σ : Type} {h : Host σ} (hst : h.connection.Steady)

include hst

theorem getValidChild_apply (start : RefreshToken) :
    (getValidChild start : Action σ Error RefreshToken) h =
      (match h.connection.data.validChild? start with
        | some t => .ok t
        | none => .error .tokenNotFound, h) := by
  rw [getValidChild, findValidChild,
    Action.bind_of_ok (Action.during_ok.mpr (Action.read_apply hst _ _))]
  cases h.connection.data.validChild? start <;> rfl

end

namespace Move

/-- The move has the given outcome on the connection; what the store holds after it is known if it
has not run out of ids. -/
structure ComesTo (r : Answer × Connection) (o : Answer × Database) : Prop where
  answer : r.1 = o.1
  steady : r.2.Steady
  data : ¬ o.1.Exhausted → r.2.data = o.2

variable {c : Connection} (hst : c.Steady) (config : Config) (now : Instant)

include hst

theorem ComesTo.unchanged (a : Answer) : ComesTo (a, c) (a, c.data) := ⟨rfl, hst, fun _ => rfl⟩

theorem request_comesTo (given : Supply) (r : Request) :
    ComesTo (request config now c given r) (c.data.reply config.rotationEnabled now given r) := by
  have hanswers := (Service.given config).serve_answers (h := ⟨c, given⟩) hst rfl rfl now r
  have hsupply : c.data.serve (Service.given config).config.rotationEnabled now
      ((Service.given config).supply given r.opensSession).1 r =
        c.data.serve config.rotationEnabled now given r :=
    c.data.serve_supply _ now config given r
  dsimp only at hanswers
  rw [hsupply] at hanswers
  rw [request, Database.reply]
  rcases ho : c.data.serve config.rotationEnabled now given r with ⟨e | i, db⟩
  · obtain ⟨he, hfailed⟩ := hanswers.error e db ho
    refine ⟨congrArg Answer.issued he, hfailed.steady, fun henough => ?_⟩
    rcases hfailed with hres | ⟨hends, -⟩
    · exact hres.data
    · exact absurd hends henough
  · obtain ⟨hm, run⟩ := hanswers.ok i db ho
    rw [run]
    exact ⟨rfl, hst.showing hm, fun _ => rfl⟩

/-- On a steady connection a move does what `Database.respond` says. -/
theorem perform_comesTo (hand : List RefreshToken) (m : Move) :
    ComesTo (m.perform config now hand c) (c.data.respond config.rotationEnabled now hand m) := by
  cases m with
  | grant user conditions given =>
    exact request_comesTo hst config now given (.grant user conditions)
  | swap user k given =>
    rw [perform, Database.respond]
    cases hand[k]? with
    | none => exact .unchanged hst _
    | some old => exact request_comesTo hst config now given (.swap user old)
  | exchange token given => exact request_comesTo hst config now given (.exchange token)
  | revokeFamily start =>
    rw [perform, Service.revokeFamily_apply (h := ⟨c, ()⟩) hst start]
    exact ⟨rfl, hst.showing hst.schema, fun _ => rfl⟩
  | validChild start =>
    rw [perform, getValidChild_apply (h := ⟨c, ()⟩) hst start, Database.respond]
    dsimp only
    cases c.data.validChild? start <;> exact .unchanged hst _
  | find token =>
    rw [perform, findToken_apply (h := ⟨c, ()⟩) hst token, Database.respond]
    dsimp only
    cases c.data.token? token <;> exact .unchanged hst _
  | logout instanceId userId =>
    rw [perform, logout_apply (h := ⟨c, ()⟩) hst instanceId userId]
    exact ⟨rfl, hst.showing hst.schema, fun _ => rfl⟩

end Move

/-! ## Turns -/

namespace Play

variable (config : Config) (p : Play)

theorem turn_log (t : Turn) : (p.turn config t).log =
    p.log ++ [(t.side, (t.move.perform config t.now (p.hand t.side) p.connection).1)] := rfl

theorem turn_answers (t : Turn) (side : Bool) :
    (p.turn config t).answers side = p.answers side ++
      if t.side = side then [(t.move.perform config t.now (p.hand t.side) p.connection).1]
      else [] := by
  unfold turn answers
  by_cases hs : t.side = side <;> simp [hs]

theorem turn_hand (t : Turn) (side : Bool) :
    (p.turn config t).hand side = p.hand side ++
      if t.side = side then
        (t.move.perform config t.now (p.hand t.side) p.connection).1.token?.toList
      else [] := by
  rw [hand, turn_answers, List.filterMap_append, hand]
  by_cases hs : t.side = side
  · rw [if_pos hs, if_pos hs]
    cases (t.move.perform config t.now (p.hand t.side) p.connection).1.token? <;> rfl
  · rw [if_neg hs, if_neg hs]
    rfl

/-- No answer is lost. -/
theorem log_run (turns : List Turn) : p.log ⊆ (p.run config turns).log := by
  induction turns generalizing p with
  | nil => exact fun _ h => h
  | cons t turns ih => exact fun _ h => ih (p.turn config t) (List.mem_append_left _ h)

theorem turn_steady (t : Turn) (hst : p.connection.Steady) : (p.turn config t).connection.Steady :=
  (Move.perform_comesTo hst config t.now _ t.move).steady

theorem run_steady (turns : List Turn) (hst : p.connection.Steady) :
    (p.run config turns).connection.Steady := by
  induction turns generalizing p with
  | nil => exact hst
  | cons t turns ih => exact ih _ (p.turn_steady config t hst)

end Play

end RefreshChain
