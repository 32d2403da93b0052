import RefreshChain.Proofs.Effects
import RefreshChain.Proofs.Run

/-!
# Sources of strings and ids

A service draws the strings of new tokens and the ids of new sessions from sources that go on and
never back, whatever becomes of the transactions that drew from them.

* `Service.Later`: what the sources may have become.
* `Service.NeverRepeats`: no string is given twice.
* `Action.Ages`: an action draws from the sources alone, with a rule for each way to build an
  action. All requests and other events do (`Event.perform_later`).
-/

namespace RefreshChain

namespace Service

variable {σ : Type} {s : Service σ} {x y : σ} {string : String}

/-- What the sources of a service may have become, starting from `x`. -/
inductive Later (s : Service σ) (x : σ) : σ → Prop where
  | refl : Later s x x
  | generate {y : σ} (before : Later s x y) : Later s x (s.generate y).2
  | freshId {y : σ} (before : Later s x y) : Later s x (s.freshId y).2

/-- From `x` on, the string is not given any more. -/
def Spent (s : Service σ) (x : σ) (string : String) : Prop :=
  ∀ y, s.Later x y → (s.generate y).1 ≠ string

/-- From `x` on, no string is given twice. -/
def NeverRepeats (s : Service σ) (x : σ) : Prop :=
  ∀ y, s.Later x y → s.Spent (s.generate y).2 (s.generate y).1

theorem Later.trans {z : σ} (h : s.Later x y) (h' : s.Later y z) : s.Later x z := by
  induction h' with
  | refl => exact h
  | generate _ ih => exact .generate ih
  | freshId _ ih => exact .freshId ih

theorem Spent.later (h : s.Spent x string) (hl : s.Later x y) : s.Spent y string :=
  fun z hz => h z (hl.trans hz)

/-- The string of a new token is given after the id of its session. -/
theorem later_sessionId (s : Service σ) (x : σ) (opensSession : Bool) :
    s.Later x (s.sessionId x opensSession).2 := by
  cases opensSession with
  | false => exact .refl
  | true => exact .freshId .refl

theorem later_supply (s : Service σ) (x : σ) (opensSession : Bool) :
    s.Later x (s.supply x opensSession).2 :=
  .generate (s.later_sessionId x opensSession)

theorem Spent.ne_supplied (h : s.Spent x string) (opensSession : Bool) :
    (s.supply x opensSession).1.string ≠ string :=
  h _ (s.later_sessionId x opensSession)

theorem NeverRepeats.spent_supplied (h : s.NeverRepeats x) (hl : s.Later x y)
    (opensSession : Bool) :
    s.Spent (s.supply y opensSession).2 (s.supply y opensSession).1.string :=
  h _ (hl.trans (s.later_sessionId y opensSession))

end Service

namespace Action

variable {σ ε α β : Type} {s : Service σ}

/-- `x` takes from the sources of the service alone, if anything. -/
def Ages (s : Service σ) (x : Action σ ε α) : Prop := ∀ h, s.Later h.outside (x h).2.outside

namespace Ages

theorem of_same {x : Action σ ε α} (hx : ∀ h, (x h).2.outside = h.outside) : x.Ages s :=
  fun h => by rw [hx]; exact .refl

theorem pure (a : α) : (pure a : Action σ ε α).Ages s := of_same fun _ => rfl

theorem fail (e : ε) : (fail e : Action σ ε α).Ages s := of_same fun _ => rfl

theorem orFail (e : ε) (o : Option α) : (orFail e o : Action σ ε α).Ages s := by
  cases o
  · exact fail e
  · exact pure _

theorem bind {x : Action σ ε α} {f : α → Action σ ε β} (hx : x.Ages s) (hf : ∀ a, (f a).Ages s) :
    (x >>= f).Ages s := by
  intro h
  have hx := hx h
  rw [bind_apply]
  rcases hr : x h with ⟨e | a, h₁⟩ <;> rw [hr] at hx
  · exact hx
  · exact hx.trans (hf a h₁)

theorem attempt {ε' : Type} {x : Action σ ε α} (hx : x.Ages s) :
    (attempt x : Action σ ε' (Except ε α)).Ages s := hx

theorem during {x : Action σ StoreError α} (hx : x.Ages s) (context : String) :
    (x.during context).Ages s := by
  intro h
  have hx := hx h
  unfold Action.during mapError
  rcases hr : x h with ⟨_ | _, _⟩ <;> rw [hr] at hx <;> exact hx

theorem onConnection {kind : Fault → StoreError}
    {step : Connection → Except Refusal α × Connection} :
    (onConnection kind step : Action σ StoreError α).Ages s := by
  refine of_same fun h => ?_
  unfold Action.onConnection
  split
  · rfl
  · rcases step h.connection with ⟨_ | _, _⟩ <;> rfl

theorem finish (o : Except Error α) : (finish o : Action σ Error α).Ages s := by
  cases o with
  | ok a => exact .bind (.during .onConnection _) fun _ => .pure _
  | error e => exact .bind (.attempt .onConnection) fun _ => .fail _

theorem transaction {x : Action σ Error α} (hx : x.Ages s) : (transaction x).Ages s :=
  .bind (.during .onConnection _) fun _ => .bind (.attempt hx) fun _ => .finish _

end Ages

end Action

section

open RefreshChain.Action (Ages)

variable {σ : Type} {s : Service σ} (now : Instant)

theorem createSession_ages (user : User) (c : Conditions) :
    (createSession s.freshId now user c).Ages s :=
  .bind (fun _ => .freshId .refl) fun _ => .during (.bind .onConnection fun _ =>
    .bind .onConnection fun _ => .orFail _ _) _

theorem loadBinding_ages (id : Uuid) : (loadBinding id : Action σ Error SsoBinding).Ages s :=
  .bind (.during .onConnection _) fun _ => .bind (.orFail _ _) fun _ => .bind (.orFail _ _) fun _ =>
    .pure _

theorem findToken_ages (token : String) : (findToken token : Action σ Error RefreshToken).Ages s :=
  .bind (.during .onConnection _) fun _ => .orFail _ _

theorem loadToken_ages (id : Int) : (loadToken id : Action σ Error RefreshToken).Ages s :=
  .bind (.during .onConnection _) fun _ => .orFail _ _

theorem revokeFamily_ages (t : RefreshToken) : (revokeFamily now t : Action σ Error Unit).Ages s :=
  .bind (.during .onConnection _) fun _ => .pure _

namespace Service

theorem sessionFor_ages (user : User) (origin : Origin) :
    (s.sessionFor now user origin).Ages s := by
  rcases origin with (_ | c) | old
  · exact .pure _
  · exact .bind (createSession_ages now user c) fun _ => .pure _
  · exact .pure _

theorem bindingOf_ages (t : RefreshToken) :
    (bindingOf t : Action σ Error (Option SsoBinding)).Ages s := by
  unfold bindingOf
  split
  · exact .pure _
  · exact .bind (loadBinding_ages _) fun _ => .pure _

theorem punish_ages (t : RefreshToken) : (s.punish now t).Ages s := by
  refine .bind (.during .onConnection _) fun _ => ?_
  split
  · exact .bind (revokeFamily_ages now t) fun _ => .fail _
  · exact .fail _

variable (ha : s.audit = .table) (hu : s.users = .table)

include hu in
theorem issue_ages (user : User) (origin : Origin) : (s.issue now user origin).Ages s := by
  have husers : (s.users now user).Ages s := by
    rw [hu]
    exact .bind .onConnection fun _ => .pure _
  exact .bind (sessionFor_ages now user origin) fun _ => .bind (fun _ => .generate .refl) fun _ =>
    .bind (.during .onConnection _) fun id => .bind (loadToken_ages id) fun t =>
      .bind (bindingOf_ages t) fun _ => .bind (.during husers _) fun _ => .pure _

include ha in
theorem recordRevocation_ages (user : User) : (s.recordRevocation now user).Ages s := by
  rw [recordRevocation, ha]
  refine .during (.bind .onConnection fun _ => ?_) _
  split
  · exact .pure _
  · exact .fail _

include ha hu

theorem swapWork_ages (user : User) (old : RefreshToken) : (s.swapWork now user old).Ages s := by
  refine .bind (recordRevocation_ages now ha user) fun _ => .bind (.during .onConnection _) fun _ =>
    ?_
  split
  · exact .fail _
  · exact issue_ages now hu user _

theorem exchangeWork_ages (token : String) : (s.exchangeWork now token).Ages s := by
  refine .bind (.bind (findToken_ages token) fun _ => .bind (.during .onConnection _) fun _ =>
    .bind (.orFail _ _) fun _ => .pure _) fun (user, old) => ?_
  dsimp only
  split
  · exact .pure _
  · refine .bind (recordRevocation_ages now ha user) fun _ => .bind (.during .onConnection _)
      fun _ => ?_
    split
    · exact .bind (findToken_ages _) fun _ => .pure _
    · exact .bind (issue_ages now hu user _) fun _ => .pure _

/-- A request takes nothing but ids and strings from the sources. -/
theorem serve_ages (r : Request) : (s.serve now r).Ages s := by
  cases r with
  | grant user conditions => exact .transaction (issue_ages now hu user _)
  | swap user old => exact .transaction (swapWork_ages now ha hu user old)
  | exchange token =>
    refine .bind (.during .onConnection _) fun _ => .bind (.attempt (exchangeWork_ages now ha hu _))
      fun o => ?_
    rcases o with e | t | t
    · exact .finish _
    · exact .finish _
    · exact punish_ages now t

end Service

/-- Other events leave the sources alone. -/
theorem Event.perform_later (ha : s.audit = .table) (hu : s.users = .table) (e : Event)
    (h : Host σ) : s.Later h.outside (e.perform s now h).outside := by
  cases e with
  | request r => exact Service.serve_ages now ha hu r h
  | revokeFamily t => exact revokeFamily_ages now t h
  | logout instanceId userId =>
    exact Ages.bind (.during .onConnection _) (fun _ => .pure _) h
  | _ => exact Ages.onConnection h

end

end RefreshChain
