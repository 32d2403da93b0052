import RefreshChain.Proofs.Script

/-!
# Calls

All that a caller may ask of the library about tokens: the requests to a service, and what works on
the connection that it is given.

* `Call`, `Reply`, `Call.perform`: a call and its outcome.
* `Service.runAll`: the outcomes of some calls, one after the other, whatever each of them comes to.
-/

namespace RefreshChain

variable {σ : Type}

inductive Call where
  | request (r : Request)
  | revokeFamily (start : RefreshToken)
  | logout (instanceId userId : Uuid)
  | find (token : String)
  | findOwner (token : String)
  | findValidChild (start : RefreshToken)
  | getValidChild (start : RefreshToken)
  deriving DecidableEq, Repr

/-- What a call gives that succeeds. -/
inductive Reply where
  | issued (i : IssuedToken)
  | done
  | found (t : RefreshToken)
  | owned (user : User) (t : RefreshToken)
  | looked (t : Option RefreshToken)
  deriving DecidableEq, Repr

namespace Call

def perform (s : Service σ) (now : Instant) : Call → Action σ Error Reply
  | .request r => do return .issued (← s.serve now r)
  | .revokeFamily start => do
    RefreshChain.revokeFamily now start
    return .done
  | .logout instanceId userId => do
    RefreshChain.logout instanceId userId
    return .done
  | .find token => do return .found (← findToken token)
  | .findOwner token => do
    let (user, t) ← findUserWithToken token
    return .owned user t
  | .findValidChild start => do return .looked (← RefreshChain.findValidChild start)
  | .getValidChild start => do return .found (← RefreshChain.getValidChild start)

end Call

/-- The outcomes of some calls, each at its time, and the host after them. A call that fails does
not keep the caller from the next. -/
def Service.runAll (s : Service σ) :
    List (Instant × Call) → Host σ → List (Except Error Reply) × Host σ
  | [], h => ([], h)
  | (now, call) :: calls, h =>
    let (o, h₁) := call.perform s now h
    let (os, h₂) := s.runAll calls h₁
    (o :: os, h₂)

end RefreshChain
