import CertifiedAccess.Authority.Event

/-!
Actions: computations that change a state, report events, and end with a value or an error. What an
action has changed and reported before an error stays.
-/
namespace CertifiedAccess

/-- How an action ended, the state that it left, and its events in order. -/
structure Outcome (ω ε α : Type) where
  result : Except ε α
  state : ω
  events : List Event

def Action (ω ε α : Type) := ω → Outcome ω ε α

namespace Action
variable {ω ε α β : Type}

def run (act : Action ω ε α) (state : ω) : Outcome ω ε α := act state

instance : Monad (Action ω ε) where
  pure a := fun state => ⟨.ok a, state, []⟩
  bind act next := fun state =>
    let first := act state
    match first.result with
    | .ok a =>
      let second := next a first.state
      ⟨second.result, second.state, first.events ++ second.events⟩
    | .error e => ⟨.error e, first.state, first.events⟩

def fail (e : ε) : Action ω ε α := fun state => ⟨.error e, state, []⟩

def emit (event : Event) : Action ω ε Unit := fun state => ⟨.ok (), state, [event]⟩

def failWith (event : Event) (e : ε) : Action ω ε α := fun state => ⟨.error e, state, [event]⟩

end Action
end CertifiedAccess
