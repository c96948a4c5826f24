import GuestBridge.Value
/-!
Promises: values that settle later, once, as fulfilled or as rejected. Until then a promise keeps
what is to happen when it settles; a settled promise keeps nothing but its outcome.
-/

set_option autoImplicit false

namespace GuestBridge

inductive Outcome
  | fulfilled (value : Value)
  | rejected (failure : Failure)
  deriving DecidableEq, Repr

inductive Reaction
  /-- Call a closure with the value; its result settles the derived promise. -/
  | call (callback derived : Nat)
  | forward (derived : Nat)
  deriving DecidableEq, Repr

inductive Promise
  | pending (reactions : List Reaction)
  | settled (outcome : Outcome)
  deriving DecidableEq, Repr

namespace Promise

def isPending : Promise → Bool
  | .pending _ => true
  | .settled _ => false

def withReaction (reaction : Reaction) : Promise → Promise
  | .pending reactions => .pending (reactions ++ [reaction])
  | .settled outcome => .settled outcome

end Promise

/-- What a value stands for once promises that hold promises are followed to the end. -/
inductive Target
  | value (v : Value)
  | failure (f : Failure)
  | waiting (promise : Nat)
  /-- The very promise that asks. -/
  | itself
  deriving DecidableEq, Repr

end GuestBridge
