import GuestBridge.Fault
/-!
Operations on a state that may end in a fault. The state reached is kept when they do, so that
what happened before a fault stays done.
-/

set_option autoImplicit false

namespace GuestBridge

abbrev Action (σ : Type) := ExceptT Fault (StateM σ)

namespace Action

variable {σ α : Type}

def perform (act : Action σ α) (s : σ) : Except Fault α × σ := act.run.run s

/-- Runs an operation and hands on its outcome, whatever it is. -/
def attempt (act : Action σ α) : Action σ (Except Fault α) := fun s =>
  let (outcome, s) := act.perform s
  (.ok outcome, s)

/-- Ends with the given outcome. -/
def conclude (outcome : Except Fault α) : Action σ α := fun s => (outcome, s)

end Action

end GuestBridge
