/-!
A bag with one slot for each kind of host-side state; the kind fixes the type of what its slot
holds.
-/

set_option autoImplicit false

namespace GuestBridge

structure Extensions (Kind : Type) (State : Kind → Type) where
  entries : List (Sigma State)

namespace Extensions

variable {Kind : Type} {State : Kind → Type} [DecidableEq Kind]

def empty : Extensions Kind State := ⟨[]⟩

def find? (kind : Kind) : List (Sigma State) → Option (State kind)
  | [] => none
  | ⟨k, s⟩ :: rest => if same : k = kind then some (same ▸ s) else find? kind rest

def get? (x : Extensions Kind State) (kind : Kind) : Option (State kind) := find? kind x.entries

def contains (x : Extensions Kind State) (kind : Kind) : Bool := (x.get? kind).isSome

def put (kind : Kind) (state : State kind) : List (Sigma State) → List (Sigma State)
  | [] => [⟨kind, state⟩]
  | ⟨k, s⟩ :: rest => if k = kind then ⟨kind, state⟩ :: rest else ⟨k, s⟩ :: put kind state rest

def set (x : Extensions Kind State) (kind : Kind) (state : State kind) : Extensions Kind State :=
  ⟨put kind state x.entries⟩

/-- Fills a slot and yields what was in it. -/
def insert (x : Extensions Kind State) (kind : Kind) (state : State kind) :
    Option (State kind) × Extensions Kind State :=
  (x.get? kind, x.set kind state)

/-- What a slot holds, after filling it if it was empty. -/
def getOrInsert (x : Extensions Kind State) (kind : Kind) (initial : State kind) :
    State kind × Extensions Kind State :=
  match x.get? kind with
  | some state => (state, x)
  | none => (initial, x.set kind initial)

end Extensions

end GuestBridge
