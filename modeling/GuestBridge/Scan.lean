/-!
Reading a list from its front. A `Scan` takes a beginning of what is left, or fails and takes
nothing.
-/

set_option autoImplicit false

namespace GuestBridge

/-- Reads an `α` off the front of a list of `τ`. -/
abbrev Scan (τ α : Type) := StateT (List τ) Option α

namespace Scan

variable {τ α : Type}

def next (ok : τ → Bool) : Scan τ τ
  | c :: rest => if ok c then some (c, rest) else none
  | [] => none

/-- The next item, which stays. -/
def peek : Scan τ (Option τ) := fun s => some (s.head?, s)

def mark [BEq τ] (t : τ) : Scan τ Unit := do
  let _ ← next (· == t)

def word (s : String) : Scan Char Unit := s.toList.forM mark

/-- As many items of a class as there are. -/
def span (ok : τ → Bool) : Scan τ (List τ) := fun s => some (s.span ok)

/-- Like `span`, but one at least. -/
def some1 (ok : τ → Bool) : Scan τ (List τ) := do
  let t ← next ok
  return t :: (← span ok)

def times (p : Scan τ α) : Nat → Scan τ (List α)
  | 0 => pure []
  | n + 1 => do
    let a ← p
    return a :: (← times p n)

def exactly (ok : τ → Bool) (n : Nat) : Scan τ (List τ) := times (next ok) n

def maybe (p : Scan τ α) : Scan τ (Option α) := fun s =>
  match p s with
  | some (a, rest) => some (some a, rest)
  | none => some (none, s)

def upTo (p : Scan τ α) : Nat → Scan τ (List α)
  | 0 => pure []
  | n + 1 => do
    match ← maybe p with
    | some a => return a :: (← upTo p n)
    | none => return []

/-- As often as it succeeds; each time takes an item at least, so their number is enough. -/
def many (p : Scan τ α) : Scan τ (List α) := fun s => upTo p s.length s

/-- One or more, with something between them. -/
def separated (p : Scan τ α) (separator : Scan τ Unit) : Scan τ (List α) := do
  let a ← p
  return a :: (← many do separator; p)

def atEnd : Scan τ Unit
  | [] => some ((), [])
  | _ => none

/-- Reads a whole list. -/
def all? (p : Scan τ α) (s : List τ) : Option α :=
  match p s with
  | some (a, []) => some a
  | _ => none

end Scan

end GuestBridge
