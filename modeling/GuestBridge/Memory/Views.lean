import GuestBridge.Memory
/-!
Which memory the byte, word and double views were last built for. A lookup through a view whose
memory has moved or changed its size since counts as a rebuild, and so does every lookup on an
empty memory.
-/

set_option autoImplicit false

namespace GuestBridge

inductive ViewKind
  | bytes
  | words
  | doubles
  deriving DecidableEq, Repr

/-- All bytes of a memory, to be read and written in units of one kind. -/
structure View where
  kind : ViewKind
  memory : Memory
  deriving DecidableEq, Repr

def View.byteLength (v : View) : Nat := v.memory.size

structure ViewKey where
  base : Nat
  size : Nat
  deriving DecidableEq, Repr

def Memory.viewKey (m : Memory) : ViewKey := ⟨m.base, m.size⟩

structure Views where
  bytes : Option ViewKey
  words : Option ViewKey
  doubles : Option ViewKey
  /-- How many lookups found their view out of date. -/
  rebuilds : Nat
  deriving DecidableEq, Repr

namespace Views

def empty : Views := ⟨none, none, none, 0⟩

def key? (v : Views) : ViewKind → Option ViewKey
  | .bytes => v.bytes
  | .words => v.words
  | .doubles => v.doubles

def setKey (v : Views) (key : ViewKey) : ViewKind → Views
  | .bytes => { v with bytes := some key }
  | .words => { v with words := some key }
  | .doubles => { v with doubles := some key }

def isStale (v : Views) (kind : ViewKind) (m : Memory) : Bool :=
  match v.key? kind with
  | none => true
  | some key => key.size == 0 || key != m.viewKey

/-- What a lookup leaves behind: the view is up to date. -/
def lookup (v : Views) (kind : ViewKind) (m : Memory) : Views :=
  if v.isStale kind m then
    let v := v.setKey m.viewKey kind
    { v with rebuilds := v.rebuilds + 1 }
  else v

/-- The view that a lookup yields, over the memory as it is, and what the lookup leaves behind. -/
def view (v : Views) (kind : ViewKind) (m : Memory) : View × Views := (⟨kind, m⟩, v.lookup kind m)

/-- Forgets every view; the count of rebuilds stays. -/
def reset (v : Views) : Views := ⟨none, none, none, v.rebuilds⟩

end Views

end GuestBridge
