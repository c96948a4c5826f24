import GuestBridge.Action
import GuestBridge.Pool
/-!
Guest closures as the host sees them: two entries of the guest's function table, a two-word
environment and a count of references. A closure begins with the guest's own reference; every
invocation holds one more while it lasts. When the count reaches zero the destructor is called, and
the closure is inert from then on. When the last place on the host side lets go of a closure that
is not yet inert, its destructor is queued instead.
-/

set_option autoImplicit false

namespace GuestBridge

/-- On whose account closures are made. Each account numbers its closures from zero and keeps the
destructor calls that they leave behind. -/
inductive Account
  | guest
  | host
  deriving DecidableEq, Repr, Inhabited

structure Closure where
  account : Account
  number : Nat
  code : UInt32
  destructor : UInt32
  /-- First word of the environment; zero while the closure runs and after its destruction. -/
  data : UInt32
  metaWord : UInt32
  references : Nat
  inert : Bool
  deriving DecidableEq, Repr, Inhabited

def Closure.debugText (k : Closure) : String :=
  s!"ClosureRecord \x7b id: {k.number}, invoke: {k.code}, dtor: {k.destructor}, "
    ++ s!"refcount: {k.references}, inert: {k.inert} \x7d"

/-- A destructor call that is still to be made. -/
structure Finalizer where
  closure : Nat
  destructor : UInt32
  data : UInt32
  metaWord : UInt32
  deriving DecidableEq, Repr

structure Ledger where
  created : Nat
  finalizers : List Finalizer
  deriving DecidableEq, Repr

structure Closures where
  pool : Pool Closure
  guest : Ledger
  host : Ledger
  deriving DecidableEq, Repr

namespace Closures

def empty : Closures := ⟨.empty, ⟨0, []⟩, ⟨0, []⟩⟩

def ledger (c : Closures) : Account → Ledger
  | .guest => c.guest
  | .host => c.host

def setLedger (c : Closures) (ledger : Ledger) : Account → Closures
  | .guest => { c with guest := ledger }
  | .host => { c with host := ledger }

def create (c : Closures) (account : Account) (code destructor data metaWord : UInt32) :
    Nat × Closures :=
  let ledger := c.ledger account
  let number := ledger.created
  let (i, pool) := c.pool.add ⟨account, number, code, destructor, data, metaWord, 1, false⟩ 1
  (i, { c with pool := pool }.setLedger { ledger with created := number + 1 } account)

def queueFinalizer (c : Closures) (k : Closure) : Closures :=
  let ledger := c.ledger k.account
  let finalizers := ledger.finalizers ++ [⟨k.number, k.destructor, k.data, k.metaWord⟩]
  c.setLedger { ledger with finalizers := finalizers } k.account

/-- A closure that nothing holds any more reads as a default one. -/
def get (c : Closures) (i : Nat) : Closure := (c.pool.get? i).getD default

def modify (c : Closures) (i : Nat) (f : Closure → Closure) : Closures :=
  { c with pool := c.pool.modify i f }

def hold (c : Closures) (i : Nat) : Closures := { c with pool := c.pool.hold i }

/-- One place less holds the closure; the last one leaves a live closure to its finalizer. -/
def release (c : Closures) (i : Nat) : Closures :=
  match c.pool.release i with
  | (some k, pool) =>
    let c := { c with pool := pool }
    if !k.inert && 0 < k.references then c.queueFinalizer k else c
  | (none, pool) => { c with pool := pool }

def takeFinalizers (c : Closures) (account : Account) : List Finalizer × Closures :=
  let ledger := c.ledger account
  (ledger.finalizers, c.setLedger { ledger with finalizers := [] } account)

end Closures

class HasClosures (σ : Type) where
  closures : σ → Closures
  setClosures : σ → Closures → σ

/-- Calls into the guest's function table. -/
structure ClosureCalls (σ : Type) where
  /-- Table entry, the two words of the environment and the argument to the resulting handle. -/
  run : UInt32 → UInt32 → UInt32 → UInt32 → Action σ UInt32
  destroy : UInt32 → UInt32 → UInt32 → Action σ Unit

namespace ClosureCalls

variable {σ : Type} [HasClosures σ]

def look (i : Nat) : Action σ Closure := do
  return (HasClosures.closures (← get)).get i

def change (i : Nat) (f : Closure → Closure) : Action σ Unit :=
  modify fun s => HasClosures.setClosures s ((HasClosures.closures s).modify i f)

/-- Calls the destructor with the given data word, once. -/
def finish (calls : ClosureCalls σ) (i : Nat) (data : UInt32) : Action σ Unit := do
  let k ← look i
  if k.inert then return
  change i fun k => { k with inert := true }
  calls.destroy k.destructor data k.metaWord

/-- Runs a closure on an argument handle. Its data word is out of reach meanwhile, so that an
invocation within this one finds zero; afterwards the word is put back, or handed to the destructor
when no reference is left. A failure of the closure goes before one of its destructor. -/
def invoke (calls : ClosureCalls σ) (i : Nat) (argument : UInt32) : Action σ UInt32 := do
  let data := (← look i).data
  change i fun k => { k with references := k.references + 1, data := 0 }
  let k ← look i
  let outcome ← Action.attempt (calls.run k.code data k.metaWord argument)
  change i fun k => { k with references := k.references - 1 }
  let destroyed ←
    if (← look i).references = 0 then Action.attempt (calls.finish i data)
    else do
      change i fun k => { k with data := data }
      pure (.ok ())
  let handle ← Action.conclude outcome
  Action.conclude destroyed
  return handle

/-- Gives up the guest's reference; true when it was the last one and the destructor has run. -/
def dropReference (calls : ClosureCalls σ) (i : Nat) : Action σ Bool := do
  let k ← look i
  if k.references = 0 then return false
  change i fun k => { k with references := k.references - 1 }
  if k.references = 1 then
    change i fun k => { k with data := 0 }
    calls.finish i k.data
    return true
  return false

end ClosureCalls

end GuestBridge
