import GuestBridge.Value
/-!
Virtual time, the timers that wait for it, and the queue of microtasks. Timers are kept in the
order in which they come due, those due together in the order of scheduling, and a second index
leads from the id of a timer to its place in that order. Nothing here runs a callback.
-/

set_option autoImplicit false

namespace GuestBridge

/-- A queued closure call. Its result settles a promise, if there is one. -/
structure Microtask where
  callback : Nat
  argument : Value
  settles : Option Nat
  deriving DecidableEq, Repr

/-- When a timer is due, and how many were scheduled before it. -/
structure TimerKey where
  due : UInt64
  order : Nat
  deriving DecidableEq, Repr

def TimerKey.before (a b : TimerKey) : Bool :=
  a.due < b.due || (a.due == b.due && a.order < b.order)

structure Timer where
  key : TimerKey
  id : UInt32
  callback : Nat
  deriving DecidableEq, Repr

structure EventLoop where
  /-- Virtual milliseconds. -/
  now : UInt64
  scheduled : Nat
  nextId : UInt32
  /-- In ascending order of keys. -/
  timers : List Timer
  /-- From the id of a timer to its key. -/
  keys : List (UInt32 × TimerKey)
  microtasks : List Microtask
  deriving DecidableEq, Repr

namespace EventLoop

def empty : EventLoop := ⟨0, 0, 1, [], [], []⟩

/-- Addition that stops at the largest time. -/
def later (time delay : UInt64) : UInt64 :=
  if time.toNat + delay.toNat < UInt64.size then time + delay else 0xffffffffffffffff

def insertTimer (t : Timer) : List Timer → List Timer
  | [] => [t]
  | u :: rest => if u.key.before t.key then u :: insertTimer t rest else t :: u :: rest

def eraseId (id : UInt32) (keys : List (UInt32 × TimerKey)) : List (UInt32 × TimerKey) :=
  keys.filter fun entry => entry.1 != id

/-- Ids go round at 32 bits and leave out zero. -/
def idAfter (id : UInt32) : UInt32 := if id + 1 = 0 then 1 else id + 1

/-- Schedules a callback `delay` from now; yields the id of the timer. -/
def setTimeout (e : EventLoop) (callback : Nat) (delay : UInt64) : UInt32 × EventLoop :=
  let id := e.nextId
  let key := ⟨later e.now delay, e.scheduled⟩
  (id, { e with
    scheduled := e.scheduled + 1
    nextId := idAfter id
    timers := insertTimer ⟨key, id, callback⟩ e.timers
    keys := (id, key) :: eraseId id e.keys })

/-- Cancels a pending timer and hands it back. -/
def clearTimeout (e : EventLoop) (id : UInt32) : Option Timer × EventLoop :=
  match e.keys.find? fun entry => entry.1 == id with
  | none => (none, e)
  | some (_, key) =>
    (e.timers.find? fun t => t.key == key, { e with
      timers := e.timers.filter fun t => t.key != key
      keys := eraseId id e.keys })

/-- Takes the earliest timer that is due by the deadline, and moves the clock to its time. -/
def popDue (e : EventLoop) (deadline : UInt64) : Option Timer × EventLoop :=
  match e.timers with
  | [] => (none, e)
  | t :: rest =>
    if deadline < t.key.due then (none, e)
    else (some t, { e with
      now := max e.now t.key.due
      timers := rest
      keys := eraseId t.id e.keys })

def advanceTo (e : EventLoop) (deadline : UInt64) : EventLoop :=
  { e with now := max e.now deadline }

/-- The time `elapsed` milliseconds from now, clamped to 64 bits. -/
def deadlineAfter (e : EventLoop) (elapsed : Nat) : UInt64 :=
  later e.now (UInt64.ofNat (min elapsed (UInt64.size - 1)))

def queue (e : EventLoop) (task : Microtask) : EventLoop :=
  { e with microtasks := e.microtasks ++ [task] }

def popMicrotask (e : EventLoop) : Option Microtask × EventLoop :=
  match e.microtasks with
  | [] => (none, e)
  | task :: rest => (some task, { e with microtasks := rest })

end EventLoop

end GuestBridge
