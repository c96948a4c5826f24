import GuestBridge.Proofs.Callbacks.Cascades
import GuestBridge.Proofs.Timers.Agenda
import GuestBridge.Proofs.Timers.Course
/-!
Callbacks in the custody of the event loop and of promises. Each is a closure that is made for the
purpose and handed over; whoever hands it over has no further hold on it, and drops what is popped.
-/

set_option autoImplicit false

namespace GuestBridge

/-- What a closure is made from. -/
structure Blueprint where
  account : Account
  code : UInt32
  destructor : UInt32
  data : UInt32
  metaWord : UInt32

/-- The closure as it is made. -/
def Blueprint.closure (k : Blueprint) (number : Nat) : Closure :=
  ⟨k.account, number, k.code, k.destructor, k.data, k.metaWord, 1, false⟩

/-- A callback that was handed over. -/
structure Handed where
  callback : Nat
  /-- The number of the closure in its account. -/
  number : Nat
  origin : Blueprint

def Handed.made (h : Handed) : Closure := h.origin.closure h.number

def Closures.make (c : Closures) (k : Blueprint) : Nat × Closures :=
  c.create k.account k.code k.destructor k.data k.metaWord

def Realm.make (r : Realm) (k : Blueprint) : Nat × Realm :=
  r.newClosure k.account k.code k.destructor k.data k.metaWord

/-- What is dropped with a microtask. -/
def Realm.Job.ofTask (task : Microtask) : List Job :=
  [.letGo (.function task.callback), .letGo task.argument] ++
    (task.settles.map fun p => .letGo (.promise p)).toList

/-- What callers do. An operation with a promise that is not there, or with a callback for a value,
is none. -/
inductive CustodyOp
  | schedule (k : Blueprint) (delay : UInt64)
  | cancel (id : UInt32)
  /-- Pops a timer that is due by the deadline, and drops it. -/
  | fire (deadline : UInt64)
  | queue (k : Blueprint) (argument : Value) (settles : Option Nat)
  /-- Pops a microtask, and drops it. -/
  | take
  | andThen (promise : Nat) (k : Blueprint)
  | resolve (promise : Nat) (v : Value)
  | reject (promise : Nat) (f : Failure)
  | new
  | resolved (v : Value)
  | rejected (f : Failure)
  | keep (v : Value)
  | letGo (v : Value)
  /-- Makes a closure that is no callback. -/
  | make (k : Blueprint)
  /-- Takes all destructor calls of an account off its queue. -/
  | drain (account : Account)

structure Custody where
  realm : Realm
  registered : List Registration
  handed : List Handed
  /-- Callbacks of timers and microtasks that were popped. -/
  popped : List Nat
  /-- Callbacks of timers that were cancelled. -/
  cancelled : List Nat
  drained : Account → List Finalizer

namespace Custody

def start (elements : Elements) : Custody where
  realm := { Realm.empty with elements := elements }
  registered := []
  handed := []
  popped := []
  cancelled := []
  drained _ := []

def has (s : Custody) (p : Nat) : Bool := s.realm.promises.contains p

/-- Whether a caller may have the value. It has no hold on what is gone, nor on a callback that it
handed over. -/
def mayPass (s : Custody) : Value → Bool
  | .promise p => s.has p
  | .function i => i < s.realm.closures.pool.size && s.handed.all fun h => h.callback != i
  | _ => true

/-- The next callback. -/
def next (s : Custody) (k : Blueprint) : Handed :=
  ⟨s.realm.closures.pool.size, (s.realm.closures.ledger k.account).created, k⟩

/-- Makes a callback, for which there is no place yet. -/
def handOver (s : Custody) (k : Blueprint) : Custody where
  realm := (s.realm.make k).2
  registered := s.registered
  handed := s.handed ++ [s.next k]
  popped := s.popped
  cancelled := s.cancelled
  drained := s.drained

def step (s : Custody) : CustodyOp → Custody
  | .schedule k delay =>
    let (i, realm) := s.realm.make k
    { s.handOver k with realm := { realm with events := (realm.events.setTimeout i delay).2 } }
  | .cancel id =>
    match s.realm.events.clearTimeout id with
    | (some t, events) =>
      { s with
        realm := { s.realm with events := events }.letGo (.function t.callback)
        cancelled := s.cancelled ++ [t.callback] }
    | (none, events) => { s with realm := { s.realm with events := events } }
  | .fire deadline =>
    match s.realm.events.popDue deadline with
    | (some t, events) =>
      { s with
        realm := { s.realm with events := events }.letGo (.function t.callback)
        popped := s.popped ++ [t.callback] }
    | (none, events) => { s with realm := { s.realm with events := events } }
  | .queue k argument settles =>
    if s.mayPass argument ∧ settles.all s.has then
      let other := (settles.map Value.promise).getD .undefined
      let s : Custody := { s with realm := (s.realm.hold argument).hold other }
      let (i, realm) := s.realm.make k
      { s.handOver k with
        realm := { realm with events := realm.events.queue ⟨i, argument, settles⟩ } }
    else s
  | .take =>
    match s.realm.events.popMicrotask with
    | (some task, events) =>
      { s with
        realm := { s.realm with events := events }.run (Realm.Job.ofTask task)
        popped := s.popped ++ [task.callback] }
    | (none, events) => { s with realm := { s.realm with events := events } }
  | .andThen p k =>
    if s.has p then
      let (i, realm) := s.realm.make k
      let (derived, realm) := realm.andThen p i
      { s.handOver k with
        realm := realm
        registered := s.registered ++ [⟨p, i, derived⟩] }
    else s
  | .resolve p v =>
    if s.has p ∧ s.mayPass v then { s with realm := (s.realm.hold v).resolve p v } else s
  | .reject p f => if s.has p then { s with realm := s.realm.reject p f } else s
  | .new => { s with realm := (s.realm.newPromise (.pending [])).2 }
  | .resolved v =>
    if s.mayPass v then
      { s with realm := ((s.realm.hold v).newPromise (.settled (.fulfilled v))).2 }
    else s
  | .rejected f => { s with realm := (s.realm.newPromise (.settled (.rejected f))).2 }
  | .keep v => if s.mayPass v then { s with realm := s.realm.hold v } else s
  | .letGo v => if s.mayPass v then { s with realm := s.realm.letGo v } else s
  | .make k => { s with realm := (s.realm.make k).2 }
  | .drain account =>
    let (batch, closures) := s.realm.closures.takeFinalizers account
    { s with
      realm := { s.realm with closures := closures }
      drained := fun other =>
        if other = account then s.drained other ++ batch else s.drained other }

def run (s : Custody) (ops : List CustodyOp) : Custody := ops.foldl step s

/-! Where a callback is. -/

/-- How often a callback was popped or cancelled. -/
def ended (s : Custody) (i : Nat) : Nat := s.popped.count i + s.cancelled.count i

/-- The same, and how often it was registered on a promise that is rejected. -/
def letGo (s : Custody) (i : Nat) : Nat := s.ended i + s.realm.rejections s.registered i

/-- The calls of a closure's destructor that have been drained. -/
def past (s : Custody) (h : Handed) : List Finalizer :=
  (s.drained h.origin.account).filter fun f => f.closure = h.number

/-- The promises that a callback was registered on are referenced to this day. -/
def Retains (s : Custody) (i : Nat) : Prop := s.realm.Retains s.registered i

end Custody

namespace Closures

/-- The calls of a closure's destructor that are queued. -/
def destructors (c : Closures) (h : Handed) : List Finalizer :=
  (c.ledger h.origin.account).finalizers.filter fun f => f.closure = h.number

/-- Closures and the destructor calls that they leave behind are numbered within their accounts. -/
structure Numbered (c : Closures) (drained : Account → List Finalizer) : Prop where
  things : ∀ j k, c.pool.get? j = some k → k.number < (c.ledger k.account).created
  calls : ∀ account, ∀ f ∈ drained account ++ (c.ledger account).finalizers,
    f.closure < (c.ledger account).created

/-- A closure was made some time, and no other has its number. -/
structure Knows (c : Closures) (h : Handed) : Prop where
  inside : h.callback < c.pool.size
  older : h.number < (c.ledger h.origin.account).created
  sole : ∀ j k, j ≠ h.callback → c.pool.get? j = some k → k.account = h.origin.account →
    k.number ≠ h.number

/-- A closure that is kept in one place is as it was made. One that is kept in none has left its
destructor call behind. -/
structure Kept (h : Handed) (past : List Finalizer) (c : Closures) (n : Nat) : Prop where
  knows : c.Knows h
  state : n = 1 ∧ c.pool.held? h.callback = some ⟨h.made, 1⟩ ∧ past ++ c.destructors h = [] ∨
    n = 0 ∧ c.pool.held? h.callback = none ∧ past ++ c.destructors h = [h.made.finalizer]

/-- A closure that is still to be made is not kept anywhere. -/
def Unmade (i : Nat) (c : Closures) (n : Nat) : Prop := c.pool.size ≤ i ∧ n = 0

section States

variable {c c' : Closures} {drained : Account → List Finalizer} {h : Handed}
  {past : List Finalizer} {n : Nat}

theorem Numbered.fewer (numbered : c.Numbered drained) (fewer : c.Fewer c') :
    c'.Numbered drained where
  things j k here := fewer.created _ ▸ numbered.things j k (fewer.things j k here)
  calls := by
    intro account f inside
    rw [fewer.created]
    rcases List.mem_append.1 inside with before | queued
    · exact numbered.calls account f (List.mem_append_left _ before)
    rcases fewer.calls account f queued with old | ⟨j, k, here, rfl, number⟩
    · exact numbered.calls account f (List.mem_append_right _ old)
    · exact number ▸ numbered.things j k here

theorem Knows.fewer (knows : c.Knows h) (fewer : c.Fewer c') : c'.Knows h where
  inside := fewer.size ▸ knows.inside
  older := fewer.created _ ▸ knows.older
  sole j k apart here := knows.sole j k apart (fewer.things j k here)

theorem custodian_unmade (i : Nat) : Custodian i (Unmade i) where
  aside _ _ _ aside unmade := ⟨aside.size ▸ unmade.1, unmade.2⟩
  release _ n unmade := absurd unmade.2 (Nat.succ_ne_zero n)

theorem custodian_kept (h : Handed) (past : List Finalizer) :
    Custodian h.callback (Kept h past) where
  aside := by
    intro c c' n aside kept
    have same : c'.destructors h = c.destructors h := aside.finalizers _ _ kept.knows.sole
    refine ⟨kept.knows.fewer aside.toFewer, ?_⟩
    rw [aside.same, same]
    exact kept.state
  release := by
    intro c n kept
    rcases kept.state with ⟨one, held, none⟩ | ⟨zero, -⟩
    · refine ⟨kept.knows.fewer (c.fewer_release _), .inr ⟨Nat.succ.inj one, ?_, ?_⟩⟩
      · rw [pool_release, Pool.held?_release, if_pos rfl, held]
        rfl
      · obtain ⟨nothing, nowhere⟩ := List.append_eq_nil_iff.1 none
        have last : (1 : Nat) ≤ 1 ∧ h.made.inert = false ∧ 0 < h.made.references ∧
            h.origin.account = h.made.account := ⟨Nat.le_refl _, rfl, Nat.one_pos, rfl⟩
        have mine : h.made.finalizer.closure = h.number := rfl
        unfold destructors at nowhere ⊢
        rw [ledger_release held, if_pos last, List.filter_append, nowhere, nothing]
        simp [mine]
    · exact absurd zero (Nat.succ_ne_zero n)

/-! A closure is made. -/

theorem size_make (c : Closures) (k : Blueprint) : (c.make k).2.pool.size = c.pool.size + 1 :=
  size_create ..

theorem held?_make (c : Closures) (k : Blueprint) (i : Nat) : (c.make k).2.pool.held? i =
    if i = c.pool.size then some ⟨k.closure (c.ledger k.account).created, 1⟩
    else c.pool.held? i :=
  held?_create ..

theorem created_make (c : Closures) (k : Blueprint) (account : Account) :
    ((c.make k).2.ledger account).created =
      (c.ledger account).created + if account = k.account then 1 else 0 := by
  rw [make, ledger_create]
  split
  · next same => rw [same]
  · rfl

theorem finalizers_make (c : Closures) (k : Blueprint) (account : Account) :
    ((c.make k).2.ledger account).finalizers = (c.ledger account).finalizers := by
  rw [make, ledger_create]
  split
  · next same => rw [same]
  · rfl

/-- A closure is one that there was, or the new one. -/
theorem get?_make {k : Blueprint} {j : Nat} {l : Closure}
    (here : (c.make k).2.pool.get? j = some l) :
    j = c.pool.size ∧ l = k.closure (c.ledger k.account).created ∨ c.pool.get? j = some l := by
  unfold Pool.get? at here ⊢
  rw [held?_make] at here
  split at here
  · next same => exact .inl ⟨same, (Option.some.inj here).symm⟩
  · exact .inr here

theorem Numbered.make (numbered : c.Numbered drained) (k : Blueprint) :
    (c.make k).2.Numbered drained where
  things := by
    intro j l here
    rw [created_make]
    rcases get?_make here with ⟨-, rfl⟩ | before
    · have mine : (k.closure (c.ledger k.account).created).account = k.account := rfl
      rw [if_pos mine]
      exact Nat.lt_succ_self _
    · exact Nat.lt_add_right _ (numbered.things j l before)
  calls := by
    intro account f inside
    rw [finalizers_make] at inside
    rw [created_make]
    exact Nat.lt_add_right _ (numbered.calls account f inside)

theorem Kept.make (kept : Kept h past c n) (k : Blueprint) : Kept h past (c.make k).2 n := by
  have older := kept.knows.inside
  constructor
  case knows =>
    constructor
    case inside =>
      rw [size_make]
      exact Nat.lt_succ_of_lt older
    case older =>
      rw [created_make]
      exact Nat.lt_add_right _ kept.knows.older
    case sole =>
      intro j l apart here account
      rcases get?_make here with ⟨-, rfl⟩ | before
      · have other : (c.ledger k.account).created ≠ h.number := by
          rw [show k.account = h.origin.account from account]
          exact Nat.ne_of_gt kept.knows.older
        exact other
      · exact kept.knows.sole j l apart before account
  case state =>
    have same : (c.make k).2.destructors h = c.destructors h :=
      congrArg (List.filter _) (c.finalizers_make k _)
    rw [held?_make, if_neg (Nat.ne_of_lt older), same]
    exact kept.state

/-- The new closure is kept in one place, whichever that will be. -/
theorem Numbered.kept (numbered : c.Numbered drained) (k : Blueprint) :
    Kept ⟨c.pool.size, (c.ledger k.account).created, k⟩
      ((drained k.account).filter fun f => f.closure = (c.ledger k.account).created)
      (c.make k).2 1 := by
  constructor
  case knows =>
    constructor
    case inside =>
      rw [size_make]
      exact Nat.lt_succ_self _
    case older =>
      rw [created_make, if_pos rfl]
      exact Nat.lt_succ_self _
    case sole =>
      intro j l apart here account
      rcases get?_make here with ⟨same, -⟩ | before
      · exact absurd same apart
      · have less := numbered.things j l before
        rw [show l.account = k.account from account] at less
        exact Nat.ne_of_lt less
  case state =>
    refine .inl ⟨rfl, (held?_make ..).trans (if_pos rfl), ?_⟩
    unfold destructors
    rw [finalizers_make, ← List.filter_append, List.filter_eq_nil_iff]
    intro f inside same
    exact Nat.ne_of_lt (numbered.calls _ f inside) (of_decide_eq_true same)

/-! Destructor calls are taken off their queue. -/

theorem ledger_takeFinalizers (c : Closures) (account other : Account) :
    (c.takeFinalizers account).2.ledger other =
      if other = account then { c.ledger account with finalizers := [] } else c.ledger other :=
  ledger_setLedger ..

theorem Numbered.drain (numbered : c.Numbered drained) (account : Account) :
    (c.takeFinalizers account).2.Numbered fun other =>
      if other = account then drained other ++ (c.takeFinalizers account).1 else drained other := by
  have created (other : Account) : ((c.takeFinalizers account).2.ledger other).created =
      (c.ledger other).created := by
    rw [ledger_takeFinalizers]
    split
    · next same => rw [same]
    · rfl
  constructor
  case things =>
    intro j k here
    rw [takeFinalizers, pool_setLedger] at here
    exact created k.account ▸ numbered.things j k here
  case calls =>
    intro other f inside
    rw [created]
    apply numbered.calls
    rw [ledger_takeFinalizers] at inside
    split at inside
    · next same =>
      subst same
      simpa [takeFinalizers] using inside
    · exact inside

theorem Kept.drain (kept : Kept h past c n) (account : Account) :
    Kept h (past ++ if h.origin.account = account then c.destructors h else [])
      (c.takeFinalizers account).2 n := by
  have pool : (c.takeFinalizers account).2.pool = c.pool := pool_setLedger ..
  have created : ((c.takeFinalizers account).2.ledger h.origin.account).created =
      (c.ledger h.origin.account).created := by
    rw [ledger_takeFinalizers]
    split
    · next same => rw [same]
    · rfl
  have all : (past ++ if h.origin.account = account then c.destructors h else []) ++
      (c.takeFinalizers account).2.destructors h = past ++ c.destructors h := by
    unfold destructors
    rw [ledger_takeFinalizers]
    split
    · exact List.append_nil _
    · exact congrArg (· ++ _) (List.append_nil _)
  refine ⟨⟨pool ▸ kept.knows.inside, created ▸ kept.knows.older, pool ▸ kept.knows.sole⟩, ?_⟩
  rw [all, pool]
  exact kept.state

end States

end Closures

end GuestBridge
