import GuestBridge.Proofs.Action
import GuestBridge.Proofs.Handles.Invariant
/-!
What a strict table does that a lenient one does not: it reports handles that are not live, and
nothing else. To see that a report leaves nothing half done, operations are also carried out on the
table where it stands, one step after the other.
-/

set_option autoImplicit false

namespace GuestBridge

open HandleTable (reserved)

/-- What is done to a table before a failure stays done. -/
abbrev TableAction := Action HandleTable

namespace TableAction

def alloc (value : Value) : TableAction UInt32 := do
  let (handle, t) := (← get).alloc value
  set t
  return handle

def tryGet (handle : UInt32) : TableAction Value := do
  Action.conclude ((← get).tryGet handle)

def release (handle : UInt32) : TableAction (Option Value) := do
  if handle < reserved then return none
  match (← get).live? handle with
  | some value =>
    modify fun t => { t with slots := t.slots.setIfInBounds handle.toNat (.vacant t.nextFree) }
    modify fun t => { t with nextFree := handle }
    modify fun t => { t with liveCount := t.liveCount - 1 }
    return some value
  | none =>
    if (← get).strict then throw (.deadHandle handle)
    return none

def cloneRef (handle : UInt32) : TableAction UInt32 := do
  alloc (← tryGet handle)

def take (handle : UInt32) : TableAction Value := do
  let value ← tryGet handle
  let _ ← release handle
  return value

theorem perform_tryGet (handle : UInt32) (t : HandleTable) :
    (tryGet handle).perform t = (t.tryGet handle, t) := rfl

theorem perform_release (handle : UInt32) (t : HandleTable) : (release handle).perform t =
    match t.release handle with
    | .ok (dropped, after) => (.ok dropped, after)
    | .error fault => (.error fault, t) := by
  unfold release HandleTable.release
  by_cases low : handle < reserved
  · simp only [low, ↓reduceIte, Action.perform_pure]
  · simp only [low, ↓reduceIte, Action.perform_bind, Action.perform_get]
    rcases t.live? handle with _ | value
    · by_cases strict : t.strict = true <;> simp [strict]
    · rfl

end TableAction

namespace HandleTable

/-- An operation on the table where it stands. -/
def inPlace (t : HandleTable) : HandleOp → HandleAnswer × HandleTable
  | .alloc value => ((TableAction.alloc value).perform t).map .handle id
  | .get handle => (.value (.ok (t.get handle)), t)
  | .tryGet handle => ((TableAction.tryGet handle).perform t).map .value id
  | .cloneRef handle => ((TableAction.cloneRef handle).perform t).map .handle id
  | .take handle => ((TableAction.take handle).perform t).map .value id
  | .release handle => ((TableAction.release handle).perform t).map .dropped id

/-- No operation fails between two changes of the table. -/
theorem inPlace_eq (t : HandleTable) (op : HandleOp) : t.inPlace op = t.perform op := by
  cases op with
  | alloc value => rfl
  | get handle => rfl
  | tryGet handle => rfl
  | cloneRef handle =>
    simp only [inPlace, perform, TableAction.cloneRef, Action.perform_bind,
      TableAction.perform_tryGet, HandleTable.cloneRef]
    rcases t.tryGet handle with fault | value <;> rfl
  | take handle =>
    simp only [inPlace, perform, TableAction.take, Action.perform_bind, TableAction.perform_tryGet,
      TableAction.perform_release, HandleTable.take]
    rcases t.tryGet handle with fault | value
    · rfl
    · rcases released : t.release handle with fault | ⟨dropped, after⟩
      · simp only [Except.bind, bind, released]
        rfl
      · simp only [Except.bind, bind, released]
        rfl
  | release handle =>
    simp only [inPlace, perform, TableAction.perform_release]
    rcases t.release handle with fault | ⟨dropped, after⟩ <;> rfl

/-- The same table in another mode. -/
def inMode (t : HandleTable) (strict : Bool) : HandleTable := { t with strict := strict }

/-- The first four slots are live. -/
def Furnished (t : HandleTable) : Prop := ∀ handle, handle < reserved → t.isLive handle = true

end HandleTable

namespace HandleOp

/-- The handle that an operation may report. -/
def checked? : HandleOp → Option UInt32
  | .alloc _ | .get _ => none
  | .tryGet handle | .cloneRef handle | .take handle | .release handle => some handle

/-- The answer of an operation that fails. -/
def failed (op : HandleOp) (fault : Fault) : HandleAnswer :=
  match op with
  | .alloc _ | .cloneRef _ => .handle (.error fault)
  | .get _ | .tryGet _ | .take _ => .value (.error fault)
  | .release _ => .dropped (.error fault)

/-- The answer of an operation on `undefined`, which has a handle of its own. -/
def vacuous : HandleOp → HandleAnswer
  | .alloc _ | .cloneRef _ => .handle (.ok 0)
  | .get _ | .tryGet _ | .take _ => .value (.ok .undefined)
  | .release _ => .dropped (.ok none)

theorem failed_ne_vacuous (op : HandleOp) (fault : Fault) : op.failed fault ≠ op.vacuous := by
  cases op <;> exact nofun

end HandleOp

namespace HandleTable

section Modes

variable {t : HandleTable} {strict : Bool} {handle : UInt32}

theorem live?_inMode (t : HandleTable) (strict : Bool) (handle : UInt32) :
    (t.inMode strict).live? handle = t.live? handle := rfl

theorem live?_of_isLive (live : t.isLive handle = true) :
    ∃ value, t.live? handle = some value :=
  Option.isSome_iff_exists.1 live

theorem live?_of_not_isLive (dead : t.isLive handle = false) : t.live? handle = none :=
  Option.isSome_eq_false_iff.1 dead |> Option.isNone_iff_eq_none.1

theorem alloc_inMode (t : HandleTable) (strict : Bool) (value : Value) :
    (t.inMode strict).alloc value = ((t.alloc value).1, (t.alloc value).2.inMode strict) := by
  unfold alloc inMode
  rcases sentinel? value with _ | permanent
  · dsimp only
    split <;> rfl
  · rfl

/-- A table is asked for its mode only when a handle is not live. -/
theorem tryGet_live {value : Value} (live : t.live? handle = some value) :
    t.tryGet handle = .ok value := by
  unfold tryGet
  rw [live]

theorem tryGet_dead (dead : t.live? handle = none) : t.tryGet handle =
    if t.strict then .error (.deadHandle handle) else .ok .undefined := by
  unfold tryGet
  rw [dead]

theorem release_live (live : t.isLive handle = true) : ∃ dropped after,
    (∀ strict, (t.inMode strict).release handle = .ok (dropped, after.inMode strict)) ∧
    t.release handle = .ok (dropped, after) := by
  obtain ⟨value, live⟩ := live?_of_isLive live
  unfold release
  by_cases low : handle < reserved
  · simp only [low, ↓reduceIte]
    exact ⟨none, t, fun _ => rfl, rfl⟩
  · simp only [low, ↓reduceIte, live?_inMode, live]
    exact ⟨some value, _, fun _ => rfl, rfl⟩

theorem release_dead (high : reserved ≤ handle) (dead : t.live? handle = none) :
    t.release handle = if t.strict then .error (.deadHandle handle) else .ok (none, t) := by
  unfold release
  rw [if_neg (UInt32.not_lt.2 high), dead]

/-- On a live handle an operation does the same in both modes. -/
theorem perform_live {op : HandleOp} (t : HandleTable)
    (live : ∀ handle, op.checked? = some handle → t.isLive handle = true) (strict : Bool) :
    (t.inMode strict).perform op = ((t.perform op).1, (t.perform op).2.inMode strict) := by
  cases op with
  | alloc value =>
    simp only [perform, alloc_inMode]
    rfl
  | get handle => rfl
  | tryGet handle =>
    obtain ⟨value, here⟩ := live?_of_isLive (live handle rfl)
    simp only [perform, tryGet_live here, tryGet_live ((t.live?_inMode strict handle).trans here)]
  | cloneRef handle =>
    obtain ⟨value, here⟩ := live?_of_isLive (live handle rfl)
    simp only [perform, cloneRef, tryGet_live here,
      tryGet_live ((t.live?_inMode strict handle).trans here), bind, Except.bind, alloc_inMode]
    rfl
  | take handle =>
    obtain ⟨value, here⟩ := live?_of_isLive (live handle rfl)
    obtain ⟨dropped, after, released, plain⟩ := release_live (live handle rfl)
    simp only [perform, take, tryGet_live here,
      tryGet_live ((t.live?_inMode strict handle).trans here), bind, Except.bind, released, plain]
    rfl
  | release handle =>
    obtain ⟨dropped, after, released, plain⟩ := release_live (live handle rfl)
    simp only [perform, released, plain]
    rfl

/-- On a handle that is not live an operation leaves the table as it is. -/
theorem perform_dead {op : HandleOp} (checked : op.checked? = some handle)
    (high : reserved ≤ handle) (dead : t.isLive handle = false) : t.perform op =
      (if t.strict then op.failed (.deadHandle handle) else op.vacuous, t) := by
  have dead := live?_of_not_isLive dead
  have looked := tryGet_dead dead
  have released := release_dead high dead
  cases op with
  | alloc value => cases checked
  | get handle => cases checked
  | tryGet handle =>
    cases checked
    simp only [perform, looked]
    split <;> rfl
  | cloneRef handle =>
    cases checked
    simp only [perform, cloneRef, looked]
    split <;> rfl
  | take handle =>
    cases checked
    simp only [perform, take, looked, released]
    split <;> rfl
  | release handle =>
    cases checked
    simp only [perform, released]
    split <;> rfl

/-- An operation stores a value, or it releases a handle, or it leaves the table as it is. -/
theorem perform_cases (t : HandleTable) (op : HandleOp) :
    (t.perform op).2 = t ∨ (∃ value, (t.perform op).2 = (t.alloc value).2) ∨
      ∃ other dropped, t.release other = .ok (dropped, (t.perform op).2) := by
  cases op with
  | alloc value => exact .inr (.inl ⟨value, rfl⟩)
  | get other => exact .inl rfl
  | tryGet other => exact .inl rfl
  | cloneRef other =>
    simp only [perform, cloneRef]
    rcases t.tryGet other with fault | value
    · exact .inl rfl
    · exact .inr (.inl ⟨value, rfl⟩)
  | take other =>
    simp only [perform, take]
    rcases t.tryGet other with fault | value
    · exact .inl rfl
    · rcases released : t.release other with fault | ⟨dropped, after⟩
      · exact .inl rfl
      · exact .inr (.inr ⟨other, dropped, released⟩)
  | release other =>
    simp only [perform]
    rcases released : t.release other with fault | ⟨dropped, after⟩
    · exact .inl rfl
    · exact .inr (.inr ⟨other, dropped, released⟩)

theorem isLive_alloc (live : t.isLive handle = true) (value : Value) :
    (t.alloc value).2.isLive handle = true := by
  obtain ⟨held, here⟩ := live?_of_isLive live
  rw [live?_eq] at here
  obtain ⟨slot, found, -⟩ := Option.bind_eq_some_iff.1 here
  have inside : handle.toNat < t.slots.size := (Array.getElem?_eq_some_iff.1 found).1
  have kept {slots : Array Slot} (same : slots[handle.toNat]? = t.slots[handle.toNat]?) (next count)
      : (⟨slots, next, count, t.strict⟩ : HandleTable).isLive handle = true := by
    rw [isLive, live?_eq, same, here]
    rfl
  unfold alloc
  rcases sentinel? value with _ | permanent
  · dsimp only
    split
    · refine kept ?_ _ _
      exact (Array.getElem?_push_lt inside).trans (Array.getElem?_eq_getElem inside).symm
    · by_cases same : handle = t.nextFree
      · rw [isLive, live?_eq, same]
        dsimp only
        rw [set_self (same ▸ inside)]
        rfl
      · exact kept (set_other same _) _ _
  · exact live

theorem isLive_release (low : handle < reserved) {other : UInt32} {dropped : Option Value}
    {after : HandleTable} (released : t.release other = .ok (dropped, after)) :
    after.isLive handle = t.isLive handle := by
  unfold release at released
  by_cases reserved : other < reserved
  · rw [if_pos reserved] at released
    cases released
    rfl
  · rw [if_neg reserved] at released
    have different : handle ≠ other := fun same => reserved (same ▸ low)
    split at released
    · cases released
      rw [isLive, live?_eq, isLive, live?_eq]
      exact congrArg (fun slot => (Option.bind slot Slot.value?).isSome) (set_other different _)
    · split at released <;> cases released
      rfl

theorem Furnished.perform (furnished : t.Furnished) (op : HandleOp) :
    (t.perform op).2.Furnished := by
  intro handle low
  have live := furnished handle low
  rcases t.perform_cases op with same | ⟨value, stored⟩ | ⟨other, dropped, released⟩
  · rw [same]
    exact live
  · rw [stored]
    exact isLive_alloc live value
  · rw [isLive_release low released]
    exact live

theorem furnished_empty (strict : Bool) : (empty strict).Furnished := by
  intro handle low
  have few := UInt32.lt_iff_toNat_lt.1 low
  unfold isLive live? empty
  generalize handle.toNat = n at few
  have few : n < 4 := few
  match n with
  | 0 | 1 | 2 | 3 => rfl

theorem Furnished.run (furnished : t.Furnished) (ops : List HandleOp) :
    (t.run ops).2.Furnished := by
  induction ops generalizing t with
  | nil => exact furnished
  | cons op rest ih => exact ih (furnished.perform op)

/-- After an operation the tables of both modes still differ in the mode only. -/
theorem Furnished.perform_inMode (furnished : t.Furnished) (op : HandleOp) :
    ∃ after : HandleTable, after.Furnished ∧
      ∀ strict, ((t.inMode strict).perform op).2 = after.inMode strict := by
  by_cases live : ∀ handle, op.checked? = some handle → t.isLive handle = true
  · exact ⟨_, furnished.perform op, fun strict => congrArg Prod.snd (perform_live t live strict)⟩
  · push Not at live
    obtain ⟨handle, checked, dead⟩ := live
    have dead := Bool.eq_false_of_not_eq_true dead
    have high : reserved ≤ handle := by
      by_contra low
      have := furnished handle (UInt32.not_le.1 low)
      rw [dead] at this
      cases this
    exact ⟨t, furnished, fun strict =>
      congrArg Prod.snd (perform_dead (t := t.inMode strict) checked high dead)⟩

theorem Furnished.run_inMode (furnished : t.Furnished) (ops : List HandleOp) :
    ∃ after : HandleTable, after.Furnished ∧
      ∀ strict, ((t.inMode strict).run ops).2 = after.inMode strict := by
  induction ops generalizing t with
  | nil => exact ⟨t, furnished, fun _ => rfl⟩
  | cons op rest ih =>
    obtain ⟨next, furnished, begun⟩ := furnished.perform_inMode op
    obtain ⟨after, furnished, ended⟩ := ih furnished
    refine ⟨after, furnished, fun strict => ?_⟩
    rw [← ended strict, ← begun strict]
    rfl

end Modes

/-- The same slots, the same list of vacant ones and the same count, in two modes. -/
structure Twins (s t : HandleTable) : Prop where
  slots : s.slots = t.slots
  nextFree : s.nextFree = t.nextFree
  liveCount : s.liveCount = t.liveCount
  strict : s.strict = true
  lenient : t.strict = false

/-- How the answers of a strict and of a lenient table compare. -/
structure Compares (s t : HandleTable) (op : HandleOp) : Prop where
  stepwise : s.inPlace op = s.perform op ∧ t.inPlace op = t.perform op
  differ : (s.inPlace op).1 ≠ (t.inPlace op).1 ↔
    ∃ handle, op.checked? = some handle ∧ 4 ≤ handle ∧ s.isLive handle = false
  reported : ∀ handle, op.checked? = some handle → 4 ≤ handle → s.isLive handle = false →
    (s.inPlace op).1 = op.failed (.deadHandle handle) ∧ (t.inPlace op).1 = op.vacuous
  unchanged : ∀ fault, (s.inPlace op).1 = op.failed fault → (s.inPlace op).2 = s

theorem perform_failed {t : HandleTable} {op : HandleOp} {fault : Fault}
    (failed : (t.perform op).1 = op.failed fault) : (t.perform op).2 = t := by
  cases op with
  | alloc value => cases failed
  | get handle => rfl
  | tryGet handle => rfl
  | cloneRef handle =>
    simp only [perform] at failed ⊢
    rcases done : t.cloneRef handle with _ | _ <;> rw [done] at failed
    · rfl
    · cases failed
  | take handle =>
    simp only [perform] at failed ⊢
    rcases done : t.take handle with _ | _ <;> rw [done] at failed
    · rfl
    · cases failed
  | release handle =>
    simp only [perform] at failed ⊢
    rcases done : t.release handle with _ | _ <;> rw [done] at failed
    · rfl
    · cases failed

theorem Furnished.compares {t : HandleTable} (furnished : t.Furnished) (op : HandleOp) :
    Compares (t.inMode true) (t.inMode false) op := by
  have reported (handle : UInt32) (checked : op.checked? = some handle) (high : reserved ≤ handle)
      (dead : t.isLive handle = false) :
      ((t.inMode true).inPlace op).1 = op.failed (.deadHandle handle) ∧
        ((t.inMode false).inPlace op).1 = op.vacuous := by
    rw [inPlace_eq, inPlace_eq, perform_dead (t := t.inMode true) checked high dead,
      perform_dead (t := t.inMode false) checked high dead]
    exact ⟨rfl, rfl⟩
  constructor
  case stepwise => exact ⟨inPlace_eq _ op, inPlace_eq _ op⟩
  case differ =>
    constructor
    · intro differ
      by_contra nothing
      apply differ
      have live : ∀ handle, op.checked? = some handle → t.isLive handle = true := by
        intro handle checked
        by_cases low : handle < reserved
        · exact furnished handle low
        · by_contra dead
          exact nothing ⟨handle, checked, UInt32.not_lt.1 low, Bool.eq_false_of_not_eq_true dead⟩
      rw [inPlace_eq, inPlace_eq, perform_live t live, perform_live t live]
    · rintro ⟨handle, checked, high, dead⟩
      obtain ⟨strict, lenient⟩ := reported handle checked high dead
      rw [strict, lenient]
      exact op.failed_ne_vacuous _
  case reported => exact reported
  case unchanged =>
    intro fault failed
    rw [inPlace_eq] at failed ⊢
    exact perform_failed failed

/-- Whatever table the two modes begin with, and whatever is done to both of them: they stay twins,
and only a handle that is not live is ever answered in two ways. -/
theorem strict_mode_only_reports (mode : Bool) (earlier ops : List HandleOp) (op : HandleOp) :
    let start := ((empty mode).run earlier).2
    let s := (({ start with strict := true } : HandleTable).run ops).2
    let t := (({ start with strict := false } : HandleTable).run ops).2
    Twins s t ∧ Compares s t op := by
  intro start s t
  have furnished := (furnished_empty mode).run earlier
  obtain ⟨after, furnished, same⟩ := furnished.run_inMode ops
  have strict : s = after.inMode true := same true
  have lenient : t = after.inMode false := same false
  rw [strict, lenient]
  exact ⟨⟨rfl, rfl, rfl, rfl, rfl⟩, furnished.compares op⟩

end HandleTable

end GuestBridge
