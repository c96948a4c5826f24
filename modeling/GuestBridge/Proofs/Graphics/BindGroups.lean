import GuestBridge.Proofs.Doubles
import GuestBridge.Proofs.Guests.Entry
import GuestBridge.Proofs.Memory.Access
import GuestBridge.Proofs.Thunks.Failures
import GuestBridge.Proofs.Timers.Timely
/-!
Bind groups as guests set them. Each index keeps the words that guest memory held when a group was
last set under it. But an index gets to the host by way of a signed number, and there what is below
zero becomes zero. So a word is an index of its own only below `2 ^ 31`; all others set the first
group.
-/

set_option autoImplicit false

namespace GuestBridge

variable {σ : Type}

namespace Host

namespace Graphics

theorem lookup_cons (i : UInt32) (words : List UInt32) (groups : List (UInt32 × List UInt32))
    (index : UInt32) :
    ((i, words) :: groups).lookup index =
      if index = i then some words else groups.lookup index := by
  by_cases same : index = i
  · simp [same]
  · simp [List.lookup_cons, beq_eq_false_iff_ne.2 same, same]

/-- Putting a group in its place is seen under its index and nowhere else. -/
theorem lookup_putGroup (index : UInt32) (words : List UInt32)
    (groups : List (UInt32 × List UInt32)) (other : UInt32) :
    (putGroup index words groups).lookup other =
      if other = index then some words else groups.lookup other := by
  induction groups with
  | nil => exact lookup_cons index words [] other
  | cons group rest ih =>
    obtain ⟨i, ws⟩ := group
    unfold putGroup
    split
    · exact lookup_cons index words _ other
    · split
      · next same =>
        subst same
        simp only [lookup_cons]
        split <;> rfl
      · next apart =>
        simp only [lookup_cons, ih]
        by_cases here : other = i
        · simp [here, Ne.symm apart]
        · simp [here]

/-- What is new in the list comes under the index. -/
theorem mem_putGroup {index : UInt32} {words : List UInt32}
    {groups : List (UInt32 × List UInt32)} {group : UInt32 × List UInt32}
    (inside : group ∈ putGroup index words groups) : group.1 = index ∨ group ∈ groups := by
  induction groups with
  | nil => exact .inl (congrArg Prod.fst (List.mem_singleton.1 inside))
  | cons first rest ih =>
    unfold putGroup at inside
    split at inside
    · rcases List.mem_cons.1 inside with new | old
      · exact .inl (congrArg Prod.fst new)
      · exact .inr old
    · split at inside
      · rcases List.mem_cons.1 inside with new | old
        · exact .inl (congrArg Prod.fst new)
        · exact .inr (List.mem_cons_of_mem _ old)
      · rcases List.mem_cons.1 inside with same | later
        · exact .inr (same ▸ List.mem_cons_self ..)
        · exact (ih later).imp_right (List.mem_cons_of_mem _)

/-- Each index has one group at most. -/
def Ascending (groups : List (UInt32 × List UInt32)) : Prop :=
  groups.Pairwise fun group later => group.1 < later.1

theorem Ascending.putGroup {groups : List (UInt32 × List UInt32)} (ascending : Ascending groups)
    (index : UInt32) (words : List UInt32) : Ascending (putGroup index words groups) := by
  induction groups with
  | nil => exact List.pairwise_singleton _ _
  | cons first rest ih =>
    obtain ⟨behind, others⟩ := List.pairwise_cons.1 ascending
    unfold Graphics.putGroup
    split
    · next before =>
      refine List.pairwise_cons.2 ⟨fun group inside => ?_, ascending⟩
      rcases List.mem_cons.1 inside with rfl | later
      · exact before
      · exact UInt32.lt_trans before (behind group later)
    · split
      · next same =>
        subst same
        exact List.pairwise_cons.2 ⟨behind, others⟩
      · next notBefore apart =>
        refine List.pairwise_cons.2 ⟨fun group inside => ?_, ih others⟩
        rcases mem_putGroup inside with new | old
        · show first.1 < group.1
          rw [new]
          exact UInt32.lt_of_le_of_ne (UInt32.not_lt.1 notBefore) (Ne.symm apart)
        · exact behind group old

theorem perform_setBindGroup (h : Host) (x : Double) (identity : Nat) (words : List UInt32) :
    ∃ extensions, (setBindGroup [.number x, .words identity words]).run.run h =
        (.ok .undefined, { h with extensions := extensions }) ∧
      bindGroups { h with extensions := extensions } =
        putGroup x.toUInt32 words h.bindGroups := by
  obtain ⟨extensions, looked, -⟩ := perform_device h
  let set : GuestBridge.Graphics :=
    { h.device with bindGroups := putGroup x.toUInt32 words h.bindGroups }
  refine ⟨extensions.set .graphics set, ?_, ?_⟩
  · unfold setBindGroup
    dsimp only
    rw [HostCall.perform_bind, looked]
    rfl
  · exact congrArg GuestBridge.Graphics.bindGroups
      (device_set { h with extensions := extensions } set)

end Graphics

def SameGroups (h h' : Host) : Prop := h'.bindGroups = h.bindGroups

instance : Host.Abides Host.SameGroups where
  refl _ := rfl
  trans _ _ _ first second := Eq.trans second first
  realm _ _ _ := rfl
  facility h _ state apart :=
    congrArg GuestBridge.Graphics.bindGroups (h.device_set_of_ne apart state)
  device h g same := (congrArg GuestBridge.Graphics.bindGroups (h.device_set g)).trans same

end Host

open BridgeAction Host.Graphics

/-- A call of a guest that sets a bind group, and the state that it is made in. -/
structure GroupCall (σ : Type) where
  bridge : Bridge σ
  index : UInt32
  offset : UInt32
  count : UInt32

namespace GroupCall

def memory (c : GroupCall σ) : Memory := c.bridge.machine.memory

def args (c : GroupCall σ) : List Core := [.word c.index, .word c.offset, .word c.count]

/-- The index that the group is set under. -/
def slot (c : GroupCall σ) : UInt32 := if c.index.toNat < 2 ^ 31 then c.index else 0

/-- The array is aligned and inside the memory, its bytes are no more than a word can count, and
these are its words. -/
structure Gives (c : GroupCall σ) (words : List UInt32) : Prop where
  aligned : 4 ∣ c.offset.toNat
  few : 4 * c.count.toNat < UInt32.size
  room : c.offset.toNat + 4 * c.count.toNat ≤ c.memory.size
  words : (List.range c.count.toNat).map (fun i => UInt32.ofNat
    (Memory.littleEndian (c.memory.slice (c.offset.toNat + 4 * i) 4))) = words

theorem readWords_iff (c : GroupCall σ) (words : List UInt32) :
    c.memory.readWords c.offset c.count = .ok words ↔ c.Gives words := by
  by_cases few : 4 * c.count.toNat < UInt32.size
  · rw [Memory.readWords_iff few]
    constructor
    · intro ⟨aligned, room, words⟩
      exact ⟨aligned, few, room, words⟩
    · intro ⟨aligned, _, room, words⟩
      exact ⟨aligned, room, words⟩
  · have overflow : UInt32.size ≤ c.count.toNat * 4 := by omega
    refine ⟨fun read => ?_, fun gives => absurd gives.few few⟩
    unfold Memory.readWords at read
    rw [if_pos overflow] at read
    cases aligned : Memory.checkAligned c.offset 4 with
    | error fault =>
      rw [aligned] at read
      cases read
    | ok _ =>
      rw [aligned] at read
      cases read

/-- The bridge once the host is done: the group is set, or the failure of the conversion has got a
handle, which the guest is to store. -/
def after (c : GroupCall σ) : Bridge σ :=
  match (liftArguments groupSetter.params c.args).perform c.bridge with
  | (.ok values, b) =>
    ((do checkResult groupSetter.result (← callHost groupSetter values) :
      BridgeAction σ (Except Failure Lowered)).perform b).2
  | (.error fault, b) => (b.raising (Fault.asFailure fault)).2

/-- How a call ends. -/
structure Ends (c : GroupCall σ) (place : Nat) (exports : BoundExports σ) : Prop where
  set : ∀ words, c.Gives words →
    c.after.host.bindGroups = putGroup c.slot words c.bridge.host.bindGroups ∧
    ∀ call, (dispatch call place c.args).perform c.bridge = (.ok [], c.after)
  /-- The host function is not called. -/
  refused : (∀ words, ¬ c.Gives words) → c.after.host.bindGroups = c.bridge.host.bindGroups ∧
    ∃ (fault : Fault) (b : Bridge σ), c.bridge.Converted b ∧
      c.after = (b.raising fault.asFailure).2 ∧
      Raises exports .unit 0 fault.asFailure b fun call =>
        (dispatch call place c.args).perform c.bridge

section Conversion

variable (c : GroupCall σ) {exports : BoundExports σ} (present : c.bridge.bound = some exports)

def pieces (c : GroupCall σ) : List (List Core) :=
  [[.word c.index], [.word c.offset, .word c.count]]

theorem shared : Shared groupSetter.params c.pieces := .cons rfl (.cons rfl .nil)

/-- The bridge once the array has been looked for. -/
def looked (c : GroupCall σ) : Bridge σ :=
  { c.bridge with views := c.bridge.views.lookup .words c.memory }

def values (c : GroupCall σ) (words : List UInt32) : List Value :=
  [.number (Double.ofInt32Word c.index), .words c.bridge.host.realm.nextIdentity words]

/-- The bridge once the arguments are converted. -/
def passed (c : GroupCall σ) : Bridge σ :=
  { c.looked with host := { c.bridge.host with realm := c.bridge.host.realm.freshIdentity.2 } }

include present

theorem perform_readWords : (readWords c.offset c.count).perform c.bridge =
    (c.memory.readWords c.offset c.count, c.looked) := by
  unfold readWords
  rw [Action.perform_bind_ok _ _ (perform_view present .words)]
  rfl

theorem converts {words : List UInt32} (gives : c.Gives words) :
    (convertAll groupSetter.params c.pieces).perform c.bridge =
      (.ok (c.values words), c.passed) := by
  have read := c.perform_readWords present
  rw [(c.readWords_iff words).2 gives] at read
  simp only [groupSetter, pieces, convertAll_cons, convert, Action.perform_bind,
    Action.perform_pure, read, perform_inRealm]
  rfl

theorem refuses (refused : ∀ words, ¬ c.Gives words) : ∃ fault,
    (convertAll groupSetter.params c.pieces).perform c.bridge = (.error fault, c.looked) := by
  have read := c.perform_readWords present
  rcases outcome : c.memory.readWords c.offset c.count with fault | words
  · refine ⟨fault, ?_⟩
    rw [outcome] at read
    simp only [groupSetter, pieces, convertAll_cons, convert, Action.perform_bind,
      Action.perform_pure, read]
  · exact absurd ((c.readWords_iff words).1 outcome) (refused words)

theorem after_set {words : List UInt32} (gives : c.Gives words) {place : Nat}
    (linked : c.bridge.capabilities[place]? = some groupSetter) :
    c.after.host.bindGroups = putGroup c.slot words c.bridge.host.bindGroups ∧
    ∀ call, (dispatch call place c.args).perform c.bridge = (.ok [], c.after) := by
  obtain ⟨extensions, ended, groups⟩ := Host.Graphics.perform_setBindGroup c.passed.host
    (Double.ofInt32Word c.index) c.bridge.host.realm.nextIdentity words
  have converted := c.converts present gives
  have ends : HostEnds groupSetter (c.values words) c.passed (.ok .unit) _ := .fit ended rfl
  have after : c.after = { c.passed with
      host := { c.passed.host with
        extensions := extensions
        realm := c.passed.host.realm.letGo .undefined } } := by
    have lifted := (liftArguments_flatten c.shared c.bridge).trans converted
    unfold GroupCall.after
    rw [show c.args = c.pieces.flatten from rfl, lifted]
    dsimp only
    rw [Action.perform_bind_ok _ _ (perform_callHost groupSetter (c.values words) c.passed),
      ends.checked]
    rfl
  refine ⟨?_, fun call => ?_⟩
  · rw [after, show c.slot = (Double.ofInt32Word c.index).toUInt32 from
      (Double.toUInt32_ofInt32Word c.index).symm]
    exact groups
  · rw [after]
    have responded := dispatch_converted c.shared (fun _ => rfl) linked present converted call
    exact responded.trans (respond_ended ends call 0)

theorem after_refused (refused : ∀ words, ¬ c.Gives words) {place : Nat}
    (linked : c.bridge.capabilities[place]? = some groupSetter) :
    c.after.host.bindGroups = c.bridge.host.bindGroups ∧
    ∃ (fault : Fault) (b : Bridge σ), c.bridge.Converted b ∧
      c.after = (b.raising fault.asFailure).2 ∧
      Raises exports .unit 0 fault.asFailure b fun call =>
        (dispatch call place c.args).perform c.bridge := by
  obtain ⟨fault, converted⟩ := c.refuses present refused
  have after : c.after = (c.looked.raising fault.asFailure).2 := by
    have lifted := (liftArguments_flatten c.shared c.bridge).trans converted
    unfold GroupCall.after
    rw [show c.args = c.pieces.flatten from rfl, lifted]
  have responded := dispatch_converted c.shared (fun _ => rfl) linked present converted
  have still : c.looked.bound = some exports := present
  refine ⟨by rw [after]; rfl, fault, c.looked, ?_, after, raises still fun call => ?_⟩
  · exact (converted_convertAll groupSetter.params c.pieces).ended converted
  · exact responded call

theorem ends {place : Nat} (linked : c.bridge.capabilities[place]? = some groupSetter) :
    c.Ends place exports :=
  ⟨fun _ gives => c.after_set present gives linked,
    fun refused => c.after_refused present refused linked⟩

end Conversion

end GroupCall

/-- A guest calls the function that sets bind groups, time and again. In between it calls other
functions of the sample host, and whatever else happens leaves the groups alone. -/
inductive GroupCourse : Bridge σ → List (GroupCall σ) → Bridge σ → Prop
  | done (b : Bridge σ) : GroupCourse b [] b
  | visit {b b' : Bridge σ} {calls : List (GroupCall σ)} {c : Capability}
      (offered : c ∈ Host.defaults) (apart : c ≠ groupSetter) (args : List Value)
      (onward : GroupCourse (b.visited c args) calls b') : GroupCourse b calls b'
  | other {b b₁ b' : Bridge σ} {calls : List (GroupCall σ)}
      (same : b₁.host.bindGroups = b.host.bindGroups) (onward : GroupCourse b₁ calls b') :
      GroupCourse b calls b'
  | call {b' : Bridge σ} {calls : List (GroupCall σ)} (c : GroupCall σ) {exports : BoundExports σ}
      (present : c.bridge.bound = some exports) {place : Nat}
      (linked : c.bridge.capabilities[place]? = some groupSetter)
      (onward : GroupCourse c.after calls b') : GroupCourse c.bridge (c :: calls) b'

/-- None of the calls sets the group. -/
def Unset (calls : List (GroupCall σ)) (slot : UInt32) : Prop :=
  ∀ c ∈ calls, ∀ words, c.Gives words → c.slot ≠ slot

/-- The last call that sets the group has these words. -/
def LastSet (calls : List (GroupCall σ)) (slot : UInt32) (words : List UInt32) : Prop :=
  ∃ earlier c later, calls = earlier ++ c :: later ∧ c.slot = slot ∧ c.Gives words ∧
    Unset later slot

section Last

variable {c : GroupCall σ} {calls : List (GroupCall σ)} {slot : UInt32} {words : List UInt32}

/-- What is last among some calls is last with one more in front, or the one in front is. -/
theorem lastSet_cons : LastSet (c :: calls) slot words ↔
    LastSet calls slot words ∨ Unset calls slot ∧ c.slot = slot ∧ c.Gives words := by
  constructor
  · intro ⟨earlier, d, later, split, here, gives, rest⟩
    cases earlier with
    | nil =>
      obtain ⟨rfl, rfl⟩ := List.cons.inj split
      exact .inr ⟨rest, here, gives⟩
    | cons first earlier =>
      exact .inl ⟨earlier, d, later, (List.cons.inj split).2, here, gives, rest⟩
  · intro either
    rcases either with ⟨earlier, d, later, rfl, here, gives, rest⟩ | ⟨rest, here, gives⟩
    · exact ⟨c :: earlier, d, later, rfl, here, gives, rest⟩
    · exact ⟨[], c, calls, rfl, here, gives, rest⟩

theorem unset_cons : Unset (c :: calls) slot ↔
    (∀ words, c.Gives words → c.slot ≠ slot) ∧ Unset calls slot :=
  List.forall_mem_cons

end Last

namespace GroupCall

/-- The words are what memory holds at the time. -/
theorem Gives.unique {c : GroupCall σ} {words others : List UInt32} (gives : c.Gives words)
    (also : c.Gives others) : words = others := gives.words.symm.trans also.words

/-- What a group is found to be after a call that sets it or another. -/
theorem lookup_after {c : GroupCall σ} {place : Nat} {exports : BoundExports σ}
    (ends : c.Ends place exports) (slot : UInt32) (words : List UInt32) :
    c.after.host.bindGroups.lookup slot = some words ↔
      (c.slot = slot ∧ c.Gives words) ∨
      (∀ ws, c.Gives ws → c.slot ≠ slot) ∧ c.bridge.host.bindGroups.lookup slot = some words := by
  by_cases given : ∃ ws, c.Gives ws
  · obtain ⟨ws, gives⟩ := given
    rw [(ends.set ws gives).1, Host.Graphics.lookup_putGroup]
    by_cases here : slot = c.slot
    · subst here
      rw [if_pos rfl]
      constructor
      · intro same
        exact .inl ⟨rfl, Option.some.inj same ▸ gives⟩
      · intro either
        rcases either with ⟨-, also⟩ | ⟨never, -⟩
        · rw [gives.unique also]
        · exact absurd rfl (never ws gives)
    · rw [if_neg here]
      constructor
      · intro old
        exact .inr ⟨fun _ _ same => here same.symm, old⟩
      · intro either
        rcases either with ⟨same, -⟩ | ⟨-, old⟩
        · exact absurd same.symm here
        · exact old
  · have never (ws : List UInt32) : ¬ c.Gives ws := fun gives => given ⟨ws, gives⟩
    rw [(ends.refused never).1]
    constructor
    · intro old
      exact .inr ⟨fun ws gives => absurd gives (never ws), old⟩
    · intro either
      rcases either with ⟨-, gives⟩ | ⟨-, old⟩
      · exact absurd gives (never words)
      · exact old

theorem ascending_after {c : GroupCall σ} {place : Nat} {exports : BoundExports σ}
    (ends : c.Ends place exports) (ascending : Host.Graphics.Ascending c.bridge.host.bindGroups) :
    Host.Graphics.Ascending c.after.host.bindGroups := by
  by_cases given : ∃ ws, c.Gives ws
  · obtain ⟨ws, gives⟩ := given
    rw [(ends.set ws gives).1]
    exact ascending.putGroup c.slot ws
  · rw [(ends.refused fun ws gives => given ⟨ws, gives⟩).1]
    exact ascending

end GroupCall

/-- No other function of the sample host sets groups. -/
theorem bindGroups_visited {c : Capability} (offered : c ∈ Host.defaults) (apart : c ≠ groupSetter)
    (args : List Value) (b : Bridge σ) :
    (b.visited c args).host.bindGroups = b.host.bindGroups :=
  Host.defaults_abide (R := Host.SameGroups) c offered apart args b.host

namespace GroupCourse

variable {b b' : Bridge σ} {calls : List (GroupCall σ)}

theorem lookup (course : GroupCourse b calls b') (slot : UInt32) (words : List UInt32) :
    b'.host.bindGroups.lookup slot = some words ↔
      LastSet calls slot words ∨
      Unset calls slot ∧ b.host.bindGroups.lookup slot = some words := by
  induction course with
  | done b =>
    have none : ¬ LastSet ([] : List (GroupCall σ)) slot words := by
      intro ⟨earlier, c, later, split, _⟩
      simp at split
    simp [none, Unset]
  | visit offered apart args _ ih => rw [ih, bindGroups_visited offered apart]
  | other same _ ih => rw [ih, same]
  | call c present linked _ ih =>
    rw [ih, GroupCall.lookup_after (c.ends present linked), lastSet_cons, unset_cons, and_or_left,
      or_assoc, and_left_comm (a := Unset _ _) (b := ∀ _, _), and_assoc]

theorem ascending (course : GroupCourse b calls b')
    (ascending : Host.Graphics.Ascending b.host.bindGroups) :
    Host.Graphics.Ascending b'.host.bindGroups := by
  induction course with
  | done b => exact ascending
  | visit offered apart args _ ih => exact ih (by rwa [bindGroups_visited offered apart])
  | other same _ ih => exact ih (same ▸ ascending)
  | call c present linked _ ih =>
    exact ih (GroupCall.ascending_after (c.ends present linked) ascending)

theorem ends (course : GroupCourse b calls b') :
    ∀ c ∈ calls, ∃ place exports, c.bridge.bound = some exports ∧
      c.bridge.capabilities[place]? = some groupSetter ∧ c.Ends place exports := by
  induction course with
  | done b => exact List.forall_mem_nil _
  | visit _ _ _ _ ih => exact ih
  | other _ _ ih => exact ih
  | @call _ _ c exports present place linked _ ih =>
    exact List.forall_mem_cons.2 ⟨⟨place, exports, present, linked, c.ends present linked⟩, ih⟩

end GroupCourse

/-- In whatever order a guest sets bind groups and does other things: a call with an array that is
misaligned or not inside the memory sets no group and is reported to the guest; any other sets the
group of its index, which is the first one unless the index is below `2 ^ 31`. So under each index
there are the words of the last call that set it, or what was there before. -/
theorem groups_keep_last_words {b b' : Bridge σ} {calls : List (GroupCall σ)}
    (course : GroupCourse b calls b') :
    (∀ c ∈ calls, ∃ place exports, c.bridge.bound = some exports ∧
      c.bridge.capabilities[place]? = some groupSetter ∧ c.Ends place exports) ∧
    (Host.Graphics.Ascending b.host.bindGroups → Host.Graphics.Ascending b'.host.bindGroups) ∧
    ∀ slot words, b'.host.bindGroups.lookup slot = some words ↔
      LastSet calls slot words ∨
      Unset calls slot ∧ b.host.bindGroups.lookup slot = some words :=
  ⟨course.ends, course.ascending, course.lookup⟩

/-! A guest with two words in its memory that is linked to the device. -/

namespace Painter

def malloc : GuestFunction Unit := ⟨⟨[.i32, .i32], [.i32]⟩, fun _ => .yield [.word 0]⟩

def exnStore : GuestFunction Unit := ⟨⟨[.i32], []⟩, fun _ => .yield []⟩

def guest : GuestModule Unit where
  imports := [⟨"host", groupSetter.name, .func, some groupSetter.signature⟩]
  exports := [
    ("memory", .memory 1 1),
    ("__bridge_malloc", .func malloc),
    ("__bridge_exn_store", .func exnStore)]
  data := [(0, [7, 0, 0, 0, 8, 0, 0, 0])]
  onCreation := none
  initial := ()

def exports : BoundExports Unit := ⟨malloc, none, none, exnStore, none, none⟩

def host : Registry := Registry.empty.defineAll Host.defaults

def bridge : Bridge Unit := (Bridge.create {} host ()).after (.start (.module guest))

theorem reachable : bridge.Reachable host := .asked _ (.created {} ())

end Painter

/-- The group five is set, then not set because of a misaligned array, and then the first group is
set by way of the index `2 ^ 31`. -/
theorem groups_keep_last_words_shared :
    let c : GroupCall Unit := ⟨Painter.bridge, 5, 0, 1⟩
    let d : GroupCall Unit := ⟨c.after, 5, 2, 1⟩
    let e : GroupCall Unit := ⟨d.after, 0x80000000, 4, 1⟩
    GroupCourse Painter.bridge [c, d, e] e.after ∧
      e.after.host.bindGroups.lookup 5 = some [7] ∧
      e.after.host.bindGroups.lookup 0 = some [8] ∧
      e.after.host.bindGroups.lookup 0x80000000 = none := by
  intro c d e
  have course : GroupCourse Painter.bridge [c, d, e] e.after :=
    .call c (rfl : _ = some Painter.exports) (rfl : _[0]? = some groupSetter)
      (.call d (rfl : _ = some Painter.exports) (rfl : _[0]? = some groupSetter)
        (.call e (rfl : _ = some Painter.exports) (rfl : _[0]? = some groupSetter) (.done _)))
  obtain ⟨-, -, holds⟩ := groups_keep_last_words course
  have first : c.Gives [7] := ⟨by decide, by decide, by decide, by decide⟩
  have third : e.Gives [8] := ⟨by decide, by decide, by decide, by decide⟩
  have second (ws : List UInt32) : ¬ d.Gives ws := fun gives => absurd gives.aligned (by decide)
  refine ⟨course, ?_, ?_, ?_⟩
  · refine (holds 5 [7]).2 (.inl ⟨[], c, [d, e], rfl, rfl, first, ?_⟩)
    exact unset_cons.2 ⟨fun ws gives => absurd gives (second ws),
      unset_cons.2 ⟨fun _ _ => by decide, List.forall_mem_nil _⟩⟩
  · exact (holds 0 [8]).2 (.inl ⟨[c, d], e, [], rfl, rfl, third, List.forall_mem_nil _⟩)
  · rcases found : e.after.host.bindGroups.lookup 0x80000000 with _ | ws
    · rfl
    · rcases (holds 0x80000000 ws).1 found with ⟨earlier, x, later, split, here, -⟩ | ⟨-, old⟩
      · have inside : x ∈ [c, d, e] := split ▸ List.mem_append_right _ (List.mem_cons_self ..)
        simp only [List.mem_cons, List.not_mem_nil, or_false] at inside
        rcases inside with rfl | rfl | rfl
        all_goals exact absurd here (by decide)
      · cases old

/-- A group that is set under a negative index takes the place of the first one. -/
theorem negative_index_sets_first_group :
    let c : GroupCall Unit := ⟨Painter.bridge, 0, 0, 1⟩
    let d : GroupCall Unit := ⟨c.after, 0xffffffff, 4, 1⟩
    Painter.bridge.Reachable Painter.host ∧ c.Gives [7] ∧ d.Gives [8] ∧
      (∀ call, (dispatch call 0 c.args).perform Painter.bridge = (.ok [], c.after)) ∧
      (∀ call, (dispatch call 0 d.args).perform c.after = (.ok [], d.after)) ∧
      d.after.host.bindGroups = [(0, [8])] ∧
      d.after.host.bindGroups.lookup c.index ≠ some [7] ∧
      d.after.host.bindGroups.lookup d.index ≠ some [8] := by
  intro c d
  have first : c.Gives [7] := ⟨by decide, by decide, by decide, by decide⟩
  have second : d.Gives [8] := ⟨by decide, by decide, by decide, by decide⟩
  obtain ⟨one, returns⟩ := c.after_set (rfl : _ = some Painter.exports) first
    (rfl : _[0]? = some groupSetter)
  obtain ⟨two, returns'⟩ := d.after_set (rfl : _ = some Painter.exports) second
    (rfl : _[0]? = some groupSetter)
  have groups : d.after.host.bindGroups = [(0, [8])] := by
    rw [two]
    show putGroup d.slot [8] c.after.host.bindGroups = _
    rw [one]
    decide
  refine ⟨Painter.reachable, first, second, returns, returns', groups, ?_, ?_⟩
  all_goals
    rw [groups]
    decide

end GuestBridge
