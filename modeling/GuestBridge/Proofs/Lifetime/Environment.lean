import GuestBridge.Proofs.Lifetime.Destruction
/-!
Who sees the environment of a closure. The guest finds the data word of the creation in an
outermost invocation and zero in any other one, and a closure that lives on is afterwards what it
was before.
-/

set_option autoImplicit false

namespace GuestBridge.Lifetime

/-- An invocation of a course: the state it begins in and the guest's answers to it. -/
structure Invocation where
  before : State
  closure : Nat
  argument : UInt32
  during : Course
  outcome : Except Fault UInt32
  destruction : Course
  destroyed : Except Fault Unit

namespace Invocation

def record (v : Invocation) : Closure := v.before.closures.get v.closure

/-- The call of the guest. -/
def entry (v : Invocation) : Event :=
  .entered v.closure v.record.code v.record.data v.record.metaWord v.argument

/-- The state in which the invocation returns to its caller, who still holds the closure. -/
def returned (v : Invocation) : State :=
  let calls := guest v.before.history.length v.closure v.during.play v.outcome v.destruction.play
    v.destroyed
  ((calls.invoke v.closure v.argument).perform (v.before.begin v.closure)).2

end Invocation

/-- The state in which the guest begins to run a destructor. -/
def doomed (t : State) (call i : Nat) (data : UInt32) : State :=
  let k := t.closures.get i
  t.update i Closure.ended [.destroying call i k.destructor data k.metaWord]

/-- The state in which an invocation has come back from the guest. -/
def leftBehind (t : State) (i : Nat) : State :=
  t.update i Closure.unreferenced [.left i (t.closures.get i).references]

/-- The state in which the guest's last reference is given up. -/
def givenUp (s : State) (i : Nat) : State :=
  (s.begin i).update i (Closure.withData 0 ∘ Closure.unreferenced) [.dropping i 1]

/-- The invocations of a course in the order in which they begin, those that the guest makes while
it answers another one included. -/
def Course.invocations : Course → State → List Invocation
  | .done, _ => []
  | .create account code destructor data metaWord rest, s =>
    rest.invocations (s.create account code destructor data metaWord)
  | .keep i rest, s => rest.invocations (s.hold i)
  | .letGo i rest, s => rest.invocations (if 0 < s.spare i then s.release i else s)
  | .invoke i argument during outcome destruction destroyed rest, s =>
    if s.closures.pool.contains i then
      let c := s.closures.get i
      let begun := entering s i c argument
      let left := leftBehind (during.play begun) i
      ⟨s, i, argument, during, outcome, destruction, destroyed⟩ ::
        (during.invocations begun ++
          ((if (left.closures.get i).references = 0 ∧ (left.closures.get i).inert = false then
              destruction.invocations (doomed left s.history.length i c.data) else []) ++
            rest.invocations (invoked s i argument during.play outcome destruction.play destroyed)))
    else rest.invocations s
  | .dropReference i destruction destroyed rest, s =>
    if s.closures.pool.contains i then
      let c := s.closures.get i
      (if c.references = 1 ∧ c.inert = false then
          destruction.invocations (doomed (givenUp s i) s.history.length i c.data) else []) ++
        rest.invocations (referenceDropped s i destruction.play destroyed)
    else rest.invocations s
  | .drain account rest, s => rest.invocations (s.drain account)

/-- The calls of closures that a history tells of, each with what came before it, in order. -/
def entries : List Event → List (Event × List Event)
  | [] => []
  | .entered i code data metaWord argument :: past =>
    entries past ++ [(.entered i code data metaWord argument, past)]
  | _ :: past => entries past

theorem mem_entries {history past : List Event} {i : Nat} {code data metaWord argument : UInt32}
    (earlier : .entered i code data metaWord argument :: past <:+ history) :
    (.entered i code data metaWord argument, past) ∈ entries history := by
  induction history with
  | nil => simp at earlier
  | cons latest rest ih =>
    rcases List.suffix_cons_iff.1 earlier with same | before
    · cases same
      exact List.mem_append_right _ (List.mem_singleton.2 rfl)
    · have old := ih before
      cases latest with
      | entered => exact List.mem_append_left _ old
      | _ => exact old

section Entries

variable {s t : State} {i n : Nat} {c : Closure} {during destruction : State → State}
  {outcome : Except Fault UInt32} {destroyed : Except Fault Unit}

theorem entries_release (s : State) (i : Nat) :
    entries (s.release i).history = entries s.history := by
  simp only [State.release]
  split <;> rfl

theorem entries_finish (t : State) (i : Nat) :
    entries (t.finish i).history = entries t.history :=
  entries_release ..

theorem concluded_eq (t : State) (call i : Nat) (data : UInt32) (destruction : State → State)
    (destroyed : Except Fault Unit) :
    concluded t call i data destruction destroyed =
      if ((leftBehind t i).closures.get i).references = 0 then
        if ((leftBehind t i).closures.get i).inert then leftBehind t i
        else (destruction (doomed (leftBehind t i) call i data)).note (.destroyed call destroyed)
      else t.update i (Closure.withData data ∘ Closure.unreferenced)
        [.left i (t.closures.get i).references] := rfl

/-- After the guest is done with the closure it is called only if the destructor is. -/
theorem entries_concluded (t : State) (call i : Nat) (data : UInt32) (destruction : State → State)
    (destroyed : Except Fault Unit) :
    entries (concluded t call i data destruction destroyed).history =
      if ((leftBehind t i).closures.get i).references = 0 ∧
          ((leftBehind t i).closures.get i).inert = false then
        entries (destruction (doomed (leftBehind t i) call i data)).history
      else entries t.history := by
  rw [concluded_eq]
  by_cases none : ((leftBehind t i).closures.get i).references = 0
  · cases inert : ((leftBehind t i).closures.get i).inert with
    | false =>
      simp only [none, Bool.false_eq_true, and_self, ↓reduceIte]
      rfl
    | true =>
      simp only [none, Bool.true_eq_false, and_false, ↓reduceIte]
      rfl
  · simp only [none, false_and, ↓reduceIte]
    rfl

theorem entries_referenceDropped (found : s.closures.pool.held? i = some ⟨c, n⟩) :
    entries (referenceDropped s i destruction destroyed).history =
      if c.references = 1 ∧ c.inert = false then
        entries (destruction (doomed (givenUp s i) s.history.length i c.data)).history
      else entries s.history := by
  rw [referenceDropped_eq found, entries_finish]
  by_cases none : c.references = 0
  · simp only [none, Nat.zero_ne_one, false_and, ↓reduceIte]
    rfl
  · by_cases one : c.references = 1
    · cases inert : c.inert with
      | false =>
        simp only [one, Nat.one_ne_zero, Bool.false_eq_true, and_self, ↓reduceIte]
        rfl
      | true =>
        simp only [one, Nat.one_ne_zero, Bool.true_eq_false, and_false, ↓reduceIte]
        rfl
    · simp only [none, one, false_and, ↓reduceIte]
      rfl

/-- The guest is called for the invocations of a course, in their order, and for no others. By
induction on the course: what the guest does meanwhile are courses too. -/
theorem entries_play (course : Course) (s : State) :
    entries (course.play s).history =
      entries s.history ++ (course.invocations s).map fun v => (v.entry, v.before.history) := by
  induction course generalizing s with
  | done => simp [Course.play, Course.invocations]
  | create account code destructor data metaWord rest ih => exact ih _
  | keep i rest ih => exact ih _
  | letGo i rest ih =>
    refine (ih _).trans (congrArg (· ++ _) ?_)
    split
    · exact entries_release s i
    · rfl
  | invoke i argument during outcome destruction destroyed rest ihDuring ihDestruction ih =>
    simp only [Course.play, Course.invocations]
    by_cases there : s.closures.pool.contains i = true
    · obtain ⟨c, n, found⟩ := held?_of_contains there
      have now : s.closures.get i = c := Closures.get_of_held? found
      simp only [there, ↓reduceIte]
      rw [ih, invoked_eq found, entries_finish, entries_concluded, now]
      have ran := ihDuring (entering s i c argument)
      have entered : entries (entering s i c argument).history =
          entries s.history ++ [(.entered i c.code c.data c.metaWord argument, s.history)] := rfl
      split
      · rw [ihDestruction]
        have doomed : entries (doomed (leftBehind (during.play (entering s i c argument)) i)
            s.history.length i c.data).history =
          entries (during.play (entering s i c argument)).history := rfl
        simp [doomed, ran, entered, Invocation.entry, Invocation.record, now]
      · simp [ran, entered, Invocation.entry, Invocation.record, now]
    · simp only [there, Bool.false_eq_true, ↓reduceIte]
      exact ih s
  | dropReference i destruction destroyed rest ihDestruction ih =>
    simp only [Course.play, Course.invocations]
    by_cases there : s.closures.pool.contains i = true
    · obtain ⟨c, n, found⟩ := held?_of_contains there
      have now : s.closures.get i = c := Closures.get_of_held? found
      simp only [there, ↓reduceIte]
      rw [ih, entries_referenceDropped found, now]
      split
      · rw [ihDestruction]
        have doomed : entries (doomed (givenUp s i) s.history.length i c.data).history =
          entries s.history := rfl
        simp [doomed]
      · simp
    · simp only [there, Bool.false_eq_true, ↓reduceIte]
      exact ih s
  | drain account rest ih => exact ih _

end Entries

section Sound

variable {s t : State} {i n m : Nat} {c d : Closure} {during destruction : State → State}
  {outcome : Except Fault UInt32} {destroyed : Except Fault Unit} {history : List Event}
  {v : Invocation}

/-- An invocation begins in good order, and its return is a moment of the history. -/
structure Invocation.Sound (v : Invocation) (history : List Event) : Prop where
  invariant : Invariant v.before
  present : v.before.closures.pool.contains v.closure = true
  returns : v.returned.history <:+ history

theorem Invocation.Sound.later {past : List Event} (sound : v.Sound past)
    (earlier : past <:+ history) : v.Sound history :=
  { sound with returns := sound.returns.trans earlier }

theorem doomed_left (there : t.closures.pool.held? i = some ⟨d, m⟩) (call : Nat) (data : UInt32) :
    doomed (leftBehind t i) call i data =
      t.update i (Closure.ended ∘ Closure.unreferenced)
        [.destroying call i d.destructor data d.metaWord, .left i d.references] := by
  have now : t.closures.get i = d := Closures.get_of_held? there
  have after : (t.update i Closure.unreferenced [.left i d.references]).closures.get i =
      d.unreferenced := get_update there
  simp only [doomed, leftBehind, now, after, update_update]
  rfl

theorem doomed_givenUp (found : s.closures.pool.held? i = some ⟨c, n⟩) (call : Nat)
    (data : UInt32) :
    doomed (givenUp s i) call i data =
      (s.begin i).update i (Closure.ended ∘ Closure.withData 0 ∘ Closure.unreferenced)
        [.destroying call i c.destructor data c.metaWord, .dropping i 1] := by
  have now : ((s.begin i).update i (Closure.withData 0 ∘ Closure.unreferenced)
      [.dropping i 1]).closures.get i = (c.unreferenced).withData 0 :=
    get_update (held?_begin found)
  simp only [doomed, givenUp, now, update_update]
  rfl

theorem concluded_of_last {call : Nat} {data : UInt32}
    (last : ((leftBehind t i).closures.get i).references = 0 ∧
      ((leftBehind t i).closures.get i).inert = false) :
    concluded t call i data destruction destroyed =
      (destruction (doomed (leftBehind t i) call i data)).note (.destroyed call destroyed) := by
  simp only [concluded_eq, last.1, last.2, Bool.false_eq_true, ↓reduceIte]

theorem Leaving.doomed_invariant (leaving : Leaving s t i n m c d)
    (last : ((leftBehind t i).closures.get i).references = 0 ∧
      ((leftBehind t i).closures.get i).inert = false) :
    Invariant (doomed (leftBehind t i) s.history.length i c.data) := by
  have after : (leftBehind t i).closures.get i = d.unreferenced := get_update leaving.there
  rw [after] at last
  rw [doomed_left leaving.there]
  exact (leaving.ending last.1 last.2).1

theorem grows_referenceDropped (destruction : State → State) (destroyed : Except Fault Unit)
    (found : s.closures.pool.held? i = some ⟨c, n⟩) (last : c.references = 1 ∧ c.inert = false) :
    (destruction (doomed (givenUp s i) s.history.length i c.data)).history <:+
      (referenceDropped s i destruction destroyed).history := by
  rw [referenceDropped_eq found]
  simp only [last.1, last.2, Nat.one_ne_zero, Bool.false_eq_true, ↓reduceIte]
  refine List.IsSuffix.trans ?_ (grows_finish _ i)
  exact (List.suffix_cons ..).trans (List.suffix_cons ..)

/-- Every invocation of a course begins in good order. By induction on the course, like what it
leads to. -/
theorem invocations_sound (course : Course) {s : State} (invariant : Invariant s)
    (sound : NoUnderflow (course.play s).history) :
    ∀ v ∈ course.invocations s, v.Sound (course.play s).history := by
  induction course generalizing s with
  | done => simp [Course.invocations]
  | create account code destructor data metaWord rest ih =>
    exact ih invariant.create sound
  | keep i rest ih => exact ih (invariant.hold i) sound
  | letGo i rest ih =>
    have kept := (preserves_letGo i).keeps s (sound.earlier ((preserves_play rest).grows _))
      invariant
    exact ih kept.1 sound
  | invoke i argument during outcome destruction destroyed rest ihDuring ihDestruction ih =>
    have next := (preserves_invoke (preserves_play during) (preserves_play destruction) i argument
      outcome destroyed).keeps s (sound.earlier ((preserves_play rest).grows _)) invariant
    simp only [Course.play, Course.invocations] at sound ⊢
    by_cases there : s.closures.pool.contains i = true
    · obtain ⟨c, n, found⟩ := held?_of_contains there
      have now : s.closures.get i = c := Closures.get_of_held? found
      simp only [there, ↓reduceIte, now] at sound next ⊢
      have ended := grows_finish (concluded (during.play (entering s i c argument))
        s.history.length i c.data destruction.play destroyed) i
      rw [← invoked_eq found argument] at ended
      have returned := ended.trans ((preserves_play rest).grows _)
      have left := (grows_concluded (preserves_play destruction)
        (during.play (entering s i c argument)) s.history.length i c.data destroyed).trans returned
      have ran := (List.suffix_cons ..).trans left
      -- Both answers of the guest are parts of the history, and sound because the whole is.
      intro v inside
      simp only [List.mem_cons, List.mem_append] at inside
      rcases inside with rfl | inner | dying | later
      · exact ⟨invariant, there, by rwa [Invocation.returned, state_invoked found argument]⟩
      · have entered := (entering_invariant invariant found argument).1
        exact (ihDuring entered (sound.earlier ran) v inner).later ran
      · split at dying
        · next last =>
          obtain ⟨d, m, leaving⟩ := leaving_entered (preserves_play during) invariant found
            argument (sound.earlier left)
          have doomed := leaving.doomed_invariant last
          rw [concluded_of_last last] at returned
          have through := (List.suffix_cons ..).trans returned
          exact (ihDestruction doomed (sound.earlier through) v dying).later through
        · cases dying
      · exact ih next.1 sound v later
    · simp only [there, Bool.false_eq_true, ↓reduceIte] at sound ⊢
      exact ih invariant sound
  | dropReference i destruction destroyed rest ihDestruction ih =>
    have next := (preserves_dropReference (preserves_play destruction) i destroyed).keeps s
      (sound.earlier ((preserves_play rest).grows _)) invariant
    simp only [Course.play, Course.invocations] at sound ⊢
    by_cases there : s.closures.pool.contains i = true
    · obtain ⟨c, n, found⟩ := held?_of_contains there
      have now : s.closures.get i = c := Closures.get_of_held? found
      simp only [there, ↓reduceIte, now] at sound next ⊢
      intro v inside
      rcases List.mem_append.1 inside with dying | later
      · split at dying
        · next last =>
          have doomed := (dropping_last invariant found last.1 last.2).1
          rw [← doomed_givenUp found] at doomed
          have through := (grows_referenceDropped destruction.play destroyed found last).trans
            ((preserves_play rest).grows _)
          exact (ihDestruction doomed (sound.earlier through) v dying).later through
        · cases dying
      · exact ih next.1 sound v later
    · simp only [there, Bool.false_eq_true, ↓reduceIte] at sound ⊢
      exact ih invariant sound
  | drain account rest ih => exact ih invariant.drain sound

end Sound

section Environment

variable {s : State} {i n : Nat} {c : Closure} {history : List Event} {v : Invocation}

theorem data_standing (k : Closure) (references active destructions : Nat) :
    (standing k references active destructions).data =
      if destructions = 0 ∧ active = 0 then k.data else 0 := by
  by_cases resting : destructions = 0 ∧ active = 0
  · rw [if_pos resting]
    exact if_neg (by omega)
  · rw [if_neg resting]
    exact if_pos (by omega)

theorem Upright.inert_iff (upright : Upright s)
    (found : s.closures.pool.held? i = some ⟨c, n⟩) :
    c.inert = true ↔ 0 < destructions i s.history := by
  obtain ⟨k, -, stands⟩ := upright.record i c n found
  rw [stands]
  exact decide_eq_true_iff

/-- While a live closure does not run it is as it was made, whatever happened to it before: a
reference given up meanwhile would have ended it. -/
theorem Upright.resting (upright : Upright s) (counted : Counted s)
    (found : s.closures.pool.held? i = some ⟨c, n⟩) (inactive : active i s.history = 0)
    (undone : destructions i s.history = 0) {k : Closure}
    (born : (births s.history)[i]? = some k) : c = standing k 1 0 0 := by
  have stands := upright.stands found born
  have balance := counted.balanced i c n found
  have kept : ¬ 0 < drops i s.history := fun given => upright.quiet i ⟨given, inactive, undone⟩
  have one : c.references = 1 := by omega
  rw [one, inactive, undone] at stands
  exact stands

namespace Invocation.Sound

theorem exists_held (sound : v.Sound history) :
    ∃ n, v.before.closures.pool.held? v.closure = some ⟨v.record, n⟩ := by
  obtain ⟨c, n, found⟩ := held?_of_contains sound.present
  have now : v.record = c := Closures.get_of_held? found
  exact ⟨n, now ▸ found⟩

/-- The way from the beginning of an invocation to its return. -/
theorem through (sound : v.Sound history) (calm : NoUnderflow history) :
    Invariant v.returned ∧ Within v.closure 0 1 v.before v.returned ∧
      v.entry :: v.before.history <:+ v.returned.history := by
  obtain ⟨n, found⟩ := sound.exists_held
  have state : v.returned = _ := state_invoked found v.argument
  have whole := calm.earlier sound.returns
  rw [state] at whole ⊢
  obtain ⟨invariant, within⟩ := returned_invariant (preserves_play v.during) sound.invariant found
    v.argument (preserves_play v.destruction) whole
  have ran : v.entry :: v.before.history <:+ (v.during.play _).history :=
    (preserves_play v.during).grows (entering v.before v.closure v.record v.argument)
  exact ⟨invariant, within, (ran.trans (List.suffix_cons ..)).trans
    (grows_concluded (preserves_play v.destruction) _ _ v.closure v.record.data v.destroyed)⟩

theorem upright (sound : v.Sound history) (calm : NoUnderflow history) (fair : Fair history) :
    Upright v.before ∧ Upright v.returned := by
  obtain ⟨invariant, within, -⟩ := sound.through calm
  have after := fair.earlier sound.returns
  exact ⟨sound.invariant.2 (after.earlier within.grows), invariant.2 after⟩

/-- The caller still holds the closure. -/
theorem held_returned (sound : v.Sound history) (calm : NoUnderflow history) :
    ∃ n, v.returned.closures.pool.held? v.closure =
      some ⟨v.returned.closures.get v.closure, n⟩ := by
  obtain ⟨invariant, within, -⟩ := sound.through calm
  have held := within.busy v.closure
  rw [if_pos rfl] at held
  cases found : v.returned.closures.pool.held? v.closure with
  | none =>
    have := (invariant.1.absent v.closure found).1
    omega
  | some entry =>
    obtain ⟨d, n⟩ := entry
    have now : v.returned.closures.get v.closure = d := Closures.get_of_held? found
    exact ⟨n, by rw [now]⟩

/-- An outermost invocation leaves a closure that lives on as it found it. -/
theorem unchanged (sound : v.Sound history) (calm : NoUnderflow history) (fair : Fair history)
    (outermost : active v.closure v.before.history = 0)
    (live : (v.returned.closures.get v.closure).inert = false) :
    v.returned.closures.get v.closure = v.record := by
  obtain ⟨before, after⟩ := sound.upright calm fair
  obtain ⟨invariant, within, -⟩ := sound.through calm
  obtain ⟨n, found⟩ := sound.exists_held
  obtain ⟨m, there⟩ := sound.held_returned calm
  obtain ⟨k, born, -⟩ := before.record _ _ _ found
  have undone : destructions v.closure v.returned.history = 0 := by
    refine Nat.eq_zero_of_not_pos fun called => ?_
    rw [(after.inert_iff there).2 called] at live
    cases live
  -- It was not destroyed before either, so that it rests at both ends, made as the same closure.
  have undoneBefore := le_of_earlier (destructions_le_cons v.closure) within.grows
  have inactive := within.active v.closure
  rw [if_pos rfl, outermost] at inactive
  rw [before.resting sound.invariant.1 found outermost (by omega) born]
  exact after.resting invariant.1 there inactive undone (births_of_earlier within.grows born)

end Invocation.Sound

/-- Whatever the guest does during its calls, it gets the data word of a closure that still lives
when no other invocation of it is under way, and zero when one is or the destructor was called. It
is called for the invocations of the course alone; and a closure that lives on after its outermost
invocation is then what it was before, data word, references and all, whether or not the invocation
failed. -/
theorem environment_in_outermost_invocations (course : Course)
    (sound : NoUnderflow (course.play .initial).history) :
    (∀ i code data metaWord argument past,
      .entered i code data metaWord argument :: past <:+ (course.play .initial).history →
      ∃ k, (births past)[i]? = some k ∧ code = k.code ∧ metaWord = k.metaWord ∧
        data = if destructions i past = 0 ∧ active i past = 0 then k.data else 0) ∧
    entries (course.play .initial).history =
      (course.invocations .initial).map (fun v => (v.entry, v.before.history)) ∧
    (∀ v ∈ course.invocations .initial,
      v.entry :: v.before.history <:+ v.returned.history ∧
      v.returned.history <:+ (course.play .initial).history ∧
      (v.record.inert = true ↔ 0 < destructions v.closure v.before.history) ∧
      (active v.closure v.before.history = 0 →
        (v.returned.closures.get v.closure).inert = false →
        v.returned.closures.get v.closure = v.record)) := by
  have fair := play_fair sound
  have each := invocations_sound course initial_invariant sound
  have whole := entries_play course .initial
  refine ⟨fun i code data metaWord argument past earlier => ?_, whole, fun v inside => ?_⟩
  · have noted := mem_entries earlier
    rw [whole] at noted
    obtain ⟨v, inside, same⟩ := List.mem_map.1 noted
    have well := each v inside
    obtain ⟨n, found⟩ := well.exists_held
    obtain ⟨k, born, stands⟩ := (well.upright sound fair).1.record _ _ _ found
    cases same
    have code : v.record.code = (standing k _ _ _).code := congrArg Closure.code stands
    have metaWord : v.record.metaWord = (standing k _ _ _).metaWord :=
      congrArg Closure.metaWord stands
    exact ⟨k, born, code, metaWord, (congrArg Closure.data stands).trans (data_standing ..)⟩
  · have well := each v inside
    obtain ⟨n, found⟩ := well.exists_held
    exact ⟨(well.through sound).2.2, well.returns,
      (well.upright sound fair).1.inert_iff found, well.unchanged sound fair⟩

/-- A closure that fails in an invocation within another one, runs once more, and is given up. -/
def reentrant : Course :=
  .create .guest 1 2 7 8 <|
  .invoke 0 0 (.invoke 0 1 .done (.error .exhausted) .done (.ok ()) .done) (.error .exhausted)
    .done (.ok ()) <|
  .invoke 0 2 .done (.ok 9) .done (.ok ()) <|
  .dropReference 0 .done (.ok ()) .done

theorem environment_in_outermost_invocations_reentrant :
    NoUnderflow (reentrant.play .initial).history ∧
      ((reentrant.invocations .initial).map fun v => v.record.data) = [7, 0, 7] ∧
      ∀ v ∈ reentrant.invocations .initial, active v.closure v.before.history = 0 →
        (v.returned.closures.get v.closure).inert = false →
        v.returned.closures.get v.closure = v.record := by
  have sound : NoUnderflow (reentrant.play .initial).history := by decide +kernel
  exact ⟨sound, by decide +kernel, fun v inside =>
    ((environment_in_outermost_invocations reentrant sound).2.2 v inside).2.2.2⟩

end Environment

end GuestBridge.Lifetime
