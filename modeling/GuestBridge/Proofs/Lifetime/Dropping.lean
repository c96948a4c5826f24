import GuestBridge.Proofs.Lifetime.Operation
/-!
Giving up a reference keeps the invariant, by how many references there are.
-/

set_option autoImplicit false

namespace GuestBridge.Lifetime

variable {s t : State} {i n : Nat} {c : Closure} {during destruction : State → State}
  {outcome : Except Fault UInt32} {destroyed : Except Fault Unit}

/-- What giving up a reference comes to, by how many there are. -/
theorem referenceDropped_eq (found : s.closures.pool.held? i = some ⟨c, n⟩) :
    referenceDropped s i destruction destroyed =
      let call := s.history.length
      let t := (s.begin i).note (.dropping i c.references)
      let last := (s.begin i).update i (Closure.withData 0 ∘ Closure.unreferenced) [.dropping i 1]
      (if c.references = 0 then t.note (.dropped call i (.ok false))
      else if c.references = 1 then
        if c.inert then last.note (.dropped call i (.ok true))
        else (afterDestruction last call i c.data destruction destroyed).note
          (.dropped call i (destroyed.map fun _ => true))
      else ((s.begin i).update i Closure.unreferenced [.dropping i c.references]).note
        (.dropped call i (.ok false))).finish i := by
  have now : s.closures.get i = c := Closures.get_of_held? found
  have before : ClosureCalls.closureOf ((s.begin i).note (.dropping i c.references)) i = c :=
    Closures.get_of_held? (held?_begin found)
  simp only [referenceDropped, ClosureCalls.perform_dropReference, now, before, guest_finish]
  apply congrArg (State.finish · i)
  by_cases none : c.references = 0
  · simp only [none, ↓reduceIte]
  · by_cases one : c.references = 1
    · have last : ClosureCalls.changed (ClosureCalls.changed ((s.begin i).note (.dropping i 1)) i
          Closure.unreferenced) i (Closure.withData 0) =
          (s.begin i).update i (Closure.withData 0 ∘ Closure.unreferenced) [.dropping i 1] :=
        update_update (s := s.begin i) Closure.unreferenced (Closure.withData 0) [.dropping i 1] []
      have inert : (((s.begin i).update i (Closure.withData 0 ∘ Closure.unreferenced)
          [.dropping i 1]).closures.get i).inert = c.inert := by
        rw [get_update (held?_begin found)]
        rfl
      simp only [one, Nat.one_ne_zero, ↓reduceIte, last, inert]
      split <;> rfl
    · simp only [none, one, ↓reduceIte]
      rfl

theorem dropped_invariant (invariant : Invariant t) (within : Within i 0 1 s t)
    (room : active i s.history ≤ s.busy i) (result : Except Fault Bool)
    (answer : Fair t.history →
      (result = .ok true ↔ Event.destroyed s.history.length (.ok ()) ∈ t.history)) :
    Invariant ((t.note (.dropped s.history.length i result)).finish i) ∧
      Frame s ((t.note (.dropped s.history.length i result)).finish i) := by
  refine finish_invariant (invariant.report trivial ?_ ?_) (within.report trivial ?_) room
  · intro call label
    cases label
    exact within.grows.length_le
  · intro call j result' noted fair
    have same : Event.destroyed call (.ok ()) ∈
        .dropped s.history.length i result :: t.history ↔
          Event.destroyed call (.ok ()) ∈ t.history := by
      simp
    rw [same]
    rcases List.mem_cons.1 noted with new | old
    · cases new
      exact answer fair
    · exact (invariant.2 fair).answered call j result' old
  · intro call label
    cases label
    exact Nat.le_refl _

section Dropping

variable (invariant : Invariant s) (found : s.closures.pool.held? i = some ⟨c, n⟩)

theorem dropping_about : ∀ event ∈ [Event.dropping i c.references], event.About i := by
  simp [Event.About]

theorem dropping_unlabelled {bound : Nat → Prop} : ∀ event ∈ [Event.dropping i c.references],
    ∀ call, event.call? = some call → bound call := by
  simp [Event.call?]

include invariant found

theorem drops_dropping : c.references - 1 + drops i (.dropping i c.references :: s.history) =
    active i s.history + 1 := by
  have balance := invariant.1.balanced i c n found
  simp only [drops, true_and]
  split <;> omega

theorem dropping_none (none : c.references = 0) :
    Invariant ((s.begin i).note (.dropping i c.references)) ∧
      Within i 0 1 s ((s.begin i).note (.dropping i c.references)) := by
  obtain ⟨begun, there, within⟩ := begin_invariant invariant found
  have balance := drops_dropping invariant found
  rw [note_eq_update _ i]
  refine ⟨⟨begun.1.update there dropping_about dropping_unlabelled ?_ (begun.1.room i),
    fun fair => ?_⟩, within.update dropping_about dropping_unlabelled rfl fun _ _ => rfl⟩
  · change c.references + drops i (.dropping i c.references :: s.history) = active i s.history + 1
    omega
  · have fair : Fair s.history := fair.earlier (List.suffix_cons ..)
    have upright : Upright (s.begin i) := begun.2 fair
    have same : drops i (.dropping i c.references :: s.history) = drops i s.history := by
      simp [drops, none]
    refine upright.update there dropping_about
      ⟨upright.lawful, allowed_of_quiet upright.quiet trivial⟩ (fun due => ?_) (fun k born => ?_)
      fun called => ?_
    · exact upright.quiet i ⟨same ▸ due.1, due.2.1, due.2.2⟩
    · exact upright.stands there born
    · have given : 0 < drops i s.history := upright.dropped i called
      exact same.symm ▸ given

/-- An invocation is under way, or more was given up than there was. -/
theorem dropping_several (several : 1 < c.references) :
    Invariant ((s.begin i).update i Closure.unreferenced [.dropping i c.references]) ∧
      Within i 0 1 s
        ((s.begin i).update i Closure.unreferenced [.dropping i c.references]) := by
  obtain ⟨begun, there, within⟩ := begin_invariant invariant found
  have balance := drops_dropping invariant found
  refine ⟨⟨begun.1.update there dropping_about dropping_unlabelled balance (begun.1.room i),
    fun fair => ?_⟩, within.update dropping_about dropping_unlabelled rfl fun _ _ => rfl⟩
  have once : drops i (.dropping i c.references :: s.history) ≤ 1 := fair i
  have given : 0 < drops i (.dropping i c.references :: s.history) := by
    simp only [drops, true_and]
    split <;> omega
  have upright : Upright (s.begin i) := begun.2 (fair.earlier (List.suffix_cons ..))
  have under : 0 < active i s.history := by omega
  refine upright.update there dropping_about
    ⟨upright.lawful, allowed_of_quiet upright.quiet trivial⟩ (fun due => ?_) (fun k born => ?_)
    fun _ => given
  · have inactive : active i s.history = 0 := due.2.1
    omega
  · have stands := upright.stands there born
    change c.unreferenced = standing k (c.references - 1) (active i s.history)
      (destructions i s.history)
    change c = standing k c.references (active i s.history) (destructions i s.history) at stands
    rw [stands]
    simp [standing, Closure.unreferenced]

/-- The last reference of a closure whose destructor was called: more is given up than there was. -/
theorem dropping_inert (one : c.references = 1) (inert : c.inert = true) :
    Invariant ((s.begin i).update i (Closure.withData 0 ∘ Closure.unreferenced) [.dropping i 1]) ∧
      Within i 0 1 s
        ((s.begin i).update i (Closure.withData 0 ∘ Closure.unreferenced) [.dropping i 1]) ∧
      ¬ Fair (.dropping i 1 :: s.history) := by
  obtain ⟨begun, there, within⟩ := begin_invariant invariant found
  have balance := drops_dropping invariant found
  have about := dropping_about (i := i) (c := c)
  rw [one] at balance about
  have unfair : ¬ Fair (.dropping i 1 :: s.history) := by
    intro fair
    have once : drops i s.history + (if i = i ∧ 0 < 1 then 1 else 0) ≤ 1 := fair i
    have upright := invariant.2 (fair.earlier (List.suffix_cons ..))
    obtain ⟨k, born, stands⟩ := upright.record i c n found
    rw [stands] at inert
    have called : 0 < destructions i s.history := of_decide_eq_true inert
    have given := upright.dropped i called
    simp only [Nat.zero_lt_one, and_self, ↓reduceIte] at once
    omega
  refine ⟨⟨begun.1.update there about (by simp [Event.call?]) ?_ (begun.1.room i),
    fun fair => (unfair fair).elim⟩, within.update about (by simp [Event.call?]) rfl
      fun _ _ => rfl, unfair⟩
  change c.references - 1 + drops i (.dropping i 1 :: s.history) = active i s.history + 1
  omega

/-- The guest's reference is given up while no invocation is under way: the destructor is called
with the words of the creation. -/
theorem dropping_last (one : c.references = 1) (live : c.inert = false) :
    Invariant ((s.begin i).update i (Closure.ended ∘ Closure.withData 0 ∘ Closure.unreferenced)
        [.destroying s.history.length i c.destructor c.data c.metaWord, .dropping i 1]) ∧
      Within i 0 1 s
        ((s.begin i).update i (Closure.ended ∘ Closure.withData 0 ∘ Closure.unreferenced)
          [.destroying s.history.length i c.destructor c.data c.metaWord, .dropping i 1]) := by
  obtain ⟨begun, there, within⟩ := begin_invariant invariant found
  have balance := drops_dropping invariant found
  have aboutDropping := dropping_about (i := i) (c := c)
  rw [one] at balance aboutDropping
  have about : ∀ event ∈ [Event.destroying s.history.length i c.destructor c.data c.metaWord,
      .dropping i 1], event.About i := by
    simp [Event.About]
  have given : 0 < drops i (.dropping i 1 :: s.history) := by simp [drops]
  refine ⟨⟨begun.1.update there about
    (by simp [Event.call?, State.begin, State.setBusy, State.hold]) ?_ (begun.1.room i),
    fun fair => ?_⟩,
    within.update about (by simp [Event.call?]) rfl fun fair under => ?_⟩
  · change c.references - 1 + drops i (.dropping i 1 :: s.history) = active i s.history + 1
    omega
  · have once : drops i (.dropping i 1 :: s.history) ≤ 1 := fair i
    have upright : Upright (s.begin i) := begun.2 (fair.earlier
      ((List.suffix_cons ..).trans (List.suffix_cons ..)))
    obtain ⟨k, born, stands⟩ := upright.record i c (n + 1) there
    change c = standing k c.references (active i s.history) (destructions i s.history) at stands
    have inactive : active i s.history = 0 := by omega
    have undone : destructions i s.history = 0 := by
      rw [stands] at live
      have : ¬ 0 < destructions i s.history := of_decide_eq_false live
      omega
    have due : Due i (.dropping i 1 :: s.history) := ⟨given, inactive, undone⟩
    have words : c.destructor = k.destructor ∧ c.data = k.data ∧ c.metaWord = k.metaWord := by
      rw [stands]
      simp [standing, undone, inactive]
    have before : Lawful (.dropping i 1 :: s.history) :=
      ⟨upright.lawful, allowed_of_quiet upright.quiet trivial⟩
    have lawful := before.destroying upright.quiet (aboutDropping _ (List.mem_singleton.2 rfl)) due
      (invariant.1.held i c n found).2 born s.history.length words
    refine upright.update there about lawful (fun due => ?_) (fun k' born' => ?_) fun _ => given
    · have undone : destructions i s.history + (if i = i then 1 else 0) = 0 := due.2.2
      simp at undone
    · have same : k = k' := Option.some.inj (born.symm.trans born')
      subst same
      change (c.unreferenced.withData 0).ended = standing k (c.references - 1)
        (active i s.history) (destructions i s.history + if i = i then 1 else 0)
      rw [stands]
      simp [standing, Closure.unreferenced, Closure.ended, Closure.withData]
  · have once : drops i (.dropping i 1 :: s.history) ≤ 1 := fair i
    omega

/-- The whole operation in which the destructor is called. -/
theorem dropping_destroyed (preserves : Preserves destruction) (one : c.references = 1)
    (live : c.inert = false) (destroyed : Except Fault Unit)
    (sound : NoUnderflow (((afterDestruction ((s.begin i).update i
      (Closure.withData 0 ∘ Closure.unreferenced) [.dropping i 1]) s.history.length i c.data
      destruction destroyed).note (.dropped s.history.length i
      (destroyed.map fun _ => true))).finish i).history) :
    Invariant (((afterDestruction ((s.begin i).update i
        (Closure.withData 0 ∘ Closure.unreferenced) [.dropping i 1]) s.history.length i c.data
        destruction destroyed).note (.dropped s.history.length i
        (destroyed.map fun _ => true))).finish i) ∧
      Frame s (((afterDestruction ((s.begin i).update i
        (Closure.withData 0 ∘ Closure.unreferenced) [.dropping i 1]) s.history.length i c.data
        destruction destroyed).note (.dropped s.history.length i
        (destroyed.map fun _ => true))).finish i) := by
  obtain ⟨doomed, within⟩ := dropping_last invariant found one live
  have now : ((s.begin i).update i (Closure.withData 0 ∘ Closure.unreferenced)
      [.dropping i 1]).closures.get i = (c.unreferenced).withData 0 :=
    get_update (held?_begin found)
  simp only [afterDestruction, now, update_update] at sound ⊢
  have doomedBegun : OnlyBegun s.history.length
      (.destroying s.history.length i c.destructor c.data c.metaWord ::
        .dropping i 1 :: s.history) :=
    (invariant.1.onlyBegun.cons fun label => by cases label).cons fun _ => ⟨_, _, _, _, rfl⟩
  have calm := (sound.earlier (grows_finish _ i)).earlier
    ((List.suffix_cons ..).trans (List.suffix_cons ..))
  obtain ⟨after, through, stillBegun⟩ := destruction_invariant preserves doomed within
    doomedBegun (Nat.lt_succ_of_lt (Nat.lt_succ_self _)) calm destroyed
  apply dropped_invariant after through (invariant.1.room i) _
  intro _
  -- Nothing else in this call has answered for the destructor.
  constructor
  · intro fine
    cases destroyed with
    | ok => exact List.mem_cons_self ..
    | error f => cases fine
  · intro done
    rcases List.mem_cons.1 done with new | old
    · cases new
      rfl
    · exact (stillBegun.undone _ old).elim

end Dropping

theorem preserves_dropReference (preserves : Preserves destruction) (i : Nat)
    (destroyed : Except Fault Unit) :
    Preserves fun s => if s.closures.pool.contains i then
      referenceDropped s i destruction destroyed else s where
  grows s := by
    split
    · next there =>
      obtain ⟨c, n, found⟩ := held?_of_contains there
      rw [referenceDropped_eq found]
      refine List.IsSuffix.trans ?_ (grows_finish _ i)
      split
      · exact (List.suffix_cons ..).trans (List.suffix_cons ..)
      · split
        · split
          · exact (List.suffix_cons ..).trans (List.suffix_cons ..)
          · have last : s.history <:+ ((s.begin i).update i
                (Closure.withData 0 ∘ Closure.unreferenced) [.dropping i 1]).history :=
              List.suffix_cons ..
            exact (last.trans (grows_afterDestruction preserves _ _ i c.data)).trans
              (List.suffix_cons ..)
        · exact (List.suffix_cons ..).trans (List.suffix_cons ..)
    · exact List.suffix_refl _
  keeps s sound invariant := by
    split at sound
    · next there =>
      obtain ⟨c, n, found⟩ := held?_of_contains there
      simp only [there, ↓reduceIte]
      rw [referenceDropped_eq found] at sound ⊢
      have room := invariant.1.room i
      have begun (references : Nat) :
          OnlyBegun s.history.length (.dropping i references :: s.history) :=
        invariant.1.onlyBegun.cons fun label => by cases label
      have unanswered (references : Nat) : Except.ok false = Except.ok (ε := Fault) true ↔
          Event.destroyed s.history.length (.ok ()) ∈ .dropping i references :: s.history :=
        ⟨(nomatch ·), fun done => ((begun _).undone _ done).elim⟩
      by_cases none : c.references = 0
      · simp only [none, ↓reduceIte]
        obtain ⟨after, within⟩ := dropping_none invariant found none
        rw [none] at after within
        exact dropped_invariant after within room (.ok false) fun _ => unanswered 0
      · by_cases one : c.references = 1
        · simp only [one, Nat.one_ne_zero, ↓reduceIte] at sound ⊢
          by_cases inert : c.inert = true
          · simp only [inert, ↓reduceIte]
            obtain ⟨after, within, unfair⟩ := dropping_inert invariant found one inert
            exact dropped_invariant after within room (.ok true) fun fair => (unfair fair).elim
          · simp only [inert, Bool.false_eq_true, ↓reduceIte] at sound ⊢
            exact dropping_destroyed invariant found preserves one (Bool.eq_false_iff.2 inert)
              destroyed sound
        · simp only [none, one, ↓reduceIte]
          obtain ⟨after, within⟩ := dropping_several invariant found (by omega)
          exact dropped_invariant after within room (.ok false) fun _ => unanswered _
    · next absent =>
      simp only [absent, Bool.false_eq_true, ↓reduceIte]
      exact ⟨invariant, Within.refl 0 s⟩

end GuestBridge.Lifetime
