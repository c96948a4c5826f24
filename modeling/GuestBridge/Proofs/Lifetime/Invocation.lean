import GuestBridge.Proofs.Lifetime.Operation
/-!
Invocations keep the invariant: on the way into the guest, on the way out of it, and at the end.
-/

set_option autoImplicit false

namespace GuestBridge.Lifetime

variable {s t : State} {i n : Nat} {c : Closure} {during destruction : State → State}
  {outcome : Except Fault UInt32} {destroyed : Except Fault Unit}

/-- The state in which the guest begins to run a closure that is `c` before. -/
def entering (s : State) (i : Nat) (c : Closure) (argument : UInt32) : State :=
  (s.begin i).update i Closure.entered [.entered i c.code c.data c.metaWord argument]

/-- The guest runs the closure, and the host takes its reference away. -/
theorem guest_afterRun (call i : Nat) (argument : UInt32) (during : State → State)
    (outcome : Except Fault UInt32) (destruction : State → State) (destroyed : Except Fault Unit)
    (begun : t.closures.pool.held? i = some ⟨c, n⟩) :
    (guest call i during outcome destruction destroyed).afterRun i argument t =
      let u := during
        (t.update i Closure.entered [.entered i c.code c.data c.metaWord argument])
      u.update i Closure.unreferenced [.left i (u.closures.get i).references] := by
  have before : ClosureCalls.closureOf t i = c := Closures.get_of_held? begun
  have now : (t.update i Closure.entered []).closures.get i = c.entered := get_update begun
  have entered : ClosureCalls.closureOf (ClosureCalls.changed t i Closure.entered) i =
      c.entered := now
  simp only [ClosureCalls.afterRun, before, entered]
  rfl

/-- What the host does when the guest is done with an invocation: it takes its reference away, and
puts the data word back or hands it to the destructor. -/
def concluded (t : State) (call i : Nat) (data : UInt32) (destruction : State → State)
    (destroyed : Except Fault Unit) : State :=
  let left := Event.left i (t.closures.get i).references
  let u := t.update i Closure.unreferenced [left]
  if (u.closures.get i).references = 0 then
    if (u.closures.get i).inert then u
    else afterDestruction u call i data destruction destroyed
  else t.update i (Closure.withData data ∘ Closure.unreferenced) [left]

theorem state_invoked (found : s.closures.pool.held? i = some ⟨c, n⟩) (argument : UInt32) :
    (((guest s.history.length i during outcome destruction destroyed).invoke i argument).perform
        (s.begin i)).2 =
      concluded (during (entering s i c argument)) s.history.length i c.data destruction
        destroyed := by
  have before : ClosureCalls.closureOf (s.begin i) i = c :=
    Closures.get_of_held? (held?_begin found)
  have run := guest_afterRun s.history.length i argument during outcome destruction destroyed
    (held?_begin found)
  simp only [ClosureCalls.state_invoke, before]
  generalize (guest s.history.length i during outcome destruction destroyed).afterRun i argument
    (s.begin i) = u at run ⊢
  by_cases none : (ClosureCalls.closureOf u i).references = 0
  · rw [if_pos none, guest_finish]
    rw [run] at none ⊢
    exact (apply_ite Prod.snd _ _ _).trans (if_pos none).symm
  · rw [if_neg none]
    rw [run] at none ⊢
    exact (update_update _ _ [_] []).trans (if_neg none).symm

theorem invoked_eq (found : s.closures.pool.held? i = some ⟨c, n⟩) (argument : UInt32) :
    invoked s i argument during outcome destruction destroyed =
      (concluded (during (entering s i c argument)) s.history.length i c.data destruction
        destroyed).finish i :=
  congrArg (State.finish · i) (state_invoked found argument)

theorem entering_invariant (invariant : Invariant s)
    (found : s.closures.pool.held? i = some ⟨c, n⟩) (argument : UInt32) :
    Invariant (entering s i c argument) ∧ Within i 1 1 s (entering s i c argument) := by
  obtain ⟨begun, there, within⟩ := begin_invariant invariant found
  have about : ∀ event ∈ [Event.entered i c.code c.data c.metaWord argument], event.About i := by
    simp [Event.About]
  have silent : ∀ event ∈ [Event.entered i c.code c.data c.metaWord argument],
      ∀ call, event.call? = some call → s.history.length ≤ call := by
    simp [Event.call?]
  have now : active i (.entered i c.code c.data c.metaWord argument :: s.history) =
      active i s.history + 1 := by
    simp [active]
  refine ⟨⟨begun.1.update there about (by simp [Event.call?]) ?_ ?_, fun fair => ?_⟩,
    within.update about silent now fun _ _ => rfl⟩
  · have balance := invariant.1.balanced i c n found
    change c.references + 1 + drops i s.history = active i (_ :: s.history) + 1
    rw [now]
    omega
  · change active i (_ :: s.history) ≤ (s.begin i).busy i
    rw [now, within.busy i, if_pos rfl]
    exact Nat.succ_le_succ (invariant.1.room i)
  · have upright : Upright (s.begin i) := begun.2 fair
    refine upright.update there about ⟨upright.lawful, allowed_of_quiet upright.quiet trivial⟩
      (fun due => ?_) (fun k born => ?_) (upright.dropped i)
    · have inactive : active i (_ :: s.history) = 0 := due.2.1
      rw [now] at inactive
      cases inactive
    · have stands := upright.stands there born
      change c.entered = standing k (c.references + 1) (active i (_ :: s.history))
        (destructions i s.history)
      rw [now]
      change c = standing k c.references (active i s.history) (destructions i s.history) at stands
      simp only [Closure.entered, standing]
      rw [stands]
      simp [standing]

section Leaving

variable {d : Closure} {m : Nat}

/-- The guest is done with an invocation that began in `s` when the closure was `c`; it has become
`d`. -/
structure Leaving (s t : State) (i n m : Nat) (c d : Closure) : Prop where
  before : Invariant s
  found : s.closures.pool.held? i = some ⟨c, n⟩
  after : Invariant t
  there : t.closures.pool.held? i = some ⟨d, m⟩
  within : Within i 1 1 s t
  undisturbed : Fair t.history → destructions i t.history = destructions i s.history
  referenced : 0 < d.references

namespace Leaving

theorem active_after (leaving : Leaving s t i n m c d) :
    active i t.history = active i s.history + 1 := by
  have := leaving.within.active i
  simpa using this

theorem active_left (leaving : Leaving s t i n m c d) :
    active i (.left i d.references :: t.history) = active i s.history := by
  simp [active, leaving.active_after]

theorem balance (leaving : Leaving s t i n m c d) :
    d.references - 1 + drops i t.history = active i s.history + 1 := by
  have := leaving.after.1.balanced i d m leaving.there
  have := leaving.active_after
  have := leaving.referenced
  omega

theorem room (leaving : Leaving s t i n m c d) : active i s.history ≤ t.busy i := by
  have := leaving.after.1.room i
  have := leaving.active_after
  omega

/-- What is known of the closure before and after, in a fair history. -/
theorem stands (leaving : Leaving s t i n m c d) (fair : Fair t.history) :
    ∃ k, (births t.history)[i]? = some k ∧
      c = standing k c.references (active i s.history) (destructions i s.history) ∧
      d = standing k d.references (active i s.history + 1) (destructions i s.history) := by
  obtain ⟨k, born, stood⟩ :=
    (leaving.before.2 (fair.earlier leaving.within.grows)).record i c n leaving.found
  have later := births_of_earlier leaving.within.grows born
  have stands := (leaving.after.2 fair).stands leaving.there later
  rw [leaving.active_after, leaving.undisturbed fair] at stands
  exact ⟨k, later, stood, stands⟩

theorem about (_ : Leaving s t i n m c d) :
    ∀ event ∈ [Event.left i d.references], event.About i := by
  simp [Event.About]

theorem unlabelled (_ : Leaving s t i n m c d) {bound : Nat → Prop} :
    ∀ event ∈ [Event.left i d.references], ∀ call, event.call? = some call → bound call := by
  simp [Event.call?]

theorem lawful (leaving : Leaving s t i n m c d) (fair : Fair t.history) :
    Lawful (.left i d.references :: t.history) :=
  ⟨(leaving.after.2 fair).lawful, allowed_of_quiet (leaving.after.2 fair).quiet trivial⟩

/-- Other references are left: the data word is put back. -/
theorem restored (leaving : Leaving s t i n m c d) (some : d.references - 1 ≠ 0) :
    Invariant (t.update i (Closure.withData c.data ∘ Closure.unreferenced)
        [.left i d.references]) ∧
      Within i 0 1 s (t.update i (Closure.withData c.data ∘ Closure.unreferenced)
        [.left i d.references]) := by
  have now := leaving.active_left
  have balance := leaving.balance
  refine ⟨⟨leaving.after.1.update leaving.there leaving.about leaving.unlabelled ?_ ?_,
    fun fair => ?_⟩,
    leaving.within.update leaving.about leaving.unlabelled now fun _ _ => rfl⟩
  · change d.references - 1 + drops i t.history = active i (_ :: t.history) + 1
    rw [now, balance]
  · change active i (_ :: t.history) ≤ t.busy i
    rw [now]
    exact leaving.room
  · have fair : Fair t.history := fair
    have upright := leaving.after.2 fair
    refine upright.update leaving.there leaving.about (leaving.lawful fair)
      (fun due => ?_) (fun k born => ?_) (upright.dropped i)
    · have given : 0 < drops i t.history := due.1
      have inactive : active i (_ :: t.history) = 0 := due.2.1
      rw [now] at inactive
      omega
    · obtain ⟨k', born', stood, stands⟩ := leaving.stands fair
      have same : k' = k := Option.some.inj (born'.symm.trans born)
      subst same
      change (d.unreferenced).withData c.data = standing k' (d.references - 1)
        (active i (_ :: t.history)) (destructions i t.history)
      rw [now, leaving.undisturbed fair]
      rw [stood, stands]
      simp [standing, Closure.withData, Closure.unreferenced]

/-- No reference is left, but the destructor was called before. -/
theorem still (leaving : Leaving s t i n m c d) (inert : d.inert = true) :
    Invariant (t.update i Closure.unreferenced [.left i d.references]) ∧
      Within i 0 1 s (t.update i Closure.unreferenced [.left i d.references]) := by
  have now := leaving.active_left
  have balance := leaving.balance
  refine ⟨⟨leaving.after.1.update leaving.there leaving.about leaving.unlabelled ?_ ?_,
    fun fair => ?_⟩,
    leaving.within.update leaving.about leaving.unlabelled now fun _ _ => rfl⟩
  · change d.references - 1 + drops i t.history = active i (_ :: t.history) + 1
    rw [now, balance]
  · change active i (_ :: t.history) ≤ t.busy i
    rw [now]
    exact leaving.room
  · have fair : Fair t.history := fair
    have upright := leaving.after.2 fair
    obtain ⟨k', born', stood, stands⟩ := leaving.stands fair
    have gone : 0 < destructions i s.history := by
      rw [stands] at inert
      exact of_decide_eq_true inert
    refine upright.update leaving.there leaving.about (leaving.lawful fair)
      (fun due => ?_) (fun k born => ?_) (upright.dropped i)
    · have undone : destructions i t.history = 0 := due.2.2
      rw [leaving.undisturbed fair] at undone
      omega
    · have same : k' = k := Option.some.inj (born'.symm.trans born)
      subst same
      change d.unreferenced = standing k' (d.references - 1) (active i (_ :: t.history))
        (destructions i t.history)
      rw [now, leaving.undisturbed fair, stands]
      simp [standing, Closure.unreferenced, gone]

/-- No reference is left: the destructor is called with the words of the creation. -/
theorem ending (leaving : Leaving s t i n m c d) (none : d.references - 1 = 0)
    (live : d.inert = false) :
    Invariant (t.update i (Closure.ended ∘ Closure.unreferenced)
        [.destroying s.history.length i d.destructor c.data d.metaWord, .left i d.references]) ∧
      Within i 0 1 s (t.update i (Closure.ended ∘ Closure.unreferenced)
        [.destroying s.history.length i d.destructor c.data d.metaWord,
          .left i d.references]) := by
  have now := leaving.active_left
  have balance := leaving.balance
  have about : ∀ event ∈ [Event.destroying s.history.length i d.destructor c.data d.metaWord,
      .left i d.references], event.About i := by
    simp [Event.About]
  have earlier := leaving.within.grows.length_le
  refine ⟨⟨leaving.after.1.update leaving.there about (by simpa [Event.call?]) ?_ ?_,
    fun fair => ?_⟩,
    leaving.within.update about (by simp [Event.call?]) now fun fair under => ?_⟩
  · change d.references - 1 + drops i t.history = active i (.left i d.references :: t.history) + 1
    rw [now, balance]
  · change active i (.left i d.references :: t.history) ≤ t.busy i
    rw [now]
    exact leaving.room
  · have fair : Fair t.history := fair
    have upright := leaving.after.2 fair
    obtain ⟨k, born, stood, stands⟩ := leaving.stands fair
    have undone : destructions i s.history = 0 := by
      rw [stands] at live
      have : ¬ 0 < destructions i s.history := of_decide_eq_false live
      omega
    have once := fair i
    have given : 0 < drops i t.history := by omega
    have inactive : active i s.history = 0 := by omega
    have due : Due i (.left i d.references :: t.history) := by
      refine ⟨given, now.trans inactive, ?_⟩
      exact (leaving.undisturbed fair).trans undone
    have words : d.destructor = k.destructor ∧ c.data = k.data ∧ d.metaWord = k.metaWord := by
      rw [stood, stands]
      simp [standing, undone, inactive]
    have present := (leaving.after.1.held i d m leaving.there).2
    have lawful := (leaving.lawful fair).destroying upright.quiet (about _ (by simp)) due present
      born s.history.length words
    refine upright.update leaving.there about lawful (fun due => ?_) (fun k' born' => ?_)
      fun _ => given
    · have undone : destructions i t.history + (if i = i then 1 else 0) = 0 := due.2.2
      simp at undone
    · have same : k = k' := Option.some.inj (born.symm.trans born')
      subst same
      change d.unreferenced.ended = standing k (d.references - 1)
        (active i (.left i d.references :: t.history))
        (destructions i t.history + if i = i then 1 else 0)
      rw [now, stands]
      simp [standing, Closure.unreferenced, Closure.ended]
  · -- An invocation that is still under way has a reference, so that one is left.
    have once := fair i
    change drops i t.history ≤ 1 at once
    omega

end Leaving

end Leaving

theorem grows_concluded (preserves : Preserves destruction) (t : State) (call i : Nat)
    (data : UInt32) (destroyed : Except Fault Unit) :
    .left i (t.closures.get i).references :: t.history <:+
      (concluded t call i data destruction destroyed).history := by
  simp only [concluded]
  split
  · split
    · exact List.suffix_refl _
    · exact grows_afterDestruction preserves (t.update i Closure.unreferenced
        [.left i (t.closures.get i).references]) call i data
  · exact List.suffix_refl _

theorem Leaving.concluded_invariant {d : Closure} {m : Nat} (leaving : Leaving s t i n m c d)
    (preserves : Preserves destruction) (begun : OnlyBegun s.history.length t.history)
    (later : s.history.length < t.history.length)
    (sound : NoUnderflow
      (concluded t s.history.length i c.data destruction destroyed).history) :
    Invariant (concluded t s.history.length i c.data destruction destroyed) ∧
      Within i 0 1 s (concluded t s.history.length i c.data destruction destroyed) := by
  have now : t.closures.get i = d := Closures.get_of_held? leaving.there
  have after : (t.update i Closure.unreferenced [.left i d.references]).closures.get i =
      d.unreferenced := get_update leaving.there
  simp only [concluded, now, after] at sound ⊢
  by_cases none : d.references - 1 = 0
  · have none' : d.unreferenced.references = 0 := none
    by_cases inert : d.inert = true
    · have inert' : d.unreferenced.inert = true := inert
      simp only [none', inert', ↓reduceIte]
      exact leaving.still inert
    · have inert' : ¬ d.unreferenced.inert = true := inert
      simp only [none', inert', ↓reduceIte, afterDestruction, after, update_update] at sound ⊢
      obtain ⟨doomed, within⟩ := leaving.ending none (Bool.eq_false_iff.2 inert)
      have stillBegun : OnlyBegun s.history.length
          (.destroying s.history.length i d.destructor c.data d.metaWord ::
            .left i d.references :: t.history) :=
        (begun.cons fun label => by cases label).cons fun _ => ⟨_, _, _, _, rfl⟩
      obtain ⟨whole, through, -⟩ := destruction_invariant preserves doomed within stillBegun
        (Nat.lt_succ_of_lt (Nat.lt_succ_of_lt later)) (sound.earlier (List.suffix_cons ..))
        destroyed
      exact ⟨whole, through⟩
  · have none' : ¬ d.unreferenced.references = 0 := none
    simp only [none', ↓reduceIte]
    exact leaving.restored none

section Invoking

variable (preservesDuring : Preserves during) (invariant : Invariant s)
  (found : s.closures.pool.held? i = some ⟨c, n⟩) (argument : UInt32)

include preservesDuring invariant found

/-- The guest comes back from the closure that it was called for. -/
theorem leaving_entered
    (sound : NoUnderflow (.left i ((during (entering s i c argument)).closures.get i).references ::
      (during (entering s i c argument)).history)) :
    ∃ d m, Leaving s (during (entering s i c argument)) i n m c d := by
  obtain ⟨entered, within⟩ := entering_invariant invariant found argument
  obtain ⟨after, frame⟩ :=
    preservesDuring.keeps _ (sound.earlier (List.suffix_cons ..)) entered
  have reached := within.trans frame
  have held := reached.busy i
  simp only [↓reduceIte] at held
  cases foundAfter : (during (entering s i c argument)).closures.pool.held? i with
  | none =>
    have := (after.1.absent i foundAfter).1
    omega
  | some entry =>
    obtain ⟨d, m⟩ := entry
    have undisturbed (fair : Fair (during (entering s i c argument)).history) :
        destructions i (during (entering s i c argument)).history =
          destructions i s.history := by
      have under := within.active i
      simp only [↓reduceIte] at under
      exact frame.kept fair i (by omega)
    have referenced : 0 < d.references := by
      have now : ((during (entering s i c argument)).closures.get i).references =
        d.references := congrArg Closure.references (Closures.get_of_held? foundAfter)
      rw [now] at sound
      apply Nat.pos_of_ne_zero
      intro zero
      rw [zero] at sound
      cases sound _ (List.mem_cons_self ..)
    exact ⟨d, m, invariant, found, after, foundAfter, reached, undisturbed, referenced⟩

/-- The state in which an invocation returns to the host. -/
theorem returned_invariant (preservesDestruction : Preserves destruction)
    (sound : NoUnderflow (concluded (during (entering s i c argument)) s.history.length i c.data
      destruction destroyed).history) :
    Invariant (concluded (during (entering s i c argument)) s.history.length i c.data destruction
        destroyed) ∧
      Within i 0 1 s (concluded (during (entering s i c argument)) s.history.length i c.data
        destruction destroyed) := by
  have left := sound.earlier (grows_concluded preservesDestruction
    (during (entering s i c argument)) s.history.length i c.data destroyed)
  obtain ⟨d, m, leaving⟩ := leaving_entered preservesDuring invariant found argument left
  obtain ⟨entered, -⟩ := entering_invariant invariant found argument
  obtain ⟨-, frame⟩ := preservesDuring.keeps _ (left.earlier (List.suffix_cons ..)) entered
  have later : s.history.length < (entering s i c argument).history.length :=
    Nat.lt_succ_self _
  have begun : OnlyBegun s.history.length (entering s i c argument).history :=
    invariant.1.onlyBegun.cons fun label => by cases label
  exact leaving.concluded_invariant preservesDestruction (begun.frame later frame)
    (Nat.lt_of_lt_of_le later frame.grows.length_le) sound

end Invoking

theorem preserves_invoke (preservesDuring : Preserves during)
    (preservesDestruction : Preserves destruction) (i : Nat) (argument : UInt32)
    (outcome : Except Fault UInt32) (destroyed : Except Fault Unit) :
    Preserves fun s => if s.closures.pool.contains i then
      invoked s i argument during outcome destruction destroyed else s where
  grows s := by
    split
    · next there =>
      obtain ⟨c, n, found⟩ := held?_of_contains there
      rw [invoked_eq found]
      exact (((List.suffix_cons ..).trans (preservesDuring.grows (entering s i c argument))).trans
        (List.suffix_cons ..)).trans
          ((grows_concluded preservesDestruction _ _ i c.data destroyed).trans (grows_finish _ i))
    · exact List.suffix_refl _
  keeps s sound invariant := by
    split at sound
    · next there =>
      obtain ⟨c, n, found⟩ := held?_of_contains there
      simp only [there, ↓reduceIte]
      rw [invoked_eq found] at sound ⊢
      obtain ⟨concluded, through⟩ := returned_invariant preservesDuring invariant found argument
        preservesDestruction (sound.earlier (grows_finish _ i))
      exact finish_invariant concluded through (invariant.1.room i)
    · next absent =>
      simp only [absent, Bool.false_eq_true, ↓reduceIte]
      exact ⟨invariant, Within.refl 0 s⟩

end GuestBridge.Lifetime
