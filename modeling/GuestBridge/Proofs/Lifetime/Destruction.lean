import GuestBridge.Proofs.Lifetime.Dropping
import GuestBridge.Proofs.Lifetime.Invocation
/-!
The end of a closure. Its destructor is called or left to its account, and only one of the two,
with the words of its creation.
-/

set_option autoImplicit false

namespace GuestBridge.Lifetime

/-- How often the last place let go of a closure before its destructor was called. -/
def lost (i : Nat) : List Event → Nat
  | [] => 0
  | .gone j _ :: past => lost i past + if j = i ∧ destructions i past = 0 then 1 else 0
  | _ :: past => lost i past

theorem lost_le_departures (i : Nat) (history : List Event) :
    lost i history ≤ departures i history := by
  induction history with
  | nil => exact Nat.le_refl _
  | cons event past ih =>
    cases event with
    | gone j queued =>
      simp only [lost, departures]
      by_cases same : j = i
      · by_cases due : destructions i past = 0
        · simp only [same, due, and_self, ↓reduceIte]
          omega
        · simp only [same, due, and_false, ↓reduceIte]
          omega
      · simp only [same, false_and, ↓reduceIte]
        exact ih
    | _ => exact ih

theorem Lawful.once {history : List Event} (lawful : Lawful history) (i : Nat) :
    destructions i history + lost i history ≤ 1 := by
  induction history with
  | nil => exact Nat.zero_le _
  | cons event past ih =>
    have before := ih lawful.1
    have few := lost_le_departures i past
    have allowed := lawful.2.2
    cases event with
    | destroying call j destructor data metaWord =>
      obtain ⟨due, present, -⟩ := allowed
      simp only [destructions, lost]
      by_cases same : j = i
      · subst same
        have undone := due.2.2
        simp only [↓reduceIte]
        omega
      · simp only [same, ↓reduceIte]
        omega
    | gone j queued =>
      have present := allowed.1
      simp only [destructions, lost]
      by_cases same : j = i
      · subst same
        by_cases undone : destructions j past = 0
        · simp only [undone, and_self, ↓reduceIte]
          omega
        · simp only [undone, and_false, ↓reduceIte]
          omega
      · simp only [same, false_and, ↓reduceIte]
        omega
    | _ => exact before

theorem Counted.number_injective {s : State} (counted : Counted s) {i j : Nat} {k l : Closure}
    (first : (births s.history)[i]? = some k) (second : (births s.history)[j]? = some l)
    (account : l.account = k.account) (number : l.number = k.number) : j = i := by
  -- The count up to a closure is less than the one up to a later closure of the same account.
  have less : ∀ {a b : Nat} {m o : Closure}, (births s.history)[a]? = some m →
      (births s.history)[b]? = some o → o.account = m.account → a < b → m.number < o.number := by
    intro a b m o here there same before
    have within : m ∈ ((births s.history).take b).drop a := by
      refine List.mem_of_getElem? (i := 0) ?_
      rw [List.getElem?_drop, List.getElem?_take_of_lt (by omega)]
      exact here
    have split : (births s.history).take b =
        (births s.history).take a ++ ((births s.history).take b).drop a := by
      have := List.take_append_drop a ((births s.history).take b)
      rw [List.take_take, Nat.min_eq_left (Nat.le_of_lt before)] at this
      exact this.symm
    have some : 0 < (((births s.history).take b).drop a).countP
        fun other => other.account = o.account := by
      refine List.countP_pos_iff.2 ⟨m, within, ?_⟩
      simp [same]
    rw [counted.numbered a m here, counted.numbered b o there, split, List.countP_append, same]
    rw [same] at some
    omega
  rcases Nat.lt_trichotomy i j with before | same | after
  · have := less first second account before
    omega
  · exact same.symm
  · have := less second first account.symm after
    omega

/-- What an account is left with of a closure is what was lost of it. -/
theorem countP_leftovers_le {history : List Event} {i : Nat} {k : Closure}
    (alone : ∀ j l, (births history)[j]? = some l → l.account = k.account →
      l.number = k.number → j = i) :
    (leftovers k.account history).countP (fun f => f.closure = k.number) ≤ lost i history := by
  induction history with
  | nil => exact Nat.zero_le _
  | cons event past ih =>
    have earlier : past <:+ event :: past := List.suffix_cons ..
    have before := ih fun j l born => alone j l (births_of_earlier earlier born)
    cases event with
    | gone j queued =>
      simp only [leftovers, lost, List.countP_append]
      apply Nat.add_le_add before
      rcases born : (births past)[j]? with _ | l
      · exact Nat.zero_le _
      · have itself := alone j l (births_of_earlier earlier born)
        by_cases mine : l.account = k.account ∧ destructions j past = 0
        · by_cases same : l.number = k.number
          · have : j = i := itself mine.1 same
            subst this
            simp [mine.1, mine.2, Option.filter, Closure.finalizer, same]
          · simp [mine.1, mine.2, Option.filter, Closure.finalizer, same]
        · simp [Option.filter, mine]
    | _ => exact before

/-- The end of closure `i`, made as `k`, as far as a history tells, given all destructor calls that
were ever put on the queue of its account. -/
structure EndsOnce (history : List Event) (queued : List Finalizer) (i : Nat) (k : Closure) :
    Prop where
  once : destructions i history + queued.countP (fun f => f.closure = k.number) ≤ 1
  /-- The destructor is called with the words of the creation, after the guest has given up its
  reference and while no invocation of the closure is under way. -/
  called : ∀ call destructor data metaWord past,
    .destroying call i destructor data metaWord :: past <:+ history →
    0 < drops i past ∧ active i past = 0 ∧
      destructor = k.destructor ∧ data = k.data ∧ metaWord = k.metaWord
  prompt : ∀ event past, event :: past <:+ history → 0 < drops i past → active i past = 0 →
    0 < destructions i past ∨ event.destroys i
  settled : 0 < drops i history → active i history = 0 → 0 < destructions i history
  /-- The last place leaves the destructor call to the account unless it was made already. -/
  left : ∀ finalizers past, .gone i finalizers :: past <:+ history →
    finalizers = if destructions i past = 0 then [k.finalizer] else []

theorem Upright.endsOnce {s : State} (upright : Upright s) (counted : Counted s) {i : Nat}
    {k : Closure} (born : (births s.history)[i]? = some k) :
    EndsOnce s.history (s.everQueued k.account) i k where
  once := by
    rw [upright.queued]
    have most := countP_leftovers_le (k := k) fun j l => counted.number_injective born
    have := upright.lawful.once i
    omega
  called := by
    intro call destructor data metaWord past earlier
    obtain ⟨-, due, -, k', born', words⟩ := upright.lawful.allowed earlier
    have later := births_of_earlier ((List.suffix_cons ..).trans earlier) born'
    have same : k = k' := Option.some.inj (born.symm.trans later)
    subst same
    exact ⟨due.1, due.2.1, words⟩
  prompt := by
    intro event past earlier given inactive
    by_cases undone : destructions i past = 0
    · exact .inr ((upright.lawful.allowed earlier).1 i ⟨given, inactive, undone⟩)
    · exact .inl (Nat.pos_of_ne_zero undone)
  settled := by
    intro given inactive
    by_cases undone : destructions i s.history = 0
    · exact (upright.quiet i ⟨given, inactive, undone⟩).elim
    · exact Nat.pos_of_ne_zero undone
  left := by
    intro finalizers past earlier
    obtain ⟨-, -, k', born', queued⟩ := upright.lawful.allowed earlier
    have later := births_of_earlier ((List.suffix_cons ..).trans earlier) born'
    have same : k = k' := Option.some.inj (born.symm.trans later)
    subst same
    exact queued

/-- Once no operation is in progress, a closure has lost no more than the guest's reference. -/
theorem Counted.fair {s : State} (counted : Counted s) (inactive : ∀ i, active i s.history = 0) :
    Fair s.history := by
  intro i
  rcases here : s.closures.pool.held? i with _ | ⟨c, n⟩
  · exact (counted.absent i here).2
  · have balance := counted.balanced i c n here
    have := inactive i
    omega

/-- By induction on the course: what the guest does meanwhile are courses too. -/
theorem preserves_play (course : Course) : Preserves course.play := by
  induction course with
  | done => exact ⟨fun s => List.suffix_refl _, fun s _ invariant => ⟨invariant, Within.refl 0 s⟩⟩
  | create account code destructor data metaWord rest ih =>
    exact ih.comp (preserves_create account code destructor data metaWord)
  | keep i rest ih => exact ih.comp (preserves_hold i)
  | letGo i rest ih => exact ih.comp (preserves_letGo i)
  | invoke i argument during outcome destruction destroyed rest ihDuring ihDestruction ih =>
    exact ih.comp (preserves_invoke ihDuring ihDestruction i argument outcome destroyed)
  | dropReference i destruction destroyed rest ihDestruction ih =>
    exact ih.comp (preserves_dropReference ihDestruction i destroyed)
  | drain account rest ih => exact ih.comp (preserves_drain account)

theorem play_fair {course : Course} (sound : NoUnderflow (course.play .initial).history) :
    Fair (course.play .initial).history := by
  obtain ⟨⟨counted, -⟩, frame⟩ :=
    (preserves_play course).keeps .initial sound initial_invariant
  refine counted.fair fun i => ?_
  have := frame.active i
  simpa [State.initial, active] using this

theorem play_upright {course : Course} (sound : NoUnderflow (course.play .initial).history) :
    Counted (course.play .initial) ∧ Upright (course.play .initial) := by
  obtain ⟨counted, upright⟩ :=
    ((preserves_play course).keeps .initial sound initial_invariant).1
  exact ⟨counted, upright (play_fair sound)⟩

/-- Whatever the guest does during its calls, the destructor of every closure is called or queued
at most once, at the right moment and with the right words; nothing else is queued; and giving up
a reference yields true exactly when this very call ran the destructor to a good end. -/
theorem destructor_at_most_once (course : Course)
    (sound : NoUnderflow (course.play .initial).history) :
    (∀ i k, (births (course.play .initial).history)[i]? = some k →
      EndsOnce (course.play .initial).history ((course.play .initial).everQueued k.account) i k) ∧
    (∀ account, (course.play .initial).everQueued account =
      leftovers account (course.play .initial).history) ∧
    (∀ call i result, .dropped call i result ∈ (course.play .initial).history →
      (result = .ok true ↔ .destroyed call (.ok ()) ∈ (course.play .initial).history)) := by
  obtain ⟨counted, upright⟩ := play_upright sound
  exact ⟨fun i k born => upright.endsOnce counted born, upright.queued, upright.answered⟩

/-- A closure that gives itself up from within an invocation of itself, which runs within another
one; and a second one that the host forgets. -/
def selfish : Course :=
  .create .guest 1 2 7 8 <| .create .guest 3 4 5 6 <|
  .invoke 0 0
    (.invoke 0 1 (.dropReference 0 .done (.ok ()) .done) (.error .exhausted) .done (.ok ()) .done)
    (.ok 9) (.letGo 1 .done) (.ok ()) <|
  .dropReference 0 .done (.ok ()) .done

theorem destructor_at_most_once_selfish :
    NoUnderflow (selfish.play .initial).history ∧
      ∃ k, (births (selfish.play .initial).history)[0]? = some k ∧
        EndsOnce (selfish.play .initial).history
          ((selfish.play .initial).everQueued k.account) 0 k := by
  have sound : NoUnderflow (selfish.play .initial).history := by decide +kernel
  have born : (births (selfish.play .initial).history)[0]? =
      some ⟨.guest, 0, 1, 2, 7, 8, 1, false⟩ := by decide +kernel
  exact ⟨sound, _, born, (destructor_at_most_once selfish sound).1 0 _ born⟩

end GuestBridge.Lifetime
