import GuestBridge.Proofs.Lifetime.History
/-!
What holds between the operations of a course. The counts agree with the history in any case; the
rest of a closure is what the history says as long as the history is fair.
-/

set_option autoImplicit false

namespace GuestBridge.Lifetime

/-- The references of every closure and the history give the same account. -/
structure Counted (s : State) : Prop where
  size : s.closures.pool.size = (births s.history).length
  created : ∀ account, (s.closures.ledger account).created =
    (births s.history).countP fun k => k.account = account
  numbered : ∀ i k, (births s.history)[i]? = some k →
    k.number = ((births s.history).take i).countP fun other => other.account = k.account
  labelled : ∀ event ∈ s.history, ∀ call, event.call? = some call → call < s.history.length
  /-- A reference that was given up is one that an invocation took, or the guest's. -/
  balanced : ∀ i c n, s.closures.pool.held? i = some ⟨c, n⟩ →
    c.references + drops i s.history = active i s.history + 1
  room : ∀ i, active i s.history ≤ s.busy i
  held : ∀ i c n, s.closures.pool.held? i = some ⟨c, n⟩ →
    s.busy i ≤ n ∧ departures i s.history = 0
  absent : ∀ i, s.closures.pool.held? i = none → s.busy i = 0 ∧ drops i s.history ≤ 1
  unborn : ∀ i, s.closures.pool.size ≤ i →
    destructions i s.history = 0 ∧ drops i s.history = 0 ∧ departures i s.history = 0

/-- A closure made as `k` as it has to be after so much has happened to it. -/
def standing (k : Closure) (references active destructions : Nat) : Closure where
  account := k.account
  number := k.number
  code := k.code
  destructor := k.destructor
  data := if 0 < destructions ∨ 0 < active then 0 else k.data
  metaWord := k.metaWord
  references := references
  inert := decide (0 < destructions)

structure Upright (s : State) : Prop where
  record : ∀ i c n, s.closures.pool.held? i = some ⟨c, n⟩ →
    ∃ k, (births s.history)[i]? = some k ∧
      c = standing k c.references (active i s.history) (destructions i s.history)
  quiet : ∀ i, ¬ Due i s.history
  dropped : ∀ i, 0 < destructions i s.history → 0 < drops i s.history
  lawful : Lawful s.history
  queued : ∀ account, s.everQueued account = leftovers account s.history
  answered : ∀ call i result, Event.dropped call i result ∈ s.history →
    (result = .ok true ↔ Event.destroyed call (.ok ()) ∈ s.history)

def Invariant (s : State) : Prop := Counted s ∧ (Fair s.history → Upright s)

theorem initial_invariant : Invariant State.initial := by
  have nothing : ∀ i, State.initial.closures.pool.held? i = none := fun i => by
    simp [State.initial, Closures.empty, Pool.empty, Pool.held?]
  refine ⟨⟨rfl, ?_, ?_, ?_, ?_, fun i => Nat.le_refl _, ?_, ?_, ?_⟩, fun _ => ?_⟩
  · intro account
    cases account <;> rfl
  · simp [State.initial, births]
  · simp [State.initial]
  · simp [nothing]
  · simp [nothing]
  · simp [State.initial, drops]
  · simp [State.initial, drops, destructions, departures]
  · refine ⟨by simp [nothing], ?_, ?_, trivial, ?_, ?_⟩
    · simp [Due, State.initial, drops]
    · simp [State.initial, destructions]
    · intro account
      cases account <;> rfl
    · simp [State.initial]

theorem Upright.stands {s : State} (upright : Upright s) {i n : Nat} {c k : Closure}
    (found : s.closures.pool.held? i = some ⟨c, n⟩) (born : (births s.history)[i]? = some k) :
    c = standing k c.references (active i s.history) (destructions i s.history) := by
  obtain ⟨k', born', stands⟩ := upright.record i c n found
  have same : k' = k := Option.some.inj (born'.symm.trans born)
  exact same ▸ stands

/-- Calls are named by moments before them. -/
theorem Counted.labelled_cons {s : State} (counted : Counted s) {event : Event}
    (label : ∀ call, event.call? = some call → call ≤ s.history.length) :
    ∀ e ∈ event :: s.history, ∀ call, e.call? = some call →
      call < (event :: s.history).length := by
  intro e noted call labelled
  rcases List.mem_cons.1 noted with new | old
  · exact Nat.lt_succ_of_le (label call (new ▸ labelled))
  · exact Nat.lt_succ_of_lt (counted.labelled e old call labelled)

theorem Upright.answered_cons {s : State} (upright : Upright s) {event : Event}
    (silent : ¬ event.Reports) : ∀ call i result, Event.dropped call i result ∈ event :: s.history →
      (result = .ok true ↔ Event.destroyed call (.ok ()) ∈ event :: s.history) := by
  intro call i result noted
  have old : Event.dropped call i result ∈ s.history := by
    rcases List.mem_cons.1 noted with new | old
    · exact (silent (new ▸ trivial)).elim
    · exact old
  refine (upright.answered call i result old).trans ⟨fun done => List.mem_cons_of_mem _ done,
    fun done => ?_⟩
  rcases List.mem_cons.1 done with new | done
  · exact (silent (new ▸ trivial)).elim
  · exact done

/-- One closure has changed, and events about it were noted. -/
def State.update (s : State) (i : Nat) (f : Closure → Closure) (events : List Event) : State :=
  ⟨s.closures.modify i f, s.busy, events ++ s.history⟩

section Update

variable {s : State} {i n : Nat} {c : Closure} {f : Closure → Closure} {events : List Event}

theorem held?_update (found : s.closures.pool.held? i = some ⟨c, n⟩) (j : Nat) :
    (s.update i f events).closures.pool.held? j =
      if j = i then some ⟨f c, n⟩ else s.closures.pool.held? j := by
  simp only [State.update, Closures.modify, Pool.held?_modify, found, Option.map_some]

theorem get_update (found : s.closures.pool.held? i = some ⟨c, n⟩) :
    (s.update i f events).closures.get i = f c :=
  Closures.get_of_held? ((held?_update found i).trans (if_pos rfl))

theorem update_update (f g : Closure → Closure) (first second : List Event) :
    (s.update i f first).update i g second = s.update i (g ∘ f) (second ++ first) := by
  simp only [State.update, Closures.modify, Pool.modify_modify, List.append_assoc]

theorem note_eq_update (s : State) (i : Nat) (event : Event) :
    s.note event = s.update i id [event] := by
  have same : s.closures.modify i id = s.closures := by
    simp only [Closures.modify, Pool.modify_id]
  simp only [State.note, State.update, same, List.singleton_append]

theorem Counted.update (counted : Counted s)
    (found : s.closures.pool.held? i = some ⟨c, n⟩) (about : ∀ event ∈ events, event.About i)
    (labelled : ∀ event ∈ events, ∀ call, event.call? = some call → call ≤ s.history.length)
    (balanced : (f c).references + drops i (events ++ s.history) =
      active i (events ++ s.history) + 1)
    (room : active i (events ++ s.history) ≤ s.busy i) :
    Counted (s.update i f events) := by
  have inside := Pool.lt_size_of_held? found
  have sameBirths : births (events ++ s.history) = births s.history :=
    unchanged_about births (fun _ _ => births_about) about
  have sameDepartures : ∀ j, departures j (events ++ s.history) = departures j s.history :=
    fun j => unchanged_about _ (fun _ _ one => departures_about one j) about
  constructor
  case size => simpa [State.update, Closures.modify, sameBirths] using counted.size
  case created =>
    intro account
    simpa [State.update, sameBirths] using counted.created account
  case numbered => simpa [State.update, sameBirths] using counted.numbered
  case labelled =>
    intro event noted call label
    simp only [State.update, List.length_append]
    rcases List.mem_append.1 noted with new | old
    · have := labelled event new call label
      have := List.length_pos_of_mem new
      omega
    · have := counted.labelled event old call label
      omega
  case balanced =>
    intro j d m here
    rw [held?_update found] at here
    by_cases same : j = i
    · subst same
      simp only [↓reduceIte, Option.some.injEq, Held.mk.injEq] at here
      rw [← here.1]
      exact balanced
    · simp only [same, ↓reduceIte] at here
      simp only [State.update, others_about about same]
      exact counted.balanced j d m here
  case room =>
    intro j
    by_cases same : j = i
    · subst same
      exact room
    · simp only [State.update, others_about about same]
      exact counted.room j
  case held =>
    intro j d m here
    rw [held?_update found] at here
    simp only [State.update, sameDepartures]
    by_cases same : j = i
    · subst same
      simp only [↓reduceIte, Option.some.injEq, Held.mk.injEq] at here
      rw [← here.2]
      exact counted.held j c n found
    · simp only [same, ↓reduceIte] at here
      exact counted.held j d m here
  case absent =>
    intro j missing
    rw [held?_update found] at missing
    by_cases same : j = i
    · simp only [same, ↓reduceIte] at missing
      cases missing
    · simp only [same, ↓reduceIte] at missing
      simp only [State.update, others_about about same]
      exact counted.absent j missing
  case unborn =>
    intro j beyond
    have beyond : s.closures.pool.size ≤ j := by
      simpa [State.update, Closures.modify] using beyond
    have other : j ≠ i := by omega
    simp only [State.update, others_about about other, sameDepartures]
    exact counted.unborn j beyond

/-- What must hold of the one closure that changes for everything to stay upright. -/
theorem Upright.update (upright : Upright s)
    (found : s.closures.pool.held? i = some ⟨c, n⟩) (about : ∀ event ∈ events, event.About i)
    (lawful : Lawful (events ++ s.history)) (quiet : ¬ Due i (events ++ s.history))
    (record : ∀ k, (births s.history)[i]? = some k →
      f c = standing k (f c).references (active i (events ++ s.history))
        (destructions i (events ++ s.history)))
    (dropped : 0 < destructions i (events ++ s.history) → 0 < drops i (events ++ s.history)) :
    Upright (s.update i f events) := by
  have sameBirths : births (events ++ s.history) = births s.history :=
    unchanged_about births (fun _ _ => births_about) about
  constructor
  case record =>
    intro j d m here
    rw [held?_update found] at here
    simp only [State.update, sameBirths]
    by_cases same : j = i
    · subst same
      simp only [↓reduceIte, Option.some.injEq, Held.mk.injEq] at here
      obtain ⟨k, born, -⟩ := upright.record j c n found
      refine ⟨k, born, ?_⟩
      rw [← here.1]
      exact record k born
    · simp only [same, ↓reduceIte] at here
      simp only [others_about about same]
      exact upright.record j d m here
  case quiet =>
    intro j
    by_cases same : j = i
    · subst same
      exact quiet
    · simp only [State.update, Due, others_about about same]
      exact upright.quiet j
  case dropped =>
    intro j
    by_cases same : j = i
    · subst same
      exact dropped
    · simp only [State.update, others_about about same]
      exact upright.dropped j
  case lawful => exact lawful
  case queued =>
    intro account
    have sameTaken : taken account (events ++ s.history) = taken account s.history :=
      unchanged_about _ (fun _ _ one => taken_about one account) about
    have sameLeftovers : leftovers account (events ++ s.history) = leftovers account s.history :=
      unchanged_about _ (fun _ _ one => leftovers_about one account) about
    simp only [State.update, State.everQueued, sameTaken, sameLeftovers, Closures.ledger_modify]
    exact upright.queued account
  case answered =>
    have earlier : ∀ event ∈ events ++ s.history, event.Reports → event ∈ s.history := by
      intro event noted reports
      rcases List.mem_append.1 noted with new | old
      · have one := about event new
        cases event <;> first | exact one.elim | exact reports.elim
      · exact old
    intro call j result noted
    have answer := upright.answered call j result (earlier _ noted trivial)
    exact answer.trans ⟨fun old => List.mem_append_right _ old, fun noted =>
      earlier _ noted trivial⟩

end Update

/-- A report changes nothing but what is known of the answers. -/
theorem Invariant.report {s : State} {event : Event} (invariant : Invariant s)
    (reports : event.Reports) (label : ∀ call, event.call? = some call → call ≤ s.history.length)
    (answered : ∀ call j result, Event.dropped call j result ∈ event :: s.history →
      Fair s.history →
      (result = .ok true ↔ Event.destroyed call (.ok ()) ∈ event :: s.history)) :
    Invariant (s.note event) := by
  obtain ⟨counted, upright⟩ := invariant
  have labelled := counted.labelled_cons label
  cases event with
  | dropped call j result =>
    exact ⟨{ counted with labelled := labelled }, fun fair =>
      { upright fair with
        lawful := ⟨(upright fair).lawful, allowed_of_quiet (upright fair).quiet trivial⟩
        answered := fun call j result noted => answered call j result noted fair }⟩
  | destroyed call outcome =>
    exact ⟨{ counted with labelled := labelled }, fun fair =>
      { upright fair with
        lawful := ⟨(upright fair).lawful, allowed_of_quiet (upright fair).quiet trivial⟩
        answered := fun call j result noted => answered call j result noted fair }⟩
  | _ => exact reports.elim

end GuestBridge.Lifetime
