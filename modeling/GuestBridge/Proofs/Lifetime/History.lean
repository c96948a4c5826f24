import GuestBridge.Proofs.Lifetime.Course
/-!
Laws of histories. Whether an event may come next is decided by what came before it, so the laws
of a whole history are kept one event at a time, and hold of every earlier moment too.
-/

set_option autoImplicit false

namespace GuestBridge.Lifetime

/-- The operation that an event belongs to, where it says so. -/
def Event.call? : Event → Option Nat
  | .dropped call .. | .destroying call .. | .destroyed call _ => some call
  | _ => none

def Event.destroys (i : Nat) : Event → Prop
  | .destroying _ j .. => j = i
  | _ => False

/-- Events that leave everything but the standing of one closure as it was. -/
def Event.About (i : Nat) : Event → Prop
  | .entered j .. | .left j _ | .dropping j _ | .destroying _ j .. => j = i
  | _ => False

/-- Events that say how something ended that has ended already. -/
def Event.Reports : Event → Prop
  | .dropped .. | .destroyed .. => True
  | _ => False

/-- The guest's reference is given up and no invocation is under way, but the destructor was not
called yet. -/
def Due (i : Nat) (past : List Event) : Prop :=
  0 < drops i past ∧ active i past = 0 ∧ destructions i past = 0

/-- What may come next. A destructor that is due comes before anything else, and no other does. -/
def Allowed (past : List Event) (event : Event) : Prop :=
  (∀ i, Due i past → event.destroys i) ∧
    match event with
    | .destroying _ i destructor data metaWord =>
      Due i past ∧ departures i past = 0 ∧
        ∃ k, (births past)[i]? = some k ∧
          destructor = k.destructor ∧ data = k.data ∧ metaWord = k.metaWord
    | .gone i queued =>
      departures i past = 0 ∧ ∃ k, (births past)[i]? = some k ∧
        queued = if destructions i past = 0 then [k.finalizer] else []
    | _ => True

def Lawful : List Event → Prop
  | [] => True
  | event :: past => Lawful past ∧ Allowed past event

/-- No closure loses more than the guest's one reference. -/
def Fair (history : List Event) : Prop := ∀ i, drops i history ≤ 1

theorem Lawful.allowed {history past : List Event} {event : Event} (lawful : Lawful history)
    (earlier : event :: past <:+ history) : Allowed past event := by
  induction history with
  | nil => simp at earlier
  | cons latest rest ih =>
    rcases List.suffix_cons_iff.1 earlier with same | before
    · cases same
      exact lawful.2
    · exact ih lawful.1 before

/-! Growing histories. -/

theorem NoUnderflow.earlier {past history : List Event} (sound : NoUnderflow history)
    (earlier : past <:+ history) : NoUnderflow past :=
  fun event inside => sound event (earlier.subset inside)

/-- What no single event makes less is not less later. -/
theorem le_of_earlier {f : List Event → Nat} (step : ∀ event past, f past ≤ f (event :: past))
    {past history : List Event} (earlier : past <:+ history) : f past ≤ f history := by
  induction history with
  | nil => exact Nat.le_of_eq (congrArg f (List.suffix_nil.1 earlier))
  | cons latest rest ih =>
    rcases List.suffix_cons_iff.1 earlier with same | before
    · exact Nat.le_of_eq (congrArg f same)
    · exact Nat.le_trans (ih before) (step latest rest)

theorem drops_le_cons (i : Nat) (event : Event) (past : List Event) :
    drops i past ≤ drops i (event :: past) := by
  cases event <;> simp [drops]

theorem destructions_le_cons (i : Nat) (event : Event) (past : List Event) :
    destructions i past ≤ destructions i (event :: past) := by
  cases event <;> simp [destructions]

theorem Fair.earlier {past history : List Event} (fair : Fair history)
    (earlier : past <:+ history) : Fair past :=
  fun i => Nat.le_trans (le_of_earlier (drops_le_cons i) earlier) (fair i)

theorem births_prefix_cons (event : Event) (past : List Event) :
    births past <+: births (event :: past) := by
  cases event <;> simp [births]

theorem births_prefix {past history : List Event} (earlier : past <:+ history) :
    births past <+: births history := by
  induction history with
  | nil => simp_all
  | cons latest rest ih =>
    rcases List.suffix_cons_iff.1 earlier with same | before
    · subst same
      exact List.prefix_refl _
    · exact (ih before).trans (births_prefix_cons latest rest)

theorem births_of_earlier {past history : List Event} (earlier : past <:+ history) {i : Nat}
    {k : Closure} (born : (births past)[i]? = some k) : (births history)[i]? = some k := by
  obtain ⟨later, whole⟩ := births_prefix earlier
  rw [← whole]
  exact (List.getElem?_append_left (List.getElem?_eq_some_iff.1 born).1).trans born

/-! What events about one closure leave alone. -/

section About

variable {i : Nat} {event : Event} {past : List Event}

theorem births_about (about : event.About i) : births (event :: past) = births past := by
  cases event <;> first | rfl | exact about.elim

theorem departures_about (about : event.About i) (j : Nat) :
    departures j (event :: past) = departures j past := by
  cases event <;> first | rfl | exact about.elim

theorem leftovers_about (about : event.About i) (account : Account) :
    leftovers account (event :: past) = leftovers account past := by
  cases event <;> first | rfl | exact about.elim

theorem taken_about (about : event.About i) (account : Account) :
    taken account (event :: past) = taken account past := by
  cases event <;> first | rfl | exact about.elim

theorem active_about (about : event.About i) {j : Nat} (other : j ≠ i) :
    active j (event :: past) = active j past := by
  cases event <;> simp_all [Event.About, active, Ne.symm]

theorem drops_about (about : event.About i) {j : Nat} (other : j ≠ i) :
    drops j (event :: past) = drops j past := by
  cases event <;> simp_all [Event.About, drops, Ne.symm]

theorem destructions_about (about : event.About i) {j : Nat} (other : j ≠ i) :
    destructions j (event :: past) = destructions j past := by
  cases event <;> simp_all [Event.About, destructions, Ne.symm]

/-- What no single event about a closure changes, several of them do not change either. -/
theorem unchanged_about {β : Type} (f : List Event → β)
    (single : ∀ (event : Event) (past : List Event), event.About i → f (event :: past) = f past)
    {events : List Event} (about : ∀ event ∈ events, event.About i) :
    f (events ++ past) = f past := by
  induction events with
  | nil => rfl
  | cons latest rest ih =>
    rw [List.cons_append, single latest (rest ++ past) (about latest (List.mem_cons_self ..)),
      ih fun event inside => about event (List.mem_cons_of_mem _ inside)]

/-- The other closures do not notice. -/
theorem others_about {events : List Event} (about : ∀ event ∈ events, event.About i) {j : Nat}
    (other : j ≠ i) : active j (events ++ past) = active j past ∧
      drops j (events ++ past) = drops j past ∧
      destructions j (events ++ past) = destructions j past :=
  ⟨unchanged_about _ (fun _ _ one => active_about one other) about,
    unchanged_about _ (fun _ _ one => drops_about one other) about,
    unchanged_about _ (fun _ _ one => destructions_about one other) about⟩

end About

/-- While nothing is due, any event may come that is neither a destruction nor a departure. -/
theorem allowed_of_quiet {past : List Event} {event : Event} (quiet : ∀ i, ¬ Due i past)
    (plain : match event with
      | .destroying .. | .gone .. => False
      | _ => True) : Allowed past event := by
  refine ⟨fun i due => (quiet i due).elim, ?_⟩
  cases event <;> trivial

/-- A destructor that has just become due may be called with the words of the creation. -/
theorem Lawful.destroying {past : List Event} {event : Event} {i : Nat} {k : Closure}
    (lawful : Lawful (event :: past)) (quiet : ∀ j, ¬ Due j past) (about : event.About i)
    (due : Due i (event :: past)) (present : departures i past = 0)
    (born : (births past)[i]? = some k) (call : Nat) {destructor data metaWord : UInt32}
    (words : destructor = k.destructor ∧ data = k.data ∧ metaWord = k.metaWord) :
    Lawful (.destroying call i destructor data metaWord :: event :: past) := by
  refine ⟨lawful, fun j dueOther => ?_, due, ?_, k, ?_, words⟩
  · by_cases same : j = i
    · exact same.symm
    · have before : Due j past := by
        refine ⟨?_, ?_, ?_⟩
        · rw [← drops_about about same]
          exact dueOther.1
        · rw [← active_about about same]
          exact dueOther.2.1
        · rw [← destructions_about about same]
          exact dueOther.2.2
      exact (quiet j before).elim
  · rw [departures_about about]
    exact present
  · rw [births_about about]
    exact born

end GuestBridge.Lifetime
