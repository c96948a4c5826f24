import GuestBridge.Proofs.ClosureCalls
import GuestBridge.Proofs.Lifetime.Places
/-!
Operations on closures from their beginning to their end. Whatever the guest does meanwhile is taken
as a step that keeps the invariant itself.
-/

set_option autoImplicit false

namespace GuestBridge.Lifetime

/-- How far an operation on closure `i` that began in `s` has come in `t`: whether it has entered
the guest and whether it holds the closure. What was active at its beginning is not destroyed. -/
structure Within (i entered held : Nat) (s t : State) : Prop where
  grows : s.history <:+ t.history
  calls : ∀ event ∈ t.history,
    event ∈ s.history ∨ ∀ call, event.call? = some call → s.history.length ≤ call
  busy : ∀ j, t.busy j = s.busy j + if j = i then held else 0
  active : ∀ j, active j t.history = active j s.history + if j = i then entered else 0
  kept : Fair t.history → ∀ j, 0 < Lifetime.active j s.history →
    destructions j t.history = destructions j s.history

/-- Whole operations lead from `s` to `t`. -/
abbrev Frame (s t : State) : Prop := Within 0 0 0 s t

namespace Within

variable {i entered held : Nat} {s t u : State}

theorem refl (i : Nat) (s : State) : Within i 0 0 s s where
  grows := List.suffix_refl _
  calls := fun _ noted => .inl noted
  busy := fun _ => by split <;> rfl
  active := fun _ => by split <;> rfl
  kept := fun _ _ _ => rfl

theorem frame (within : Within i 0 0 s t) : Frame s t where
  grows := within.grows
  calls := within.calls
  busy := fun j => by simpa using within.busy j
  active := fun j => by simpa using within.active j
  kept := within.kept

theorem trans (within : Within i entered held s t) (frame : Frame t u) :
    Within i entered held s u where
  grows := within.grows.trans frame.grows
  calls := by
    intro event noted
    rcases frame.calls event noted with before | after
    · exact within.calls event before
    · refine .inr fun call label => ?_
      exact Nat.le_trans within.grows.length_le (after call label)
  busy := fun j => by
    have := frame.busy j
    rw [← within.busy j]
    simpa using this
  active := fun j => by
    have := frame.active j
    rw [← within.active j]
    simpa using this
  kept := by
    intro fair j under
    have still : 0 < Lifetime.active j t.history := by
      have := within.active j
      omega
    rw [frame.kept fair j still, within.kept (fair.earlier frame.grows) j under]

/-- Events about the closure of the operation. -/
theorem update {entered' : Nat} {f : Closure → Closure} {events : List Event}
    (within : Within i entered held s t) (about : ∀ event ∈ events, event.About i)
    (labels : ∀ event ∈ events, ∀ call, event.call? = some call → s.history.length ≤ call)
    (now : Lifetime.active i (events ++ t.history) = Lifetime.active i s.history + entered')
    (kept : Fair (events ++ t.history) → 0 < Lifetime.active i s.history →
      destructions i (events ++ t.history) = destructions i t.history) :
    Within i entered' held s (t.update i f events) where
  grows := within.grows.trans (List.suffix_append ..)
  calls := by
    intro event noted
    rcases List.mem_append.1 noted with new | old
    · exact .inr (labels event new)
    · exact within.calls event old
  busy := within.busy
  active := by
    intro j
    by_cases same : j = i
    · subst same
      simpa only [State.update, ↓reduceIte] using now
    · have unchanged : Lifetime.active j (events ++ t.history) = Lifetime.active j t.history :=
        unchanged_about _ (fun _ _ one => active_about one same) about
      have before := within.active j
      simp only [State.update, unchanged, same, ↓reduceIte] at before ⊢
      exact before
  kept := by
    intro fair j under
    rw [← within.kept (fair.earlier (List.suffix_append ..)) j under]
    by_cases same : j = i
    · subst same
      exact kept fair under
    · exact unchanged_about _ (fun _ _ one => destructions_about one same) about

theorem report {event : Event} (within : Within i entered held s t) (reports : event.Reports)
    (label : ∀ call, event.call? = some call → s.history.length ≤ call) :
    Within i entered held s (t.note event) where
  grows := within.grows.trans (List.suffix_cons ..)
  calls := by
    intro other noted
    rcases List.mem_cons.1 noted with new | old
    · exact .inr (new ▸ label)
    · exact within.calls other old
  busy := within.busy
  active := by cases event <;> first | exact within.active | exact reports.elim
  kept := by cases event <;> first | exact within.kept | exact reports.elim

end Within

/-- A step that keeps the invariant, unless an invocation in it ends without a reference. -/
structure Preserves (f : State → State) : Prop where
  grows : ∀ s, s.history <:+ (f s).history
  keeps : ∀ s, NoUnderflow (f s).history → Invariant s → Invariant (f s) ∧ Frame s (f s)

theorem Preserves.comp {f g : State → State} (second : Preserves g) (first : Preserves f) :
    Preserves fun s => g (f s) where
  grows s := (first.grows s).trans (second.grows (f s))
  keeps s sound invariant := by
    have between := first.keeps s (sound.earlier (second.grows (f s))) invariant
    have after := second.keeps (f s) sound between.1
    exact ⟨after.1, between.2.trans after.2⟩

section Places

variable {s t : State} {i n : Nat} {c : Closure}

/-- One event that concerns neither the guest nor a call. -/
theorem frame_cons {event : Event} (history : t.history = event :: s.history)
    (busy : t.busy = s.busy) (silent : event.call? = none)
    (calm : ∀ j, active j (event :: s.history) = active j s.history ∧
      destructions j (event :: s.history) = destructions j s.history) : Frame s t where
  grows := history ▸ List.suffix_cons ..
  calls := by
    intro other noted
    rw [history] at noted
    rcases List.mem_cons.1 noted with new | old
    · refine .inr fun call label => ?_
      rw [new, silent] at label
      cases label
    · exact .inl old
  busy := by
    intro j
    rw [busy]
    split <;> rfl
  active := by
    intro j
    rw [history, (calm j).1]
    split <;> rfl
  kept := by
    intro _ j _
    rw [history, (calm j).2]

theorem grows_release (s : State) (i : Nat) : s.history <:+ (s.release i).history := by
  simp only [State.release]
  split
  · exact List.suffix_refl _
  · exact List.suffix_cons ..

theorem frame_release (s : State) (i : Nat) : Frame s (s.release i) := by
  simp only [State.release]
  split
  · exact { Within.refl 0 s with }
  · exact frame_cons rfl rfl rfl fun _ => ⟨rfl, rfl⟩

theorem preserves_hold (i : Nat) : Preserves (State.hold · i) where
  grows _ := List.suffix_refl _
  keeps s _ invariant := ⟨invariant.hold i, { Within.refl 0 s with }⟩

theorem preserves_letGo (i : Nat) :
    Preserves fun s => if 0 < s.spare i then s.release i else s where
  grows s := by
    split
    · exact grows_release s i
    · exact List.suffix_refl _
  keeps s _ invariant := by
    split
    · next spare =>
      refine ⟨?_, frame_release s i⟩
      cases found : s.closures.pool.held? i with
      | none => simp [State.spare, found] at spare
      | some entry =>
        simp only [State.spare, found, Option.map_some, Option.getD_some] at spare
        exact invariant.release found (by omega)
    · exact ⟨invariant, Within.refl 0 s⟩

theorem preserves_create (account : Account) (code destructor data metaWord : UInt32) :
    Preserves (State.create · account code destructor data metaWord) where
  grows _ := List.suffix_cons ..
  keeps _ _ invariant :=
    ⟨invariant.create, frame_cons rfl rfl rfl fun _ => ⟨rfl, rfl⟩⟩

theorem preserves_drain (account : Account) : Preserves (State.drain · account) where
  grows _ := List.suffix_cons ..
  keeps _ _ invariant :=
    ⟨invariant.drain, frame_cons rfl rfl rfl fun _ => ⟨rfl, rfl⟩⟩

end Places

section Ends

variable {s t : State} {i n : Nat} {c : Closure}

theorem begin_invariant (invariant : Invariant s)
    (found : s.closures.pool.held? i = some ⟨c, n⟩) :
    Invariant (s.begin i) ∧ (s.begin i).closures.pool.held? i = some ⟨c, n + 1⟩ ∧
      Within i 0 1 s (s.begin i) := by
  have there : (s.hold i).closures.pool.held? i = some ⟨c, n + 1⟩ := by
    rw [held?_hold found, if_pos rfl]
  have enough := (invariant.1.held i c n found).1
  have room := invariant.1.room i
  refine ⟨(invariant.hold i).setBusy there (Nat.le_succ_of_le room) (by omega), there, ?_⟩
  exact { Within.refl i s with
    busy := fun j => by
      simp only [State.begin, State.setBusy, State.hold]
      split
      · next same => rw [same]
      · rfl }

/-- An operation that is out of the guest again ends. -/
theorem finish_invariant {t : State} (invariant : Invariant t) (within : Within i 0 1 s t)
    (room : active i s.history ≤ s.busy i) : Invariant (t.finish i) ∧ Frame s (t.finish i) := by
  have held := within.busy i
  have inside := within.active i
  simp only [↓reduceIte] at held inside
  cases found : t.closures.pool.held? i with
  | none =>
    have := (invariant.1.absent i found).1
    omega
  | some entry =>
    obtain ⟨c, n⟩ := entry
    have enough := (invariant.1.held i c n found).1
    have idle := invariant.setBusy (m := t.busy i - 1) found (by omega) (by omega)
    have left : Within i 0 0 s (t.setBusy i (t.busy i - 1)) := { within with
      busy := fun j => by
        simp only [State.setBusy]
        split
        · next same => subst same; omega
        · next other => simpa [other] using within.busy j }
    refine ⟨idle.release found ?_, (left.trans (frame_release _ i)).frame⟩
    simp only [State.setBusy, ↓reduceIte]
    omega

theorem held?_begin (found : s.closures.pool.held? i = some ⟨c, n⟩) :
    (s.begin i).closures.pool.held? i = some ⟨c, n + 1⟩ := by
  simp only [State.begin, State.setBusy, held?_hold found, ↓reduceIte]

theorem grows_finish (t : State) (i : Nat) : t.history <:+ (t.finish i).history :=
  grows_release (t.setBusy i (t.busy i - 1)) i

theorem held?_of_contains (there : s.closures.pool.contains i = true) :
    ∃ c n, s.closures.pool.held? i = some ⟨c, n⟩ := by
  obtain ⟨⟨c, n⟩, found⟩ := Option.isSome_iff_exists.1 there
  exact ⟨c, n, found⟩

end Ends

section Destruction

variable {s t : State} {i : Nat} {during destruction : State → State}
  {outcome : Except Fault UInt32} {destroyed : Except Fault Unit}

/-- The state after a destructor was called on a data word. -/
def afterDestruction (t : State) (call i : Nat) (data : UInt32) (destruction : State → State)
    (destroyed : Except Fault Unit) : State :=
  let k := t.closures.get i
  (destruction (t.update i Closure.ended [.destroying call i k.destructor data k.metaWord])).note
    (.destroyed call destroyed)

theorem guest_finish (call i : Nat) (data : UInt32) (t : State) :
    ((guest call i during outcome destruction destroyed).finish i data).perform t =
      if (t.closures.get i).inert then (.ok (), t)
      else (destroyed, afterDestruction t call i data destruction destroyed) := by
  rw [ClosureCalls.perform_finish]
  rfl

/-- So far the call has begun at most to call the destructor. -/
def OnlyBegun (call : Nat) (history : List Event) : Prop :=
  ∀ event ∈ history, event.call? = some call →
    ∃ i destructor data metaWord, event = .destroying call i destructor data metaWord

theorem Counted.onlyBegun (counted : Counted s) : OnlyBegun s.history.length s.history :=
  fun event noted label => (Nat.lt_irrefl _ (counted.labelled event noted _ label)).elim

theorem OnlyBegun.cons {call : Nat} {past : List Event} {event : Event}
    (begun : OnlyBegun call past) (next : event.call? = some call →
      ∃ i destructor data metaWord, event = .destroying call i destructor data metaWord) :
    OnlyBegun call (event :: past) := by
  intro other noted label
  rcases List.mem_cons.1 noted with new | old
  · exact new ▸ next (new ▸ label)
  · exact begun other old label

theorem OnlyBegun.frame {call : Nat} (begun : OnlyBegun call s.history)
    (later : call < s.history.length) (frame : Frame s t) : OnlyBegun call t.history := by
  intro event noted label
  rcases frame.calls event noted with old | new
  · exact begun event old label
  · have := new call label
    omega

/-- The destructor comes back to the operation that called it. -/
theorem destruction_invariant (preserves : Preserves destruction) (invariant : Invariant t)
    (within : Within i 0 1 s t) (begun : OnlyBegun s.history.length t.history)
    (later : s.history.length < t.history.length) (sound : NoUnderflow (destruction t).history)
    (destroyed : Except Fault Unit) :
    Invariant ((destruction t).note (.destroyed s.history.length destroyed)) ∧
      Within i 0 1 s ((destruction t).note (.destroyed s.history.length destroyed)) ∧
      OnlyBegun s.history.length (destruction t).history := by
  obtain ⟨after, frame⟩ := preserves.keeps t sound invariant
  have stillBegun := begun.frame later frame
  refine ⟨after.report trivial ?_ ?_, (within.trans frame).report trivial ?_, stillBegun⟩
  · intro call label
    cases label
    exact (within.trans frame).grows.length_le
  · intro call j result noted fair
    have old : Event.dropped call j result ∈ (destruction t).history := by simpa using noted
    have answer := (after.2 fair).answered call j result old
    refine answer.trans ⟨fun done => List.mem_cons_of_mem _ done, fun done => ?_⟩
    rcases List.mem_cons.1 done with new | done
    · cases new
      obtain ⟨_, _, _, _, impossible⟩ := stillBegun _ old rfl
      cases impossible
    · exact done
  · intro call label
    cases label
    exact Nat.le_refl _

theorem grows_afterDestruction (preserves : Preserves destruction) (t : State) (call i : Nat)
    (data : UInt32) :
    t.history <:+ (afterDestruction t call i data destruction destroyed).history :=
  ((List.suffix_cons ..).trans (preserves.grows (t.update i Closure.ended [_]))).trans
    (List.suffix_cons ..)

theorem OnlyBegun.undone {call : Nat} {past : List Event} (begun : OnlyBegun call past)
    (outcome : Except Fault Unit) : Event.destroyed call outcome ∉ past := by
  intro noted
  obtain ⟨_, _, _, _, impossible⟩ := begun _ noted rfl
  cases impossible

end Destruction

end GuestBridge.Lifetime
