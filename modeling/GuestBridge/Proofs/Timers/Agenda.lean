import GuestBridge.Proofs.Promises.Jobs
/-!
Settling promises and letting go of values queues microtasks at most: the clock and the timers stay
as they are, and so do the microtasks that wait already.
-/

set_option autoImplicit false

namespace GuestBridge

namespace EventLoop

/-- The clock and the timers, without the microtasks. -/
def agenda (e : EventLoop) : EventLoop := { e with microtasks := [] }

theorem agenda_popMicrotask (e : EventLoop) : e.popMicrotask.2.agenda = e.agenda := by
  unfold popMicrotask
  split <;> rfl

theorem of_agenda {e e' : EventLoop} (same : e'.agenda = e.agenda) :
    e'.timers = e.timers ∧ e'.now = e.now ∧ e'.scheduled = e.scheduled := by
  have timers := congrArg EventLoop.timers same
  have now := congrArg EventLoop.now same
  have scheduled := congrArg EventLoop.scheduled same
  exact ⟨timers, now, scheduled⟩

/-- Microtasks join the queue behind those that wait, and nothing else happens. -/
structure Queues (e e' : EventLoop) : Prop where
  agenda : e'.agenda = e.agenda
  tasks : e.microtasks <+: e'.microtasks

namespace Queues

instance : Std.Refl Queues := ⟨fun _ => ⟨rfl, List.prefix_rfl⟩⟩

instance : IsTrans EventLoop Queues where
  trans _ _ _ first second :=
    ⟨second.agenda.trans first.agenda, first.tasks.trans second.tasks⟩

theorem of_eq {e e' : EventLoop} (same : e' = e) : e.Queues e' :=
  ⟨congrArg _ same, same ▸ List.prefix_rfl⟩

theorem queue (e : EventLoop) (task : Microtask) : e.Queues (e.queue task) :=
  ⟨rfl, List.prefix_append _ _⟩

end Queues

end EventLoop

namespace Realm

theorem events_settle (r : Realm) (p : Nat) (outcome : Outcome) :
    (r.settle p outcome).1.events = r.events := by
  unfold settle
  split <;> rfl

theorem queues_doJob (r : Realm) (job : Job) : r.events.Queues (r.doJob job).1.events := by
  cases job with
  | letGo v => cases v <;> exact .of_eq rfl
  | reject p f => exact .of_eq (r.events_settle p _)
  | resolve p v =>
    simp only [doJob]
    split
    · split
      · exact .of_eq (r.events_settle p _)
      · exact .of_eq (events_hold (r.addReaction _ _) _)
      · exact .of_eq (r.events_settle p _)
      · next w _ => exact .of_eq (((r.hold w).events_settle p _).trans (r.events_hold w))
    · exact .of_eq rfl
  | react reaction outcome =>
    rcases reaction with ⟨callback, derived⟩ | derived <;> rcases outcome with v | f
    · simp only [doJob, events_hold]
      exact .queue _ _
    · exact .of_eq rfl
    · exact .of_eq (r.events_hold v)
    · exact .of_eq rfl

theorem queues_run (r : Realm) (jobs : List Job) : r.events.Queues (r.run jobs).events :=
  run_induction (P := fun r' _ => r.events.Queues r'.events)
    (fun r' job _ before => IsTrans.trans _ _ _ before (r'.queues_doJob job)) (Std.Refl.refl _)

theorem queues_hold (r : Realm) (v : Value) : r.events.Queues (r.hold v).events :=
  .of_eq (r.events_hold v)

theorem queues_letGo (r : Realm) (v : Value) : r.events.Queues (r.letGo v).events :=
  r.queues_run _

theorem queues_resolve (r : Realm) (p : Nat) (v : Value) :
    r.events.Queues (r.resolve p v).events := r.queues_run _

theorem queues_reject (r : Realm) (p : Nat) (f : Failure) :
    r.events.Queues (r.reject p f).events := r.queues_run _

theorem queues_andThen (r : Realm) (p callback : Nat) :
    r.events.Queues (r.andThen p callback).2.events := by
  unfold andThen
  simp only
  split
  · exact queues_run { r with promises := (r.promises.add (.pending []) 2).2 } _
  · exact .of_eq rfl

end Realm

end GuestBridge
