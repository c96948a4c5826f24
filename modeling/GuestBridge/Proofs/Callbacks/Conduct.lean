import Mathlib
import GuestBridge.Proofs.Callbacks.Keeping
/-!
Each operation keeps callbacks in custody, and so does any sequence of operations.
-/

set_option autoImplicit false

namespace GuestBridge

/-- The loop with one timer less. -/
structure EventLoop.Without (e : EventLoop) (t : Timer) (e' : EventLoop) : Prop where
  timers : e.timers.Perm (t :: e'.timers)
  microtasks : e'.microtasks = e.microtasks
  queued : e'.Queued

namespace EventLoop

variable {e e' : EventLoop}

theorem microtasks_clearTimeout (e : EventLoop) (id : UInt32) :
    (e.clearTimeout id).2.microtasks = e.microtasks := by
  rcases e.clearTimeout_cases id with ⟨-, unchanged⟩ | ⟨key, -, changed⟩
  · rw [unchanged]
  · rw [changed]

theorem Queued.without_cancelled (queued : e.Queued) {id : UInt32} {t : Timer}
    (found : e.clearTimeout id = (some t, e')) : e.Without t e' := by
  have after : e'.Queued := by
    have after := queued.clearTimeout id
    rwa [found] at after
  have tasks := e.microtasks_clearTimeout id
  rw [found] at tasks
  refine ⟨?_, tasks, after⟩
  obtain ⟨inside, mem, -, -⟩ := clearTimeout_some queued found
  have once : (t :: e'.timers).Nodup :=
    List.nodup_cons.2 ⟨fun again => ((mem t).1 again).2 rfl, after.nodup⟩
  refine (List.perm_ext_iff_of_nodup queued.nodup once).2 fun u => ?_
  rw [List.mem_cons, mem]
  by_cases same : u = t
  · simp [same, inside]
  · simp [same]

theorem Queued.without_fired (queued : e.Queued) {deadline : UInt64} {t : Timer}
    (due : e.popDue deadline = (some t, e')) : e.Without t e' := by
  have after : e'.Queued := by
    have after := queued.popDue deadline
    rwa [due] at after
  refine ⟨.of_eq (popDue_some due).1, ?_, after⟩
  rcases e.popDue_cases deadline with ⟨unchanged, -⟩ | ⟨u, rest, -, -, changed⟩
  · rw [unchanged] at due
    cases due
  · rw [changed] at due
    cases due
    rfl

end EventLoop

theorem Realm.Job.ofTask_letsGo (task : Microtask) : ∀ job ∈ ofTask task, job.LetsGo := by
  intro job inside
  rcases List.mem_append.1 inside with own | last
  · rcases List.mem_cons.1 own with rfl | own
    · exact ⟨_, rfl⟩
    · exact ⟨_, List.mem_singleton.1 own⟩
  · obtain ⟨promise, -, same⟩ := Option.map_eq_some_iff.1 (Option.mem_toList.1 last)
    exact ⟨_, same.symm⟩

namespace Custody

open Realm

variable {s : Custody} {i : Nat}

/-- A cascade begins with jobs that no callback is concerned with. -/
theorem Sound.begin (sound : s.Sound []) {base : Realm} (same : Realm.Same s.realm base)
    (fewer : s.realm.closures.Fewer base.closures) (jobs : List Job)
    (quiet : ∀ i, s.Reserved i → s.realm.closures.Aside i base.closures ∧
      ∀ job ∈ jobs, job.keeps i = 0 ∧ job.drops i = 0 ∧ job.Spares i) :
    { s with realm := base }.Sound jobs := by
  refine sound.lead ?leads rfl fun i reserved spares => ?moves
  case leads =>
    constructor
    case registered => exact List.Subset.refl _
    case gone => exact fun reg _ gone => (same.promises _).trans gone
    case homes => exact fun p reactions found => sound.homes p reactions (same.promises p ▸ found)
    case known =>
      intro reg member
      have known := sound.known reg member
      exact ⟨same.size.symm ▸ known.1, fewer.size.symm ▸ known.2⟩
    case queued => exact same.events ▸ sound.queued
    case fewer => exact fewer
    case drained => rfl
  case moves =>
    obtain ⟨aside, none⟩ := quiet i reserved
    have keeps := Job.sum_eq_zero fun job inside => (none job inside).1
    have drops := Job.sum_eq_zero fun job inside => (none job inside).2.1
    constructor
    case kept =>
      unfold letGo ended
      rw [keeps, same.keeps, same.rejections]
      rfl
    case places => rw [keeps, drops, same.keeps]
    case closures => exact aside
    case stored => exact same.spares spares
    case spares => exact fun job inside => (none job inside).2.2

theorem Sound.hold (sound : s.Sound []) {v : Value} (apart : ∀ i, s.Reserved i → v ≠ .function i)
    (jobs : List Job)
    (quiet : ∀ i, v ≠ .function i →
      ∀ job ∈ jobs, job.keeps i = 0 ∧ job.drops i = 0 ∧ job.Spares i) :
    { s with realm := s.realm.hold v }.Sound jobs :=
  sound.begin (.hold _ v) (s.realm.fewer_hold v) jobs fun i reserved =>
    ⟨aside_hold (apart i reserved) s.realm, quiet i (apart i reserved)⟩

theorem Reserved.of_hold {v : Value} (reserved : { s with realm := s.realm.hold v }.Reserved i) :
    s.Reserved i :=
  reserved.imp_left fun beyond => (s.realm.fewer_hold v).size ▸ beyond

theorem Sound.resolve (sound : s.Sound []) (p : Nat) {v : Value} (may : s.mayPass v = true) :
    { s with realm := (s.realm.hold v).resolve p v }.Sound [] := by
  refine (sound.hold (fun _ => apart_of_mayPass may) [.resolve p v]
    fun i apart job inside => ?_).run
  rw [List.mem_singleton.1 inside]
  exact ⟨rfl, rfl, apart⟩

theorem Sound.reject (sound : s.Sound []) (p : Nat) (f : Failure) :
    { s with realm := s.realm.reject p f }.Sound [] := by
  refine (sound.begin (.refl _) (.refl _) [.reject p f] fun i _ =>
    ⟨.refl i _, fun job inside => ?_⟩).run
  rw [List.mem_singleton.1 inside]
  exact ⟨rfl, rfl, trivial⟩

theorem Sound.letGo (sound : s.Sound []) {v : Value} (may : s.mayPass v = true) :
    { s with realm := s.realm.letGo v }.Sound [] := by
  refine (sound.begin (.refl _) (.refl _) [.letGo v] fun i reserved =>
    ⟨.refl i _, fun job inside => ?_⟩).run
  rw [List.mem_singleton.1 inside]
  exact ⟨rfl, if_neg (apart_of_mayPass may reserved), trivial⟩

/-- Timers and microtasks may go, and the jobs that let go of callbacks make up for them. -/
theorem Sound.less_events (sound : s.Sound []) {events : EventLoop} {popped cancelled : List Nat}
    {jobs : List Job} (gone : Nat → Nat) (queued : events.Queued)
    (count : ∀ i, events.timers.countP (fun t => t.callback = i) +
      events.microtasks.countP (fun task => task.callback = i) + gone i =
        s.realm.onTimers i + s.realm.onTasks i)
    (ended : ∀ i, popped.count i + cancelled.count i = s.ended i + gone i)
    (tasks : ∀ task ∈ events.microtasks, task ∈ s.realm.events.microtasks)
    (letGo : ∀ job ∈ jobs, job.LetsGo)
    (drops : ∀ i, s.realm.Spares i → (jobs.map (Job.drops i)).sum = gone i) :
    { s with
      realm := { s.realm with events := events }
      popped := popped
      cancelled := cancelled }.Sound jobs := by
  refine sound.lead ?leads rfl fun i reserved spares => ?moves
  case leads =>
    exact ⟨List.Subset.refl _, fun _ _ gone => gone, sound.homes, sound.known, queued, .refl _, rfl⟩
  case moves =>
    have keeps : ({ s.realm with events := events } : Realm).keeps i + gone i =
        s.realm.keeps i := by
      have count := count i
      change (events.timers.countP _ + events.microtasks.countP _ + s.realm.onPromises i) + _ =
        s.realm.onTimers i + s.realm.onTasks i + s.realm.onPromises i
      omega
    have none := Job.sum_eq_zero fun job inside => (letGo job inside).keeps i
    constructor
    case kept =>
      have ended := ended i
      rw [none]
      change ({ s.realm with events := events } : Realm).keeps i + 0 +
        (popped.count i + cancelled.count i + s.realm.rejections s.registered i) =
        s.realm.keeps i + (s.ended i + s.realm.rejections s.registered i) + 0
      omega
    case places =>
      rw [none, drops i spares]
      exact keeps
    case closures => exact .refl i _
    case stored => exact ⟨spares.stored, fun task inside => spares.passed task (tasks task inside)⟩
    case spares => exact fun job inside => (letGo job inside).spares i

/-- A timer goes, and its callback with it. -/
theorem Sound.untimed (sound : s.Sound []) {t : Timer} {events : EventLoop}
    (without : s.realm.events.Without t events) {popped cancelled : List Nat}
    (ended : ∀ i, popped.count i + cancelled.count i =
      s.ended i + if t.callback = i then 1 else 0) :
    { s with
      realm := { s.realm with events := events }.letGo (.function t.callback)
      popped := popped
      cancelled := cancelled }.Sound [] := by
  have change : { s with
      realm := { s.realm with events := events }
      popped := popped
      cancelled := cancelled }.Sound [.letGo (.function t.callback)] := by
    refine sound.less_events _ without.queued (fun i => ?_) ended ?_ (letsGo_singleton _)
      fun i _ => ?_
    · unfold onTimers onTasks
      rw [without.timers.countP_eq, without.microtasks, List.countP_cons]
      simp only [decide_eq_true_eq]
      omega
    · exact fun task inside => without.microtasks ▸ inside
    · simp [Job.drops]
  exact change.run

/-- A microtask goes with all that it holds. -/
theorem Sound.taken (sound : s.Sound []) {task : Microtask} {rest : List Microtask}
    (queue : s.realm.events.microtasks = task :: rest) :
    { s with
      realm := { s.realm with events := { s.realm.events with microtasks := rest } }.run
        (Job.ofTask task)
      popped := s.popped ++ [task.callback] }.Sound [] := by
  have change : { s with
      realm := { s.realm with events := { s.realm.events with microtasks := rest } }
      popped := s.popped ++ [task.callback] }.Sound (Job.ofTask task) := by
    refine sound.less_events (fun i => if task.callback = i then 1 else 0)
      (sound.queued.sublist (List.Sublist.refl _) rfl) (fun i => ?_) (fun i => ?_)
      (fun other inside => queue ▸ List.mem_cons_of_mem _ inside) (Job.ofTask_letsGo task)
      fun i spares => ?_
    · unfold onTimers onTasks
      rw [queue, List.countP_cons]
      simp only [decide_eq_true_eq]
      exact Nat.add_assoc ..
    · simp only [List.count_append, List.count_singleton, beq_iff_eq, Custody.ended]
      omega
    · have argument : task.argument ≠ .function i :=
        spares.passed task (queue ▸ List.mem_cons_self ..)
      unfold Job.ofTask
      rcases task.settles with _ | p <;> simp [Job.drops, argument]
  exact change.run

/-- A promise more, that no callback waits with. -/
theorem Sound.added (sound : s.Sound []) {promise : Promise} (holders : Nat)
    (bare : ∀ reactions, promise = .pending reactions → reactions = [])
    (spared : ∀ i, s.Reserved i → ∀ outcome, promise = .settled outcome → outcome.Spares i) :
    { s with realm := s.realm.added promise holders }.Sound [] := by
  have older (reg : Registration) (member : reg ∈ s.registered) :
      (s.realm.added promise holders).promises.get? reg.promise =
        s.realm.promises.get? reg.promise :=
    (get?_added ..).trans (if_neg (Nat.ne_of_lt (sound.known reg member).1))
  refine sound.lead ?leads rfl fun i reserved spares => ?moves
  case leads =>
    constructor
    case registered => exact List.Subset.refl _
    case gone => exact fun reg member gone => (older reg member).trans gone
    case homes =>
      intro q reactions found i
      rw [get?_added] at found
      split at found
      · next new =>
        rw [bare reactions (Option.some.inj found)]
        refine (List.countP_eq_zero.2 fun reg member waits => ?_).symm
        have both := of_decide_eq_true waits
        exact absurd (sound.known reg member).1 (Nat.not_lt.2 (Nat.le_of_eq (new ▸ both.2.symm)))
      · exact sound.homes q reactions found i
    case known =>
      intro reg member
      have known := sound.known reg member
      exact ⟨(size_added ..).symm ▸ Nat.lt_succ_of_lt known.1, known.2⟩
    case queued => exact sound.queued
    case fewer => exact .refl _
    case drained => rfl
  case moves =>
    have none : promise.keeps i = 0 := by
      cases promise with
      | pending reactions => rw [bare reactions rfl, Promise.keeps, List.countP_nil]
      | settled outcome => rfl
    have keeps : (s.realm.added promise holders).keeps i = s.realm.keeps i := by
      have total := Pool.total_add s.realm.promises promise holders (Promise.keeps i)
      rw [none] at total
      exact congrArg (s.realm.onTimers i + s.realm.onTasks i + ·) total
    have rejections : (s.realm.added promise holders).rejections s.registered i =
        s.realm.rejections s.registered i :=
      rejections_congr fun reg member _ => isRejected_congr (older reg member)
    constructor
    case kept =>
      unfold Custody.letGo Custody.ended
      rw [keeps, rejections]
      rfl
    case places =>
      rw [keeps]
      rfl
    case closures => exact .refl i _
    case stored =>
      refine ⟨fun q outcome settled => ?_, spares.passed⟩
      rw [get?_added] at settled
      split at settled
      · exact spared i reserved outcome (Option.some.inj settled)
      · exact spares.stored q outcome settled
    case spares => exact List.forall_mem_nil _

theorem Sound.new (sound : s.Sound []) (holders : Nat) :
    { s with realm := s.realm.added (.pending []) holders }.Sound [] := by
  refine sound.added holders (fun reactions same => ?_) fun i _ outcome same => ?_
  · cases same
    rfl
  · cases same

/-- A callback is made and put in a place of the event loop. -/
theorem Sound.place_events (sound : s.Sound []) (k : Blueprint) {events : EventLoop}
    (queued : events.Queued)
    (count : ∀ i, events.timers.countP (fun t => t.callback = i) +
      events.microtasks.countP (fun task => task.callback = i) =
        s.realm.onTimers i + s.realm.onTasks i +
          if s.realm.closures.pool.size = i then 1 else 0)
    (passed : ∀ i, s.Reserved i → s.realm.Spares i →
      ∀ task ∈ events.microtasks, task.argument ≠ .function i) :
    { s.handOver k with realm := { (s.realm.make k).2 with events := events } }.Sound [] := by
  refine sound.place k ?leads rfl fun i reserved spares => ?moves
  case leads =>
    exact ⟨List.Subset.refl _, fun _ _ gone => gone, sound.homes, (sound.make k).known, queued,
      .refl _, rfl⟩
  case moves =>
    have keeps : ({ (s.realm.make k).2 with events := events } : Realm).keeps i =
        s.realm.keeps i + if s.realm.closures.pool.size = i then 1 else 0 := by
      have count := count i
      change events.timers.countP _ + events.microtasks.countP _ + s.realm.onPromises i =
        s.realm.onTimers i + s.realm.onTasks i + s.realm.onPromises i + _
      omega
    constructor
    case kept =>
      change _ + 0 + s.letGo i = s.realm.keeps i + s.letGo i + _
      rw [keeps]
      omega
    case places => exact keeps
    case closures => exact .refl i _
    case stored => exact ⟨spares.stored, passed i reserved spares⟩
    case spares => exact List.forall_mem_nil _

theorem Sound.schedule (sound : s.Sound []) (k : Blueprint) (delay : UInt64) :
    (s.step (.schedule k delay)).Sound [] := by
  refine sound.place_events k (sound.queued.setTimeout s.realm.closures.pool.size delay)
    (fun i => ?_) fun i _ spares => spares.passed
  rw [EventLoop.timers_setTimeout, (EventLoop.insertTimer_perm _ _).countP_eq, List.countP_cons]
  simp only [decide_eq_true_eq]
  exact Nat.add_right_comm ..

theorem Sound.queue (sound : s.Sound []) (k : Blueprint) {argument : Value}
    (apart : ∀ i, s.Reserved i → argument ≠ .function i) (settles : Option Nat) :
    { s.handOver k with
      realm := { (s.realm.make k).2 with
        events := s.realm.events.queue ⟨s.realm.closures.pool.size, argument, settles⟩ } }.Sound
      [] := by
  have queues := EventLoop.Queues.queue s.realm.events
    ⟨s.realm.closures.pool.size, argument, settles⟩
  refine sound.place_events k (queues.queued sound.queued) (fun i => ?_)
    fun i reserved spares task inside => ?_
  · simp only [EventLoop.queue, List.countP_append, List.countP_singleton, decide_eq_true_eq]
    exact (Nat.add_assoc ..).symm
  · rcases List.mem_append.1 inside with old | new
    · exact spares.passed task old
    · rw [List.mem_singleton.1 new]
      exact apart i reserved

theorem rejections_concat (r : Realm) (regs : List Registration) (reg : Registration) (i : Nat) :
    r.rejections (regs ++ [reg]) i =
      r.rejections regs i + if reg.callback = i ∧ r.isRejected reg.promise then 1 else 0 := by
  simp only [Realm.rejections, List.countP_append, List.countP_singleton, decide_eq_true_eq]

theorem Sound.known_registered (sound : s.Sound []) (k : Blueprint) {p : Nat} {promise : Promise}
    (found : s.realm.promises.get? p = some promise) (derived : Nat) :
    ∀ reg ∈ s.registered ++ [Registration.mk p s.realm.closures.pool.size derived],
      reg.promise < s.realm.promises.size ∧
        reg.callback < (s.realm.make k).2.closures.pool.size := by
  intro reg member
  have size : (s.realm.make k).2.closures.pool.size = s.realm.closures.pool.size + 1 :=
    Closures.size_make ..
  rw [size]
  rcases List.mem_append.1 member with old | new
  · have known := sound.known reg old
    exact ⟨known.1, Nat.lt_succ_of_lt known.2⟩
  · rw [List.mem_singleton.1 new]
    exact ⟨lt_size_of_get? found, Nat.lt_succ_self _⟩

/-- A callback is made and waits with a promise. -/
theorem Sound.register_pending (sound : s.Sound []) {p : Nat} {reactions : List Reaction}
    (found : s.realm.promises.get? p = some (.pending reactions)) (k : Blueprint) (derived : Nat) :
    { s.handOver k with
      realm := (s.realm.make k).2.addReaction p (.call s.realm.closures.pool.size derived)
      registered :=
        s.registered ++ [Registration.mk p s.realm.closures.pool.size derived] }.Sound [] := by
  have now := get?_addReaction (s.realm.make k).2 p (.call s.realm.closures.pool.size derived)
  refine sound.place k ?leads rfl fun i reserved spares => ?moves
  case leads =>
    constructor
    case registered => exact List.subset_append_left _ _
    case gone =>
      intro reg member gone
      have apart : reg.promise ≠ p := by
        intro same
        have absent := same ▸ gone
        exact absurd (found.symm.trans absent) (Option.some_ne_none _)
      exact (now reg.promise).trans ((if_neg apart).trans gone)
    case homes =>
      intro q others here i
      rw [now] at here
      rw [List.countP_append, List.countP_singleton]
      split at here
      · next same =>
        obtain ⟨before, there, grown⟩ := Option.map_eq_some_iff.1 here
        cases found.symm.trans there
        cases grown
        subst same
        rw [List.countP_append, sound.homes q reactions found i, List.countP_singleton]
        simp [Reaction.calls]
      · next other =>
        have apart : ¬ p = q := fun same => other same.symm
        simpa [apart] using sound.homes q others here i
    case known =>
      intro reg member
      have size := Pool.size_modify s.realm.promises p
        (Promise.withReaction (.call s.realm.closures.pool.size derived))
      have known := sound.known_registered k found derived reg member
      exact ⟨size.symm ▸ known.1, known.2⟩
    case queued => exact sound.queued
    case fewer => exact .refl _
    case drained => rfl
  case moves =>
    have pending : s.realm.isPending p = true := isPending_eq_true.2 ⟨reactions, found⟩
    have keeps : ((s.realm.make k).2.addReaction p
        (.call s.realm.closures.pool.size derived)).keeps i =
        s.realm.keeps i + if s.realm.closures.pool.size = i then 1 else 0 := by
      have more := keeps_addReaction s.realm p (.call s.realm.closures.pool.size derived) i
      simp only [pending, Reaction.calls, decide_eq_true_eq, true_and] at more
      exact more
    have settled : s.realm.isRejected p = false := by
      unfold Realm.isRejected
      rw [found]
      rfl
    have rejections : ((s.realm.make k).2.addReaction p
        (.call s.realm.closures.pool.size derived)).rejections
          (s.registered ++ [Registration.mk p s.realm.closures.pool.size derived]) i =
        s.realm.rejections s.registered i := by
      have more := rejections_concat s.realm s.registered
        (Registration.mk p s.realm.closures.pool.size derived) i
      simp only [settled, Bool.false_eq_true, and_false, ↓reduceIte, Nat.add_zero] at more
      exact (rejections_addReaction ..).trans more
    constructor
    case kept =>
      change _ + 0 + (s.ended i + _) =
        s.realm.keeps i + (s.ended i + s.realm.rejections s.registered i) + _
      rw [keeps, rejections]
      omega
    case places => exact keeps
    case closures => exact .refl i _
    case stored => exact Spares.addReaction ((spares_make _ k).2 spares) p _
    case spares => exact List.forall_mem_nil _

/-- A callback is made for a settled promise, which hands it on or drops it. -/
theorem Sound.register_settled (sound : s.Sound []) {p : Nat} {outcome : Outcome}
    (found : s.realm.promises.get? p = some (.settled outcome)) (k : Blueprint) (derived : Nat) :
    { s.handOver k with
      registered := s.registered ++ [Registration.mk p s.realm.closures.pool.size derived] }.Sound
      [.react (.call s.realm.closures.pool.size derived) outcome] := by
  refine sound.place k ?leads rfl fun i reserved spares => ?moves
  case leads =>
    constructor
    case registered => exact List.subset_append_left _ _
    case gone => exact fun _ _ gone => gone
    case homes =>
      intro q others here i
      have apart : ¬ p = q := by
        rintro rfl
        have same := found.symm.trans here
        cases same
      rw [List.countP_append, List.countP_singleton]
      simpa [apart] using sound.homes q others here i
    case known => exact sound.known_registered k found derived
    case queued => exact sound.queued
    case fewer => exact .refl _
    case drained => rfl
  case moves =>
    have rejected : s.realm.isRejected p = Promise.isRejected (.settled outcome) := by
      unfold Realm.isRejected
      rw [found]
      rfl
    have rejections := rejections_concat s.realm s.registered
      ⟨p, s.realm.closures.pool.size, derived⟩ i
    rw [rejected] at rejections
    constructor
    case kept =>
      change s.realm.keeps i + _ + (s.ended i + s.realm.rejections _ i) =
        s.realm.keeps i + (s.ended i + s.realm.rejections s.registered i) + _
      rw [rejections]
      cases outcome <;>
        simp [Job.keeps, Reaction.calls, Promise.isRejected] <;> omega
    case places =>
      change s.realm.keeps i + _ + _ = s.realm.keeps i + _
      cases outcome <;> simp [Job.keeps, Job.drops, Reaction.calls]
    case closures => exact .refl i _
    case stored => exact ⟨spares.stored, spares.passed⟩
    case spares =>
      intro job inside
      rw [List.mem_singleton.1 inside]
      exact spares.stored p outcome found

theorem Sound.andThen (sound : s.Sound []) {p : Nat} (there : s.has p = true) (k : Blueprint) :
    (s.step (.andThen p k)).Sound [] := by
  obtain ⟨promise, found⟩ := Pool.contains_iff.1 there
  have more := sound.new 2
  have still : (s.realm.added (.pending []) 2).promises.get? p = some promise :=
    (get?_added ..).trans ((if_neg (Nat.ne_of_lt (lt_size_of_get? found))).trans found)
  simp only [step, there, ↓reduceIte]
  cases promise with
  | pending reactions =>
    have done := more.register_pending still k s.realm.promises.size
    have waits := andThen_pending (r := (s.realm.make k).2) found (s.realm.make k).1
    rw [waits]
    exact done
  | settled outcome =>
    have done := (more.register_settled still k s.realm.promises.size).run
    have goes := andThen_settled (r := (s.realm.make k).2) found (s.realm.make k).1
    rw [goes]
    exact done

theorem Sound.drain (sound : s.Sound []) (account : Account) :
    (s.step (.drain account)).Sound [] := by
  have pool : (s.realm.closures.takeFinalizers account).2.pool = s.realm.closures.pool :=
    Closures.pool_setLedger ..
  constructor
  case homes => exact sound.homes
  case known =>
    intro reg member
    have known := sound.known reg member
    exact ⟨known.1, pool ▸ known.2⟩
  case made => exact fun h member => pool ▸ sound.made h member
  case queued => exact sound.queued
  case numbered => exact sound.numbered.drain account
  case tended =>
    intro i whole state tends retains
    cases tends with
    | @handed h member =>
      have tended := sound.tended _ _ _ (.handed member) retains
      have past : (s.step (.drain account)).past h = s.past h ++
          if h.origin.account = account then s.realm.closures.destructors h else [] := by
        unfold past
        simp only [step]
        split
        · next same =>
          subst same
          exact List.filter_append ..
        · exact (List.append_nil _).symm
      rw [past]
      exact ⟨tended.kept, tended.closure.drain account,
        ⟨tended.stored.stored, tended.stored.passed⟩, tended.spares⟩
    | unmade beyond =>
      have before : s.realm.closures.pool.size ≤ i := pool ▸ beyond
      have tended := sound.tended _ _ _ (.unmade before) retains
      exact ⟨tended.kept, ⟨beyond, tended.closure.2⟩,
        ⟨tended.stored.stored, tended.stored.passed⟩, tended.spares⟩

theorem start_sound (elements : Elements) : (start elements).Sound [] where
  homes p reactions found := by cases found
  known := List.forall_mem_nil _
  made := List.forall_mem_nil _
  queued := .empty
  numbered := {
    things := fun j k found => by cases found
    calls := fun account f inside => by cases account <;> cases inside }
  tended := by
    intro i whole state tends _
    cases tends with
    | handed member => cases member
    | unmade beyond =>
      have stored : (start elements).realm.Spares i := by
        refine ⟨fun q outcome found => ?_, List.forall_mem_nil _⟩
        cases found
      exact ⟨rfl, ⟨beyond, rfl⟩, stored, List.forall_mem_nil _⟩

theorem Sound.step (sound : s.Sound []) (op : CustodyOp) : (s.step op).Sound [] := by
  cases op with
  | schedule k delay => exact sound.schedule k delay
  | cancel id =>
    simp only [Custody.step]
    rcases found : s.realm.events.clearTimeout id with ⟨_ | t, events⟩
    · have queued := sound.queued.clearTimeout id
      have tasks := s.realm.events.microtasks_clearTimeout id
      rw [found] at queued tasks
      refine sound.less_events (fun _ => 0) queued (fun i => ?_) (fun _ => rfl)
        (fun task inside => tasks ▸ inside) (List.forall_mem_nil _) fun _ _ => rfl
      rw [(EventLoop.clearTimeout_none found).1, tasks]
      rfl
    · exact sound.untimed (sound.queued.without_cancelled found) fun i => by
        simp [List.count_append, List.count_singleton, Custody.ended, Nat.add_assoc]
  | fire deadline =>
    simp only [Custody.step]
    rcases due : s.realm.events.popDue deadline with ⟨_ | t, events⟩
    · rw [EventLoop.popDue_none due]
      exact sound
    · exact sound.untimed (sound.queued.without_fired due) fun i => by
        simp [List.count_append, List.count_singleton, Custody.ended]
        omega
  | queue k argument settles =>
    simp only [Custody.step]
    split
    · next may =>
      have apart (i : Nat) (reserved : s.Reserved i) := apart_of_mayPass may.1 reserved
      have held := sound.hold apart [] fun _ _ => List.forall_mem_nil _
      have both := held.hold (v := (settles.map Value.promise).getD .undefined)
        (fun i _ => by cases settles <;> exact Value.noConfusion) []
        fun _ _ => List.forall_mem_nil _
      exact both.queue k (fun i reserved => apart i reserved.of_hold.of_hold) settles
    · exact sound
  | take =>
    simp only [Custody.step, EventLoop.popMicrotask]
    rcases queue : s.realm.events.microtasks with _ | ⟨task, rest⟩
    · exact sound
    · exact sound.taken queue
  | andThen p k =>
    by_cases there : s.has p = true
    · exact sound.andThen there k
    · simp only [Custody.step, there]
      exact sound
  | resolve p v =>
    simp only [Custody.step]
    split
    · next may => exact sound.resolve p may.2
    · exact sound
  | reject p f =>
    simp only [Custody.step]
    split
    · exact sound.reject p f
    · exact sound
  | new => exact sound.new 1
  | resolved v =>
    simp only [Custody.step]
    split
    · next may =>
      have apart (i : Nat) (reserved : s.Reserved i) := apart_of_mayPass may reserved
      have held := sound.hold apart [] fun _ _ => List.forall_mem_nil _
      refine held.added 1 (fun reactions same => ?_) fun i reserved outcome same => ?_
      · cases same
      · cases same
        exact apart i reserved.of_hold
    · exact sound
  | rejected f =>
    refine sound.added 1 (fun reactions same => ?_) fun i _ outcome same => ?_
    · cases same
    · cases same
      trivial
  | keep v =>
    simp only [Custody.step]
    split
    · next may =>
      exact sound.hold (fun _ => apart_of_mayPass may) [] fun _ _ => List.forall_mem_nil _
    · exact sound
  | letGo v =>
    simp only [Custody.step]
    split
    · next may => exact sound.letGo may
    · exact sound
  | make k => exact sound.make k
  | drain account => exact sound.drain account

theorem Sound.steps (sound : s.Sound []) (ops : List CustodyOp) : (s.run ops).Sound [] := by
  induction ops generalizing s with
  | nil => exact sound
  | cons op rest ih => exact ih (sound.step op)

/-- A callback is in one place, its closure as it was made, or has been let go of, and the call of
its destructor is left of it. -/
structure Placed (s : Custody) (h : Handed) : Prop where
  once : s.realm.onTimers h.callback + s.realm.onTasks h.callback +
    s.realm.onPromises h.callback + s.letGo h.callback = 1
  /-- A promise keeps those that were registered on it. -/
  home : ∀ p reactions derived, s.realm.promises.get? p = some (.pending reactions) →
    .call h.callback derived ∈ reactions →
    ∃ reg ∈ s.registered, reg.callback = h.callback ∧ reg.promise = p
  closure : s.realm.closures.pool.held? h.callback =
    if s.letGo h.callback = 1 then none else some ⟨h.made, 1⟩
  destructor : s.past h ++ s.realm.closures.destructors h =
    if s.letGo h.callback = 1 then [h.made.finalizer] else []

/-- Callbacks are neither lost nor duplicated: each that is not registered on a promise that went
away is in its place, or has been let go of and is destroyed once. -/
theorem callbacks_in_custody (elements : Elements) (ops : List CustodyOp) :
    ∀ h ∈ ((start elements).run ops).handed, ((start elements).run ops).Retains h.callback →
      ((start elements).run ops).Placed h := by
  have sound := (start_sound elements).steps ops
  generalize (start elements).run ops = s at sound
  intro h member retains
  obtain ⟨kept, closure⟩ := sound.tended_kept (.handed member) retains
  have parts : s.realm.keeps h.callback = s.realm.onTimers h.callback +
    s.realm.onTasks h.callback + s.realm.onPromises h.callback := rfl
  constructor
  case once => omega
  case home =>
    intro p reactions derived found inside
    have waits : 0 < reactions.countP (Reaction.calls h.callback) :=
      List.countP_pos_iff.2 ⟨_, inside, decide_eq_true rfl⟩
    rw [sound.homes p reactions found] at waits
    obtain ⟨reg, member, both⟩ := List.countP_pos_iff.1 waits
    exact ⟨reg, member, of_decide_eq_true both⟩
  case closure =>
    rcases closure.state with ⟨one, held, -⟩ | ⟨zero, gone, -⟩
    · rw [held, if_neg (by omega)]
    · rw [gone, if_pos (by omega)]
  case destructor =>
    rcases closure.state with ⟨one, -, nowhere⟩ | ⟨zero, -, once⟩
    · rw [nowhere, if_neg (by omega)]
    · rw [once, if_pos (by omega)]

namespace Refused

def k : Blueprint := ⟨.guest, 3, 4, 100, 7⟩

/-- A callback waits with a promise that is rejected, while another has been scheduled. -/
def history : Custody :=
  (start .empty).run [.new, .andThen 0 k, .schedule k 5, .reject 0 (.typeError "no")]

theorem handed_first : ⟨0, 0, k⟩ ∈ history.handed := by
  have handed : history.handed = [⟨0, 0, k⟩, ⟨1, 1, k⟩] := rfl
  exact handed ▸ List.mem_cons_self ..

theorem retains_first : history.Retains 0 := by
  have registered : history.registered = [⟨0, 0, 1⟩] := rfl
  intro reg member _
  have first : reg = ⟨0, 0, 1⟩ := List.mem_singleton.1 (registered ▸ member)
  rw [first]
  cbv

end Refused

theorem callbacks_in_custody_refused :
    ⟨0, 0, Refused.k⟩ ∈ Refused.history.handed ∧ Refused.history.Retains 0 ∧
      Refused.history.letGo 0 = 1 ∧ Refused.history.Placed ⟨0, 0, Refused.k⟩ :=
  ⟨Refused.handed_first, Refused.retains_first, by cbv,
    callbacks_in_custody .empty _ _ Refused.handed_first Refused.retains_first⟩

end Custody

end GuestBridge
