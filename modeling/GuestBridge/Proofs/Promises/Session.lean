import GuestBridge.Proofs.Promises.Registering
/-!
Callers from outside. They make promises, register callbacks, settle promises and drop them again,
in any order, and use only what they hold themselves.
-/

set_option autoImplicit false

namespace GuestBridge

/-- What a caller may do. An operation on a promise that the caller does not hold is none. -/
inductive PromiseOp
  | new
  | resolved (v : Value)
  | rejected (f : Failure)
  | andThen (promise callback : Nat)
  | resolve (promise : Nat) (v : Value)
  | reject (promise : Nat) (f : Failure)
  | keep (promise : Nat)
  | letGo (promise : Nat)
  /-- Takes a microtask off the queue, with all that it holds. -/
  | take

structure Session where
  realm : Realm
  /-- How often the callers hold each promise. -/
  owned : Nat → Nat
  registered : List Registration
  taken : List Microtask

namespace Session

def start (closures : Closures) (elements : Elements) : Session where
  realm := { Realm.empty with closures := closures, elements := elements }
  owned _ := 0
  registered := []
  taken := []

def promise? (s : Session) (p : Nat) : Option Promise := s.realm.promises.get? p

def tasks (s : Session) : List Microtask := s.taken ++ s.realm.events.microtasks

/-- Whether a caller may pass the value on. -/
def has (s : Session) : Value → Bool
  | .promise p => 0 < s.owned p
  | _ => true

def make (s : Session) (realm : Realm) (promise : Promise) : Session :=
  let (p, realm) := realm.newPromise promise
  { s with realm := realm, owned := fun q => s.owned q + if p = q then 1 else 0 }

def step (s : Session) : PromiseOp → Session
  | .new => s.make s.realm (.pending [])
  | .resolved v => if s.has v then s.make (s.realm.hold v) (.settled (.fulfilled v)) else s
  | .rejected f => s.make s.realm (.settled (.rejected f))
  | .andThen p callback =>
    if 0 < s.owned p then
      let (derived, realm) := (s.realm.hold (.function callback)).andThen p callback
      { s with
        realm := realm
        owned := fun q => s.owned q + if derived = q then 1 else 0
        registered := s.registered ++ [⟨p, callback, derived⟩] }
    else s
  | .resolve p v =>
    if 0 < s.owned p ∧ s.has v then { s with realm := (s.realm.hold v).resolve p v } else s
  | .reject p f => if 0 < s.owned p then { s with realm := s.realm.reject p f } else s
  | .keep p =>
    if 0 < s.owned p then
      { s with
        realm := s.realm.hold (.promise p)
        owned := fun q => s.owned q + if p = q then 1 else 0 }
    else s
  | .letGo p =>
    if 0 < s.owned p then
      { s with
        realm := s.realm.letGo (.promise p)
        owned := fun q => s.owned q - if p = q then 1 else 0 }
    else s
  | .take =>
    match s.realm.events.popMicrotask with
    | (some task, events) =>
      { s with
        realm := { s.realm with events := events }
        owned := fun q => s.owned q + task.mentions q
        taken := s.taken ++ [task] }
    | (none, _) => s

def run (s : Session) (ops : List PromiseOp) : Session := ops.foldl step s

/-- What holds between operations. -/
structure Sound (s : Session) : Prop where
  balanced : s.realm.Balanced s.owned []
  delivering : Realm.Delivering s.registered s.taken s.realm []
  old : ∀ reg ∈ s.registered,
    reg.promise < s.realm.promises.size ∧ reg.derived < s.realm.promises.size

variable {s t : Session}

theorem start_sound (closures : Closures) (elements : Elements) :
    (start closures elements).Sound := by
  have nothing : ∀ q, (start closures elements).realm.promises.get? q = none := fun q => rfl
  constructor
  case balanced => exact ⟨fun q => rfl, fun job inside => absurd inside List.not_mem_nil⟩
  case old => exact fun reg member => absurd member List.not_mem_nil
  case delivering =>
    constructor
    case distinct => exact List.nodup_nil
    case known => exact fun task inside => absurd inside List.not_mem_nil
    case rejected => exact fun reg member => absurd member List.not_mem_nil
    case waiting =>
      intro p reactions here
      rw [nothing] at here
      cases here
    case delivered =>
      intro p
      rw [nothing]
      exact .inl rfl

theorem Sound.there (sound : s.Sound) {v : Value} (has : s.has v = true) :
    ∀ p, v = .promise p → ∃ promise, s.realm.promises.get? p = some promise := by
  intro p same
  rw [same] at has
  exact sound.balanced.there_of_owned (of_decide_eq_true has)

/-- What an operation may come to. -/
inductive Move (s : Session) : Session → Prop
  | nothing : Move s s
  /-- A new promise. Whatever it holds was held for it before. -/
  | new {base : Realm} {promise : Promise} {jobs : List Realm.Job}
      (balanced : base.Balanced s.owned jobs) (same : Realm.Same s.realm base)
      (bare : ∀ reactions, promise = .pending reactions → reactions = [])
      (uses : ∀ q, Realm.Job.allMention jobs q = promise.mentions q) : Move s (s.make base promise)
  | registration {p : Nat} (mine : 0 < s.owned p) (callback : Nat) :
      Move s (s.step (.andThen p callback))
  | cascade {base : Realm} {owned : Nat → Nat} {jobs : List Realm.Job}
      (balanced : base.Balanced owned jobs) (same : Realm.Same s.realm base)
      (quiet : jobs.filterMap Realm.Job.task? = [])
      (evolves : ∃ outcome, Realm.Evolves outcome base (base.run jobs)) :
      Move s { s with realm := base.run jobs, owned := owned }
  | taking {task : Microtask} {rest : List Microtask}
      (queue : s.realm.events.microtasks = task :: rest) :
      Move s { s with
        realm := { s.realm with events := { s.realm.events with microtasks := rest } }
        owned := fun q => s.owned q + task.mentions q
        taken := s.taken ++ [task] }

theorem Sound.move (sound : s.Sound) (op : PromiseOp) : Move s (s.step op) := by
  have itself : s.realm.Balanced s.owned [] := sound.balanced
  cases op with
  | new => exact .new itself (.refl _) (fun _ same => by cases same; rfl) fun q => rfl
  | rejected f => exact .new itself (.refl _) (fun _ same => nomatch same) fun q => rfl
  | resolved v =>
    simp only [step]
    split
    · next has =>
      have held := itself.hold (sound.there has) (.letGo v) trivial fun q => rfl
      exact .new held (.hold _ v) (fun _ same => nomatch same) fun q => rfl
    · exact .nothing
  | andThen p callback =>
    by_cases mine : 0 < s.owned p
    · exact .registration mine callback
    · simp only [step, mine, ↓reduceIte]
      exact .nothing
  | resolve p v =>
    simp only [step]
    split
    · next has =>
      have held := itself.hold (sound.there has.2) (.resolve p v) trivial fun q => rfl
      obtain ⟨outcome, -, first, after⟩ := (s.realm.hold v).resolve_carries p v
      exact .cascade held (.hold _ v) rfl ⟨outcome, Realm.evolves_cascade first after⟩
    · exact .nothing
  | reject p f =>
    simp only [step]
    split
    · refine .cascade (itself.bare (.reject p f) trivial fun q => rfl) (.refl _) rfl
        ⟨.rejected f, Realm.run_evolves fun job inside => ?_⟩
      rw [List.mem_singleton.1 inside]
      exact rfl
    · exact .nothing
  | keep p =>
    simp only [step]
    split
    · next mine =>
      have done : (s.realm.hold (.promise p)).run [] = s.realm.hold (.promise p) := by
        rw [Realm.run]
      have evolves : Realm.Evolves (.fulfilled .undefined) (s.realm.hold (.promise p))
          ((s.realm.hold (.promise p)).run []) := by
        rw [done]
        exact .refl _ _
      have move := Move.cascade (itself.keep mine) (.hold _ _) rfl ⟨_, evolves⟩
      rwa [done] at move
    · exact .nothing
  | letGo p =>
    simp only [step]
    split
    · next mine =>
      have evolves : Realm.Evolves (.fulfilled .undefined) s.realm
          (s.realm.run [.letGo (.promise p)]) := by
        apply Realm.run_evolves
        intro job inside
        rw [List.mem_singleton.1 inside]
        trivial
      exact .cascade (itself.giveUp mine) (.refl _) rfl ⟨_, evolves⟩
    · exact .nothing
  | take =>
    simp only [step, EventLoop.popMicrotask]
    rcases queue : s.realm.events.microtasks with _ | ⟨task, rest⟩
    · exact .nothing
    · exact .taking queue

/-- The state in which a callback has just been registered on a promise. -/
theorem Sound.registering (sound : s.Sound) {base : Realm} (alike : Realm.Alike s.realm base) :
    Realm.Delivering s.registered s.taken (base.added (.pending []) 2) [] ∧
    (base.added (.pending []) 2).Balanced
      (fun q => s.owned q + if base.promises.size = q then 1 else 0)
      [.letGo (.promise base.promises.size)] := by
  constructor
  · have begun : Realm.Delivering s.registered s.taken base [] :=
      sound.delivering.begin (.of_alike alike) rfl
    refine begun.added ?_ (fun _ same => by cases same; rfl) 2
    rw [alike.promises]
    exact sound.old
  · have balanced : base.Balanced s.owned [] :=
      ⟨fun q => by rw [alike.holders, alike.mentions]; exact sound.balanced.count q,
        sound.balanced.plain⟩
    exact balanced.registering

theorem Sound.andThen (sound : s.Sound) {p : Nat} (mine : 0 < s.owned p) (callback : Nat) :
    (s.step (.andThen p callback)).Sound := by
  obtain ⟨promise, there⟩ := sound.balanced.there_of_owned mine
  simp only [step, mine, ↓reduceIte]
  have alike : Realm.Alike s.realm (s.realm.hold (.function callback)) := ⟨rfl, rfl⟩
  generalize s.realm.hold (.function callback) = base at alike
  obtain ⟨delivering, balanced⟩ := sound.registering alike
  have found : base.promises.get? p = some promise := by rw [alike.promises, there]
  have fresh : ∀ reg ∈ s.registered, reg.derived ≠ base.promises.size := by
    intro reg member
    rw [alike.promises]
    exact Nat.ne_of_lt (sound.old reg member).2
  have lower := Realm.lt_size_of_get? found
  have still : (base.added (.pending []) 2).promises.get? p = some promise := by
    rw [Realm.get?_added, if_neg (Nat.ne_of_lt lower), found]
  have old : ∀ size, size = base.promises.size + 1 →
      ∀ reg ∈ s.registered ++ [⟨p, callback, base.promises.size⟩],
        reg.promise < size ∧ reg.derived < size := by
    intro size grown reg member
    rcases List.mem_append.1 member with before | new
    · have bound := sound.old reg before
      rw [← alike.promises] at bound
      omega
    · rw [List.mem_singleton.1 new]
      simp only
      omega
  cases promise with
  | pending reactions =>
    rw [Realm.andThen_pending found]
    have waiting : (base.added (.pending []) 2).isPending p = true :=
      Realm.isPending_eq_true.2 ⟨reactions, still⟩
    refine ⟨?_, delivering.register_pending still fresh, old _ ?_⟩
    · exact balanced.addCall waiting callback
    · exact (Pool.size_modify ..).trans (Realm.size_added ..)
  | settled outcome =>
    rw [Realm.andThen_settled found]
    have registered : Realm.Delivering (s.registered ++ [⟨p, callback, base.promises.size⟩]) s.taken
        (base.added (.pending []) 2) [.react (.call callback base.promises.size) outcome] :=
      delivering.register_settled still fresh
    refine ⟨?_, registered.run, old _ ?_⟩
    · cases outcome with
      | fulfilled v =>
        refine balanced.queued (fun x same => ?_) callback
        subst same
        exact balanced.closed p x still
      | rejected f => exact (balanced.rejecting callback f).run
    · rw [Realm.size_run]
      exact Realm.size_added ..

/-- Counts and callbacks stay right. -/
theorem Sound.moved (sound : s.Sound) (move : Move s t) : t.Sound := by
  cases move with
  | nothing => exact sound
  | registration mine callback => exact sound.andThen mine callback
  | @new base promise jobs balanced same bare uses =>
    refine ⟨?_, ?_, fun reg member => ?_⟩
    · apply balanced.added (fun job inside => absurd inside List.not_mem_nil)
      intro q
      change s.owned q + (if base.promises.size = q then 1 else 0) + promise.mentions q + 0 = _
      rw [uses]
      omega
    · have begun : Realm.Delivering s.registered s.taken base [] := sound.delivering.begin same rfl
      exact begun.added (same.size ▸ sound.old) bare 1
    · have before := sound.old reg member
      change reg.promise < (base.added promise 1).promises.size ∧
        reg.derived < (base.added promise 1).promises.size
      rw [Realm.size_added, same.size]
      omega
  | @cascade base owned jobs balanced same quiet evolves =>
    refine ⟨balanced.run, (sound.delivering.begin same quiet).run, fun reg member => ?_⟩
    change reg.promise < (base.run jobs).promises.size ∧ reg.derived < (base.run jobs).promises.size
    rw [Realm.size_run, same.size]
    exact sound.old reg member
  | @taking task rest queue =>
    have itself := sound.balanced
    have tasks : Realm.allTasks (s.taken ++ [task])
        { s.realm with events := { s.realm.events with microtasks := rest } } [] =
        Realm.allTasks s.taken s.realm [] := by
      unfold Realm.allTasks
      rw [queue]
      simp only [List.append_assoc, List.singleton_append]
    refine ⟨⟨fun q => ?_, itself.plain⟩, ?_, sound.old⟩
    · have before := itself.count q
      unfold Realm.mentions at before
      rw [queue, List.map_cons, List.sum_cons] at before
      change s.realm.holders q = (s.owned q + task.mentions q) +
        (s.realm.promises.total (Promise.mentions q) + (rest.map (Microtask.mentions q)).sum) + _
      omega
    · have delivering := sound.delivering
      exact ⟨delivering.distinct, tasks ▸ delivering.known, delivering.waiting,
        fun p => tasks ▸ delivering.delivered p, delivering.rejected⟩

theorem Sound.step (sound : s.Sound) (op : PromiseOp) : (s.step op).Sound :=
  sound.moved (sound.move op)

theorem Sound.run (sound : s.Sound) (ops : List PromiseOp) : (s.run ops).Sound := by
  induction ops generalizing s with
  | nil => exact sound
  | cons op rest ih => exact ih (sound.step op)

end Session

end GuestBridge
