import GuestBridge.Proofs.Promises.Chronicle
import GuestBridge.Proofs.Promises.Outcomes
/-!
Sessions that somebody watches. An operation begins with some jobs, in a realm that differs from the
one before by a new promise or a new callback at most; what each job keeps from there on holds after
any number of operations.
-/

set_option autoImplicit false

namespace GuestBridge

/-- A promise as it may be when it is made: nothing waits for it yet, and if it holds a promise,
then an older one. -/
def Promise.Newborn (size : Nat) : Promise → Prop
  | .pending reactions => reactions = []
  | .settled (.fulfilled (.promise x)) => x < size
  | .settled _ => True

namespace Realm

/-- Promises are the same but for a new one and for a callback on one that is pending. -/
def Widens (r r' : Realm) : Prop := ∀ q,
  r'.promises.get? q = r.promises.get? q ∨
  (q = r.promises.size ∧ ∃ promise, r'.promises.get? q = some promise ∧
    promise.Newborn r.promises.size) ∨
  ∃ reactions callback, r.promises.get? q = some (.pending reactions) ∧
    r'.promises.get? q = some (.pending (reactions ++ [.call callback r.promises.size]))

theorem Widens.of_same {r r' : Realm}
    (same : ∀ q, r'.promises.get? q = r.promises.get? q) : Widens r r' := fun q => .inl (same q)

theorem Widens.added {r base : Realm} (same : Same r base) {promise : Promise}
    (newborn : promise.Newborn r.promises.size) (holders : Nat) :
    Widens r (base.added promise holders) := by
  intro q
  rw [get?_added, same.size, same.promises]
  by_cases last : q = r.promises.size
  · rw [if_pos last]
    exact .inr (.inl ⟨last, promise, rfl, newborn⟩)
  · rw [if_neg last]
    exact .inl rfl

/-- The promise that derives from another as soon as a callback is registered. -/
def derivedFrom : Promise → Promise
  | .settled (.rejected f) => .settled (.rejected f)
  | _ => .pending []

theorem derivedFrom_newborn (promise : Promise) (size : Nat) :
    (derivedFrom promise).Newborn size := by
  rcases promise with _ | ⟨_ | f⟩
  · exact rfl
  · exact rfl
  · trivial

/-- A rejection passes to a promise that nothing waits for, and that is all. -/
theorem get?_run_rejected {r : Realm} {d : Nat} (callback : Nat) (f : Failure)
    (found : r.promises.held? d = some ⟨.pending [], 2⟩) (q : Nat) :
    (r.run [.react (.call callback d) (.rejected f)]).promises.get? q =
      if q = d then some (.settled (.rejected f)) else r.promises.get? q := by
  have settled : (r.settled d (.rejected f)).promises.held? d =
      some ⟨.settled (.rejected f), 2⟩ := by
    unfold Realm.settled
    rw [Pool.held?_modify, if_pos rfl, found]
    rfl
  have rejects : r.doJob (.reject d f) = (r.settled d (.rejected f), []) :=
    settle_pending (Pool.get?_of_held? found) _
  have ran : (r.run [.react (.call callback d) (.rejected f)]).promises =
      ((r.settled d (.rejected f)).promises.release d).2 := by
    rw [run]
    change (r.run [.reject d f, .letGo (.promise d), .letGo (.function callback)]).promises = _
    rw [run, rejects, List.nil_append, run, letGo_promise settled]
    change (Realm.run _ [.letGo (.function callback)]).promises = _
    rw [run, List.append_nil]
    change (Realm.run _ []).promises = _
    rw [run]
    rfl
  have after : (r.settled d (.rejected f)).promises.get? q =
      if q = d then some (.settled (.rejected f)) else r.promises.get? q :=
    Delivering.get?_settled (Pool.get?_of_held? found) (.refl r) _ q
  rw [ran, ← after]
  rcases Pool.get?_release (r.settled d (.rejected f)).promises d q with same | ⟨here, gone⟩
  · exact same
  · rw [Pool.get?, here, Pool.held?_release, if_pos rfl, settled] at gone
    cases gone

/-- What is handed on to a new promise by the promise that it derives from. -/
theorem get?_run_call {r : Realm} {d : Nat} (callback : Nat) (outcome : Outcome)
    (found : r.promises.held? d = some ⟨.pending [], 2⟩) (q : Nat) :
    (r.run [.react (.call callback d) outcome]).promises.get? q =
      if q = d then some (derivedFrom (.settled outcome)) else r.promises.get? q := by
  cases outcome with
  | rejected f => exact get?_run_rejected callback f found q
  | fulfilled v =>
    have ran : (r.run [.react (.call callback d) (.fulfilled v)]).promises =
        (r.hold v).promises := by
      rw [run]
      change (Realm.run _ []).promises = _
      rw [run]
      rfl
    rw [ran, get?_hold]
    by_cases here : q = d
    · rw [if_pos here, here]
      exact Pool.get?_of_held? found
    · rw [if_neg here]

/-- A registration makes the derived promise and leaves the callback on a pending one. -/
theorem Widens.andThen {r base : Realm} (same : Same r base) {p : Nat} {promise : Promise}
    (found : base.promises.get? p = some promise) (callback : Nat) :
    Widens r (base.andThen p callback).2 := by
  intro q
  cases promise with
  | pending reactions =>
    have lower := Nat.ne_of_lt (lt_size_of_get? found)
    rw [andThen_pending found]
    unfold addReaction
    rw [Pool.get?_modify]
    by_cases here : q = p
    · rw [if_pos here, get?_added, if_neg lower, found, here, ← same.promises, found, same.size]
      exact .inr (.inr ⟨reactions, callback, rfl, rfl⟩)
    · have newborn : (Promise.pending []).Newborn r.promises.size := rfl
      rw [if_neg here]
      exact Widens.added same newborn 2 q
  | settled outcome =>
    have derived : (base.added (.pending []) 2).promises.held? base.promises.size =
        some ⟨.pending [], 2⟩ := by
      unfold Realm.added
      rw [Pool.held?_add, if_pos rfl]
    rw [andThen_settled found, get?_run_call callback outcome derived, get?_added, same.size,
      same.promises]
    by_cases last : q = r.promises.size
    · rw [if_pos last]
      exact .inr (.inl ⟨last, _, rfl, derivedFrom_newborn _ _⟩)
    · rw [if_neg last, if_neg last]
      exact .inl rfl

/-- A promise that was made with a promise is younger than that. -/
def Ordered (r : Realm) : Prop :=
  ∀ q x, r.promises.get? q = some (.settled (.fulfilled (.promise x))) → x < q

theorem Ordered.widens {r r' : Realm} (ordered : r.Ordered) (widens : Widens r r') :
    r'.Ordered := by
  intro q x found
  rcases widens q with same | ⟨last, promise, now, newborn⟩ | ⟨reactions, callback, -, now⟩
  · exact ordered q x (same ▸ found)
  · rw [now] at found
    cases found
    rw [last]
    exact newborn
  · rw [now] at found
    cases found

theorem Ordered.turn {r r' : Realm} {job : Job} {jobs : List Job} (ordered : r.Ordered)
    (turn : Turn r job r' jobs) : r'.Ordered := by
  intro q x found
  cases turn with
  | settles aim there plain fits now drops =>
    rw [now] at found
    split at found
    · cases found
      exact (plain x rfl).elim
    · exact ordered q x found
  | waits pending promise target now =>
    rw [now] at found
    split at found
    · next y w v here =>
      obtain ⟨before, there, same⟩ := Option.map_eq_some_iff.1 found
      cases before with
      | pending reactions => cases same
      | settled outcome =>
        cases same
        exact ordered q x there
    · exact ordered q x found
  | hands aim fits skips now drops => exact ordered q x (now q ▸ found)
  | fades late last now drops =>
    rcases now q with same | gone
    · exact ordered q x (same ▸ found)
    · rw [gone] at found
      cases found

/-- All that is known of the promises in the middle of a cascade. -/
structure Proper (owned : Nat → Nat) (regs : List Registration) (taken : List Microtask)
    (known : Chronicle) (r : Realm) (jobs : List Job) : Prop where
  balanced : r.Balanced owned jobs
  delivering : Delivering regs taken r jobs
  faithful : Faithful known r
  ordered : r.Ordered

theorem Proper.doJob {owned : Nat → Nat} {regs : List Registration} {taken : List Microtask}
    {known : Chronicle} {r : Realm} {job : Job} {rest : List Job}
    (proper : Proper owned regs taken known r (job :: rest)) :
    Proper owned regs taken (enter known (r.doJob job).1) (r.doJob job).1
      ((r.doJob job).2 ++ rest) where
  balanced := proper.balanced.doJob
  delivering := proper.delivering.doJob
  faithful := (proper.faithful.doJob job).1
  ordered := proper.ordered.turn (r.turn job)

end Realm

namespace Session

/-- The jobs that an operation begins with, in a realm that holds what they use up. Operations that
make nothing go away are done as they begin. -/
def cascade (s : Session) : PromiseOp → Realm × List Realm.Job
  | .resolve p v =>
    if 0 < s.owned p ∧ s.has v then (s.realm.hold v, [.resolve p v]) else (s.realm, [])
  | .reject p f => if 0 < s.owned p then (s.realm, [.reject p f]) else (s.realm, [])
  | .letGo p => if 0 < s.owned p then (s.realm, [.letGo (.promise p)]) else (s.realm, [])
  | op => ((s.step op).realm, [])

variable {s : Session}

theorem run_cascade (s : Session) (op : PromiseOp) :
    (s.step op).realm = (s.cascade op).1.run (s.cascade op).2 := by
  have nothing : ∀ r : Realm, r.run [] = r := fun r => by rw [Realm.run]
  cases op with
  | resolve p v =>
    simp only [step, cascade]
    split
    · rfl
    · exact (nothing _).symm
  | reject p f =>
    simp only [step, cascade]
    split
    · rfl
    · exact (nothing _).symm
  | letGo p =>
    simp only [step, cascade]
    split
    · rfl
    · exact (nothing _).symm
  | _ => exact (nothing _).symm

theorem Sound.cascade (sound : s.Sound) (op : PromiseOp) :
    (s.cascade op).1.Balanced (s.step op).owned (s.cascade op).2 ∧
    Realm.Delivering (s.step op).registered (s.step op).taken (s.cascade op).1
      (s.cascade op).2 := by
  have itself : s.realm.Balanced s.owned [] := sound.balanced
  have after := sound.step op
  cases op with
  | resolve p v =>
    simp only [Session.step, Session.cascade]
    split
    · next has =>
      exact ⟨itself.hold (sound.there has.2) (.resolve p v) trivial fun q => rfl,
        sound.delivering.begin (.hold _ v) rfl⟩
    · exact ⟨itself, sound.delivering⟩
  | reject p f =>
    simp only [Session.step, Session.cascade]
    split
    · exact ⟨itself.bare (.reject p f) trivial fun q => rfl,
        sound.delivering.begin (.refl _) rfl⟩
    · exact ⟨itself, sound.delivering⟩
  | letGo p =>
    simp only [Session.step, Session.cascade]
    split
    · next mine => exact ⟨itself.giveUp mine, sound.delivering.begin (.refl _) rfl⟩
    · exact ⟨itself, sound.delivering⟩
  | _ => exact ⟨after.balanced, after.delivering⟩

theorem Sound.size_cascade_le (sound : s.Sound) (op : PromiseOp) :
    s.realm.promises.size ≤ (s.cascade op).1.promises.size := by
  have grown := (sound.move op).size_le sound
  rwa [s.run_cascade op, Realm.size_run] at grown

theorem Sound.widens (sound : s.Sound) (op : PromiseOp) :
    Realm.Widens s.realm (s.cascade op).1 := by
  have still : Realm.Widens s.realm s.realm := .of_same fun _ => rfl
  cases op with
  | new =>
    have newborn : (Promise.pending []).Newborn s.realm.promises.size := rfl
    exact .added (.refl _) newborn 1
  | rejected f =>
    have newborn : (Promise.settled (.rejected f)).Newborn s.realm.promises.size := trivial
    exact .added (.refl _) newborn 1
  | resolved v =>
    simp only [Session.cascade, Session.step]
    split
    · next has =>
      have newborn : (Promise.settled (.fulfilled v)).Newborn s.realm.promises.size := by
        cases v with
        | promise x =>
          obtain ⟨promise, found⟩ := sound.there has x rfl
          exact Realm.lt_size_of_get? found
        | _ => trivial
      exact .added (.hold _ v) newborn 1
    · exact still
  | andThen p callback =>
    simp only [Session.cascade, Session.step]
    split
    · next mine =>
      obtain ⟨promise, there⟩ := sound.balanced.there_of_owned mine
      exact .andThen (.hold _ (.function callback)) there callback
    · exact still
  | resolve p v =>
    simp only [Session.cascade]
    split
    · exact .of_same (Realm.get?_hold _ v)
    · exact still
  | reject p f =>
    simp only [Session.cascade]
    split <;> exact still
  | keep p =>
    simp only [Session.cascade, Session.step]
    split
    · exact .of_same (Realm.get?_hold _ (.promise p))
    · exact still
  | letGo p =>
    simp only [Session.cascade]
    split <;> exact still
  | take =>
    simp only [Session.cascade, Session.step]
    split <;> exact .of_same fun _ => rfl

end Session

/-- A session, and what somebody knows who has watched it from the start. -/
structure Watched where
  session : Session
  known : Chronicle

namespace Watched

def start (closures : Closures) (elements : Elements) : Watched :=
  ⟨.start closures elements, fun _ => none⟩

def step (w : Watched) (op : PromiseOp) : Watched where
  session := w.session.step op
  known :=
    let (realm, jobs) := w.session.cascade op
    realm.chronicle (realm.enter w.known) jobs

def run (w : Watched) (ops : List PromiseOp) : Watched := ops.foldl step w

/-- What holds between operations. -/
structure Sound (w : Watched) : Prop where
  session : w.session.Sound
  faithful : Realm.Faithful w.known w.session.realm
  ordered : w.session.realm.Ordered

variable {w : Watched}

theorem start_sound (closures : Closures) (elements : Elements) :
    (start closures elements).Sound where
  session := Session.start_sound closures elements
  faithful := ⟨fun same => (nomatch same), fun _ => rfl, fun same => (nomatch same)⟩
  ordered := fun _ _ same => nomatch same

theorem Sound.begins (sound : w.Sound) (op : PromiseOp) :
    Realm.Proper (w.session.step op).owned (w.session.step op).registered
      (w.session.step op).taken (Realm.enter w.known (w.session.cascade op).1)
      (w.session.cascade op).1 (w.session.cascade op).2 ∧
    w.known.Extends (Realm.enter w.known (w.session.cascade op).1) := by
  have widens := sound.session.widens op
  obtain ⟨balanced, delivering⟩ := sound.session.cascade op
  obtain ⟨faithful, extends_⟩ := sound.faithful.enter (fun p lower => by
    refine ⟨.fulfilled .undefined, ?_⟩
    rcases widens p with same | ⟨last, -⟩ | ⟨reactions, callback, before, now⟩
    · rw [same]
      exact .refl _ _
    · omega
    · rw [before, now]
      trivial) (sound.session.size_cascade_le op)
  exact ⟨⟨balanced, delivering, faithful, sound.ordered.widens widens⟩, extends_⟩

/-- What holds as an operation begins and is kept by each job of its cascade, holds after it. -/
theorem Sound.step_induction (sound : w.Sound) (op : PromiseOp)
    {P : Chronicle → Realm → List Realm.Job → Prop}
    (begins : P (Realm.enter w.known (w.session.cascade op).1) (w.session.cascade op).1
      (w.session.cascade op).2)
    (step : ∀ known r job rest, Realm.Proper (w.session.step op).owned
      (w.session.step op).registered (w.session.step op).taken known r (job :: rest) →
      P known r (job :: rest) →
      P (Realm.enter known (r.doJob job).1) (r.doJob job).1 ((r.doJob job).2 ++ rest)) :
    P (w.step op).known (w.step op).session.realm [] := by
  have whole := Realm.chronicle_induction
    (P := fun known r jobs => Realm.Proper (w.session.step op).owned
      (w.session.step op).registered (w.session.step op).taken known r jobs ∧ P known r jobs)
    (fun known r job rest before => ⟨before.1.doJob, step known r job rest before.1 before.2⟩)
    ⟨(sound.begins op).1, begins⟩
  rw [← w.session.run_cascade op] at whole
  exact whole.2

/-- What the first job brings about and each other job keeps, holds after the operation. -/
theorem Sound.first_induction (sound : w.Sound) {op : PromiseOp} {base : Realm} {first : Realm.Job}
    (cascade : w.session.cascade op = (base, [first]))
    {P : Chronicle → Realm → List Realm.Job → Prop}
    (begins : Realm.Proper (w.session.step op).owned (w.session.step op).registered
        (w.session.step op).taken (Realm.enter w.known base) base [first] →
      P (Realm.enter (Realm.enter w.known base) (base.doJob first).1) (base.doJob first).1
        (base.doJob first).2)
    (step : ∀ known r job rest, Realm.Proper (w.session.step op).owned
      (w.session.step op).registered (w.session.step op).taken known r (job :: rest) →
      P known r (job :: rest) →
      P (Realm.enter known (r.doJob job).1) (r.doJob job).1 ((r.doJob job).2 ++ rest)) :
    P (w.step op).known (w.step op).session.realm [] := by
  have whole := sound.step_induction op (P := fun known r jobs =>
    (known = Realm.enter w.known base ∧ r = base ∧ jobs = [first]) ∨ P known r jobs)
    (.inl (by rw [cascade]; exact ⟨rfl, rfl, rfl⟩)) fun known r job rest proper before => by
      rcases before with ⟨rfl, rfl, one⟩ | later
      · obtain ⟨rfl, rfl⟩ := List.cons.inj one
        rw [List.append_nil]
        exact .inr (begins proper)
      · exact .inr (step known r job rest proper later)
  rcases whole with ⟨-, -, left⟩ | after
  · cases left
  · exact after

theorem Sound.step (sound : w.Sound) (op : PromiseOp) : (w.step op).Sound := by
  have proper := sound.step_induction op (P := fun known r jobs => Realm.Proper
    (w.session.step op).owned (w.session.step op).registered (w.session.step op).taken
    known r jobs) (sound.begins op).1 fun known r job rest proper _ => proper.doJob
  exact ⟨sound.session.step op, proper.faithful, proper.ordered⟩

/-- What each operation keeps, any run of them keeps. -/
theorem Sound.run_induction {P : Watched → Prop} {ops : List PromiseOp}
    (step : ∀ w op, Sound w → op ∈ ops → P w → P (w.step op)) (sound : w.Sound) (start : P w) :
    P (w.run ops) := by
  induction ops generalizing w with
  | nil => exact start
  | cons op rest ih =>
    exact ih (fun v later sound inside => step v later sound (List.mem_cons_of_mem _ inside))
      (sound.step op) (step w op sound (List.mem_cons_self ..) start)

theorem Sound.run (sound : w.Sound) (ops : List PromiseOp) : (w.run ops).Sound :=
  sound.run_induction (P := Sound) (fun _ op _ _ before => before.step op) sound

theorem Sound.extends_step (sound : w.Sound) (op : PromiseOp) :
    w.known.Extends (w.step op).known :=
  sound.step_induction op (P := fun known _ _ => w.known.Extends known) (sound.begins op).2
    fun _ _ job _ proper before => before.trans (proper.faithful.doJob job).2

/-- However it goes on, what a promise was settled with stays as it was. -/
theorem Sound.extends_run (sound : w.Sound) (ops : List PromiseOp) :
    w.known.Extends (w.run ops).known :=
  sound.run_induction (P := fun v => w.known.Extends v.known)
    (fun _ op sound _ before => before.trans (sound.extends_step op)) (.refl _)

end Watched

end GuestBridge
