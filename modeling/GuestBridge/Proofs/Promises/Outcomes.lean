import GuestBridge.Proofs.Promises.Session
/-!
What operations make of the outcomes of promises, and of the microtasks of those that are settled.
-/

set_option autoImplicit false

namespace GuestBridge.Session

variable {s t : Session}

theorem evolves_andThen {base : Realm} {p : Nat} {promise : Promise}
    (found : base.promises.get? p = some promise) (callback : Nat) :
    ∃ outcome, (∀ f, promise = .settled (.rejected f) → outcome = .rejected f) ∧
      Realm.Evolves outcome (base.added (.pending []) 2) (base.andThen p callback).2 := by
  cases promise with
  | pending reactions =>
    rw [Realm.andThen_pending found]
    exact ⟨.fulfilled .undefined, fun _ same => (nomatch same), .of_addReaction _ _ _ .undefined⟩
  | settled outcome =>
    rw [Realm.andThen_settled found]
    cases outcome with
    | fulfilled v =>
      refine ⟨.fulfilled v, fun _ same => (nomatch same), ?_⟩
      refine Realm.evolves_cascade (.of_same (Realm.get?_hold _ v)) fun job inside => ?_
      exact absurd inside List.not_mem_nil
    | rejected f =>
      refine ⟨.rejected f, fun _ same => by cases same; rfl, Realm.run_evolves fun job inside => ?_⟩
      rw [List.mem_singleton.1 inside]
      exact ⟨rfl, trivial⟩

/-- Whatever an operation settles comes to one outcome. -/
theorem Move.evolves (move : Move s t) (sound : s.Sound) :
    ∃ outcome, ∀ q, q < s.realm.promises.size →
      Realm.Becomes outcome (s.promise? q) (t.promise? q) := by
  cases move with
  | nothing => exact ⟨.fulfilled .undefined, fun q _ => .refl _ _⟩
  | taking queue => exact ⟨.fulfilled .undefined, fun q _ => .refl _ _⟩
  | @new base promise jobs balanced same bare uses =>
    refine ⟨.fulfilled .undefined, fun q lower => ?_⟩
    have still : (s.make base promise).promise? q = s.promise? q := by
      change (base.added promise 1).promises.get? q = s.realm.promises.get? q
      rw [Realm.get?_added, same.size, if_neg (Nat.ne_of_lt lower), same.promises]
    rw [still]
    exact .refl _ _
  | @registration p mine callback =>
    obtain ⟨promise, there⟩ := sound.balanced.there_of_owned mine
    have found : (s.realm.hold (.function callback)).promises.get? p = some promise := there
    obtain ⟨outcome, -, evolves⟩ := evolves_andThen found callback
    refine ⟨outcome, fun q lower => ?_⟩
    have before := evolves q
    have old : q ≠ (s.realm.hold (.function callback)).promises.size := Nat.ne_of_lt lower
    rw [Realm.get?_added, if_neg old] at before
    simp only [Session.step, mine, ↓reduceIte]
    exact before
  | @cascade base owned jobs balanced same quiet evolves =>
    obtain ⟨outcome, evolves⟩ := evolves
    refine ⟨outcome, fun q _ => ?_⟩
    have before := evolves q
    rw [same.promises] at before
    exact before

theorem Move.size_le (move : Move s t) (sound : s.Sound) :
    s.realm.promises.size ≤ t.realm.promises.size := by
  cases move with
  | nothing => exact Nat.le_refl _
  | taking queue => exact Nat.le_refl _
  | @new base promise jobs balanced same bare uses =>
    change s.realm.promises.size ≤ (base.added promise 1).promises.size
    rw [Realm.size_added, same.size]
    exact Nat.le_succ _
  | @registration p mine callback =>
    obtain ⟨promise, there⟩ := sound.balanced.there_of_owned mine
    have found : (s.realm.hold (.function callback)).promises.get? p = some promise := there
    have size : ((s.realm.hold (.function callback)).andThen p callback).2.promises.size =
        (s.realm.hold (.function callback)).promises.size + 1 := by
      cases promise with
      | pending reactions =>
        rw [Realm.andThen_pending found]
        exact (Pool.size_modify ..).trans (Realm.size_added ..)
      | settled outcome =>
        rw [Realm.andThen_settled found]
        exact (Realm.size_run ..).trans (Realm.size_added ..)
    simp only [Session.step, mine, ↓reduceIte, size]
    exact Nat.le_succ _
  | @cascade base owned jobs balanced same quiet evolves =>
    rw [Realm.size_run, same.size]

theorem Move.registered (move : Move s t) : t.registered = s.registered ∨
    ∃ p callback, 0 < s.owned p ∧ t = s.step (.andThen p callback) ∧
      t.registered = s.registered ++ [⟨p, callback, s.realm.promises.size⟩] := by
  cases move with
  | @registration p mine callback =>
    refine .inr ⟨p, callback, mine, rfl, ?_⟩
    simp only [Session.step, mine, ↓reduceIte, Realm.andThen_fst]
    rfl
  | _ => exact .inl rfl

theorem tasks_eq (s : Session) : s.tasks = Realm.allTasks s.taken s.realm [] :=
  (List.append_nil _).symm

theorem Sound.there_of_registered (sound : s.Sound) {p : Nat} (mine : 0 < s.owned p)
    (callback : Nat) : ∃ promise, (s.step (.andThen p callback)).promise? p = some promise := by
  have owned : 0 < (s.step (.andThen p callback)).owned p := by
    simp only [Session.step, mine, ↓reduceIte]
    omega
  exact (sound.step _).balanced.there_of_owned owned

theorem Sound.andThen_tasks (sound : s.Sound) {p q : Nat} (mine : 0 < s.owned q) (callback : Nat)
    (past : s.realm.isPending p = false) (lower : p < s.realm.promises.size) (other : p ≠ q) :
    Registration.ofPromise (s.step (.andThen q callback)).registered p
        (s.step (.andThen q callback)).tasks =
      Registration.ofPromise s.registered p s.tasks := by
  obtain ⟨promise, there⟩ := sound.balanced.there_of_owned mine
  simp only [Session.step, mine, ↓reduceIte]
  have alike : Realm.Alike s.realm (s.realm.hold (.function callback)) := ⟨rfl, rfl⟩
  generalize s.realm.hold (.function callback) = base at alike
  obtain ⟨delivering, -⟩ := sound.registering alike
  have fresh : ∀ reg ∈ s.registered, reg.derived ≠ base.promises.size := by
    intro reg member
    rw [alike.promises]
    exact Nat.ne_of_lt (sound.old reg member).2
  have same : s.tasks = Realm.allTasks s.taken (base.added (.pending []) 2) [] := by
    rw [tasks_eq]
    unfold Realm.allTasks
    rw [← alike.events]
    rfl
  have found : base.promises.get? q = some promise := by rw [alike.promises, there]
  rw [same]
  cases promise with
  | pending reactions =>
    rw [Realm.andThen_pending found, tasks_eq]
    exact Registration.ofPromise_concat (delivering.unsettled fresh) p
  | settled outcome =>
    rw [Realm.andThen_settled found, tasks_eq]
    have still : (base.added (.pending []) 2).promises.get? q = some (.settled outcome) := by
      rw [Realm.get?_added, if_neg (Nat.ne_of_lt (Realm.lt_size_of_get? found)), found]
    have quiet : (base.added (.pending []) 2).isPending p = false := by
      unfold Realm.isPending at past ⊢
      rw [← alike.promises] at past lower
      rw [Realm.get?_added, if_neg (Nat.ne_of_lt lower)]
      exact past
    have registered : Realm.Delivering (s.registered ++ [⟨q, callback, base.promises.size⟩])
        s.taken (base.added (.pending []) 2)
        [.react (.call callback base.promises.size) outcome] :=
      delivering.register_settled still fresh
    exact (registered.run_tasks quiet).trans
      (delivering.tasks_register fresh callback outcome other)

/-- Nothing is queued for a promise that is not pending when it goes away, or when it is gone. -/
theorem Move.tasks (move : Move s t) (sound : s.Sound) {p : Nat}
    (past : s.realm.isPending p = false) (lower : p < s.realm.promises.size)
    (gone : t.promise? p = none) :
    Registration.ofPromise t.registered p t.tasks =
      Registration.ofPromise s.registered p s.tasks := by
  cases move with
  | nothing => rfl
  | @new base promise jobs balanced same bare uses =>
    change Registration.ofPromise s.registered p (s.taken ++ base.events.microtasks) = _
    rw [same.events]
    rfl
  | @registration q mine callback =>
    have other : p ≠ q := by
      intro same
      subst same
      obtain ⟨promise, still⟩ := sound.there_of_registered mine callback
      rw [gone] at still
      cases still
    exact sound.andThen_tasks mine callback past lower other
  | @cascade base owned jobs balanced same quiet evolves =>
    have still : base.isPending p = false := by
      unfold Realm.isPending at past ⊢
      rw [same.promises]
      exact past
    have run := (sound.delivering.begin same quiet).run_tasks still
    unfold Realm.allTasks at run
    rw [quiet, same.events] at run
    simp only [List.filterMap_nil, List.append_nil] at run
    exact run
  | @taking task rest queue =>
    unfold Session.tasks
    simp only [queue, List.append_assoc, List.singleton_append]

/-- What remains of a promise that was settled once: the outcome, as long as it is there, and the
microtasks. -/
structure Stays (s : Session) (p : Nat) (outcome : Outcome) : Prop where
  made : p < s.realm.promises.size
  state : s.promise? p = none ∨ s.promise? p = some (.settled outcome)
  tasks : Registration.ofPromise s.registered p s.tasks =
    Registration.due s.registered p outcome

theorem Sound.stays (sound : s.Sound) {p : Nat} {outcome : Outcome}
    (settled : s.promise? p = some (.settled outcome)) : s.Stays p outcome where
  made := Realm.lt_size_of_get? settled
  state := .inr settled
  tasks := by
    have delivered := sound.delivering.delivered p
    unfold promise? at settled
    rw [settled, ← tasks_eq] at delivered
    exact delivered

theorem Stays.moved {p : Nat} {outcome : Outcome} (stays : s.Stays p outcome) (sound : s.Sound)
    (move : Move s t) : t.Stays p outcome := by
  have made := Nat.lt_of_lt_of_le stays.made (move.size_le sound)
  obtain ⟨common, becomes⟩ := move.evolves sound
  have next := becomes p stays.made
  have state := stays.state
  rcases found : t.promise? p with _ | ⟨reactions⟩ | now
  · refine ⟨made, .inl found, ?_⟩
    have past : s.realm.isPending p = false := by
      unfold Realm.isPending
      unfold promise? at state
      rcases state with gone | settled
      · rw [gone]
        rfl
      · rw [settled]
        rfl
    rw [move.tasks sound past stays.made found, stays.tasks]
    rcases move.registered with same | ⟨q, callback, mine, same, list⟩
    · rw [same]
    · -- A callback is registered only on a promise that is there.
      have other : q ≠ p := by
        intro equal
        subst equal
        obtain ⟨promise, still⟩ := sound.there_of_registered mine callback
        rw [← same, found] at still
        cases still
      rw [list]
      exact (Registration.due_concat_other other outcome).symm
  · rw [found] at next
    rcases state with gone | settled
    · rw [gone] at next
      exact next.elim
    · rw [settled] at next
      exact next.elim
  · have same : now = outcome := by
      rw [found] at next
      rcases state with gone | settled
      · rw [gone] at next
        exact next.elim
      · rw [settled] at next
        exact next
    rw [same] at found
    exact (sound.moved move).stays found

theorem Stays.run {p : Nat} {outcome : Outcome} (stays : s.Stays p outcome) (sound : s.Sound)
    (ops : List PromiseOp) : (s.run ops).Stays p outcome := by
  induction ops generalizing s with
  | nil => exact stays
  | cons op rest ih => exact ih (stays.moved sound (sound.move op)) (sound.step op)

/-- Once a cascade is over, nothing that derives from a rejected promise is pending. -/
theorem Sound.not_pending (sound : s.Sound) {reg : Registration} (member : reg ∈ s.registered)
    {f : Failure} (rejected : s.promise? reg.promise = some (.settled (.rejected f)))
    (reactions : List Reaction) : s.promise? reg.derived ≠ some (.pending reactions) := by
  intro here
  have pending := Realm.isPending_eq_true.2 ⟨reactions, here⟩
  obtain ⟨job, inside, -⟩ := sound.delivering.rejected reg member f rejected pending
  exact absurd inside List.not_mem_nil

theorem Move.rejects_old (move : Move s t) (sound : s.Sound) {reg : Registration}
    (old : reg ∈ s.registered) {f : Failure} {outcome : Outcome}
    (now : t.promise? reg.promise = some (.settled (.rejected f)))
    (derived : t.promise? reg.derived = some (.settled outcome)) :
    outcome = .rejected f ∨ ∃ earlier, s.promise? reg.derived = some (.settled earlier) := by
  obtain ⟨common, becomes⟩ := move.evolves sound
  obtain ⟨lower, lower'⟩ := sound.old reg old
  have promise := becomes reg.promise lower
  have next := becomes reg.derived lower'
  rw [now] at promise
  rw [derived] at next
  rcases before : s.promise? reg.derived with _ | ⟨reactions⟩ | earlier
  · rw [before] at next
    exact next.elim
  · left
    rw [before] at next
    have same : outcome = common := next
    rcases first : s.promise? reg.promise with _ | ⟨reactions'⟩ | earlier
    · rw [first] at promise
      exact promise.elim
    · rw [first] at promise
      have same' : Outcome.rejected f = common := promise
      rw [same, ← same']
    · rw [first] at promise
      have same' : Outcome.rejected f = earlier := promise
      rw [← same'] at first
      exact absurd before (sound.not_pending old first reactions)
  · exact .inr ⟨earlier, rfl⟩

/-- A rejection is handed on to what is registered later. -/
theorem Sound.rejects_new (sound : s.Sound) {p : Nat} (mine : 0 < s.owned p) {callback : Nat}
    {f : Failure} {outcome : Outcome}
    (now : (s.step (.andThen p callback)).promise? p = some (.settled (.rejected f)))
    (derived : (s.step (.andThen p callback)).promise? s.realm.promises.size =
      some (.settled outcome)) : outcome = .rejected f := by
  obtain ⟨promise, there⟩ := sound.balanced.there_of_owned mine
  have found : (s.realm.hold (.function callback)).promises.get? p = some promise := there
  have realm : (s.step (.andThen p callback)).realm =
      ((s.realm.hold (.function callback)).andThen p callback).2 := by
    simp only [Session.step, mine, ↓reduceIte]
  have size : s.realm.promises.size = (s.realm.hold (.function callback)).promises.size := rfl
  obtain ⟨common, only, evolves⟩ := evolves_andThen found callback
  have registered := evolves p
  have next := evolves s.realm.promises.size
  rw [← realm, Realm.get?_added, if_neg (Nat.ne_of_lt (Realm.lt_size_of_get? found)), found]
    at registered
  rw [← realm, Realm.get?_added, if_pos size] at next
  unfold promise? at now derived
  rw [now] at registered
  rw [derived] at next
  have same : outcome = common := next
  cases promise with
  | pending reactions =>
    have rejects : Outcome.rejected f = common := registered
    rw [same, rejects]
  | settled earlier =>
    have rejects : Outcome.rejected f = earlier := registered
    rw [same]
    exact only f (by rw [rejects])

/-- What derives from a promise that is rejected now is rejected likewise, unless it was settled
before this operation. -/
theorem Move.rejects (move : Move s t) (sound : s.Sound) {reg : Registration}
    (member : reg ∈ t.registered) {f : Failure}
    (now : t.promise? reg.promise = some (.settled (.rejected f))) :
    t.promise? reg.derived = none ∨ t.promise? reg.derived = some (.settled (.rejected f)) ∨
      ∃ outcome, s.promise? reg.derived = some (.settled outcome) := by
  have after := sound.moved move
  rcases derived : t.promise? reg.derived with _ | ⟨reactions⟩ | outcome
  · exact .inl rfl
  · exact absurd derived (after.not_pending member now reactions)
  right
  by_cases old : reg ∈ s.registered
  · rcases move.rejects_old sound old now derived with same | earlier
    · exact .inl (by rw [same])
    · exact .inr earlier
  · rcases move.registered with same | ⟨p, callback, mine, same, list⟩
    · exact absurd (same ▸ member) old
    · rw [list] at member
      have last : reg = ⟨p, callback, s.realm.promises.size⟩ :=
        List.mem_singleton.1 ((List.mem_append.1 member).resolve_left old)
      subst last same
      exact .inl (by rw [sound.rejects_new mine now derived])

end GuestBridge.Session
