import GuestBridge.Proofs.Promises.Outcomes
/-!
Reactions are delivered exactly once, whatever the callers do.
-/

set_option autoImplicit false

namespace GuestBridge.Session

variable {s : Session}

/-- The callbacks that were registered are where they have to be: for each there was one microtask,
in the order of registration, with the value of its promise, if that is fulfilled; otherwise there
was none. Those of a pending promise wait on it, and nowhere else. -/
structure Delivers (s : Session) : Prop where
  present : ∀ p, 0 < s.owned p → ∃ promise, s.promise? p = some promise
  distinct : Registration.Distinct s.registered
  known : ∀ task ∈ s.tasks, ∃ reg ∈ s.registered, task.settles = some reg.derived
  once : ∀ p, Registration.Delivered s.registered p s.tasks (s.promise? p)
  waiting : ∀ p reactions, s.promise? p = some (.pending reactions) →
    reactions.filter Reaction.isCall =
      (Registration.on s.registered p).map Registration.reaction
  done : ∀ reg ∈ s.registered, ∀ outcome, s.promise? reg.promise = some (.settled outcome) →
    ∀ q reactions, s.promise? q = some (.pending reactions) → reg.reaction ∉ reactions

def HandsOn (before after : Session) : Prop :=
  ∀ reg ∈ after.registered, ∀ f,
    after.promise? reg.promise = some (.settled (.rejected f)) →
    after.promise? reg.derived = none ∨
    after.promise? reg.derived = some (.settled (.rejected f)) ∨
    ∃ outcome, before.promise? reg.derived = some (.settled outcome)

theorem Sound.delivers (sound : s.Sound) : s.Delivers where
  present := fun p mine => sound.balanced.there_of_owned mine
  distinct := sound.delivering.distinct
  known := by
    rw [tasks_eq]
    exact sound.delivering.known
  once := by
    intro p
    rw [tasks_eq]
    exact sound.delivering.delivered p
  waiting := sound.delivering.waiting
  done := by
    intro reg member outcome settled q reactions here waits
    have calls : reg.reaction ∈ reactions.filter Reaction.isCall := List.mem_filter.2 ⟨waits, rfl⟩
    rw [sound.delivering.waiting q reactions here] at calls
    obtain ⟨other, mine, same⟩ := List.mem_map.1 calls
    obtain ⟨listed, place⟩ := Registration.mem_on.1 mine
    have alike : other.derived = reg.derived := by
      injection same
    have equal := Registration.eq_of_derived sound.delivering.distinct listed member alike
    subst equal
    rw [place, here] at settled
    cases settled

/-- After any operations in any order: each callback has led to exactly the microtask that it had
to lead to, what is settled stays so whatever else is done, and the next operation hands rejections
on. -/
theorem reactions_delivered_once (closures : Closures) (elements : Elements)
    (ops : List PromiseOp) :
    ((start closures elements).run ops).Delivers ∧
    (∀ p outcome, ((start closures elements).run ops).promise? p = some (.settled outcome) →
      ∀ more, (((start closures elements).run ops).run more).Stays p outcome) ∧
    ∀ op, HandsOn ((start closures elements).run ops)
      (((start closures elements).run ops).step op) := by
  have sound := (start_sound closures elements).run ops
  refine ⟨sound.delivers, fun p outcome settled more => ?_, fun op reg member f now => ?_⟩
  · exact (sound.stays settled).run sound more
  · exact (sound.move op).rejects sound member now

end GuestBridge.Session
