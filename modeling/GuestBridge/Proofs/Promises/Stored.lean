import GuestBridge.Proofs.Promises.Watching
/-!
Promises that were made with promises. What such a promise comes to is told by the last one on the
way from promise to promise, and the walk that a resolution makes finds it.
-/

set_option autoImplicit false

namespace GuestBridge

namespace Chronicle

/-- From promise to promise, each fulfilled with the next. -/
inductive Leads (known : Chronicle) : Nat → Nat → Prop
  | here (q : Nat) : Leads known q q
  | stored {q x y : Nat} (held : known q = some (.fulfilled (.promise x)))
      (onward : Leads known x y) : Leads known q y

/-- How a promise is settled when promises that were stored as values are followed to the end. -/
def Result (known : Chronicle) (q : Nat) (outcome : Outcome) : Prop :=
  ∃ x, known.Leads q x ∧ known x = some outcome ∧ outcome.Plain

variable {known later : Chronicle} {p q x y : Nat}

theorem Leads.mono (leads : known.Leads q x) (extends_ : known.Extends later) :
    later.Leads q x := by
  induction leads with
  | here q => exact .here q
  | stored held _ ih => exact .stored (extends_ _ _ held) ih

/-- No promise is stored here. -/
def Last (known : Chronicle) (x : Nat) : Prop := ∀ z, known x ≠ some (.fulfilled (.promise z))

theorem Last.of_plain (plain : ∀ outcome, known x = some outcome → outcome.Plain) :
    known.Last x := fun z same => plain _ same z rfl

theorem Leads.unique (first : known.Leads q x) (second : known.Leads q y) (lastX : known.Last x)
    (lastY : known.Last y) : x = y := by
  induction first with
  | here q =>
    cases second with
    | here => rfl
    | stored held _ => exact absurd held (lastX _)
  | stored held _ ih =>
    cases second with
    | here => exact absurd held (lastY _)
    | stored held' onward =>
      rw [held] at held'
      cases held'
      exact ih onward lastX

/-- A promise that is settled like the last one on the way has the result. -/
theorem result_iff (leads : known.Leads q x) (same : known p = known x)
    (plain : ∀ outcome, known x = some outcome → outcome.Plain) (outcome : Outcome) :
    known p = some outcome ↔ known.Result q outcome := by
  rw [same]
  constructor
  · exact fun settled => ⟨x, leads, settled, plain outcome settled⟩
  · rintro ⟨y, leads', settled, plain'⟩
    have lastY : known.Last y := .of_plain fun other same => by
      rw [settled] at same
      cases same
      exact plain'
    rw [leads.unique leads' (.of_plain plain) lastY, settled]

/-- Where the walk from a promise ends. -/
def Reaches (known : Chronicle) (asking q : Nat) : Target → Prop
  | .itself => known.Leads q asking
  | .waiting w => known.Leads q w
  | .value v => ∃ x, known.Leads q x ∧ known x = some (.fulfilled v)
  | .failure f => ∃ x, known.Leads q x ∧ known x = some (.rejected f)

theorem Reaches.stored {asking : Nat} {target : Target}
    (held : known q = some (.fulfilled (.promise x))) (reaches : known.Reaches asking x target) :
    known.Reaches asking q target := by
  cases target with
  | itself => exact Leads.stored held reaches
  | waiting w => exact Leads.stored held reaches
  | value v =>
    obtain ⟨y, leads, settled⟩ := reaches
    exact ⟨y, Leads.stored held leads, settled⟩
  | failure f =>
    obtain ⟨y, leads, settled⟩ := reaches
    exact ⟨y, Leads.stored held leads, settled⟩

end Chronicle

namespace Realm

variable {known : Chronicle} {r : Realm} {p q : Nat}

theorem reaches_followPromise (faithful : Faithful known r) (ordered : r.Ordered)
    (asking q : Nat) : known.Reaches asking q (r.followPromise asking q) := by
  induction q using Nat.strongRecOn with
  | ind q ih =>
    rw [followPromise]
    split
    · next inner found =>
      have held := faithful.settled found
      split
      · next same => exact .stored held (same ▸ .here inner)
      · rw [if_pos (ordered q inner found)]
        exact (ih inner (ordered q inner found)).stored held
    · next v _ found => exact ⟨q, .here q, faithful.settled found⟩
    · next f found => exact ⟨q, .here q, faithful.settled found⟩
    · exact .here q

theorem reaches_target (faithful : Faithful known r) (ordered : r.Ordered) (asking q : Nat) :
    known.Reaches asking q (r.target asking (.promise q)) := by
  simp only [target]
  split
  · next same => exact same ▸ .here q
  · exact reaches_followPromise faithful ordered asking q

/-- A pending promise to which the way leads is found. -/
theorem target_itself (faithful : Faithful known r) (ordered : r.Ordered) (closed : r.Closed)
    (pending : r.isPending p = true) (leads : known.Leads q p)
    (there : ∃ promise, r.promises.get? q = some promise) :
    r.target p (.promise q) = .itself := by
  induction leads with
  | here q => exact if_pos rfl
  | @stored q x p held _ ih =>
    obtain ⟨promise, found⟩ := there
    rw [faithful.of_known held found] at found
    have onward := ih pending (closed q x found)
    have apart : q ≠ p := by
      intro same
      obtain ⟨reactions, waiting⟩ := isPending_eq_true.1 pending
      rw [same, waiting] at found
      cases found
    simp only [target, apart, ↓reduceIte] at onward ⊢
    rw [followPromise, found]
    simp only
    split at onward
    · next same => rw [if_pos same]
    · next other => rw [if_neg other, if_pos (ordered q x found), onward]

end Realm

end GuestBridge
