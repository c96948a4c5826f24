import GuestBridge.Closure
import GuestBridge.Proofs.Pool
/-!
What each operation on the closures leaves in the pool and in the ledgers.
-/

set_option autoImplicit false

namespace GuestBridge

/-- The destructor call that a closure in this state is owed. -/
def Closure.finalizer (k : Closure) : Finalizer := ⟨k.number, k.destructor, k.data, k.metaWord⟩

namespace Closures

theorem get_of_held? {c : Closures} {i : Nat} {h : Held Closure} (found : c.pool.held? i = some h) :
    c.get i = h.thing := by
  simp only [get, Pool.get?, found, Option.map_some, Option.getD_some]

@[simp] theorem pool_setLedger (c : Closures) (l : Ledger) (account : Account) :
    (c.setLedger l account).pool = c.pool := by
  cases account <;> rfl

theorem ledger_setLedger (c : Closures) (l : Ledger) (account other : Account) :
    (c.setLedger l account).ledger other = if other = account then l else c.ledger other := by
  cases account <;> cases other <;> rfl

@[simp] theorem ledger_modify (c : Closures) (i : Nat) (f : Closure → Closure) (account : Account) :
    (c.modify i f).ledger account = c.ledger account := by
  cases account <;> rfl

@[simp] theorem ledger_hold (c : Closures) (i : Nat) (account : Account) :
    (c.hold i).ledger account = c.ledger account := by
  cases account <;> rfl

theorem pool_release (c : Closures) (i : Nat) : (c.release i).pool = (c.pool.release i).2 := by
  unfold release
  rcases c.pool.release i with ⟨_ | k, pool⟩
  · rfl
  · simp only
    split
    · exact pool_setLedger ..
    · rfl

/-- The last place leaves a live closure to the account it was made on. -/
theorem ledger_release {c : Closures} {i n : Nat} {k : Closure}
    (found : c.pool.held? i = some ⟨k, n⟩) (account : Account) :
    (c.release i).ledger account =
      if n ≤ 1 ∧ k.inert = false ∧ 0 < k.references ∧ account = k.account then
        { c.ledger account with finalizers := (c.ledger account).finalizers ++ [k.finalizer] }
      else c.ledger account := by
  have handed := Pool.release_fst c.pool i
  simp only [found, Option.bind_some] at handed
  unfold release
  rcases released : c.pool.release i with ⟨_ | k', pool⟩
  · rw [released] at handed
    have several : ¬ n ≤ 1 := fun few => by simp [few] at handed
    simp only [several, false_and, ↓reduceIte]
    cases account <;> rfl
  · rw [released] at handed
    have last : n ≤ 1 := by
      by_cases few : n ≤ 1
      · exact few
      · simp [few] at handed
    simp only [last, ↓reduceIte, Option.some.injEq] at handed
    subst handed
    by_cases owed : k'.inert = false ∧ 0 < k'.references
    · simp only [owed.1, owed.2, Bool.not_false, decide_true, Bool.and_self, ↓reduceIte,
        queueFinalizer, ledger_setLedger, last, true_and]
      by_cases same : account = k'.account
      · subst same
        simp only [↓reduceIte]
        cases k'.account <;> rfl
      · simp only [same, ↓reduceIte]
        cases account <;> rfl
    · have kept : ¬ ((!k'.inert && decide (0 < k'.references)) = true) := by simp_all
      have none : ¬ (n ≤ 1 ∧ k'.inert = false ∧ 0 < k'.references ∧ account = k'.account) :=
        fun all => owed ⟨all.2.1, all.2.2.1⟩
      simp only [kept, none, ↓reduceIte]
      cases account <;> rfl

theorem held?_create (c : Closures) (account : Account) (code destructor data metaWord : UInt32)
    (i : Nat) :
    (c.create account code destructor data metaWord).2.pool.held? i =
      if i = c.pool.size then
        some ⟨⟨account, (c.ledger account).created, code, destructor, data, metaWord, 1, false⟩, 1⟩
      else c.pool.held? i := by
  simp only [create, pool_setLedger]
  exact Pool.held?_add ..

theorem size_create (c : Closures) (account : Account) (code destructor data metaWord : UInt32) :
    (c.create account code destructor data metaWord).2.pool.size = c.pool.size + 1 := by
  simp only [create, pool_setLedger]
  exact Pool.size_add ..

theorem ledger_create (c : Closures) (account : Account) (code destructor data metaWord : UInt32)
    (other : Account) :
    (c.create account code destructor data metaWord).2.ledger other =
      if other = account then
        { c.ledger account with created := (c.ledger account).created + 1 }
      else c.ledger other := by
  simp only [create, ledger_setLedger]
  cases other <;> rfl

end Closures

end GuestBridge
