import GuestBridge.Proofs.Lifetime.Invariant
/-!
Places on the host side come and go, closures are made and queues are emptied: none of it disturbs
the invariant.
-/

set_option autoImplicit false

namespace GuestBridge.Lifetime

variable {s : State} {i m n : Nat} {c : Closure}

/-- Operations begin and end; the closure needs as many holders as there are operations on it. -/
theorem Invariant.setBusy (invariant : Invariant s)
    (found : s.closures.pool.held? i = some ⟨c, n⟩) (room : active i s.history ≤ m)
    (enough : m ≤ n) : Invariant (s.setBusy i m) := by
  obtain ⟨counted, upright⟩ := invariant
  refine ⟨{ counted with room := ?_, held := ?_, absent := ?_ },
    fun fair => { upright fair with }⟩
  · intro j
    simp only [State.setBusy]
    split
    · next same => exact same ▸ room
    · exact counted.room j
  · intro j d l here
    refine ⟨?_, (counted.held j d l here).2⟩
    simp only [State.setBusy] at here ⊢
    split
    · next same =>
      subst same
      rw [found] at here
      cases here
      exact enough
    · exact (counted.held j d l here).1
  · intro j missing
    simp only [State.setBusy] at missing ⊢
    have other : j ≠ i := by
      rintro rfl
      rw [found] at missing
      cases missing
    simp only [other, ↓reduceIte]
    exact counted.absent j missing

theorem held?_hold (found : s.closures.pool.held? i = some ⟨c, n⟩) (j : Nat) :
    (s.hold i).closures.pool.held? j =
      if j = i then some ⟨c, n + 1⟩ else s.closures.pool.held? j := by
  simp only [State.hold, Closures.hold, Pool.held?_hold, found, Option.map_some]

theorem hold_of_absent (missing : s.closures.pool.held? i = none) : s.hold i = s := by
  simp only [State.hold, Closures.hold, Pool.hold, missing]

theorem Invariant.hold (invariant : Invariant s) (i : Nat) : Invariant (s.hold i) := by
  cases found : s.closures.pool.held? i with
  | none => rwa [hold_of_absent found]
  | some entry =>
    obtain ⟨c, n⟩ := entry
    obtain ⟨counted, upright⟩ := invariant
    have before : ∀ j d l, (s.hold i).closures.pool.held? j = some ⟨d, l⟩ →
        ∃ l', l' ≤ l ∧ s.closures.pool.held? j = some ⟨d, l'⟩ := by
      intro j d l here
      rw [held?_hold found] at here
      split at here
      · next same =>
        simp only [Option.some.injEq, Held.mk.injEq] at here
        obtain ⟨rfl, rfl⟩ := here
        exact ⟨n, Nat.le_succ n, same ▸ found⟩
      · exact ⟨l, Nat.le_refl l, here⟩
    refine ⟨{ counted with
      size := ?_, created := ?_, balanced := ?_, held := ?_, absent := ?_, unborn := ?_ },
      fun fair => { upright fair with record := ?_, queued := ?_ }⟩
    · simpa [State.hold, Closures.hold] using counted.size
    · intro account
      simpa [State.hold] using counted.created account
    · intro j d l here
      obtain ⟨l', -, there⟩ := before j d l here
      exact counted.balanced j d l' there
    · intro j d l here
      obtain ⟨l', less, there⟩ := before j d l here
      exact ⟨Nat.le_trans (counted.held j d l' there).1 less, (counted.held j d l' there).2⟩
    · intro j missing
      rw [held?_hold found] at missing
      split at missing
      · cases missing
      · exact counted.absent j missing
    · simpa [State.hold, Closures.hold] using counted.unborn
    · intro j d l here
      obtain ⟨l', -, there⟩ := before j d l here
      exact (upright fair).record j d l' there
    · intro account
      simpa [State.hold, State.everQueued] using (upright fair).queued account

theorem held?_release (found : s.closures.pool.held? i = some ⟨c, n⟩) (j : Nat) :
    (s.closures.release i).pool.held? j =
      if j = i then Pool.Held.released ⟨c, n⟩ else s.closures.pool.held? j := by
  rw [Closures.pool_release, Pool.held?_release, found, Option.bind_some]

theorem release_of_several (found : s.closures.pool.held? i = some ⟨c, n⟩) (several : ¬ n ≤ 1) :
    s.release i = { s with closures := s.closures.release i } := by
  simp [State.release, Pool.contains, held?_release found, Pool.Held.released, several]

theorem release_of_last (found : s.closures.pool.held? i = some ⟨c, n⟩) (last : n ≤ 1) :
    s.release i = ({ s with closures := s.closures.release i } : State).note (.gone i
      (if c.inert = false ∧ 0 < c.references then [c.finalizer] else [])) := by
  have added : ((s.closures.release i).ledger c.account).finalizers.drop
      (s.closures.ledger c.account).finalizers.length =
        if c.inert = false ∧ 0 < c.references then [c.finalizer] else [] := by
    rw [Closures.ledger_release found]
    simp only [last, true_and, and_true]
    split
    · exact List.drop_left
    · exact List.drop_length
  simp only [State.release, Closures.get_of_held? found, added]
  simp [Pool.contains, held?_release found, Pool.Held.released, last]

/-- A closure that several places hold stays as it is when one of them lets go. -/
theorem Invariant.release_several (invariant : Invariant s)
    (found : s.closures.pool.held? i = some ⟨c, n⟩) (spare : s.busy i < n) (several : ¬ n ≤ 1) :
    Invariant (s.release i) := by
  obtain ⟨counted, upright⟩ := invariant
  rw [release_of_several found several]
  have sameLedger : ∀ account,
      (s.closures.release i).ledger account = s.closures.ledger account := fun account => by
    simp only [Closures.ledger_release found, several, false_and, ↓reduceIte]
  have sameSize : (s.closures.release i).pool.size = s.closures.pool.size := by
    rw [Closures.pool_release, Pool.size_release]
  have before : ∀ j d l, (s.closures.release i).pool.held? j = some ⟨d, l⟩ →
      ∃ l', s.closures.pool.held? j = some ⟨d, l'⟩ ∧ s.busy j ≤ l := by
    intro j d l here
    rw [held?_release found] at here
    split at here
    · next same =>
      simp only [Pool.Held.released, several, ↓reduceIte, Option.some.injEq, Held.mk.injEq] at here
      obtain ⟨rfl, rfl⟩ := here
      subst same
      exact ⟨n, found, by omega⟩
    · exact ⟨l, here, (counted.held j d l here).1⟩
  refine ⟨{ counted with
    size := ?_, created := ?_, balanced := ?_, held := ?_, absent := ?_, unborn := ?_ },
    fun fair => { upright fair with record := ?_, queued := ?_ }⟩
  · exact sameSize.trans counted.size
  · intro account
    exact (congrArg Ledger.created (sameLedger account)).trans (counted.created account)
  · intro j d l here
    obtain ⟨l', there, -⟩ := before j d l here
    exact counted.balanced j d l' there
  · intro j d l here
    obtain ⟨l', there, enough⟩ := before j d l here
    exact ⟨enough, (counted.held j d l' there).2⟩
  · intro j missing
    have missing : (s.closures.release i).pool.held? j = none := missing
    rw [held?_release found] at missing
    split at missing
    · simp [Pool.Held.released, several] at missing
    · exact counted.absent j missing
  · intro j beyond
    exact counted.unborn j (sameSize ▸ beyond)
  · intro j d l here
    obtain ⟨l', there, -⟩ := before j d l here
    exact (upright fair).record j d l' there
  · intro account
    simp only [State.everQueued, sameLedger]
    exact (upright fair).queued account

/-- A closure that is not under way is owed a destructor call exactly if there was none; a reference
that was lost otherwise would have made the call due. -/
theorem Upright.owed (upright : Upright s) (counted : Counted s)
    (found : s.closures.pool.held? i = some ⟨c, n⟩) (inactive : active i s.history = 0)
    {k : Closure} (born : (births s.history)[i]? = some k) :
    (if c.inert = false ∧ 0 < c.references then [c.finalizer] else []) =
      if destructions i s.history = 0 then [k.finalizer] else [] := by
  have stands := upright.stands found born
  have balance := counted.balanced i c n found
  have quiet := upright.quiet i
  have inert : c.inert = decide (0 < destructions i s.history) := by
    rw [stands]
    rfl
  simp only [Due] at quiet
  by_cases due : destructions i s.history = 0
  · have referenced : 0 < c.references := by omega
    have words : c.finalizer = k.finalizer := by
      rw [stands]
      simp [Closure.finalizer, standing, due, inactive]
    simp [inert, due, referenced, words]
  · have called : 0 < destructions i s.history := by omega
    simp [inert, due, called]

section Last

variable (found : s.closures.pool.held? i = some ⟨c, n⟩) (idle : s.busy i = 0) (last : n ≤ 1)

include found last

/-- The last place to let go takes one closure away and touches no other. -/
theorem held?_of_released {j l : Nat} {d : Closure}
    (here : (s.closures.release i).pool.held? j = some ⟨d, l⟩) :
    j ≠ i ∧ s.closures.pool.held? j = some ⟨d, l⟩ := by
  rw [held?_release found] at here
  split at here
  · simp [Pool.Held.released, last] at here
  · next other => exact ⟨other, here⟩

include idle

theorem Counted.release_last (counted : Counted s) : Counted (s.release i) := by
  rw [release_of_last found last]
  have inactive : active i s.history = 0 := Nat.le_zero.1 (idle ▸ counted.room i)
  have balance := counted.balanced i c n found
  have sameSize : (s.closures.release i).pool.size = s.closures.pool.size := by
    rw [Closures.pool_release, Pool.size_release]
  constructor
  case size => exact sameSize.trans counted.size
  case created =>
    intro account
    have sameCount : ((s.closures.release i).ledger account).created =
        (s.closures.ledger account).created := by
      rw [Closures.ledger_release found]
      split <;> rfl
    exact sameCount.trans (counted.created account)
  case numbered => exact counted.numbered
  case labelled => exact counted.labelled_cons (fun _ label => by cases label)
  case balanced =>
    intro j d l here
    exact counted.balanced j d l (held?_of_released found last here).2
  case room => exact counted.room
  case held =>
    intro j d l here
    obtain ⟨other, there⟩ := held?_of_released found last here
    refine ⟨(counted.held j d l there).1, ?_⟩
    have still := (counted.held j d l there).2
    simpa [State.note, departures, Ne.symm other] using still
  case absent =>
    intro j missing
    have missing : (s.closures.release i).pool.held? j = none := missing
    rw [held?_release found] at missing
    split at missing
    · next same =>
      subst same
      refine ⟨idle, ?_⟩
      change drops j s.history ≤ 1
      omega
    · exact counted.absent j missing
  case unborn =>
    intro j beyond
    have beyond : s.closures.pool.size ≤ j := sameSize ▸ beyond
    have inside := Pool.lt_size_of_held? found
    have other : i ≠ j := by omega
    have fresh := counted.unborn j beyond
    simpa [State.note, departures, destructions, drops, other] using fresh

theorem Upright.release_last (upright : Upright s) (counted : Counted s) :
    Upright (s.release i) := by
  rw [release_of_last found last]
  have inactive : active i s.history = 0 := Nat.le_zero.1 (idle ▸ counted.room i)
  obtain ⟨k, born, stands⟩ := upright.record i c n found
  have owed := upright.owed counted found inactive born
  constructor
  case record =>
    intro j d l here
    exact upright.record j d l (held?_of_released found last here).2
  case quiet => exact upright.quiet
  case dropped => exact upright.dropped
  case lawful =>
    exact ⟨upright.lawful, fun j due => (upright.quiet j due).elim,
      (counted.held i c n found).2, k, born, owed⟩
  case queued =>
    intro account
    have sofar := upright.queued account
    have account_eq : c.account = k.account := by rw [stands]; rfl
    simp only [State.everQueued, State.note, taken, leftovers, born] at sofar ⊢
    rw [Closures.ledger_release found, ← sofar]
    by_cases mine : account = k.account
    · simp only [account_eq, mine, last, true_and, and_true]
      by_cases due : destructions i s.history = 0
      · simp only [due, ↓reduceIte] at owed
        split at owed
        · next both =>
          have words : c.finalizer = k.finalizer := by simpa using owed
          rw [if_pos both]
          simp [due, words, Option.filter]
        · cases owed
      · simp only [due, ↓reduceIte] at owed
        split at owed
        · cases owed
        · next neither => simp [neither, due]
    · have others : ¬ k.account = account := fun equal => mine equal.symm
      simp [account_eq, mine, others]
  case answered => exact upright.answered_cons id

end Last

/-- When the last place lets go, the destructor is left to the account unless it was called. -/
theorem Invariant.release (invariant : Invariant s)
    (found : s.closures.pool.held? i = some ⟨c, n⟩) (spare : s.busy i < n) :
    Invariant (s.release i) := by
  by_cases last : n ≤ 1
  · obtain ⟨counted, upright⟩ := invariant
    have idle : s.busy i = 0 := by omega
    refine ⟨counted.release_last found idle last, fun fair => ?_⟩
    have before : Fair s.history := by
      rw [release_of_last found last] at fair
      exact fair.earlier (List.suffix_cons ..)
    exact (upright before).release_last found idle last counted
  · exact invariant.release_several found spare last

section Create

variable (account : Account) (code destructor data metaWord : UInt32)

/-- The closure that is made next. -/
def State.newborn (s : State) : Closure :=
  ⟨account, (s.closures.ledger account).created, code, destructor, data, metaWord, 1, false⟩

theorem held?_created (s : State) (j : Nat) :
    (s.create account code destructor data metaWord).closures.pool.held? j =
      if j = s.closures.pool.size then some ⟨s.newborn account code destructor data metaWord, 1⟩
      else s.closures.pool.held? j :=
  Closures.held?_create s.closures account code destructor data metaWord j

theorem history_created (s : State) :
    (s.create account code destructor data metaWord).history =
      .created (s.newborn account code destructor data metaWord) :: s.history := rfl

variable {account code destructor data metaWord}

theorem held?_of_created {j l : Nat} {d : Closure}
    (here : (s.create account code destructor data metaWord).closures.pool.held? j = some ⟨d, l⟩) :
    (j = s.closures.pool.size ∧ d = s.newborn account code destructor data metaWord ∧ l = 1) ∨
      s.closures.pool.held? j = some ⟨d, l⟩ := by
  rw [held?_created] at here
  split at here
  · next last =>
    cases here
    exact .inl ⟨last, rfl, rfl⟩
  · exact .inr here

/-- Nothing has happened to the closure that is made next. -/
theorem Counted.next (counted : Counted s) :
    s.busy s.closures.pool.size = 0 ∧ active s.closures.pool.size s.history = 0 := by
  have beyond := Pool.held?_eq_none_of_size_le (Nat.le_refl s.closures.pool.size)
  have idle := (counted.absent _ beyond).1
  exact ⟨idle, Nat.le_zero.1 (idle ▸ counted.room _)⟩

theorem Counted.create (counted : Counted s) :
    Counted (s.create account code destructor data metaWord) := by
  obtain ⟨idle, inactive⟩ := counted.next
  have fresh := counted.unborn _ (Nat.le_refl s.closures.pool.size)
  constructor
  case size =>
    simp only [State.create, State.note, births, List.length_append, List.length_singleton,
      Closures.size_create, counted.size]
  case created =>
    intro other
    simp only [State.create, State.note, births, List.countP_append, List.countP_singleton,
      Closures.ledger_create]
    by_cases same : other = account
    · subst same
      simp [counted.created]
    · have apart : ¬ account = other := fun equal => same equal.symm
      simp [same, apart, counted.created]
  case numbered =>
    intro j d here
    simp only [history_created, births] at here ⊢
    rcases Nat.lt_trichotomy j (births s.history).length with inside | last | outside
    · rw [List.getElem?_append_left inside] at here
      rw [List.take_append_of_le_length (Nat.le_of_lt inside)]
      exact counted.numbered j d here
    · subst last
      rw [List.getElem?_append_right (Nat.le_refl _), Nat.sub_self] at here
      simp only [List.getElem?_cons_zero, Option.some.injEq] at here
      subst here
      rw [List.take_left' rfl]
      exact counted.created account
    · rw [List.getElem?_eq_none (by simp; omega)] at here
      cases here
  case labelled => exact counted.labelled_cons (fun _ label => by cases label)
  case balanced =>
    intro j d l here
    change d.references + drops j s.history = active j s.history + 1
    rcases held?_of_created here with ⟨rfl, rfl, -⟩ | before
    · rw [inactive, fresh.2.1]
      rfl
    · exact counted.balanced j d l before
  case room => exact counted.room
  case held =>
    intro j d l here
    change s.busy j ≤ l ∧ departures j s.history = 0
    rcases held?_of_created here with ⟨rfl, -, rfl⟩ | before
    · exact ⟨by omega, fresh.2.2⟩
    · exact counted.held j d l before
  case absent =>
    intro j missing
    rw [held?_created] at missing
    split at missing
    · cases missing
    · exact counted.absent j missing
  case unborn =>
    intro j outside
    have outside : s.closures.pool.size ≤ j := by
      have := Closures.size_create s.closures account code destructor data metaWord
      simp only [State.create, State.note] at outside
      omega
    exact counted.unborn j outside

theorem Upright.create (upright : Upright s) (counted : Counted s) :
    Upright (s.create account code destructor data metaWord) := by
  obtain ⟨-, inactive⟩ := counted.next
  have fresh := counted.unborn _ (Nat.le_refl s.closures.pool.size)
  constructor
  case record =>
    intro j d l here
    change ∃ k', (births s.history ++ [s.newborn account code destructor data metaWord])[j]? =
      some k' ∧ d = standing k' d.references (active j s.history) (destructions j s.history)
    rcases held?_of_created here with ⟨rfl, rfl, -⟩ | before
    · refine ⟨s.newborn account code destructor data metaWord, ?_, ?_⟩
      · rw [counted.size, List.getElem?_append_right (Nat.le_refl _), Nat.sub_self]
        rfl
      · rw [inactive, fresh.1]
        rfl
    · obtain ⟨k', there, stands⟩ := upright.record j d l before
      refine ⟨k', ?_, stands⟩
      rw [List.getElem?_append_left (List.getElem?_eq_some_iff.1 there).1]
      exact there
  case quiet => exact upright.quiet
  case dropped => exact upright.dropped
  case lawful => exact ⟨upright.lawful, allowed_of_quiet upright.quiet trivial⟩
  case queued =>
    intro other
    have sofar := upright.queued other
    simp only [State.everQueued, State.create, State.note, taken, leftovers,
      Closures.ledger_create] at sofar ⊢
    by_cases same : other = account
    · subst same
      simpa using sofar
    · simpa [same] using sofar
  case answered => exact upright.answered_cons id

theorem Invariant.create (invariant : Invariant s) :
    Invariant (s.create account code destructor data metaWord) :=
  ⟨invariant.1.create, fun fair =>
    (invariant.2 (fair.earlier (List.suffix_cons ..))).create invariant.1⟩

end Create

section Drain

variable {account : Account}

theorem ledger_drain (s : State) (other : Account) : (s.drain account).closures.ledger other =
    if other = account then { s.closures.ledger account with finalizers := [] }
    else s.closures.ledger other :=
  Closures.ledger_setLedger s.closures _ account other

theorem pool_drain (s : State) : (s.drain account).closures.pool = s.closures.pool :=
  Closures.pool_setLedger ..

theorem Counted.drain (counted : Counted s) : Counted (s.drain account) := by
  have samePool : (s.drain account).closures.pool = s.closures.pool := pool_drain s
  constructor
  case size => exact (congrArg Pool.size samePool).trans counted.size
  case created =>
    intro other
    have sameCount : ((s.drain account).closures.ledger other).created =
        (s.closures.ledger other).created := by
      rw [ledger_drain]
      split
      · next same => rw [same]
      · rfl
    exact sameCount.trans (counted.created other)
  case numbered => exact counted.numbered
  case labelled => exact counted.labelled_cons (fun _ label => by cases label)
  case balanced =>
    intro j d l here
    exact counted.balanced j d l (samePool ▸ here)
  case room => exact counted.room
  case held =>
    intro j d l here
    exact counted.held j d l (samePool ▸ here)
  case absent =>
    intro j missing
    exact counted.absent j (samePool ▸ missing)
  case unborn =>
    intro j outside
    exact counted.unborn j (samePool ▸ outside)

theorem Upright.drain (upright : Upright s) : Upright (s.drain account) := by
  constructor
  case record =>
    intro j d l here
    rw [pool_drain] at here
    exact upright.record j d l here
  case quiet => exact upright.quiet
  case dropped => exact upright.dropped
  case lawful => exact ⟨upright.lawful, allowed_of_quiet upright.quiet trivial⟩
  case queued =>
    intro other
    have sofar := upright.queued other
    change (taken other s.history ++ if account = other then (s.closures.ledger account).finalizers
      else []) ++ ((s.drain account).closures.ledger other).finalizers = leftovers other s.history
    rw [ledger_drain, ← sofar]
    by_cases same : other = account
    · subst same
      simp [State.everQueued]
    · simp [State.everQueued, same, Ne.symm same]
  case answered => exact upright.answered_cons id

theorem Invariant.drain (invariant : Invariant s) : Invariant (s.drain account) :=
  ⟨invariant.1.drain, fun fair => (invariant.2 (fair.earlier (List.suffix_cons ..))).drain⟩

end Drain

end GuestBridge.Lifetime
