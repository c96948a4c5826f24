/-!
Things that several places hold. A pool gives out numbers in ascending order, counts for each
thing how many places hold it, and lets go of it when the last one does.
-/

set_option autoImplicit false

namespace GuestBridge

structure Held (α : Type) where
  thing : α
  holders : Nat
  deriving DecidableEq, Repr

/-- The thing with number `i` is at index `i`, or `none` once nothing holds it. -/
structure Pool (α : Type) where
  entries : Array (Option (Held α))
  deriving DecidableEq, Repr

namespace Pool

variable {α : Type}

def empty : Pool α := ⟨#[]⟩

/-- The number that the next thing gets. -/
def size (p : Pool α) : Nat := p.entries.size

def held? (p : Pool α) (i : Nat) : Option (Held α) := (p.entries[i]?).join

def get? (p : Pool α) (i : Nat) : Option α := (p.held? i).map Held.thing

def contains (p : Pool α) (i : Nat) : Bool := (p.held? i).isSome

/-- Adds a thing that `holders` places hold from the start. -/
def add (p : Pool α) (thing : α) (holders : Nat) : Nat × Pool α :=
  (p.size, ⟨p.entries.push (some ⟨thing, holders⟩)⟩)

def put (p : Pool α) (i : Nat) (entry : Option (Held α)) : Pool α :=
  ⟨p.entries.setIfInBounds i entry⟩

/-- Changes a thing; who holds it stays the same. -/
def modify (p : Pool α) (i : Nat) (f : α → α) : Pool α :=
  match p.held? i with
  | some h => p.put i (some ⟨f h.thing, h.holders⟩)
  | none => p

/-- One more place holds the thing. -/
def hold (p : Pool α) (i : Nat) : Pool α :=
  match p.held? i with
  | some h => p.put i (some ⟨h.thing, h.holders + 1⟩)
  | none => p

/-- One place less holds the thing; it is handed back when that was the last one. -/
def release (p : Pool α) (i : Nat) : Option α × Pool α :=
  match p.held? i with
  | some h =>
    if h.holders ≤ 1 then (some h.thing, p.put i none)
    else (none, p.put i (some ⟨h.thing, h.holders - 1⟩))
  | none => (none, p)

/-- How many things that are still held satisfy `q`. -/
def count (p : Pool α) (q : α → Bool) : Nat :=
  p.entries.countP fun entry => entry.any fun h => q h.thing

theorem getElem?_of_held? {p : Pool α} {i : Nat} {h : Held α} (found : p.held? i = some h) :
    p.entries[i]? = some (some h) := by
  unfold held? at found
  cases entry : p.entries[i]? with
  | none => simp [entry] at found
  | some e => simp_all

@[simp] theorem get?_hold (p : Pool α) (i j : Nat) : (p.hold i).get? j = p.get? j := by
  unfold hold
  split
  · next h found =>
    have place := getElem?_of_held? found
    obtain ⟨inside, value⟩ := Array.getElem?_eq_some_iff.1 place
    by_cases same : i = j
    · subst same
      simp [get?, held?, put, inside, value]
    · simp [get?, held?, put, same]
  · rfl

/-- Replacing an entry changes a count by that entry alone. -/
theorem count_put {p : Pool α} {i : Nat} {h : Held α} (found : p.held? i = some h)
    (entry : Option (Held α)) (q : α → Bool) :
    (p.put i entry).count q + (if q h.thing then 1 else 0) =
      p.count q + (if entry.any (fun h => q h.thing) then 1 else 0) := by
  have place := getElem?_of_held? found
  obtain ⟨inside, value⟩ := Array.getElem?_eq_some_iff.1 place
  have counted : (if q h.thing then 1 else 0) ≤ p.count q := by
    split
    · exact Array.countP_pos_iff.2 ⟨some h, Array.mem_of_getElem? place, by simpa⟩
    · exact Nat.zero_le _
  simp only [put, count, Array.setIfInBounds, inside, ↓reduceDIte]
  rw [Array.countP_set inside]
  simp only [value, Option.any_some]
  simp only [count] at counted
  omega

theorem count_modify {p : Pool α} {i : Nat} {f : α → α} {q : α → Bool}
    (same : ∀ a, q (f a) = q a) : (p.modify i f).count q = p.count q := by
  unfold modify
  split
  · next h found =>
    have := count_put found (some ⟨f h.thing, h.holders⟩) q
    simp only [Option.any_some, same] at this
    omega
  · rfl

theorem count_hold (p : Pool α) (i : Nat) (q : α → Bool) : (p.hold i).count q = p.count q := by
  unfold hold
  split
  · next h found =>
    have := count_put found (some ⟨h.thing, h.holders + 1⟩) q
    simp only [Option.any_some] at this
    omega
  · rfl

/-- A release that hands the thing back removes it from every count it was in. -/
theorem count_release_some {p p' : Pool α} {i : Nat} {a : α} (gone : p.release i = (some a, p'))
    (q : α → Bool) : p'.count q + (if q a then 1 else 0) = p.count q := by
  unfold release at gone
  split at gone
  · next h found =>
    split at gone
    · simp only [Prod.mk.injEq, Option.some.injEq] at gone
      have := count_put found none q
      simp only [Option.any_none, Bool.false_eq_true, ↓reduceIte] at this
      rw [← gone.1, ← gone.2]
      omega
    · simp at gone
  · simp at gone

theorem count_release_none {p p' : Pool α} {i : Nat} (kept : p.release i = (none, p'))
    (q : α → Bool) : p'.count q = p.count q := by
  unfold release at kept
  split at kept
  · next h found =>
    split at kept
    · simp at kept
    · simp only [Prod.mk.injEq, true_and] at kept
      have := count_put found (some ⟨h.thing, h.holders - 1⟩) q
      simp only [Option.any_some] at this
      rw [← kept]
      omega
  · simp only [Prod.mk.injEq, true_and] at kept
    rw [kept]

end Pool

end GuestBridge
