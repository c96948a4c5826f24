import GuestBridge.Host.Graphics
/-!
What the host keeps for its facilities, and how a host function goes on from one part to the next.
-/

set_option autoImplicit false

namespace GuestBridge

namespace Extensions

variable {Kind : Type} {State : Kind → Type} [DecidableEq Kind]

theorem get?_set (x : Extensions Kind State) (kind : Kind) (state : State kind) :
    (x.set kind state).get? kind = some state := by
  unfold get? set
  simp only
  induction x.entries with
  | nil => simp [put, find?]
  | cons entry rest ih =>
    unfold put
    split
    · simp [find?]
    · next other => simp [find?, other, ih]

theorem get?_set_of_ne (x : Extensions Kind State) {kind other : Kind} (apart : kind ≠ other)
    (state : State kind) : (x.set kind state).get? other = x.get? other := by
  unfold get? set
  simp only
  induction x.entries with
  | nil => simp [put, find?, apart]
  | cons entry rest ih =>
    unfold put
    split
    · next same =>
      subst same
      simp [find?, apart]
    · simp only [find?, ih]

theorem fst_getOrInsert (x : Extensions Kind State) (kind : Kind) (initial : State kind) :
    (x.getOrInsert kind initial).1 = (x.get? kind).getD initial := by
  unfold getOrInsert
  split
  · next found => rw [found]; rfl
  · next none => rw [none]; rfl

end Extensions

/-- The second part of a host function begins where a successful first one has ended. -/
theorem HostCall.perform_bind {α β : Type} (call : HostCall α) (next : α → HostCall β)
    (host : Host) :
    (call >>= next).run.run host =
      match call.run.run host with
      | (.ok a, later) => (next a).run.run later
      | (.error failure, later) => (.error failure, later) := by
  change (ExceptT.bindCont next (call.run.run host).1 : StateM Host (Except Failure β))
    (call.run.run host).2 = _
  rcases call.run.run host with ⟨_ | _, _⟩ <;> rfl

namespace Host

/-- The graphics device as a guest finds it. -/
def device (h : Host) : GuestBridge.Graphics :=
  (h.extensions.get? .graphics).getD Graphics.initial

def bindGroups (h : Host) : List (UInt32 × List UInt32) := h.device.bindGroups

theorem device_set (h : Host) (g : GuestBridge.Graphics) :
    device { h with extensions := h.extensions.set .graphics g } = g := by
  unfold device
  rw [Extensions.get?_set]
  rfl

theorem device_set_of_ne (h : Host) {kind : Facility} (apart : kind ≠ .graphics)
    (state : kind.State) :
    device { h with extensions := h.extensions.set kind state } = h.device := by
  unfold device
  rw [Extensions.get?_set_of_ne _ apart]

end Host

end GuestBridge
