import GuestBridge.Bridge.Entry
import GuestBridge.Host.Defaults
import GuestBridge.Inspection
import GuestBridge.Settings.Reading
/-!
The two commands: to look at a module, and to run a guest on the sample host for some virtual time.
-/

set_option autoImplicit false

namespace GuestBridge

/-- How a command ends: its exit code, and what it printed before. -/
structure Exit where
  code : Nat
  output : String
  deriving DecidableEq, Repr

namespace Exit

def ofLines (lines : List String) : Exit := ⟨0, String.join (lines.map (· ++ "\n"))⟩

/-- A command that fails prints nothing. -/
def failed : Exit := ⟨1, ""⟩

end Exit

namespace Command

/-- The host that commands offer to guests. -/
def sampleHost : Registry := Registry.empty.defineAll Host.defaults

def inspect (settings : Except SettingsFault Settings) (surface? : Option Surface) : Exit :=
  match settings, surface? with
  | .ok settings, some surface => .ofLines (GuestBridge.inspect sampleHost settings surface)
  | _, _ => .failed

variable {σ : Type}

/-- Starts a guest, calls an export of it, and lets time pass; yields how many timers fired. -/
def drive (source : BridgeAction.Source σ) (ticks : Nat) (call? : Option String) :
    BridgeAction σ Nat := do
  let _ ← BridgeAction.start source
  match call? with
  | some name =>
    let _ ← BridgeAction.callTyped name ⟨[], []⟩ []
  | none => pure ()
  let _ ← BridgeAction.runMicrotasks
  BridgeAction.runTimers ticks

/-- What a guest has done, in one line. -/
def summary (fired : Nat) (b : Bridge σ) : String :=
  let printed := ((b.host.extensions.get? .console).map Array.size).getD 0
  let live := b.handles.liveCount
  let pending := b.host.realm.events.timers.length
  s!"ran {fired} timers, {printed} console messages, {live} live handles, {pending} pending timers"

def run (settings : Except SettingsFault Settings) (source : Settings → BridgeAction.Source σ)
    (initial : σ) (ticks : Nat) (call? : Option String) : Exit :=
  match settings with
  | .error _ => .failed
  | .ok settings =>
    match (drive (source settings) ticks call?).perform (.create settings sampleHost initial) with
    | (.ok fired, b) => .ofLines [summary fired b]
    | (.error _, _) => .failed

end Command

end GuestBridge
