import GuestBridge.Command
import GuestBridge.Command.Arguments
import GuestBridge.Wasm.Guest
/-!
The program: reads the files that the command line names, and prints what the command says.
-/

set_option autoImplicit false

namespace GuestBridge

/-- What a file holds; nothing if it cannot be read. -/
def fileContent? (path : String) : IO (Option (List UInt8)) := do
  try
    return some (← IO.FS.readBinFile path).toList
  catch _ => return none

def settingsIn (path? : Option String) : IO (Except SettingsFault Settings) := do
  match path? with
  | none => return .ok {}
  | some path => return Settings.load (← fileContent? path)

def moduleIn (path : String) : IO (Option Wasm.Module) := do
  return (← fileContent? path).bind Wasm.Module.load?

def perform : Command.Request → IO Exit
  | .inspect file config? => do
    let settings ← settingsIn config?
    return Command.inspect settings ((← moduleIn file).map (·.surface))
  | .run file config? ticks call? => do
    let settings ← settingsIn config?
    let m? ← moduleIn file
    let source (s : Settings) : BridgeAction.Source Unit :=
      match m? with
      | some m => .module (m.guest s.exports.memory)
      | none => .unloadable
    return Command.run settings source () ticks call?

end GuestBridge

def main (args : List String) : IO UInt32 := do
  match GuestBridge.Command.Request.parse? args with
  | none =>
    IO.eprintln "usage: inspect FILE [--config F] | run FILE [--config F] [--ticks N] [--call NAME]"
    return 2
  | some request =>
    let done ← GuestBridge.perform request
    IO.print done.output
    return UInt32.ofNat done.code
