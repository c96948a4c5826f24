/-!
Settings of a bridge: its limits, and the names by which it finds imports and exports.
-/

set_option autoImplicit false

namespace GuestBridge

/-- The modules that a guest imports from. -/
structure ImportNames where
  intrinsics : String := "__bridge"
  host : String := "host"
  deriving DecidableEq, Repr

structure ExportNames where
  memory : String := "memory"
  malloc : String := "__bridge_malloc"
  realloc : String := "__bridge_realloc"
  free : String := "__bridge_free"
  exnStore : String := "__bridge_exn_store"
  start : String := "__bridge_start"
  table : String := "__indirect_function_table"
  deriving DecidableEq, Repr

structure Settings where
  /-- How many bytes a text decoder is given before a fresh one takes over. -/
  decodeCeiling : Nat := 2146435072
  initialHandles : Nat := 128
  strictHandles : Bool := false
  imports : ImportNames := {}
  exports : ExportNames := {}
  deriving DecidableEq, Repr

inductive SettingsFault
  | unreadable
  | malformed
  | invalid (key reason : String)
  deriving DecidableEq, Repr

def SettingsFault.message : SettingsFault → String
  | .unreadable => "failed to read config file"
  | .malformed => "failed to parse config"
  | .invalid key reason => "invalid value for '" ++ key ++ "': " ++ reason

namespace Settings

def requiredNames (s : Settings) : List (String × String) := [
  ("imports.intrinsics", s.imports.intrinsics),
  ("imports.host", s.imports.host),
  ("exports.memory", s.exports.memory),
  ("exports.malloc", s.exports.malloc),
  ("exports.exn_store", s.exports.exnStore)]

/-- The settings, if they make sense: a ceiling above zero, no required name empty, and two
different modules to import from. The first fault in this order counts. -/
def validate (s : Settings) : Except SettingsFault Settings := do
  if s.decodeCeiling = 0 then throw (.invalid "decode_ceiling" "must be greater than zero")
  match s.requiredNames.find? fun entry => entry.2.isEmpty with
  | some (key, _) => throw (.invalid key "must not be empty")
  | none => pure ()
  if s.imports.intrinsics = s.imports.host then
    throw (.invalid "imports.host" "must differ from imports.intrinsics")
  return s

end Settings

end GuestBridge
