import GuestBridge.Settings
import GuestBridge.Text.Utf8
import GuestBridge.Toml.Document
/-!
Settings as a document gives them. What a document leaves out has its default, and what it holds
beyond the settings is not looked at; a setting of the wrong kind makes it malformed.
-/

set_option autoImplicit false

namespace GuestBridge

namespace Toml

def Node.natural? : Node → Option Nat
  | .integer n => if 0 ≤ n then some n.toNat else none
  | _ => none

def Node.flag? : Node → Option Bool
  | .flag b => some b
  | _ => none

def Node.text? : Node → Option String
  | .text s => some s
  | _ => none

/-- What is under a key, or a default if nothing is; nothing at all if it is of another kind. -/
def Entries.read? {α : Type} (entries : Entries) (key : String) (kind : Node → Option α)
    (default : α) : Option α :=
  match entries.get? key with
  | none => some default
  | some node => kind node

/-- The fields of a group by name or, from an array, by position. A moment is a group with none of
them. -/
def Node.fields? (names : List String) : Node → Option Entries
  | .table _ entries => some entries
  | .array items => some (names.zip items)
  | .moment => some []
  | _ => none

end Toml

namespace Settings

open Toml

def importNames? (node : Node) : Option ImportNames := do
  let fields ← node.fields? ["intrinsics", "host"]
  let text (key default : String) := fields.read? key Node.text? default
  let base : ImportNames := {}
  return {
    intrinsics := ← text "intrinsics" base.intrinsics
    host := ← text "host" base.host }

def exportNames? (node : Node) : Option ExportNames := do
  let fields ← node.fields? ["memory", "malloc", "realloc", "free", "exn_store", "start", "table"]
  let text (key default : String) := fields.read? key Node.text? default
  let base : ExportNames := {}
  return {
    memory := ← text "memory" base.memory
    malloc := ← text "malloc" base.malloc
    realloc := ← text "realloc" base.realloc
    free := ← text "free" base.free
    exnStore := ← text "exn_store" base.exnStore
    start := ← text "start" base.start
    table := ← text "table" base.table }

def ofEntries? (entries : Entries) : Option Settings := do
  let base : Settings := {}
  return {
    decodeCeiling := ← entries.read? "decode_ceiling" Node.natural? base.decodeCeiling
    initialHandles := ← entries.read? "initial_handles" Node.natural? base.initialHandles
    strictHandles := ← entries.read? "strict_handles" Node.flag? base.strictHandles
    imports := ← entries.read? "imports" importNames? base.imports
    exports := ← entries.read? "exports" exportNames? base.exports }

/-- The settings that a document gives, if they make sense. -/
def parse (text : String) : Except SettingsFault Settings :=
  match Toml.read? text >>= ofEntries? with
  | none => .error .malformed
  | some s => s.validate

/-- The settings in a file, of which the content is given if there is one. -/
def load (content? : Option (List UInt8)) : Except SettingsFault Settings :=
  match content?.map Text.Utf8.decode with
  | some (.ok text) => parse text
  | _ => .error .unreadable

end Settings

end GuestBridge
