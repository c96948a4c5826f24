/-!
The command line: a command, a file, and options, which may stand anywhere behind the command. An
option has its value behind it or after an equals sign, and is given once at most.
-/

set_option autoImplicit false

namespace GuestBridge.Command

inductive Request
  | inspect (file : String) (config? : Option String)
  | run (file : String) (config? : Option String) (ticks : Nat) (call? : Option String)
  deriving DecidableEq, Repr

namespace Request

/-- Options with their values, and what is no option; nothing if an option lacks a value, is not
among the known ones or is given twice. -/
def split? (known : List String) :
    List String → Option (List (String × String) × List String)
  | [] => some ([], [])
  | word :: rest =>
    if word.startsWith "--" then
      match (word.toList.drop 2).span (· != '=') with
      | (name, '=' :: value) => do
        let (options, files) ← split? known rest
        add? (String.ofList name) (String.ofList value) options files
      | (name, _) =>
        match rest with
        | value :: rest => do
          if value.startsWith "-" then none
          let (options, files) ← split? known rest
          add? (String.ofList name) value options files
        | [] => none
    else do
      let (options, files) ← split? known rest
      return (options, word :: files)
where
  add? (name value : String) (options : List (String × String)) (files : List String) :
      Option (List (String × String) × List String) :=
    if known.contains name && options.all (·.1 != name) then
      some ((name, value) :: options, files)
    else none

def natural? (s : String) : Option Nat :=
  if !s.isEmpty && s.toList.all Char.isDigit then
    s.toNat?.bind fun n => if n < UInt64.size then some n else none
  else none

def parse? : List String → Option Request
  | "inspect" :: rest => do
    match ← split? ["config"] rest with
    | (options, [file]) => return .inspect file (options.lookup "config")
    | _ => none
  | "run" :: rest => do
    match ← split? ["config", "ticks", "call"] rest with
    | (options, [file]) =>
      let ticks ← match options.lookup "ticks" with
        | some value => natural? value
        | none => some 0
      return .run file (options.lookup "config") ticks (options.lookup "call")
    | _ => none
  | _ => none

end Request

end GuestBridge.Command
