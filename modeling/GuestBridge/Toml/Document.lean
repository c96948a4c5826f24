import GuestBridge.Toml.Scalar
/-!
Whole documents: keys, values with arrays and tables in place, and statements line by line.
-/

set_option autoImplicit false

namespace GuestBridge.Toml.Document

open Scan Char Scalar

/-- How many arrays and tables in place a value may have around it, and how many parts a key. -/
def maxNesting : Nat := 79

def comment : Scan Char Unit := do
  mark '#'
  let _ ← span isPlain

/-- Blanks, line ends and comments. -/
def gap : Scan Char Unit := do
  let _ ← many ((do let _ ← some1 isBlank) <|> lineEnd <|> comment)

def isBare (c : Char) : Bool := c.isAlphanum || c == '_' || c == '-'

def simpleKey : Scan Char String :=
  basic <|> literal <|> do return String.ofList (← some1 isBare)

/-- The parts of a dotted key, the last apart. -/
def dottedKey : Scan Char (List String × String) := do
  let parts ← separated (do blanks; let k ← simpleKey; blanks; return k) (mark '.')
  if maxNesting < parts.length then failure
  match parts.getLast? with
  | some key => return (parts.dropLast, key)
  | none => failure

def pair (value : Scan Char Node) : Scan Char (List String × String × Node) := do
  let (path, key) ← dottedKey
  mark '='
  blanks
  return (path, key, ← value)

def array (value : Scan Char Node) : Scan Char Node := do
  mark '['
  let items ← maybe do
    let items ← separated (do gap; let v ← value; gap; return v) (mark ',')
    let _ ← maybe (mark ',')
    return items
  gap
  mark ']'
  return .array (items.getD [])

def inPlace (value : Scan Char Node) : Scan Char Node := do
  mark '{'
  let pairs ← maybe (separated (do let p ← pair value; blanks; return p) (mark ','))
  blanks
  mark '}'
  match Entries.inPlace? (pairs.getD []) with
  | some entries => return .table .inPlace entries
  | none => failure

/-- A value with at most so many arrays and tables around its parts. -/
def value : Nat → Scan Char Node
  | 0 => Scalar.node
  | n + 1 => array (value n) <|> inPlace (value n) <|> Scalar.node

/-- The end of a line behind a statement. -/
def trailer : Scan Char Unit := do
  blanks
  let _ ← maybe comment
  lineEnd <|> atEnd

def statement : Scan Char Statement :=
  (do
    word "[["
    let (path, key) ← dottedKey
    word "]]"
    trailer
    return .openListed path key)
  <|> (do
    mark '['
    let (path, key) ← dottedKey
    mark ']'
    trailer
    return .openTable path key)
  <|> do
    let (path, key, node) ← pair (value maxNesting)
    trailer
    return .assign path key node

/-- A statement, or a line without one. -/
def line : Scan Char (Option Statement) :=
  (some <$> statement) <|> (do comment; lineEnd <|> atEnd; return none)
    <|> (do lineEnd; return none) <|> (do let _ ← some1 isBlank; return none)

def statements : Scan Char (List Statement) := do
  let _ ← maybe (mark '\ufeff')
  return (← many line).filterMap id

end Document

/-- The top table of a document; nothing for a text that is none. -/
def read? (text : String) : Option Entries := do
  build? (← Scan.all? Document.statements text.toList)

end GuestBridge.Toml
