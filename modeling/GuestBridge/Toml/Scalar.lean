import GuestBridge.Scan
import GuestBridge.Toml
/-!
Single values as a document writes them: quoted text in its four forms, integers in four bases,
other numbers, dates and times.
-/

set_option autoImplicit false

namespace GuestBridge.Toml.Scalar

open Scan

def isBlank (c : Char) : Bool := c == ' ' || c == '\t'

/-- A character that may stand in a comment or, quotes and escapes apart, in quoted text. -/
def isPlain (c : Char) : Bool := c == '\t' || (' ' ≤ c && c != '\x7f')

def blanks : Scan Char Unit := do
  let _ ← span isBlank

def lineEnd : Scan Char Unit := mark '\n' <|> word "\r\n"

def hexValue (c : Char) : Nat :=
  if c.isDigit then c.toNat - '0'.toNat else c.toLower.toNat - 'a'.toNat + 10

def isHex (c : Char) : Bool := c.isDigit || ('a' ≤ c.toLower && c.toLower ≤ 'f')

def number (base : Nat) (digits : List Char) : Nat :=
  digits.foldl (fun n c => n * base + hexValue c) 0

/-! ## Quoted text -/

/-- A character given by its number, which must be one that a text can hold. -/
def charOf (n : Nat) : Scan Char Char :=
  if n.isValidChar then pure (Char.ofNat n) else failure

/-- What follows a backslash. -/
def escape : Scan Char Char := do
  match ← next fun _ => true with
  | 'b' => return '\x08'
  | 't' => return '\t'
  | 'n' => return '\n'
  | 'f' => return '\x0c'
  | 'r' => return '\r'
  | '"' => return '"'
  | '\\' => return '\\'
  | 'u' => charOf (number 16 (← exactly isHex 4))
  | 'U' => charOf (number 16 (← exactly isHex 8))
  | _ => failure

def inBasic (c : Char) : Bool := isPlain c && c != '"' && c != '\\'

def inLiteral (c : Char) : Bool := isPlain c && c != '\''

def basicPiece : Scan Char (List Char) :=
  some1 inBasic <|> do
    mark '\\'
    return [← escape]

def basic : Scan Char String := do
  mark '"'
  let pieces ← many basicPiece
  mark '"'
  return String.ofList pieces.flatten

def literal : Scan Char String := do
  mark '\''
  let s ← span inLiteral
  mark '\''
  return String.ofList s

def lineBreak : Scan Char (List Char) := do
  lineEnd
  return ['\n']

/-- A backslash at the end of a line: neither the break nor the blanks after it count. -/
def joinLines : Scan Char (List Char) := do
  mark '\\'
  blanks
  lineEnd
  let _ ← many (lineEnd <|> do let _ ← some1 isBlank)
  return []

/-- One or two quotes that no third one follows. -/
def fewQuotes (quote : Char) : Scan Char (List Char) := do
  let quotes ← some1 (· == quote)
  if quotes.length < 3 then return quotes else failure

/-- Three quotes, and up to two more that still belong to the text. -/
def closing (quote : Char) : Scan Char (List Char) := do
  let quotes ← some1 (· == quote)
  if 3 ≤ quotes.length && quotes.length ≤ 5 then return quotes.drop 3 else failure

/-- Text over several lines; a line break right behind the opening quotes does not count. -/
def manyLines (quote : Char) (piece : Scan Char (List Char)) : Scan Char String := do
  let _ ← exactly (· == quote) 3
  let _ ← maybe lineEnd
  let pieces ← many (piece <|> lineBreak <|> fewQuotes quote)
  let last ← closing quote
  return String.ofList (pieces.flatten ++ last)

def quoted : Scan Char String :=
  manyLines '"' (joinLines <|> basicPiece) <|> manyLines '\'' (some1 inLiteral) <|> basic <|>
    literal

/-! ## Numbers -/

/-- Digits with single underscores between them. -/
def digits (ok : Char → Bool) : Scan Char (List Char) := do
  let groups ← separated (some1 ok) (mark '_')
  return groups.flatten

def isNegative : Scan Char Bool := do
  match ← maybe (next fun c => c == '+' || c == '-') with
  | some '-' => return true
  | _ => return false

/-- A decimal number without leading zeros. -/
def decimalDigits : Scan Char (List Char) := do
  let ds ← digits Char.isDigit
  if ds.head? == some '0' && ds.length != 1 then failure else return ds

def withinWord (n : Int) : Scan Char Int :=
  if -0x8000000000000000 ≤ n && n < 0x8000000000000000 then pure n else failure

def based (intro : String) (base : Nat) (ok : Char → Bool) : Scan Char Int := do
  word intro
  withinWord (number base (← digits ok))

def decimal : Scan Char Int := do
  let negative ← isNegative
  let n : Int := number 10 (← decimalDigits)
  withinWord (if negative then -n else n)

def integer : Scan Char Int :=
  based "0x" 16 isHex <|> based "0o" 8 (fun c => '0' ≤ c && c ≤ '7')
    <|> based "0b" 2 (fun c => c == '0' || c == '1') <|> decimal

/-- The power of ten behind a number. -/
def exponent : Scan Char Int := do
  let _ ← next fun c => c == 'e' || c == 'E'
  let negative ← isNegative
  let n : Int := number 10 (← digits Char.isDigit)
  return if negative then -n else n

/-- Does the number `mantissa · 10 ^ power` lie above all finite doubles, rounding included? The
first two cases keep the powers small. -/
def tooLarge (mantissa : Nat) (power : Int) : Bool :=
  let width := (Nat.toDigits 10 mantissa).length
  if mantissa = 0 then false
  else if power + width > 400 then true
  else if power + width < 300 then false
  else
    let bound := Nat.pow 2 1024 - Nat.pow 2 970
    if 0 ≤ power then bound ≤ mantissa * Nat.pow 10 power.toNat
    else bound * Nat.pow 10 (-power).toNat ≤ mantissa

/-- A number with a fraction, an exponent, or both. One that is too large must be negative. -/
def real : Scan Char Unit := do
  let negative ← isNegative
  let whole ← decimalDigits
  let fraction ← maybe do
    mark '.'
    digits Char.isDigit
  let power ← maybe exponent
  if fraction.isNone && power.isNone then failure
  let fraction := fraction.getD []
  if !negative && tooLarge (number 10 (whole ++ fraction)) (power.getD 0 - fraction.length) then
    failure

def special : Scan Char Unit := do
  let _ ← isNegative
  word "inf" <|> word "nan"

/-! ## Dates and times -/

/-- A number of so many digits, not beyond its bounds. -/
def field (width low high : Nat) : Scan Char Nat := do
  let n := number 10 (← exactly Char.isDigit width)
  if low ≤ n && n ≤ high then return n else failure

def daysIn (year month : Nat) : Nat :=
  if month = 2 then
    if year % 4 = 0 && (year % 100 != 0 || year % 400 = 0) then 29 else 28
  else if month = 4 || month = 6 || month = 9 || month = 11 then 30
  else 31

def date : Scan Char Unit := do
  let year ← field 4 0 9999
  mark '-'
  let month ← field 2 1 12
  mark '-'
  let _ ← field 2 1 (daysIn year month)

def time : Scan Char Unit := do
  let _ ← field 2 0 23
  mark ':'
  let _ ← field 2 0 59
  mark ':'
  let _ ← field 2 0 60
  let _ ← maybe do
    mark '.'
    some1 Char.isDigit

/-- The distance from universal time. -/
def zone : Scan Char Unit :=
  (do let _ ← next fun c => c == 'Z' || c == 'z')
    <|> do
      let _ ← next fun c => c == '+' || c == '-'
      let _ ← field 2 0 23
      mark ':'
      let _ ← field 2 0 59

def moment : Scan Char Unit :=
  (do
    date
    let _ ← maybe do
      let _ ← next fun c => c == 'T' || c == 't' || c == ' '
      time
      maybe zone)
    <|> time

def node : Scan Char Node :=
  (Node.text <$> quoted)
    <|> (do moment; return .moment)
    <|> (do real; return .real)
    <|> (do special; return .real)
    <|> (Node.integer <$> integer)
    <|> (do word "true"; return .flag true)
    <|> (do word "false"; return .flag false)

end GuestBridge.Toml.Scalar
