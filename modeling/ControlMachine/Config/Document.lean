import ControlMachine.Text.Hex
import ControlMachine.Decimal.Numeral

/- The syntax of JSON documents, with as much of their content as settings need: whole numbers,
   truth values and the keys of records. -/
namespace ControlMachine

inductive Document where
  | null
  | bool (value : Bool)
  /-- The value of a number that is written with digits alone, as many as a setting may have. -/
  | number (whole? : Option Nat)
  | string
  | list (items : List Document)
  /-- A key with half of a surrogate pair in it is no text. -/
  | record (fields : List (Option (List Char) × Document))

namespace Document

def isSpace (c : Char) : Bool := c == ' ' || c == '\t' || c == '\n' || c == '\r'

def skipSpace (text : List Char) : List Char := text.dropWhile isSpace

def digits? (text : List Char) : Option (List Char × List Char) :=
  let digits := text.takeWhile Numeral.isDigit
  if digits.isEmpty then none else some (digits, text.dropWhile Numeral.isDigit)

def fraction? : List Char → Option (List Char)
  | '.' :: rest => (digits? rest).map (·.2)
  | rest => some rest

def exponent? : List Char → Option (List Char)
  | c :: rest =>
    if c = 'e' ∨ c = 'E' then (digits? (Numeral.splitSign rest).2).map (·.2) else some (c :: rest)
  | [] => some []

def endsWhole : List Char → Bool
  | c :: _ => c != '.' && c != 'e' && c != 'E'
  | [] => true

def mostDigits : Nat := 20

/-- No digit may follow a leading zero, so with more digits the value is larger. -/
def number? (text : List Char) : Option (Document × List Char) := do
  let (negative, body) := match text with
    | '-' :: rest => (true, rest)
    | rest => (false, rest)
  let (digits, rest) ← digits? body
  guard (digits.head? != some '0' || digits.length == 1)
  let after ← exponent? (← fraction? rest)
  let short := digits.length ≤ mostDigits
  let whole? := if !negative && endsWhole rest && short then some (Numeral.value digits) else none
  return (.number whole?, after)

/-- A character of a string, or the 16-bit unit of an escape. -/
inductive Unit16 where
  | char (c : Char)
  | unit (n : Nat)

def escape? : Char → Option Char
  | '"' => some '"'
  | '\\' => some '\\'
  | '/' => some '/'
  | 'b' => some '\x08'
  | 'f' => some '\x0c'
  | 'n' => some '\n'
  | 'r' => some '\r'
  | 't' => some '\t'
  | _ => none

def hex4? (a b c d : Char) : Option Nat := do
  return (((← Hex.digit? a) * 16 + (← Hex.digit? b)) * 16 + (← Hex.digit? c)) * 16 +
    (← Hex.digit? d)

def string? : List Char → Option (List Unit16 × List Char)
  | [] => none
  | '"' :: rest => some ([], rest)
  | '\\' :: 'u' :: a :: b :: c :: d :: rest => do
    let n ← hex4? a b c d
    let (units, rest) ← string? rest
    return (.unit n :: units, rest)
  | '\\' :: c :: rest => do
    let e ← escape? c
    let (units, rest) ← string? rest
    return (.char e :: units, rest)
  | c :: rest => do
    guard (0x20 ≤ c.toNat && c != '\\')
    let (units, rest) ← string? rest
    return (.char c :: units, rest)

/-- Characters of a string, a surrogate pair being one of them. -/
def characters? : List Unit16 → Option (List Char)
  | [] => some []
  | .char c :: rest => (characters? rest).map (c :: ·)
  | .unit n :: rest =>
    if n < 0xD800 ∨ 0xDFFF < n then (characters? rest).map (Char.ofNat n :: ·)
    else match rest with
      | .unit low :: rest =>
        if n < 0xDC00 ∧ 0xDC00 ≤ low ∧ low ≤ 0xDFFF then
          let c := Char.ofNat (0x10000 + (n - 0xD800) * 0x400 + (low - 0xDC00))
          (characters? rest).map (c :: ·)
        else none
      | _ => none

mutual

def value? : Nat → List Char → Option (Document × List Char)
  | 0, _ => none
  | fuel + 1, text =>
    match skipSpace text with
    | 'n' :: 'u' :: 'l' :: 'l' :: rest => some (.null, rest)
    | 't' :: 'r' :: 'u' :: 'e' :: rest => some (.bool true, rest)
    | 'f' :: 'a' :: 'l' :: 's' :: 'e' :: rest => some (.bool false, rest)
    | '"' :: rest => (string? rest).map fun (_, rest) => (.string, rest)
    | '[' :: rest =>
      match skipSpace rest with
      | ']' :: rest => some (.list [], rest)
      | rest => (items? fuel rest).map fun (items, rest) => (.list items, rest)
    | '\x7b' :: rest =>
      match skipSpace rest with
      | '\x7d' :: rest => some (.record [], rest)
      | rest => (fields? fuel rest).map fun (fields, rest) => (.record fields, rest)
    | rest => number? rest

def items? : Nat → List Char → Option (List Document × List Char)
  | 0, _ => none
  | fuel + 1, text => do
    let (first, rest) ← value? fuel text
    match skipSpace rest with
    | ']' :: rest => return ([first], rest)
    | ',' :: rest => do
      let (more, rest) ← items? fuel rest
      return (first :: more, rest)
    | _ => none

def fields? : Nat → List Char → Option (List (Option (List Char) × Document) × List Char)
  | 0, _ => none
  | fuel + 1, text => do
    let '"' :: rest := skipSpace text | none
    let (key, rest) ← string? rest
    let ':' :: rest := skipSpace rest | none
    let (first, rest) ← value? fuel rest
    let field := (characters? key, first)
    match skipSpace rest with
    | '\x7d' :: rest => return ([field], rest)
    | ',' :: rest => do
      let (more, rest) ← fields? fuel rest
      return (field :: more, rest)
    | _ => none

end

/-- Nothing but space may stand around the one value. Each character takes at most two levels of
    reading. -/
def read? (text : List Char) : Option Document := do
  let (document, rest) ← value? (2 * text.length + 2) text
  guard (skipSpace rest).isEmpty
  return document

end Document
end ControlMachine
