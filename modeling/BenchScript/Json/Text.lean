/-!
# Strings of documents

The parts of a string literal, the text they spell, and the literal written for a text. An escape
with four digits names a unit of sixteen bits; two units that form a pair name one character, and
half a pair alone names none.
-/

namespace BenchScript.Json

/-- A part of a string literal: a character, written as it is or by a short escape, or a unit of
sixteen bits written with four digits. -/
inductive Piece
  | char (c : Char)
  | unit (n : Nat)
deriving Repr, DecidableEq

/-- Whether a unit is the first half of a pair. -/
def isHighHalf (n : Nat) : Bool := 0xD800 ≤ n && n < 0xDC00

/-- Whether a unit is the second half of a pair. -/
def isLowHalf (n : Nat) : Bool := 0xDC00 ≤ n && n < 0xE000

/-- The character that a pair of units names. -/
def pairChar (high low : Nat) : Char :=
  Char.ofNat (0x10000 + (high - 0xD800) * 0x400 + (low - 0xDC00))

/-- The text that a string literal spells; `none` if it holds half a pair. -/
def spelled? : List Piece → Option (List Char)
  | [] => some []
  | .char c :: ps => (spelled? ps).map (c :: ·)
  | .unit high :: .unit low :: ps =>
    if isHighHalf high then
      if isLowHalf low then (spelled? ps).map (pairChar high low :: ·) else none
    else if isLowHalf high then none
    else (spelled? (.unit low :: ps)).map (Char.ofNat high :: ·)
  | .unit n :: ps =>
    if isHighHalf n || isLowHalf n then none else (spelled? ps).map (Char.ofNat n :: ·)

/-- The character of a short escape, by the letter after the backslash. -/
def escapeMeaning? : Char → Option Char
  | '"' => some '"'
  | '\\' => some '\\'
  | '/' => some '/'
  | 'b' => some '\x08'
  | 'f' => some '\x0c'
  | 'n' => some '\n'
  | 'r' => some '\r'
  | 't' => some '\t'
  | _ => none

/-- The value of a digit in base sixteen, of either case. -/
def hexValue? (c : Char) : Option Nat :=
  if '0' ≤ c && c ≤ '9' then some (c.toNat - '0'.toNat)
  else if 'a' ≤ c && c ≤ 'f' then some (c.toNat - 'a'.toNat + 10)
  else if 'A' ≤ c && c ≤ 'F' then some (c.toNat - 'A'.toNat + 10)
  else none

/-- A digit in base sixteen, lower case. -/
def hexDigit (n : Nat) : Char := Nat.digitChar n

/-- How a string literal writes a character: quotes, backslashes and controls are escaped, all
else is written as it is. -/
def literalChar (c : Char) : List Char :=
  match c with
  | '"' => ['\\', '"']
  | '\\' => ['\\', '\\']
  | '\x08' => ['\\', 'b']
  | '\x0c' => ['\\', 'f']
  | '\n' => ['\\', 'n']
  | '\r' => ['\\', 'r']
  | '\t' => ['\\', 't']
  | _ =>
    if c.toNat < 32 then ['\\', 'u', '0', '0', hexDigit (c.toNat / 16), hexDigit (c.toNat % 16)]
    else [c]

/-- The string literal for a text. -/
def literalText (cs : List Char) : List Char := '"' :: cs.flatMap literalChar ++ ['"']

end BenchScript.Json
