import BenchScript.Text.Printable

/-!
# Quoted text

Spelling out the characters that a message cannot show. Quotes, backslashes, tabs, line ends and
NUL have escapes of their own; any other character that is not printable is written as its code
point in braces.
-/

namespace BenchScript.Text

/-- The digits of a number in base sixteen, lower case. -/
def hexDigits (n : Nat) : List Char := Nat.toDigits 16 n

/-- A character written as its code point, as in `\u{200b}`. -/
def codeEscape (c : Char) : List Char := ['\\', 'u', '\x7b'] ++ hexDigits c.toNat ++ ['\x7d']

/-- The escape that a character always needs, if there is one. -/
def shortEscape? (c : Char) : Option (List Char) :=
  match c with
  | '\x00' => some ['\\', '0']
  | '\t' => some ['\\', 't']
  | '\r' => some ['\\', 'r']
  | '\n' => some ['\\', 'n']
  | '\\' => some ['\\', '\\']
  | '"' => some ['\\', '"']
  | _ => none

/-- A character of a text in double quotes: combining marks are spelled out, a single quote is
not. -/
def quotedChar (c : Char) : List Char :=
  match shortEscape? c with
  | some e => e
  | none => if isExtender c || !isPrintable c then codeEscape c else [c]

/-- The text in double quotes. -/
def quoted (cs : List Char) : List Char := '"' :: cs.flatMap quotedChar ++ ['"']

/-- A character of a text that a message puts in single quotes. -/
def plainEscape (c : Char) : List Char :=
  match shortEscape? c with
  | some e => e
  | none =>
    if c = '\'' then ['\\', '\'']
    else if isPrintable c then [c]
    else codeEscape c

/-- The text as a message shows it in single quotes. A combining mark is spelled out only where it
comes first and would join with the quote. -/
def escaped : List Char → List Char
  | [] => []
  | c :: cs => (if isExtender c then codeEscape c else plainEscape c) ++ cs.flatMap plainEscape

end BenchScript.Text
