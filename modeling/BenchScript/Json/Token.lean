import BenchScript.Json.Number
import BenchScript.Json.Text

/-!
# Tokens of documents

Splitting a document into tokens, one character after the other. A text that is no token ends the
list with `junk`, and nothing after it is looked at.
-/

namespace BenchScript.Json

open BenchScript.Decimal

/-- The smallest parts of a document that mean something. -/
inductive Token
  | openBrace
  | closeBrace
  | openBracket
  | closeBracket
  | colon
  | comma
  | null
  | bool (b : Bool)
  | number (l : Literal)
  | string (ps : List Piece)
  | junk
deriving Repr, DecidableEq

/-- How far a number literal has been read. -/
inductive Stage
  | minus
  | zero
  | whole
  | point
  | fraction
  | mark
  | sign
  | exponent
deriving Repr, DecidableEq

/-- Whether a literal may end here. -/
def Stage.complete : Stage → Bool
  | .zero | .whole | .fraction | .exponent => true
  | .minus | .point | .mark | .sign => false

/-- What a character does to a literal: it belongs to it, it stands after its end, or it spoils
it. -/
inductive Reading
  | more (stage : Stage) (l : Literal)
  | ended
  | bad

/-- The literal with one more digit of its exponent. -/
def Literal.pushExponent (l : Literal) (d : Char) : Literal :=
  match l.exponent with
  | none => { l with exponent := some ⟨false, digitValue d⟩ }
  | some e => { l with exponent := some ⟨e.negative, 10 * e.size + digitValue d⟩ }

/-- Reads the character after the digits before the point. -/
def Literal.afterWhole (l : Literal) (c : Char) : Reading :=
  if c = '.' then .more .point l
  else if c = 'e' ∨ c = 'E' then .more .mark { l with exponent := some ⟨false, 0⟩ }
  else .ended

/-- Reads the next character of a number literal. -/
def Stage.read (stage : Stage) (l : Literal) (c : Char) : Reading :=
  match stage with
  | .minus =>
    if c = '0' then .more .zero { l with whole := [c] }
    else if isDigit c then .more .whole { l with whole := [c] }
    else .bad
  | .zero => if isDigit c then .bad else l.afterWhole c
  | .whole =>
    if isDigit c then .more .whole { l with whole := l.whole ++ [c] } else l.afterWhole c
  | .point => if isDigit c then .more .fraction { l with fraction := [c] } else .bad
  | .fraction =>
    if isDigit c then .more .fraction { l with fraction := l.fraction ++ [c] }
    else if c = 'e' ∨ c = 'E' then .more .mark { l with exponent := some ⟨false, 0⟩ }
    else .ended
  | .mark =>
    if c = '-' then .more .sign { l with exponent := some ⟨true, 0⟩ }
    else if c = '+' then .more .sign l
    else if isDigit c then .more .exponent (l.pushExponent c)
    else .bad
  | .sign => if isDigit c then .more .exponent (l.pushExponent c) else .bad
  | .exponent => if isDigit c then .more .exponent (l.pushExponent c) else .ended

/-- What is being read. Pieces of a string are held with the latest first. -/
inductive Mode
  | between
  | word (letters : List Char) (t : Token)
  | number (stage : Stage) (l : Literal)
  | string (ps : List Piece)
  | escape (ps : List Piece)
  | unit (ps : List Piece) (missing : Nat) (n : Nat)
  | stopped
deriving Repr, DecidableEq

/-- The tokens that end with a character, and what is read after it. -/
abbrev Step := List Token × Mode

/-- The list of tokens ends with junk. -/
def spoiled : Step := ([.junk], .stopped)

/-- The characters that separate tokens. -/
def isGap (c : Char) : Bool := c = ' ' || c = '\t' || c = '\n' || c = '\r'

/-- Reads the first character of a token. -/
def start (c : Char) : Step :=
  if isGap c then ([], .between)
  else match c with
    | '{' => ([.openBrace], .between)
    | '}' => ([.closeBrace], .between)
    | '[' => ([.openBracket], .between)
    | ']' => ([.closeBracket], .between)
    | ':' => ([.colon], .between)
    | ',' => ([.comma], .between)
    | '"' => ([], .string [])
    | 'n' => ([], .word ['u', 'l', 'l'] .null)
    | 't' => ([], .word ['r', 'u', 'e'] (.bool true))
    | 'f' => ([], .word ['a', 'l', 's', 'e'] (.bool false))
    | '-' => ([], .number .minus ⟨true, [], [], none⟩)
    | _ => match Stage.read .minus ⟨false, [], [], none⟩ c with
      | .more stage l => ([], .number stage l)
      | _ => spoiled

/-- Reads one character. -/
def Mode.read : Mode → Char → Step
  | .between, c => start c
  | .word [l] t, c => if c = l then ([t], .between) else spoiled
  | .word (l :: ls) t, c => if c = l then ([], .word ls t) else spoiled
  | .word [] _, _ => spoiled
  | .number stage l, c =>
    match stage.read l c with
    | .more stage l => ([], .number stage l)
    | .ended => (.number l :: (start c).1, (start c).2)
    | .bad => spoiled
  | .string ps, c =>
    if c = '"' then ([.string ps.reverse], .between)
    else if c = '\\' then ([], .escape ps)
    else if c.toNat < 32 then spoiled
    else ([], .string (.char c :: ps))
  | .escape ps, c =>
    if c = 'u' then ([], .unit ps 3 0)
    else match escapeMeaning? c with
      | some e => ([], .string (.char e :: ps))
      | none => spoiled
  | .unit ps missing n, c =>
    match hexValue? c, missing with
    | none, _ => spoiled
    | some d, 0 => ([], .string (.unit (16 * n + d) :: ps))
    | some d, k + 1 => ([], .unit ps k (16 * n + d))
  | .stopped, _ => ([], .stopped)

/-- The tokens that end with the document. -/
def Mode.finish : Mode → List Token
  | .between | .stopped => []
  | .number stage l => if stage.complete then [.number l] else [.junk]
  | .word .. | .string _ | .escape _ | .unit .. => [.junk]

/-- The tokens of a text, of which the first may have been begun. -/
def tokensFrom : Mode → List Char → List Token
  | mode, [] => mode.finish
  | mode, c :: cs => (mode.read c).1 ++ tokensFrom (mode.read c).2 cs

/-- The tokens of a text. -/
def tokens (cs : List Char) : List Token := tokensFrom .between cs

end BenchScript.Json
