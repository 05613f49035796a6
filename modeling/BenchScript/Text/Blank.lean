/-!
# Blanks

White space as Unicode defines it, trimming, and splitting a text into its words. Texts are lists
of characters here; the words of a text hold no blank.
-/

namespace BenchScript.Text

/-- The characters with the Unicode property White_Space. -/
def isBlank (c : Char) : Bool :=
  let n := c.toNat
  (9 ≤ n && n ≤ 13) || n == 0x20 || n == 0x85 || n == 0xA0 || n == 0x1680 ||
    (0x2000 ≤ n && n ≤ 0x200A) || n == 0x2028 || n == 0x2029 || n == 0x202F || n == 0x205F ||
    n == 0x3000

/-- The text without its leading characters that satisfy `p`. -/
def dropStart (p : Char → Bool) (cs : List Char) : List Char := cs.dropWhile p

/-- The text without its final characters that satisfy `p`. -/
def dropEnd (p : Char → Bool) (cs : List Char) : List Char := (cs.reverse.dropWhile p).reverse

/-- The text without the characters that satisfy `p` at both its ends. -/
def stripEnds (p : Char → Bool) (cs : List Char) : List Char := dropEnd p (dropStart p cs)

/-- The text without blanks at its ends. -/
def trim (cs : List Char) : List Char := stripEnds isBlank cs

/-- Whether a text has no character other than blanks. -/
def isAllBlank (cs : List Char) : Bool := cs.all isBlank

/-- The pieces between blanks, empty ones included. -/
def splitBlank : List Char → List (List Char)
  | [] => [[]]
  | c :: cs =>
    if isBlank c then [] :: splitBlank cs
    else match splitBlank cs with
      | [] => [[c]]
      | w :: ws => (c :: w) :: ws

/-- The maximal runs of characters other than blanks, in order. -/
def words (cs : List Char) : List (List Char) := (splitBlank cs).filter (!·.isEmpty)

/-- The first run of characters other than blanks; empty if there is none. -/
def firstWord (cs : List Char) : List Char := (cs.dropWhile isBlank).takeWhile (!isBlank ·)

end BenchScript.Text
