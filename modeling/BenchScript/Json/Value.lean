import BenchScript.Json.Node

/-!
# Values of documents

What a well-formed document says. Members keep their order and may repeat a key; `canonical` sorts
them and keeps the last one of each key.
-/

namespace BenchScript.Json

/-- A value of a document. -/
inductive Value
  | null
  | bool (b : Bool)
  | number (n : Number)
  | string (s : String)
  | array (items : List Value)
  | object (members : List (String × Value))

/-- How many arrays and objects may lie within one another in a document. -/
def depthLimit : Nat := 127

/-- The text that a string literal spells. -/
def text? (ps : List Piece) : Option String := (spelled? ps).map String.ofList

mutual

/-- The value of a part of a document that may go `room` levels deeper; `none` if it is malformed,
goes too deep, or holds a string or number that stands for nothing. -/
def Node.value? : Nat → Node → Option Value
  | _, .null => some .null
  | _, .bool b => some (.bool b)
  | _, .number l => l.number?.map .number
  | _, .string ps => (text? ps).map .string
  | 0, .array _ _ => none
  | room + 1, .array items closed =>
    if closed then (itemValues? room items).map .array else none
  | 0, .object _ _ => none
  | room + 1, .object ms closed =>
    if closed then (memberValues? room ms).map .object else none
  | _, .broken => none

/-- The values of the items of an array. -/
def itemValues? : Nat → List Node → Option (List Value)
  | _, [] => some []
  | room, n :: ns => do
    let v ← n.value? room
    let vs ← itemValues? room ns
    return v :: vs

/-- The keys and values of the members of an object. -/
def memberValues? : Nat → List (List Piece × Node) → Option (List (String × Value))
  | _, [] => some []
  | room, (k, n) :: ms => do
    let key ← text? k
    let v ← n.value? room
    let vs ← memberValues? room ms
    return (key, v) :: vs

end

/-- Puts a member into a list sorted by key, in place of one with the same key. -/
def putMember (key : String) (v : Value) : List (String × Value) → List (String × Value)
  | [] => [(key, v)]
  | (k, w) :: ms =>
    if key < k then (key, v) :: (k, w) :: ms
    else if key = k then (key, v) :: ms
    else (k, w) :: putMember key v ms

mutual

/-- The value with the members of every object sorted by key, the last one of each key kept. -/
def Value.canonical : Value → Value
  | .array items => .array (canonicalItems items)
  | .object ms => .object (canonicalMembers [] ms)
  | .null => .null
  | .bool b => .bool b
  | .number n => .number n
  | .string s => .string s

/-- Sorts the members within each item. -/
def canonicalItems : List Value → List Value
  | [] => []
  | v :: vs => v.canonical :: canonicalItems vs

/-- Puts members, one after the other, into a sorted list. -/
def canonicalMembers : List (String × Value) → List (String × Value) → List (String × Value)
  | sorted, [] => sorted
  | sorted, (k, v) :: ms => canonicalMembers (putMember k v.canonical sorted) ms

end

end BenchScript.Json
