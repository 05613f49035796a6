import BenchScript.Json.Token

/-!
# Documents, read as far as they go

The tree of a document, also of one that is malformed at some place: then the tree ends there, and
everything before that place is in it. A reader that goes through the tree from left to right meets
the faults of a document in the order in which they stand in the text.
-/

namespace BenchScript.Json

/-- A part of a document. An array or object that is not `closed` was not read to its end, and
`broken` stands where no value could be read. -/
inductive Node
  | null
  | bool (b : Bool)
  | number (l : Literal)
  | string (ps : List Piece)
  | array (items : List Node) (closed : Bool)
  | object (members : List (List Piece × Node)) (closed : Bool)
  | broken

/-- An array or object that is being read; its parts so far, the latest first. A `member` is an
object whose latest key has no value yet. -/
inductive Frame
  | array (items : List Node)
  | object (members : List (List Piece × Node))
  | member (members : List (List Piece × Node)) (key : List Piece)

/-- What may come next. -/
inductive Expect
  | value
  | valueOrEnd
  | key
  | keyOrEnd
  | colon
  | separator
deriving Repr, DecidableEq

/-- What a token does: the document goes on, it ends with this value, or the token is out of
place. -/
inductive Progress
  | more (stack : List Frame) (e : Expect)
  | done (root : Node)
  | bad

/-- A value has been read. -/
def Progress.ofValue (n : Node) : List Frame → Progress
  | [] => .done n
  | .array items :: stack => .more (.array (n :: items) :: stack) .separator
  | .member ms key :: stack => .more (.object ((key, n) :: ms) :: stack) .separator
  | .object _ :: _ => .bad

/-- Reads the first token of a value. -/
def Progress.ofFirst (stack : List Frame) : Token → Progress
  | .null => .ofValue .null stack
  | .bool b => .ofValue (.bool b) stack
  | .number l => .ofValue (.number l) stack
  | .string ps => .ofValue (.string ps) stack
  | .openBracket => .more (.array [] :: stack) .valueOrEnd
  | .openBrace => .more (.object [] :: stack) .keyOrEnd
  | _ => .bad

/-- Reads one token. -/
def Expect.read (e : Expect) (stack : List Frame) (t : Token) : Progress :=
  match e, t, stack with
  | .valueOrEnd, .closeBracket, .array items :: below => .ofValue (.array items.reverse true) below
  | .separator, .closeBracket, .array items :: below => .ofValue (.array items.reverse true) below
  | .keyOrEnd, .closeBrace, .object ms :: below => .ofValue (.object ms.reverse true) below
  | .separator, .closeBrace, .object ms :: below => .ofValue (.object ms.reverse true) below
  | .separator, .comma, .array items :: below => .more (.array items :: below) .value
  | .separator, .comma, .object ms :: below => .more (.object ms :: below) .key
  | .key, .string k, .object ms :: below => .more (.member ms k :: below) .colon
  | .keyOrEnd, .string k, .object ms :: below => .more (.member ms k :: below) .colon
  | .colon, .colon, stack => .more stack .value
  | .value, t, stack => .ofFirst stack t
  | .valueOrEnd, t, stack => .ofFirst stack t
  | _, _, _ => .bad

/-- The tree of a document that cannot be read further. -/
def abandon : Node → List Frame → Node
  | n, [] => n
  | n, .array items :: stack => abandon (.array (n :: items).reverse false) stack
  | n, .member ms key :: stack => abandon (.object ((key, n) :: ms).reverse false) stack
  | _, .object ms :: stack => abandon (.object ms.reverse false) stack

/-- A document: its tree, and whether nothing follows its value. -/
structure Document where
  root : Node
  ended : Bool

/-- Reads tokens. -/
def documentFrom : Expect → List Frame → List Token → Document
  | _, stack, [] => ⟨abandon .broken stack, true⟩
  | e, stack, t :: ts =>
    match e.read stack t with
    | .more stack e => documentFrom e stack ts
    | .done root => ⟨root, ts.isEmpty⟩
    | .bad => ⟨abandon .broken stack, true⟩

/-- Reads a document. -/
def readDocument (text : String) : Document := documentFrom .value [] (tokens text.toList)

mutual

/-- Whether a part of a document is well formed, whatever its strings and numbers stand for. -/
def Node.wellFormed : Node → Bool
  | .null | .bool _ | .number _ | .string _ => true
  | .array items closed => closed && itemsWellFormed items
  | .object ms closed => closed && membersWellFormed ms
  | .broken => false

/-- Whether the items of an array are well formed. -/
def itemsWellFormed : List Node → Bool
  | [] => true
  | n :: ns => n.wellFormed && itemsWellFormed ns

/-- Whether the values of an object are well formed. -/
def membersWellFormed : List (List Piece × Node) → Bool
  | [] => true
  | (_, n) :: ms => n.wellFormed && membersWellFormed ms

end

end BenchScript.Json
