import Chronicle.Json.Token

/-!
# Reading JSON

A text is read token by token. What has been read is a stack of unfinished lists and objects, and an
`Expectation` says what may come next. `parse` is the one value of a text, or the first thing that
is wrong with it.
-/
namespace Chronicle.Json

/-- What is wrong with a JSON text. -/
inductive Fault where
  /-- It is no JSON text. -/
  | malformed
  /-- An integer in it has this many digits, which are too many. -/
  | longInteger (digits : Nat)
  deriving DecidableEq, Repr, Inhabited

/-- An unfinished list or object, with what it holds so far in reverse. -/
inductive Frame where
  | items (before : List Json)
  /-- An object whose next value belongs to `key`. -/
  | member (before : List (String × Json)) (key : String)
  deriving Repr, BEq, Inhabited

/-- What may come next. -/
inductive Expectation where
  | value
  /-- A value, or the end of a list without items. -/
  | firstItem
  /-- A key, or the end of an object without members. -/
  | firstKey
  | key (before : List (String × Json))
  | colon (before : List (String × Json)) (key : String)
  /-- Whatever may follow this complete value. -/
  | after (v : Json)
  deriving Repr, BEq, Inhabited

/-- How reading goes on at a token where a value starts. -/
def startValue (stack : List Frame) : Token → Except Fault (List Frame × Expectation)
  | .text s => .ok (stack, .after (.str s))
  | .scalar v => .ok (stack, .after v)
  | .longInteger n => .error (.longInteger n)
  | .openList => .ok (stack, .firstItem)
  | .openObject => .ok (stack, .firstKey)
  | _ => .error .malformed

/-- How reading goes on at a token. -/
def step (stack : List Frame) (next : Expectation) (token : Token) :
    Except Fault (List Frame × Expectation) :=
  match next, token with
  | .value, t => startValue stack t
  | .firstItem, .closeList => .ok (stack, .after (.arr []))
  | .firstItem, t => startValue (.items [] :: stack) t
  | .firstKey, .closeObject => .ok (stack, .after (object []))
  | .firstKey, .text k => .ok (stack, .colon [] k)
  | .key before, .text k => .ok (stack, .colon before k)
  | .colon before k, .colon => .ok (.member before k :: stack, .value)
  | .after v, t =>
    match stack, t with
    | .items before :: rest, .comma => .ok (.items (v :: before) :: rest, .value)
    | .items before :: rest, .closeList => .ok (rest, .after (.arr (v :: before).reverse))
    | .member before k :: rest, .comma => .ok (rest, .key ((k, v) :: before))
    | .member before k :: rest, .closeObject =>
      .ok (rest, .after (object ((k, v) :: before).reverse))
    | _, _ => .error .malformed
  | _, _ => .error .malformed

/-- The value that tokens complete. -/
def run (stack : List Frame) (next : Expectation) : List Token → Except Fault Json
  | [] =>
    match stack, next with
    | [], .after v => .ok v
    | _, _ => .error .malformed
  | t :: ts =>
    match step stack next t with
    | .ok (stack, next) => run stack next ts
    | .error f => .error f

/-- The value of a text. -/
def parse (s : List Char) : Except Fault Json :=
  run [] .value (tokens s)

end Chronicle.Json
