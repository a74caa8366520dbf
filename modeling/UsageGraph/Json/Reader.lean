import UsageGraph.Json.Token

/-!
# Reading JSON

The reader takes one token after the other. Its state says what may come next and holds the arrays
and objects that are still open.

* `Json.Reading`, `Json.Reading.step`: the states and the step from one to the next;
* `Json.read`: the value of a token list;
* `Json.parse`: the value of a text, or why it is not read.
-/

namespace UsageGraph.Json

/-- An array or an object that waits for a value: an array for its next item, an object for the
value of a name. Items are held last first. -/
inductive Frame where
  | item (done : List Json)
  | member (done : Fields) (key : String)

/-- **What may come next**, inside the given open arrays and objects. -/
inductive Reading where
  | value (outer : List Frame)
  | firstItem (outer : List Frame)
  | firstName (outer : List Frame)
  | name (done : Fields) (outer : List Frame)
  | colon (done : Fields) (key : String) (outer : List Frame)
  | afterItem (done : List Json) (outer : List Frame)
  | afterMember (done : Fields) (outer : List Frame)
  | finished (value : Json)

/-- The state after a whole value. -/
def Reading.deliver (value : Json) : List Frame → Reading
  | [] => .finished value
  | .item done :: outer => .afterItem (value :: done) outer
  | .member done key :: outer => .afterMember (done.set key value) outer

/-- What is missing when the text ends, or holds some other token. -/
def Reading.missing : Reading → Cause
  | .value _ | .firstItem _ => .expectedValue
  | .firstName _ | .name _ _ => .expectedName
  | .colon _ _ _ => .expectedColon
  | .afterItem _ _ | .afterMember _ _ => .expectedComma
  | .finished _ => .extraData

/-- Why reading stops: a cause at a place, or a limit. -/
inductive Stop where
  | cause (cause : Cause) (offset : Nat)
  | limit (limit : Limit)
  deriving DecidableEq, Repr

/-- The most arrays and objects that may be open at once. -/
def depthLimit : Nat := 980

/-- The state after one more array or object is opened. -/
def Reading.enter (outer : List Frame) (next : Reading) : Except Stop Reading :=
  if depthLimit ≤ outer.length then .error (.limit .depth) else .ok next

/-- The state after the first token of a value. -/
def Reading.begin (outer : List Frame) (t : Placed) : Except Stop Reading :=
  match t.token with
  | .openBrace => Reading.enter outer (.firstName outer)
  | .openBracket => Reading.enter outer (.firstItem outer)
  | .tooLong => .error (.limit .digits)
  | .scalar v => .ok (Reading.deliver v outer)
  | .text s => .ok (Reading.deliver (.str s) outer)
  | .badText cause place => .error (.cause cause place)
  | _ => .error (.cause .expectedValue t.offset)

/-- The state after a name. -/
def Reading.named (done : Fields) (outer : List Frame) (t : Placed) :
    Except Stop Reading :=
  match t.token with
  | .text s => .ok (.colon done s outer)
  | .badText cause place => .error (.cause cause place)
  | _ => .error (.cause .expectedName t.offset)

/-- **The state after a token.** -/
def Reading.step (state : Reading) (t : Placed) : Except Stop Reading :=
  match state, t.token with
  | .value outer, _ => Reading.begin outer t
  | .firstItem outer, .closeBracket => .ok (Reading.deliver (.arr []) outer)
  | .firstItem outer, _ => Reading.begin (.item [] :: outer) t
  | .firstName outer, .closeBrace => .ok (Reading.deliver (.obj []) outer)
  | .firstName outer, _ => Reading.named [] outer t
  | .name done outer, _ => Reading.named done outer t
  | .colon done key outer, .colon => .ok (.value (.member done key :: outer))
  | .afterItem done outer, .comma => .ok (.value (.item done :: outer))
  | .afterItem done outer, .closeBracket => .ok (Reading.deliver (.arr done.reverse) outer)
  | .afterMember done outer, .comma => .ok (.name done outer)
  | .afterMember done outer, .closeBrace => .ok (Reading.deliver (.obj done) outer)
  | state, _ => .error (.cause state.missing t.offset)

/-- The value that the remaining tokens complete; `stop` is the length of the text. -/
def readFrom (stop : Nat) : Reading → List Placed → Except Stop Json
  | .finished value, [] => .ok value
  | state, [] => .error (.cause state.missing stop)
  | state, t :: ts =>
    match state.step t with
    | .ok next => readFrom stop next ts
    | .error e => .error e

/-- **The value of a text given by its characters**, or why reading stops. -/
def read (text : List Char) : Except Stop Json :=
  if text.head? = some (Char.ofNat 0xFEFF) then .error (.cause .byteOrderMark 0)
  else readFrom text.length (.value []) (tokens text)

/-- **The value of a text**, or why it is not read. -/
def parse (text : String) : Except Refusal Json :=
  match read text.toList with
  | .ok value => .ok value
  | .error (.cause cause offset) => .error (.fault (faultAt text.toList cause offset))
  | .error (.limit limit) => .error (.limit limit)

end UsageGraph.Json
