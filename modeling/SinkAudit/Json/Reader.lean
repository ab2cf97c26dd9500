import SinkAudit.Json.Token

/-!
# Reading JSON

Tokens are put together by a machine that remembers the arrays and objects still open (`Frame`) and
what may come next (`Expect`).  Every token either moves the machine or makes the text no JSON; a
text is a value when all its tokens have been used and nothing is left open.
-/

namespace SinkAudit

/-- An array or an object that is still open, with what it holds so far, latest first. -/
inductive JsonFrame where
  | arr (items : List Json)
  | obj (members : List (Option String × Json))
  | member (members : List (Option String × Json)) (name : Option String)

/-- What may come next. -/
inductive JsonExpect where
  | value
  | firstItem
  | firstName
  | name
  | colon (name : Option String)
  | after (v : Json)

/-- The machine between two tokens. -/
structure JsonMachine where
  expect : JsonExpect
  stack : List JsonFrame

namespace JsonMachine

/-- The machine before the first token. -/
def initial : JsonMachine := ⟨.value, []⟩

/-- Reads a token where a value may start. -/
def startValue (up : List JsonFrame) : JsonToken → Option JsonMachine
  | .openBrace => some ⟨.firstName, .obj [] :: up⟩
  | .openBracket => some ⟨.firstItem, .arr [] :: up⟩
  | .null => some ⟨.after .null, up⟩
  | .bool b => some ⟨.after (.bool b), up⟩
  | .num n => some ⟨.after (.num n), up⟩
  | .str t => some ⟨.after (.str t), up⟩
  | _ => none

/-- Reads a token after a value. -/
def afterValue (v : Json) : List JsonFrame → JsonToken → Option JsonMachine
  | .arr items :: up, .comma => some ⟨.value, .arr (v :: items) :: up⟩
  | .arr items :: up, .closeBracket => some ⟨.after (.arr (v :: items).reverse), up⟩
  | .member ms k :: up, .comma => some ⟨.name, .obj ((k, v) :: ms) :: up⟩
  | .member ms k :: up, .closeBrace => some ⟨.after (.obj ((k, v) :: ms).reverse), up⟩
  | _, _ => none

/-- Reads one token. -/
def feed (m : JsonMachine) (t : JsonToken) : Option JsonMachine :=
  match m.expect with
  | .value => startValue m.stack t
  | .firstItem =>
    match t, m.stack with
    | .closeBracket, .arr _ :: up => some ⟨.after (.arr []), up⟩
    | _, _ => startValue m.stack t
  | .firstName =>
    match t, m.stack with
    | .closeBrace, .obj _ :: up => some ⟨.after (.obj []), up⟩
    | .str k, _ => some ⟨.colon k, m.stack⟩
    | _, _ => none
  | .name =>
    match t with
    | .str k => some ⟨.colon k, m.stack⟩
    | _ => none
  | .colon k =>
    match t, m.stack with
    | .colon, .obj ms :: up => some ⟨.value, .member ms k :: up⟩
    | _, _ => none
  | .after v => afterValue v m.stack t

/-- Reads tokens in turn. -/
def run : JsonMachine → List JsonToken → Option JsonMachine
  | m, [] => some m
  | m, t :: ts =>
    match m.feed t with
    | some n => run n ts
    | none => none

/-- The value of a machine that has read a whole text. -/
def result? : JsonMachine → Option Json
  | ⟨.after v, []⟩ => some v
  | _ => none

end JsonMachine

/-- The value of a JSON text. -/
def Json.parse? (text : String) : Option Json :=
  match Json.tokens? text.toList with
  | none => none
  | some ts => (JsonMachine.initial.run ts).bind JsonMachine.result?

end SinkAudit
