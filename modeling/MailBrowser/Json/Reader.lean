import MailBrowser.Json.Lexer

/-!
# Reading JSON

The value that a text denotes, read token by token with a stack of the lists and records that are
open.

* `Json.Reader`      what may come next, and the stack;
* `Json.Reader.step` a reader after one more token, `none` if the token may not come;
* `Json.read?`       the value of a whole text.
-/

namespace MailBrowser
namespace Json

/-- a list or record that is open, last part first -/
inductive Frame where
  | items (done : List Json)
  | fields (done : List (Literal × Json)) (key : Literal)

inductive Reader where
  /-- a value must come -/
  | value (stack : List Frame)
  /-- a list has been opened: an item or its end -/
  | item (stack : List Frame)
  /-- a record has been opened: a name or its end -/
  | name (stack : List Frame)
  /-- after a comma in a record: a name -/
  | nextName (done : List (Literal × Json)) (stack : List Frame)
  /-- a name has come, a colon must -/
  | colon (done : List (Literal × Json)) (key : Literal) (stack : List Frame)
  /-- a value has ended -/
  | have_ (v : Json) (stack : List Frame)

namespace Reader

/-- the start of a value -/
def start (stack : List Frame) : Token → Option Reader
  | .leaf v => some (.have_ v stack)
  | .openList => some (.item stack)
  | .openRec => some (.name stack)
  | _ => none

def step : Reader → Token → Option Reader
  | .value st, t => start st t
  | .item st, .closeList => some (.have_ (.list []) st)
  | .item st, t => start (.items [] :: st) t
  | .name st, .closeRec => some (.have_ (.record []) st)
  | .name st, .leaf (.str k) => some (.colon [] k st)
  | .nextName done st, .leaf (.str k) => some (.colon done k st)
  | .colon done k st, .colon => some (.value (.fields done k :: st))
  | .have_ v (.items done :: st), .comma => some (.value (.items (v :: done) :: st))
  | .have_ v (.items done :: st), .closeList => some (.have_ (.list (v :: done).reverse) st)
  | .have_ v (.fields done k :: st), .comma => some (.nextName ((k, v) :: done) st)
  | .have_ v (.fields done k :: st), .closeRec =>
    some (.have_ (.record ((k, v) :: done).reverse) st)
  | _, _ => none

end Reader

def ofTokens? (ts : List Token) : Option Json :=
  match ts.foldlM Reader.step (.value []) with
  | some (.have_ v []) => some v
  | _ => none

def read? (s : String) : Option Json := (tokens? s).bind ofTokens?

end Json
end MailBrowser
