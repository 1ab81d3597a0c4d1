/-!
# JSON values

* `Json`            a value as it stands in a text: fields in their order, repeated ones too;
* `Json.obj`        a record whose names are given as texts.

A number is kept only if it is a whole number; `real` stands for every other one, and `-0` is one
of those.  A string whose escapes leave half of a surrogate pair is no text: `none`.
-/

namespace MailBrowser

/-- what a string literal denotes, `none` if an escape in it denotes no character -/
abbrev Literal := Option String

inductive Json where
  | null
  | bool (b : Bool)
  | int (n : Int)
  | real
  | str (s : Literal)
  | list (items : List Json)
  | record (fields : List (Literal × Json))
deriving Inhabited

namespace Json

def text (s : String) : Json := .str (some s)

def obj (fields : List (String × Json)) : Json := .record (fields.map fun f => (some f.1, f.2))

def texts (ss : List String) : Json := .list (ss.map text)

def opt {α : Type} (f : α → Json) : Option α → Json
  | none => .null
  | some a => f a

end Json
end MailBrowser
