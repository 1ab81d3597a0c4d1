import MailBrowser.Json.Reader

/-!
# Reading fields

A record of fixed fields is read from a JSON record or from a JSON list in the order of the
fields; fields of other names are skipped, and a field that comes twice is a fault.

* `Json.slots?`     the values of the named fields, in the order of the names;
* `Json.need`, `Json.orElse`   a field that must be there, a field with a default;
* `Json.toInt?`, `Json.toText?`, `Json.toList?`, `Json.toOption?`   the values themselves.
-/

namespace MailBrowser
namespace Json

/-- the values of all fields of a name -/
def valuesOf (name : String) (fs : List (Literal × Json)) : List Json :=
  (fs.filter fun f => f.1 == some name).map Prod.snd

/-- the value of a field, `none` inside if it is absent, and a failure if it comes twice -/
def slot? (fs : List (Literal × Json)) (name : String) : Option (Option Json) :=
  match valuesOf name fs with
  | [] => some none
  | [v] => some (some v)
  | _ => none

def slots? (names : List String) : Json → Option (List (Option Json))
  | .record fs => if fs.any fun f => f.1.isNone then none else names.mapM (slot? fs)
  | .list vs =>
    if vs.length ≤ names.length then
      some (vs.map some ++ List.replicate (names.length - vs.length) none)
    else none
  | _ => none

def need {α : Type} (read : Json → Option α) : Option Json → Option α
  | none => none
  | some v => read v

def orElse {α : Type} (dflt : α) (read : Json → Option α) : Option Json → Option α
  | none => some dflt
  | some v => read v

/-- a whole number in a range -/
def toIntIn? (lo hi : Int) : Json → Option Int
  | .int n => if lo ≤ n ∧ n ≤ hi then some n else none
  | _ => none

/-- a whole number of 64 bits -/
def toInt? : Json → Option Int := toIntIn? (-9223372036854775808) 9223372036854775807

def toText? : Json → Option String
  | .str s => s
  | _ => none

def toList? {α : Type} (read : Json → Option α) : Json → Option (List α)
  | .list vs => vs.mapM read
  | _ => none

def toOption? {α : Type} (read : Json → Option α) : Json → Option (Option α)
  | .null => some none
  | v => (read v).map some

end Json
end MailBrowser
