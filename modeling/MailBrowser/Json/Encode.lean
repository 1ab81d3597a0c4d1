import MailBrowser.Json.Value

/-!
# Values as JSON

* `Encode`      the types whose values have a JSON form;
* `Json.put`    a field of a record.
-/

namespace MailBrowser

class Encode (α : Type) where
  enc : α → Json

export Encode (enc)

instance : Encode Json := ⟨id⟩
instance : Encode Nat := ⟨fun n => .int n⟩
instance : Encode Int := ⟨.int⟩
instance : Encode Bool := ⟨.bool⟩
instance : Encode String := ⟨.text⟩
instance {α : Type} [Encode α] : Encode (Option α) := ⟨.opt enc⟩
instance {α : Type} [Encode α] : Encode (List α) := ⟨fun as => .list (as.map enc)⟩

namespace Json

def put {α : Type} [Encode α] (name : String) (a : α) : String × Json := (name, enc a)

end Json
end MailBrowser
