import MailBrowser.Group.Dimension
import MailBrowser.OrdSet

/-!
# Selections

The rows and messages that are marked for a bulk action.  A key is marked under the dimension of
the rows it was picked from, and marks of another dimension make way for it.

* `Selection.retag`      drops the keys and turns to a dimension;
* `Selection.toggleKey`, `Selection.toggleMessage`   mark or unmark one;
* `Selection.addKeys`, `Selection.addMessages`       mark several.
-/

namespace MailBrowser

structure Selection where
  keys : OrdSet String := .empty
  dimension : Dimension := .senders
  messages : OrdSet Int := .empty
deriving DecidableEq, Inhabited

namespace Selection

def clear (s : Selection) : Selection := { s with keys := .empty, messages := .empty }

def retag (s : Selection) (d : Dimension) : Selection := { s with keys := .empty, dimension := d }

/-- the selection with its keys under `d` -/
def under (s : Selection) (d : Dimension) : Selection :=
  if s.dimension = d then s else s.retag d

def toggleKey (s : Selection) (d : Dimension) (key : String) : Selection :=
  { s.under d with keys := (s.under d).keys.toggle key }

def toggleMessage (s : Selection) (id : Int) : Selection :=
  { s with messages := s.messages.toggle id }

def addKeys (s : Selection) (d : Dimension) (keys : List String) : Selection :=
  { s.under d with keys := (s.under d).keys.insertAll keys }

def addMessages (s : Selection) (ids : List Int) : Selection :=
  { s with messages := s.messages.insertAll ids }

def isEmpty (s : Selection) : Bool := s.keys.isEmpty && s.messages.isEmpty

def size (s : Selection) : Nat := s.keys.size + s.messages.size

end Selection
end MailBrowser
