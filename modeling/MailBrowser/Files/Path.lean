import MailBrowser.Text.Blank

/-!
# Paths

Paths are texts with slashes between components.

* `Path.join`        a path below another, or the second alone if it starts at the root;
* `Path.components`  the names on the way, without empty ones and single dots;
* `Path.fileName?`   the last component, unless the path ends in two dots or has none;
* `stemOf`, `extensionOf?`   a file name before and after its last dot.
-/

namespace MailBrowser
open Text

abbrev Path := String

namespace Path

def isAbsolute (p : Path) : Bool := p.toList.head? == some '/'

def join (a b : Path) : Path :=
  if isAbsolute b then b
  else if a.isEmpty || a.toList.getLast? == some '/' then a ++ b
  else a ++ "/" ++ b

/-- the parts between slashes that are names -/
def components (p : Path) : List String :=
  ((pieces (· == '/') p.toList).map String.ofList).filter fun c => !c.isEmpty && c != "."

def fileName? (p : Path) : Option String :=
  match (components p).getLast? with
  | some n => if n = ".." then none else some n
  | none => none

/-- a name cut at its last dot; a dot at the head does not count -/
def cutAtDot (name : String) : String × Option String :=
  let cs := name.toList
  let after := (cs.reverse.takeWhile (· != '.')).reverse
  let before := cs.take (cs.length - after.length - 1)
  if name = ".." ∨ !cs.contains '.' ∨ before.isEmpty then (name, none)
  else (.ofList before, some (.ofList after))

def stemOf (name : String) : String := (cutAtDot name).1

def extensionOf? (name : String) : Option String := (cutAtDot name).2

end Path
end MailBrowser
