import MailBrowser.Toml.Document

/-!
# Reading a settings file

* `Toml.value?`       a value, and what follows it;
* `Toml.statements?`  the statements of a text;
* `Toml.read?`        the fields of a whole file.

The fuel of the recursions bounds the characters that are left.
-/

namespace MailBrowser
namespace Toml

def isBareChar (c : Char) : Bool := c.isAlphanum || c == '_' || c == '-'

def skipGaps (cs : List Char) : List Char := cs.dropWhile isGap

/-- one key of a path -/
def simpleKey? (cs : List Char) : Option (String × List Char) :=
  match cs with
  | '\x22' :: r => (lineText '\x22' true (r.length + 1) r).map fun (k, r) => (.ofList k, r)
  | '\x27' :: r => (lineText '\x27' false (r.length + 1) r).map fun (k, r) => (.ofList k, r)
  | _ =>
    if (cs.takeWhile isBareChar).isEmpty then none
    else some (.ofList (cs.takeWhile isBareChar), cs.dropWhile isBareChar)

/-- lists, tables and keys of a path stand less than this deep in one another -/
def depthLimit : Nat := 80

/-- keys with points between them: the path, the last key, and what follows the gaps after it -/
def keys? : Nat → List Char → Option (List String × String × List Char)
  | 0, _ => none
  | fuel + 1, cs => do
    let (k, cs) ← simpleKey? (skipGaps cs)
    match skipGaps cs with
    | '.' :: r =>
      let (path, last, r) ← keys? fuel r
      some (k :: path, last, r)
    | r => some ([], k, r)

/-- the same, if the path is not too long -/
def dottedKey? (cs : List Char) : Option (List String × String × List Char) :=
  (keys? (cs.length + 1) cs).filter fun (path, _, _) => path.length + 1 < depthLimit

/-- what follows a comment, if there is one -/
def comment? : List Char → Option (List Char)
  | '#' :: r =>
    let after := r.dropWhile isShown
    if after.isEmpty || (eol? after).isSome then some after else none
  | r => some r

/-- gaps, comments and line ends left out -/
def skipAll? : Nat → List Char → Option (List Char)
  | 0, _ => none
  | fuel + 1, cs => do
    let cs ← comment? (skipGaps cs)
    match eol? cs with
    | some r => skipAll? fuel r
    | none => some cs

def isScalarChar (c : Char) : Bool := isBareChar c || c == '+' || c == '.' || c == ':'

/-- A date may be followed by a blank and a time of day, which belongs to it. -/
def scalarRun (cs : List Char) : List Char × List Char :=
  let run := cs.takeWhile isScalarChar
  match cs.dropWhile isScalarChar with
  | ' ' :: d :: r =>
    if (dateEnd? run == some []) && d.isDigit then
      (run ++ ' ' :: d :: r.takeWhile isScalarChar, r.dropWhile isScalarChar)
    else (run, ' ' :: d :: r)
  | r => (run, r)

def scalar? (cs : List Char) : Option Item :=
  if cs = ['t', 'r', 'u', 'e'] || cs = ['f', 'a', 'l', 's', 'e'] then some .plain
  else match whole? cs with
    | some n => some (.whole n)
    | none => if isReal cs || isTime cs then some .plain else none

mutual

/-- a value, in which `room` brackets or braces may be open at a time -/
def value? : Nat → Nat → List Char → Option (Item × List Char)
  | 0, _, _ => none
  | fuel + 1, room, cs =>
    match cs, room with
    | '\x22' :: _, _ | '\x27' :: _, _ => (string? cs).map fun (t, r) => (.text (.ofList t), r)
    | '[' :: _, 0 | '\x7b' :: _, 0 => none
    | '[' :: r, room + 1 => (listEnd? fuel room r).map fun r => (.closed, r)
    | '\x7b' :: r, room + 1 =>
      match skipGaps r with
      | '\x7d' :: r => some (.closed, r)
      | r => (tableEnd? fuel room [] r).map fun r => (.closed, r)
    | _, _ =>
      let (run, r) := scalarRun cs
      (scalar? run).map fun v => (v, r)

/-- what follows the items of a list and its closing bracket -/
def listEnd? : Nat → Nat → List Char → Option (List Char)
  | 0, _, _ => none
  | fuel + 1, room, cs => do
    match ← skipAll? (cs.length + 1) cs with
    | ']' :: r => some r
    | cs =>
      let (_, cs) ← value? fuel room cs
      match ← skipAll? (cs.length + 1) cs with
      | ',' :: r => listEnd? fuel room r
      | ']' :: r => some r
      | _ => none

/-- what follows the fields of a table in braces and its closing brace -/
def tableEnd? : Nat → Nat → Fields → List Char → Option (List Char)
  | 0, _, _, _ => none
  | fuel + 1, room, fs, cs => do
    let (path, k, cs) ← dottedKey? cs
    let cs ← dropMark? '=' cs
    let (v, cs) ← value? fuel room (skipGaps cs)
    let fs ← addKey path k v fs
    match skipGaps cs with
    | ',' :: r => tableEnd? fuel room fs r
    | '\x7d' :: r => some r
    | _ => none

end

/-- what follows gaps, a comment and the end of the line or of the file -/
def lineEnd? (cs : List Char) : Option (List Char) := do
  let cs ← comment? (skipGaps cs)
  if cs.isEmpty then some [] else eol? cs

/-- the statement at the head of a list, and what follows its line -/
def statement? (cs : List Char) : Option (Statement × List Char) :=
  match cs with
  | '[' :: '[' :: r => do
    let (path, k, r) ← dottedKey? r
    let r ← dropMark? ']' r
    let r ← dropMark? ']' r
    let r ← lineEnd? r
    some (.entry path k, r)
  | '[' :: r => do
    let (path, k, r) ← dottedKey? r
    let r ← dropMark? ']' r
    let r ← lineEnd? r
    some (.section_ path k, r)
  | _ => do
    let (path, k, r) ← dottedKey? cs
    let r ← dropMark? '=' r
    let (v, r) ← value? (2 * r.length + 2) (depthLimit - 1) (skipGaps r)
    let r ← lineEnd? r
    some (.key path k v, r)

def statements? : Nat → List Char → Option (List Statement)
  | 0, _ => none
  | fuel + 1, cs => do
    match ← skipAll? (cs.length + 1) cs with
    | [] => some []
    | cs =>
      let (st, r) ← statement? cs
      let sts ← statements? fuel r
      some (st :: sts)

/-- the list without a byte order mark at its head -/
def dropMarkOfOrder : List Char → List Char
  | '\ufeff' :: r => r
  | r => r

def read? (text : String) : Option Fields :=
  let cs := dropMarkOfOrder text.toList
  (statements? (cs.length + 1) cs).bind build

end Toml
end MailBrowser
