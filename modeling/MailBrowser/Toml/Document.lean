import MailBrowser.Toml.Scalar
import MailBrowser.Toml.Strings

/-!
# Tables of a settings file

* `Toml.Item`         what a key holds;
* `Toml.Statement`    a line of a file: a key with its value, or the head of a section;
* `Toml.within`       a change to the table that a path of keys leads to;
* `Toml.build`        the table of a list of statements, `none` if one defines a thing anew.
-/

namespace MailBrowser
namespace Toml

inductive Item where
  | text (s : String)
  | whole (n : Int)
  /-- a truth value, a number that is not whole, a time -/
  | plain
  /-- a list or a table that is complete where it stands -/
  | closed
  /-- a table; `implied` if only tables inside it have been named, `dotted` if by a dotted key -/
  | table (implied dotted : Bool) (fields : List (String × Item))
  /-- a list of tables, of which the last can grow -/
  | tables (last : List (String × Item))

abbrev Fields := List (String × Item)

inductive Statement where
  | key (path : List String) (name : String) (value : Item)
  | section_ (path : List String) (name : String)
  | entry (path : List String) (name : String)

/-- the fields with one of them changed or added -/
def alter (name : String) (f : Option Item → Option Item) : Fields → Option Fields
  | [] => (f none).map fun v => [(name, v)]
  | (k, v) :: fs =>
    if k = name then (f (some v)).map fun v => (k, v) :: fs
    else (alter name f fs).map ((k, v) :: ·)

/-- Changes the table at a path; `dotted` tells whether the path is that of a dotted key, which
must not reach into a section.  The change is told whether the table itself is a dotted one. -/
def within (dotted : Bool) (f : Bool → Fields → Option Fields) :
    List String → Bool → Fields → Option Fields
  | [], isDotted, fs => f isDotted fs
  | k :: ks, _, fs =>
    alter k (fun
      | none => (within dotted f ks dotted []).map (.table true dotted)
      | some (.table implied isDotted sub) =>
        if dotted && !implied then none
        else (within dotted f ks isDotted sub).map (.table implied isDotted)
      | some (.tables sub) => (within dotted f ks false sub).map .tables
      | some _ => none) fs

/-- a key that must be new, at the end of a path -/
def addKey (path : List String) (name : String) (value : Item) (fs : Fields) : Option Fields :=
  within true (fun isDotted sub =>
    if isDotted == path.isEmpty then none
    else alter name (fun
      | none => some value
      | some _ => none) sub) path false fs

def addKeys (ks : List (List String × String × Item)) (fs : Fields) : Option Fields :=
  ks.foldlM (fun fs (p, n, v) => addKey p n v fs) fs

/-- a section with its keys; one that has only been implied may still be defined -/
def addSection (path : List String) (name : String) (ks : List (List String × String × Item))
    (fs : Fields) : Option Fields :=
  within false (fun _ sub =>
    alter name (fun
      | none => (addKeys ks []).map (.table false false)
      | some (.table true false fs) => (addKeys ks fs).map (.table false false)
      | some _ => none) sub) path false fs

def addEntry (path : List String) (name : String) (ks : List (List String × String × Item))
    (fs : Fields) : Option Fields :=
  within false (fun _ sub =>
    alter name (fun
      | none => (addKeys ks []).map .tables
      | some (.tables _) => (addKeys ks []).map .tables
      | some _ => none) sub) path false fs

/-- The statements are taken in reverse, so that the keys of a section are known at its head. -/
def build (statements : List Statement) : Option Fields :=
  let (sections, top) := statements.foldr
    (fun st (sections, ks) => match st with
      | .key p n v => (sections, (p, n, v) :: ks)
      | .section_ p n => ((addSection p n ks) :: sections, [])
      | .entry p n => ((addEntry p n ks) :: sections, []))
    (([], []) : List (Fields → Option Fields) × List (List String × String × Item))
  (addKeys top []).bind fun fs => sections.foldlM (fun fs add => add fs) fs

end Toml
end MailBrowser
