import MailBrowser.Files.Path

/-!
# File stores

A tree of directories and files, seen from a working directory.

* `FileError`        why an operation fails, `FileError.message` the wording;
* `FileStore`        the tree: what stands at each place that is not empty;
* `FileStore.locate` the place that a path leads to, inside a directory that is there;
* `makeDir`, `makeDirs`, `write`, `read`, `copy`, `entries`   the operations;
* `writeText`, `readText`   the same for texts in UTF-8: what is written can be read.
-/

namespace MailBrowser
open Text

inductive FileError where
  | notFound | alreadyThere | notDirectory | isDirectory | nameTooLong
  /-- a path holds a null character -/
  | nullInName
  /-- what is to be copied is no plain file -/
  | notPlain
  /-- a file is not in UTF-8 -/
  | notText
deriving DecidableEq, Repr

def FileError.message : FileError → String
  | notFound => "No such file or directory (os error 2)"
  | alreadyThere => "File exists (os error 17)"
  | notDirectory => "Not a directory (os error 20)"
  | isDirectory => "Is a directory (os error 21)"
  | nameTooLong => "File name too long (os error 36)"
  | nullInName => "file name contained an unexpected NUL byte"
  | notPlain => "the source path is neither a regular file nor a symlink to a regular file"
  | notText => "stream did not contain valid UTF-8"

/-- the names on the way from the root -/
abbrev Place := List String

inductive Node where
  | dir
  | file (content : ByteArray)

instance : DecidableEq Node
  | .dir, .dir => .isTrue rfl
  | .dir, .file _ => .isFalse Node.noConfusion
  | .file _, .dir => .isFalse Node.noConfusion
  | .file a, .file b =>
    match ByteArray.instDecidableEq a b with
    | .isTrue h => .isTrue (congrArg Node.file h)
    | .isFalse h => .isFalse fun e => h (Node.file.inj e)

structure FileStore where
  nodes : List (Place × Node) := []
  /-- where paths that do not start at the root begin -/
  cwd : Place := ["home"]

namespace FileStore

/-- a store with an empty working directory -/
def fresh : FileStore := { nodes := [(["home"], .dir)] }

def nodeAt? (s : FileStore) (p : Place) : Option Node :=
  if p.isEmpty then some .dir else (s.nodes.find? fun n => n.1 == p).map Prod.snd

def setNode (s : FileStore) (p : Place) (n : Node) : FileStore :=
  { s with nodes := (s.nodes.filter fun m => m.1 != p) ++ [(p, n)] }

/-! ## places of paths -/

/-- the longest name of a directory entry and the longest path, in bytes -/
def nameLimit : Nat := 255
def pathLimit : Nat := 4095

/-- what stands at a place must be a directory -/
def needDir (s : FileStore) (p : Place) : Except FileError Unit :=
  match s.nodeAt? p with
  | some .dir => .ok ()
  | some (.file _) => .error .notDirectory
  | none => .error .notFound

/-- one name further from a directory -/
def stepTo (s : FileStore) (p : Place) (name : String) : Except FileError Place := do
  s.needDir p
  if name = "" ∨ name = "." then .ok p
  else if name = ".." then .ok p.dropLast
  else if nameLimit < name.utf8ByteSize then .error .nameTooLong
  else .ok (p ++ [name])

/-- the parts of a path between slashes, which may be empty -/
def partsOf (p : Path) : List String := (pieces (· == '/') p.toList).map String.ofList

/-- where the parts of a path lead -/
def walk (s : FileStore) (p : Path) (parts : List String) : Except FileError Place :=
  if '\x00' ∈ p.toList then .error .nullInName
  else if p.isEmpty then .error .notFound
  else if pathLimit < p.utf8ByteSize then .error .nameTooLong
  else parts.foldlM s.stepTo (if Path.isAbsolute p then [] else s.cwd)

/-- A slash at the end asks for a directory there. -/
def locate (s : FileStore) (p : Path) : Except FileError Place := s.walk p (partsOf p)

/-- the place of a directory that need not be there yet; slashes at the end do not count -/
def locateDir (s : FileStore) (p : Path) : Except FileError Place :=
  s.walk p (dropEndWhile String.isEmpty (partsOf p))

def lookup (s : FileStore) (p : Path) : Except FileError (Place × Node) := do
  let place ← s.locate p
  match s.nodeAt? place with
  | some n => .ok (place, n)
  | none => .error .notFound

def exists_ (s : FileStore) (p : Path) : Bool := (s.lookup p).isOk

def isDir (s : FileStore) (p : Path) : Bool :=
  match s.lookup p with
  | .ok (_, .dir) => true
  | _ => false

/-! ## operations -/

def makeDir (s : FileStore) (p : Path) : Except FileError FileStore := do
  let place ← s.locateDir p
  match s.nodeAt? place with
  | some _ => .error .alreadyThere
  | none => .ok (s.setNode place .dir)

/-- Makes the first of a list of directories, each inside the next; the others are made only if
there is no way to it. -/
def makeChain (s : FileStore) : List Path → Except FileError FileStore
  | [] => .ok s
  | p :: ps =>
    match s.makeDir p with
    | .ok s => .ok s
    | .error .notFound =>
      match s.makeChain ps with
      | .error e => .error e
      | .ok t =>
        match t.makeDir p with
        | .ok t => .ok t
        | .error e => if t.isDir p then .ok t else .error e
    | .error e => if s.isDir p then .ok s else .error e

/-- a path and the directories above it, longest first -/
def chainOf (p : Path) : List Path :=
  let root := if Path.isAbsolute p then "/" else ""
  let names := Path.components p
  let above := (List.range names.length).map fun n => root ++ "/".intercalate (names.take n)
  p :: above.reverse.filter fun q => !q.isEmpty

def makeDirs (s : FileStore) (p : Path) : Except FileError FileStore :=
  if p.isEmpty then .ok s else s.makeChain (chainOf p)

def write (s : FileStore) (p : Path) (content : ByteArray) : Except FileError FileStore := do
  let place ← s.locate p
  match s.nodeAt? place with
  | some .dir => .error .isDirectory
  | _ => .ok (s.setNode place (.file content))

/-- a file, and the directories on the way to it -/
def writeBelow (s : FileStore) (p : Path) (content : ByteArray) : Except FileError FileStore := do
  let s ← s.makeDirs ("/".intercalate (Path.components p).dropLast)
  s.write p content

def read (s : FileStore) (p : Path) : Except FileError ByteArray := do
  match ← s.lookup p with
  | (_, .file content) => .ok content
  | (_, .dir) => .error .isDirectory

/-- The target is emptied before the source is read, so a file copied to itself ends empty. -/
def copy (s : FileStore) (src dst : Path) : Except FileError (FileStore × Nat) := do
  match ← s.lookup src with
  | (_, .dir) => .error .notPlain
  | (_, .file _) =>
    let s ← s.write dst .empty
    let content ← s.read src
    let s ← s.write dst content
    .ok (s, content.size)

/-! ## texts -/

def decodeText (content : ByteArray) : Except FileError String :=
  match String.fromUTF8? content with
  | some text => .ok text
  | none => .error .notText

theorem decodeText_toUTF8 (text : String) : decodeText text.toUTF8 = .ok text := by
  have h : String.fromUTF8? text.toUTF8 = some text := dif_pos text.isValidUTF8
  rw [decodeText, h]

def writeText (s : FileStore) (p : Path) (text : String) : Except FileError FileStore :=
  s.write p text.toUTF8

def readText (s : FileStore) (p : Path) : Except FileError String := (s.read p).bind decodeText

/-! ## directories -/

/-- the names in a directory, in ascending order -/
def entries (s : FileStore) (p : Path) : Except FileError (List String) := do
  match ← s.lookup p with
  | (_, .file _) => .error .notDirectory
  | (place, .dir) =>
    let names := s.nodes.filterMap fun n =>
      match n.1.getLast? with
      | some name => if n.1.dropLast == place then some name else none
      | none => none
    .ok (names.mergeSort fun a b => decide (a ≤ b))

/-- the files below the working directory, with their paths from there -/
def filesBelow (s : FileStore) : List (Path × ByteArray) :=
  s.nodes.filterMap fun n =>
    match n.2 with
    | .file content =>
      if s.cwd.isPrefixOf n.1 then some ("/".intercalate (n.1.drop s.cwd.length), content)
      else none
    | .dir => none

end FileStore
end MailBrowser
