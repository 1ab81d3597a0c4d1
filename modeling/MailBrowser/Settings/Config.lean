import MailBrowser.Files.Store
import MailBrowser.Text.Quoted
import MailBrowser.Toml.Reader

/-!
# Settings

* `Config`           what a settings file may set, with the defaults;
* `Config.load`      the settings of a file, the defaults if there is none;
* `Tuning`           the times and sizes that the browser works with: no size is zero;
* `Config.dataDir`, `Config.archivePath`, `Config.exportDir`   where things are kept.
-/

namespace MailBrowser
open Text

/-- the name of the program in paths -/
def programName : String := "vaultterm"

structure Config where
  dataDir? : Option Path := none
  archivePath? : Option Path := none
  exportDir? : Option Path := none
  fastDebounceMs : Nat := 100
  deepDebounceMs : Nat := 500
  searchPageSize : Nat := 100
  groupLimit : Nat := 50000
  threadLimit : Nat := 1000
  flashSecs : Nat := 4
deriving DecidableEq

/-- Times are in milliseconds. -/
structure Tuning where
  fastDebounce : Nat
  deepDebounce : Nat
  searchPageSize : Nat
  groupLimit : Nat
  threadLimit : Nat
  flash : Nat
deriving DecidableEq, Inhabited

inductive ConfigError where
  | unreadable (path : Path)
  | malformed (path : Path)
deriving DecidableEq

def ConfigError.message : ConfigError → String
  | unreadable path => "Failed to read config from " ++ quotedText path
  | malformed path => "Failed to parse " ++ quotedText path

namespace Config

def tuning (c : Config) : Tuning where
  fastDebounce := c.fastDebounceMs
  deepDebounce := c.deepDebounceMs
  searchPageSize := max 1 c.searchPageSize
  groupLimit := max 1 c.groupLimit
  threadLimit := max 1 c.threadLimit
  flash := c.flashSecs * 1000

/-! ## reading -/

def field? (name : String) (fs : Toml.Fields) : Option Toml.Item :=
  (fs.find? fun f => f.1 == name).map Prod.snd

/-- a number that is not negative, the default if the field is absent -/
def number? (name : String) (dflt : Nat) (fs : Toml.Fields) : Option Nat :=
  match field? name fs with
  | none => some dflt
  | some (.whole n) => if 0 ≤ n then some n.toNat else none
  | some _ => none

def path? (name : String) (fs : Toml.Fields) : Option (Option Path) :=
  match field? name fs with
  | none => some none
  | some (.text s) => some (some s)
  | some _ => none

def ofFields? (fs : Toml.Fields) : Option Config := do
  let d : Config := {}
  let dataDir? ← path? "data_dir" fs
  let archivePath? ← path? "archive_path" fs
  let exportDir? ← path? "export_dir" fs
  let fastDebounceMs ← number? "fast_debounce_ms" d.fastDebounceMs fs
  let deepDebounceMs ← number? "deep_debounce_ms" d.deepDebounceMs fs
  let searchPageSize ← number? "search_page_size" d.searchPageSize fs
  let groupLimit ← number? "aggregate_limit" d.groupLimit fs
  let threadLimit ← number? "thread_limit" d.threadLimit fs
  let flashSecs ← number? "flash_secs" d.flashSecs fs
  some { dataDir?, archivePath?, exportDir?, fastDebounceMs, deepDebounceMs, searchPageSize,
         groupLimit, threadLimit, flashSecs }

def load (files : FileStore) (p : Path) : Except ConfigError Config :=
  if files.exists_ p then
    match files.readText p with
    | .error _ => .error (.unreadable p)
    | .ok text =>
      match (Toml.read? text).bind ofFields? with
      | none => .error (.malformed p)
      | some c => .ok c
  else .ok {}

/-! ## places -/

def dataDir (c : Config) (home : Path) : Path :=
  c.dataDir?.getD (Path.join (Path.join home ".local/share") programName)

def archivePath (c : Config) (home : Path) : Path :=
  c.archivePath?.getD (Path.join (c.dataDir home) "archive.json")

def exportDir (c : Config) (home : Path) : Path :=
  c.exportDir?.getD (Path.join home (programName ++ "-exports"))

end Config

/-- the directory of the settings file and of the log -/
def configDir (home : Path) : Path := Path.join (Path.join home ".config") programName

def configPath (home : Path) : Path := Path.join (configDir home) "config.toml"

def logPath (home : Path) : Path := Path.join (configDir home) "debug.log"

end MailBrowser
