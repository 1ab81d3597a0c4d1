import MailBrowser.Settings.Config

/-!
# The command line

* `Invocation`      the settings that arguments may give;
* `Request`         what arguments ask for: a session, the help or the version;
* `UsageError`      what is wrong with arguments, `UsageError.message` in words;
* `Request.ofArgs`  reads arguments; asking for help or the version ends the reading.
-/

namespace MailBrowser

structure Invocation where
  config? : Option Path := none
  archive? : Option Path := none
  demo : Bool := false
  debug : Bool := false
deriving DecidableEq

inductive Request where
  | run (i : Invocation)
  | help
  | version
deriving DecidableEq

inductive UsageError where
  /-- an argument that nothing is known of -/
  | unexpected (argument : String)
  /-- an option without its value -/
  | valueMissing (option : String)
  /-- a flag with a value -/
  | valueGiven (flag value : String)
  | repeated (option : String)
deriving DecidableEq

namespace CommandLine

def usage : String := "Usage: " ++ programName ++ " [OPTIONS]"

def versionText : String := programName ++ " 0.1.0"

def helpText : String := "\n".intercalate [
  "Terminal browser for an offline email archive",
  "",
  usage,
  "",
  "Options:",
  "      --config <CONFIG>    Config file (defaults to the platform config dir)",
  "      --archive <ARCHIVE>  Archive JSON file, overriding the config",
  "      --demo               Browse a generated demo archive",
  "      --debug              Verbose logging to the debug log",
  "  -h, --help               Print help",
  "  -V, --version            Print version"]

/-- an option with the name of its value, a flag alone -/
def shownOption (name : String) : String :=
  if name = "--config" then "--config <CONFIG>"
  else if name = "--archive" then "--archive <ARCHIVE>"
  else name

end CommandLine

open CommandLine in
def UsageError.message : UsageError → String
  | unexpected argument =>
    "error: unexpected argument '" ++ argument ++ "' found\n\n" ++ usage ++ hint
  | valueMissing option =>
    "error: a value is required for '" ++ shownOption option ++ "' but none was supplied" ++ hint
  | valueGiven flag value =>
    "error: unexpected value '" ++ value ++ "' for '" ++ flag ++
      "' found; no more were expected\n\n" ++ usage ++ hint
  | repeated option =>
    "error: the argument '" ++ shownOption option ++ "' cannot be used multiple times\n\n" ++
      usage ++ hint
where
  hint : String := "\n\nFor more information, try '--help'."

namespace CommandLine

/-- a long option before and after its first equals sign -/
def cutAtEquals (argument : String) : String × Option String :=
  let cs := argument.toList
  match cs.dropWhile (· != '=') with
  | _ :: value => (.ofList (cs.takeWhile (· != '=')), some (.ofList value))
  | [] => (argument, none)

/-- a text that can be no value of an option, because it is one itself -/
def looksLikeOption (s : String) : Bool :=
  match s.toList with
  | '-' :: _ :: _ => true
  | _ => false

/-- the value of an option: behind the equals sign, or else the next argument -/
def valueOf (option : String) (attached : Option String) (rest : List String) :
    Except UsageError (Path × List String) :=
  match attached, rest with
  | some v, _ => if v.isEmpty then .error (.valueMissing option) else .ok (v, rest)
  | none, v :: rest =>
    if v.isEmpty || looksLikeOption v then .error (.valueMissing option) else .ok (v, rest)
  | none, [] => .error (.valueMissing option)

/-- the setting of one argument, or the end of the reading; `rest` is what follows it -/
def readOne (i : Invocation) (argument : String) (rest : List String) :
    Except UsageError (Except Request (Invocation × List String)) :=
  let (name, attached) := cutAtEquals argument
  let flag (was : Bool) (next : Except Request (Invocation × List String)) :=
    match attached with
    | some v => .error (.valueGiven name v)
    | none => if was then .error (.repeated name) else .ok next
  match name with
  | "--config" => do
    let (v, rest) ← valueOf name attached rest
    if i.config?.isSome then .error (.repeated name)
    else .ok (.ok ({ i with config? := some v }, rest))
  | "--archive" => do
    let (v, rest) ← valueOf name attached rest
    if i.archive?.isSome then .error (.repeated name)
    else .ok (.ok ({ i with archive? := some v }, rest))
  | "--demo" => flag i.demo (.ok ({ i with demo := true }, rest))
  | "--debug" => flag i.debug (.ok ({ i with debug := true }, rest))
  | "--help" | "-h" => flag false (.error .help)
  | "--version" | "-V" => flag false (.error .version)
  | _ => .error (.unexpected name)

/-- Every argument takes one step at most, so as many steps as arguments are enough. -/
def readAll : Nat → Invocation → List String → Except UsageError Request
  | _, i, [] => .ok (.run i)
  | 0, i, _ => .ok (.run i)
  | n + 1, i, argument :: rest =>
    match readOne i argument rest with
    | .error e => .error e
    | .ok (.error request) => .ok request
    | .ok (.ok (i, rest)) => readAll n i rest

end CommandLine

def Request.ofArgs (args : List String) : Except UsageError Request :=
  CommandLine.readAll args.length {} args

end MailBrowser
