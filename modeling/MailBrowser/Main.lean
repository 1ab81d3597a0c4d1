import MailBrowser.Archive.Demo
import MailBrowser.Archive.Opening
import MailBrowser.Browser.DiskUse
import MailBrowser.Browser.Timers
import MailBrowser.CommandLine
import MailBrowser.Screen.Picture
import MailBrowser.Terminal.Keystrokes
import MailBrowser.Terminal.Painting
import Std.Time.DateTime.Timestamp

/-!
# The program

* `Disk`      looks at the disk and carries changes to it;
* `Journal`   the log file, which says more if it is asked to;
* `Console`   the browser on a terminal: what is typed, what is due, the picture;
* `main`      arguments, settings, archive, and the console until the end.

The terminal has to be in raw mode already, with reads that do not wait (`stty raw -echo min 0
time 0`); its size is taken from `LINES` and `COLUMNS`.
-/

namespace MailBrowser

/-! ## the disk -/

namespace Disk

def now : IO Instant := do
  let t ← Std.Time.Timestamp.now
  return .atSecond t.toSecondsSinceUnixEpoch.val

/-- a store with nothing but the working directory -/
def here : IO FileStore := do
  let cwd := Path.components (← IO.currentDir).toString
  let dirs := (List.range cwd.length).map fun n => (cwd.take (n + 1), Node.dir)
  return { nodes := dirs, cwd }

/-- one path more, if the store knows the way to it -/
def lookAt (files : FileStore) (p : Path) : IO FileStore := do
  match files.locate p with
  | .error _ => return files
  | .ok place =>
    if (files.nodeAt? place).isSome then return files
    let real := (← IO.currentDir) / p
    if ← real.isDir then return files.setNode place .dir
    else if ← real.pathExists then return files.setNode place (.file (← IO.FS.readBinFile real))
    else return files

/-- a path and the directories above it -/
def look (files : FileStore) (p : Path) : IO FileStore :=
  (FileStore.chainOf p).reverse.foldlM lookAt files

def carry (changes : List (Place × Node)) : IO Unit :=
  changes.forM fun (place, node) => do
    let real := (← IO.currentDir) / ("/" ++ "/".intercalate place)
    match node with
    | .dir => IO.FS.createDirAll real
    | .file content => IO.FS.writeBinFile real content

end Disk

/-! ## the log -/

structure Journal where
  path : Path
  /-- whether small steps are noted too -/
  verbose : Bool := false

namespace Journal

def note (j : Journal) (text : String) : IO Unit := do
  let file ← IO.FS.Handle.mk ((← IO.currentDir) / j.path) .append
  file.putStrLn ((← Disk.now).written ++ " " ++ text)

def noteStep (j : Journal) (text : String) : IO Unit :=
  if j.verbose then j.note text else pure ()

end Journal

/-! ## the console -/

structure Console where
  desk : Desk
  journal : Journal
  alarms : List Alarm := []
  /-- the start of a character whose end has not come yet -/
  unread : ByteArray := .empty
  ticks : Nat := 0
  ended : Bool := false

/-- the terminal itself, whatever the standard input is -/
def keyboardPath : Path := "/dev/tty"

/-- what has been typed since the last time -/
def typed : IO ByteArray := do
  let keyboard ← IO.FS.Handle.mk keyboardPath .read
  keyboard.read 4096

namespace Console

/-- the milliseconds between two pictures -/
def pause : UInt32 := 80

def tell (c : Console) (e : Event) : Console :=
  let (desk, p) := c.desk.send {} e
  { c with desk, ended := c.ended || p.ended || desk.browser.quitting }

/-- an effect with the disk behind it -/
def perform (c : Console) (effect : Effect) : IO Console := do
  let before ← (c.desk.session.paths effect).foldlM Disk.look (← Disk.here)
  let (session, event) :=
    { c.desk.session with files := before }.perform (← Disk.now) effect
  let outcome ←
    try
      let changes := before.changes session.files
      Disk.carry changes
      changes.forM fun change => c.journal.noteStep ("written: /" ++ "/".intercalate change.1)
      pure event
    catch e => pure (effect.failed e.toString)
  match event, outcome with
  | none, _ => c.journal.note "quit requested"; return { c with ended := true }
  | _, some e => return c.tell e
  | _, none => return c

/-- Performs waiting effects until none is left; timers are set instead. -/
partial def settle (c : Console) : IO Console := do
  let (desk, alarms) := c.desk.wind (← IO.monoMsNow)
  let c := { c with desk, alarms := c.alarms ++ alarms }
  if c.ended then return c
  match desk.waiting with
  | [] => return c
  | effect :: waiting => settle (← { c with desk := { desk with waiting } }.perform effect)

def press (c : Console) (k : Key) : IO Console :=
  if c.ended then return c else (c.tell (.key k)).settle

def ring (c : Console) : IO Console := do
  let (due, alarms) := Alarm.ring (← IO.monoMsNow) c.alarms
  due.foldlM (fun c effect => do (← c.perform effect).settle) { c with alarms }

def draw (c : Console) (width height : Nat) : IO Unit := do
  let out ← IO.getStdout
  out.putStr (c.desk.browser.picture width height c.ticks).painting
  out.flush

def listen (c : Console) : IO Console := do
  let bytes := c.unread ++ (← typed)
  match String.fromUTF8? bytes with
  | none => return { c with unread := bytes }
  | some text =>
    ((Keystroke.all text.toList).filterMap Key.ofPress?).foldlM press { c with unread := .empty }

partial def loop (c : Console) (width height : Nat) : IO Unit := do
  c.draw width height
  IO.sleep pause
  let c ← (← c.ring).listen
  if c.ended then return
  { c with ticks := c.ticks + 1 }.loop width height

def size : IO (Nat × Nat) := do
  let read (name : String) (dflt : Nat) : IO Nat :=
    return ((← IO.getEnv name).bind String.toNat?).getD dflt
  return (← read "COLUMNS" 80, ← read "LINES" 24)

def run (session : Session) (tuning : Tuning) (journal : Journal) : IO Unit := do
  let (width, height) ← size
  let desk : Desk := { browser := (Browser.new tuning).resize height, session }
  let c ← Console.settle { desk := desk.follow desk.browser.start, journal }
  let out ← IO.getStdout
  out.putStr Painting.enter
  try c.loop width height
  finally
    out.putStr Painting.leave
    out.flush

end Console

/-! ## from arguments to a session -/

/-- why the program does not start, with the cause if there is one -/
def fail (message : String) (cause : String := "") : IO UInt32 := do
  let behind := if cause.isEmpty then "" else "\n\nCaused by:\n    " ++ cause
  IO.eprintln ("Error: " ++ message ++ behind)
  return 1

def start (i : Invocation) : IO UInt32 := do
  let home := (← IO.getEnv "HOME").getD "/"
  Disk.carry [(Path.components (configDir home), .dir)]
  let journal : Journal := { path := logPath home, verbose := i.debug }
  journal.note "session started"
  let settingsPath := i.config?.getD (configPath home)
  match Config.load (← Disk.look (← Disk.here) settingsPath) settingsPath with
  | .error e => fail e.message
  | .ok config =>
    let go (a : Archive) : IO UInt32 := do
      Console.run
        { engine := a.engine, files := {}, dataDir := config.dataDir home
          exportDir := config.exportDir home }
        config.tuning journal
      return 0
    if i.demo then go (.ofFile Demo.file)
    else
      let p := i.archive?.getD (config.archivePath home)
      let files ← Disk.look (← Disk.here) p
      if !files.exists_ p then
        fail ("Archive not found at " ++ Text.quotedText p ++ ".\nSet archive_path in " ++
          Text.quotedText (configPath home) ++ " or pass --archive <path>.\n" ++
          "Run with --demo to try the interface with generated data.")
      else
        match Archive.load files p with
        | .error e => fail ("Failed to open archive " ++ Text.quotedText p) e.message
        | .ok a => go a

end MailBrowser

open MailBrowser in
def main (args : List String) : IO UInt32 := do
  match Request.ofArgs args with
  | .error e => IO.eprintln e.message; return 2
  | .ok .help => IO.println CommandLine.helpText; return 0
  | .ok .version => IO.println CommandLine.versionText; return 0
  | .ok (.run i) => start i
