/-
**The program.**

The program reads its settings, from the file that its first argument names and from the
environment, and opens the store.  Then it answers the requests that come in one after the other,
each as of the day on which it has come, until there are no more.  If the settings cannot be read or
the store cannot be opened, it says why and stops.
-/

import ContactBook.Http.Plain
import ContactBook.Http.Service
import ContactBook.Settings
import ContactBook.Text.Utf8
import Mathlib.Tactic.DeprecateTo

set_option autoImplicit false

namespace ContactBook

/-! ### Settings -/

/-- The names of the files that a name of settings can mean. -/
def Settings.candidates (name : String) : List String :=
  let plain := plainName name
  [plain, plain ++ ".toml", plain ++ ".json"]

/-- The names of the variables that set something. -/
def Settings.variableNames : List String :=
  builtIn.map fun (key, _) => String.ofList ((variablePrefix ++ key.toList).map Char.toUpper)

/-- A file by its name, if it can be read. -/
def readFile? (name : String) : IO (Option (String × String)) := do
  try
    return some (name, ← IO.FS.readFile name)
  catch _ =>
    return none

/-- A variable of the environment by its name, if it is set. -/
def readVariable? (name : String) : IO (Option (String × String)) := do
  return (← IO.getEnv name).map (name, ·)

/-- What there is to read settings from. -/
def readSurroundings (fileName : Option String) : IO Settings.Surroundings := do
  let names := Settings.candidates (fileName.getD Settings.defaultFileName)
  return ⟨← names.filterMapM readFile?, ← Settings.variableNames.filterMapM readVariable?⟩

/-! ### Requests -/

/-- Reads the lines up to an empty one or to the end. -/
partial def readLines (input : IO.FS.Stream) : IO (List String) := do
  let line := Text.trim (← input.getLine)
  if line.isEmpty then return [] else return line :: (← readLines input)

/-- Reads so many bytes, or fewer at the end. -/
partial def readBytes (input : IO.FS.Stream) (size : Nat) : IO (List UInt8) := do
  if size == 0 then return []
  let bytes ← input.read size.toUSize
  if bytes.isEmpty then return []
  return bytes.toList ++ (← readBytes input (size - bytes.size))

/-- The date from whose midnight on the clock counts seconds. -/
def epoch : Calendar.Date := ⟨1970, 1, 1⟩

/-- The present day. -/
def readToday : IO Int := do
  let now ← Std.Time.Timestamp.now
  return epoch.dayNumber + now.toSecondsSinceUnixEpoch.val / Calendar.Instant.secondsInDay

/-- Answers requests until there are no more. -/
partial def serveAll (input output : IO.FS.Stream) (exposeDetails : Bool) (book : Book) :
    IO Unit := do
  match Http.Head.ofLines? (← readLines input) with
  | none => return
  | some head =>
    let bytes ← readBytes input head.bodySize
    let today ← readToday
    let (response, book) := Http.serve book exposeDetails today (head.withBody bytes)
    output.putStr response.plain
    output.flush
    serveAll input output exposeDetails book

/-- Serves the store that the settings name, or tells why that cannot be. -/
def runWith (fileName : Option String) : IO (Except Fault Unit) := do
  match Settings.load (← readSurroundings fileName) fileName with
  | .error fault => return .error fault
  | .ok settings =>
    match settings.location.openNew with
    | .error fault => return .error fault
    | .ok store =>
      let book : Book := { policy := settings.filterPolicy, store := store }
      serveAll (← IO.getStdin) (← IO.getStdout) settings.exposeErrorDetails book
      return .ok ()

end ContactBook

/-- Runs the program; the first argument, if there is one, names the file with settings. -/
def main (arguments : List String) : IO UInt32 := do
  match ← ContactBook.runWith arguments.head? with
  | .ok () => return 0
  | .error fault =>
    IO.eprintln fault.message
    return 1
