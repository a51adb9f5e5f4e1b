import CostJournal.CommandLine.Exchange
import CostJournal.CommandLine.Run

/-!
# The program

Requests are written to the standard output and answers are read from the standard input, one line
of JSON each. A run is repeated with every file and every answer that it turns out to need.
-/

namespace CostJournal.Process

/-- The number of the failure that a file stands where a path needs a directory. -/
def blockedCode : UInt32 := 20

/-- What a path leads to now, and the directories on the way; nothing is told of a path that leads
nowhere. -/
def lookAt (path : String) : IO (List (String × Option String)) := do
  let above := (FileTree.above path).map (·, none)
  try
    return (path, some (← IO.FS.readFile path)) :: above
  catch
    | .noFileOrDirectory .. => return []
    | .inappropriateType _ code _ => return if code = blockedCode then [] else (path, none) :: above
    | _ => return (path, none) :: above

/-- The environment of the process. -/
def environment : IO Environment := do
  let assignments := splitText '\x00' (← IO.FS.readFile "/proc/self/environ")
  return .ofList <| assignments.map fun v =>
    let (name, value) := v.toList.span (· != '=')
    (String.ofList name, String.ofList (value.drop 1))

/-- The number at the start of a text. -/
def leadingNumber (s : String) : Nat :=
  (natOfDigits? ((trimLeft s.toList).takeWhile Char.isDigit)).getD 0

/-- Today's date: the time since the system started, after the time when it started. -/
def today : IO Date := do
  let stat ← IO.FS.readFile "/proc/stat"
  let started := (splitText '\n' stat).findSome? fun line => line.dropPrefix? "btime "
  let startSeconds := leadingNumber ((started.map toString).getD "")
  let seconds := startSeconds + leadingNumber (← IO.FS.readFile "/proc/uptime")
  return .ofDayNumber (seconds / 86400)

/-- The next answer; a standard input that has ended closes the connection. -/
def readAnswer (input : IO.FS.Stream) : IO ServerAnswer := do
  return (ServerAnswer.ofLine? (← input.getLine)).getD .closed

/-- Repeats a run until it has looked at all its files and all its requests are answered. -/
partial def converse (s : Surroundings) (seen : List String) : IO UInt32 := do
  let ending := s.run
  match ending.paths.find? (!seen.contains ·) with
  | some path =>
    let found ← lookAt path
    converse { s with files := ⟨s.files.entries ++ found⟩ } (path :: seen)
  | none =>
    match ending.requests.drop s.answers.length with
    | request :: _ =>
      let output ← IO.getStdout
      output.putStrLn request.toJson.render
      output.flush
      converse { s with answers := s.answers ++ [← readAnswer (← IO.getStdin)] } seen
    | [] =>
      if let some text := ending.exit.failureText? then (← IO.getStderr).putStrLn ("Error: " ++ text)
      return ending.exit.status.toUInt32

end CostJournal.Process

open CostJournal Process in
def main (args : List String) : IO UInt32 := do
  converse {
    arguments := args
    environment := ← environment
    files := ⟨[]⟩
    today := ← today
    answers := [] } []
