import SuperChip.CommandLine.Run

/-!
# The program

The outer layer opens files, reads what is typed and writes what the library
answers.  There is no window here, so a run that wants one is told so.  The
monitor talks while it is used, and therefore opens each path just before the
line that asks for it.
-/

namespace SuperChip.Program

/-- What opening a path on the disk gives. -/
def openPath (path : String) : IO Files := do
  let result : Except FolderError (List UInt8) ←
    try
      pure (.ok (← IO.FS.readBinFile path).toList)
    catch
      | .noFileOrDirectory .. => pure (.error (.notFound path))
      | .inappropriateType .. => pure (.error (.isFolder path))
      | _ => pure (.error (.notFolder path))
  pure ⟨fun _ => result⟩

/-- The files that a path needs, if there is one. -/
def openRequested : Option String → IO Files
  | some path => openPath path
  | none => pure Folder.empty.files

/-- Write what a run has left on both channels. -/
def write (transcript : Transcript) : IO Unit := do
  (← IO.getStdout).putStr transcript.output
  (← IO.getStdout).flush
  (← IO.getStderr).putStr transcript.errors

/-- The status of an ending. -/
def status : Ending → UInt32
  | .returned status => UInt32.ofNat status
  | .exited status => UInt32.ofNat status
  | .failed _ => 1
  | .valueless _ => 1

/-- Write the transcript of a run and give its status. -/
def finish (run : Ending × Transcript) : IO UInt32 := do
  write run.2
  match run.1 with
  | .failed fault => (← IO.getStderr).putStrLn fault.message
  | .valueless option => (← IO.getStderr).putStrLn option.emptyMessage
  | .returned _ | .exited _ => pure ()
  pure (status run.1)

partial def converse (m : Monitor Twister) : IO UInt32 := do
  write (Transcript.empty.say Monitor.prompt)
  let typed ← (← IO.getStdin).getLine
  let line := if typed.isEmpty then "EOF" else String.ofList (typed.toList.filter (· ≠ '\n'))
  let files ← openRequested (m.requestedPath? line)
  let answered := fun (after : Monitor Twister) =>
    write ⟨after.outputSince m.printed.size, String.join <|
      (after.console.engine.reports.toList.drop m.console.engine.reports.size).map Run.reportLine⟩
  match Monitor.execute files line m with
  | .ok stop after =>
    answered after
    if stop then pure 0 else converse after
  | .error fault after =>
    answered after
    finish (.failed fault, .empty)

/-- Run the program on the files, the keyboard and the screen of the host. -/
def run (arguments : List String) : IO UInt32 := do
  match Settings.ofArguments arguments with
  | .error refusal => finish (Run.refused refusal)
  | .ok settings =>
    let files ← openRequested settings.rom
    let bytes ← IO.getRandomBytes 8
    let seed := bytes.toList.foldl (fun (seed : Nat) byte => seed * 256 + byte.toNat) 0
    match settings.mode, Run.ready settings files (.ofSeed seed) with
    | .monitor, .ok (console, t) =>
      write (t.say (Monitor.greeting ++ "\n"))
      converse (Run.monitor settings console)
    | _, _ =>
      finish (Run.ofSettings settings {
        files := files
        typed := []
        interrupted := false
        window := .missing "there is no window system"
        random := .ofSeed seed })

end SuperChip.Program

/-- The program. -/
def main (arguments : List String) : IO UInt32 := SuperChip.Program.run arguments
