import Gatehouse.Password.Command
import Gatehouse.Startup

/-!
# The command line

`hash_password` hashes a password for a user who is there from the start. Without a command, everything is made that
the service needs before it listens, and what stands in the way is reported.
-/

namespace Gatehouse.CommandLine

/-- All bytes that are left in a stream. -/
partial def readAll (stream : IO.FS.Stream) (done : ByteArray) : IO ByteArray := do
  let more ← stream.read 4096
  if more.isEmpty then return done else readAll stream (done ++ more)

/-- The entry at a path; none if there is no file that can be read. -/
def readEntry (path : String) : IO (List (String × FileEntry)) := do
  try
    return [(path, .content (← IO.FS.readBinFile path).toList)]
  catch _ => return []

/-- The files at some paths. -/
def readFiles (paths : List String) : IO Files := do
  return .ofList (← paths.mapM readEntry).flatten

/-- Hashes a password. -/
def hashPassword (arguments : List String) : IO UInt32 := do
  let input ← if arguments.isEmpty then readAll (← IO.getStdin) .empty else pure .empty
  let salt ← IO.getRandomBytes 16
  let exit := Password.command salt.toList arguments input.toList
  (← IO.getStdout).putStr exit.output
  (← IO.getStderr).putStr exit.errors
  return exit.code

/-- Makes the service and throws it away, so that the time and the identifiers in it do not matter. -/
def start : IO UInt32 := do
  let block := (← IO.FS.readBinFile "/proc/self/environ").toList
  let files ← readFiles (Settings.environmentFile :: Settings.candidates.map (·.1))
  let attempt : Startup := ⟨Instant.epoch, fun _ => .nil, fun _ => .nil⟩
  match Settings.ofBlock files block with
  | .error e => report (.error e)
  | .ok s => report (attempt.serve (← readFiles [s.policy.policyPath, s.policy.modelPath]) s)
where
  report (outcome : Except StartupError Ready) : IO UInt32 := do
    match outcome with
    | .ok ready =>
      IO.println ("Ready to listen on " ++ ready.address)
      return 0
    | .error e =>
      IO.eprintln ("Error: " ++ e.message)
      return 1

end Gatehouse.CommandLine

/-- The program. -/
def main (arguments : List String) : IO UInt32 :=
  match arguments with
  | "hash_password" :: rest => Gatehouse.CommandLine.hashPassword rest
  | _ => Gatehouse.CommandLine.start
