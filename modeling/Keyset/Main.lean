import Keyset.Command.Run

/-! # The program

Reads the environment and the document of settings, runs the command, and writes its answer or
what went wrong.
-/

namespace Keyset.Program

/-- The text of the first of the files that can be read. -/
def readFirst : List String → IO (Option String)
  | [] => pure none
  | path :: paths => do
    try
      pure (some (← IO.FS.readFile path))
    catch _ => readFirst paths

/-- The directory of the user's settings. -/
def userDirectory : IO (Option String) := do
  match ← IO.getEnv "XDG_CONFIG_HOME", ← IO.getEnv "HOME" with
  | some directory, home =>
    if directory.startsWith "/" then pure (some directory)
    else pure (home.map fun home => home ++ "/.config")
  | none, home => pure (home.map fun home => home ++ "/.config")

/-- How the program is used. -/
def usage : String :=
  "Usage: siftql [OPTIONS] <filter|cql|after|before|order|connection|missing|operators> ..."

end Keyset.Program

open Keyset in
/-- Run the program. -/
def main (arguments : List String) : IO UInt32 := do
  match Invocation.ofArguments (← IO.getEnv "SIFTQL_CONFIG") arguments with
  | .error .help =>
    IO.println Program.usage
    pure 0
  | .error .version =>
    IO.println "siftql 0.3.0"
    pure 0
  | .error .usage =>
    IO.eprintln Program.usage
    pure 2
  | .ok invocation =>
    let document ← Program.readFirst (invocation.configPaths (← Program.userDirectory))
    match invocation.run document with
    | .ok answer =>
      IO.print answer
      pure 0
    | .error failure =>
      IO.eprintln ("Error: " ++ failure.message)
      pure 1
