import Ingest.CommandLine.Program

/-!
The program itself: reads the file it is given and prints what a run logs and reports. Nothing sends
requests to it here, so the service is stopped as soon as it has started.
-/

open Ingest in
def main (args : List String) : IO UInt32 := do
  let path? : Option String :=
    match CommandLine.parse args with
    | .ok (.run i) => i.config
    | _ => none
  let text? ← match path? with
    | none => pure none
    | some path => try pure (some (← IO.FS.readFile path)) catch _ => pure none
  let around : CommandLine.Surroundings :=
    { file := fun _ => text?, network := .unreachable, healthAddress := "" }
  let outcome := CommandLine.run around args
  for line in outcome.logs do
    IO.println line.render
  unless outcome.stdout.isEmpty do
    IO.println outcome.stdout
  unless outcome.stderr.isEmpty do
    IO.eprint (if outcome.stderr.endsWith "\n" then outcome.stderr else outcome.stderr ++ "\n")
  return outcome.exit.toUInt32
