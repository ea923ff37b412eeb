import PodInventory.Cli.Run
import PodInventory.Store.Archive

namespace PodInventory.Cli

/-- There is no transport: every connection counts as refused. -/
def offline : Network := fun _ _ ↦ (0, .broken)

def databaseIn (dataDir : String) : String := dataDir ++ "/" ++ Disk.databaseName

def load (dataDir : String) : IO (Except StoreError Service) := do
  try
    IO.FS.createDirAll dataDir
  catch e =>
    return .error (.internal ("create " ++ dataDir ++ ": " ++ toString e))
  let path := databaseIn dataDir
  let text ← try IO.FS.readFile path catch _ => pure ""
  return (Archive.ofText text).map (fun a ↦ a.service path)

def save (dataDir : String) (s : Service) : IO Unit :=
  match Archive.ofService s with
  | .ok a => IO.FS.writeFile (databaseIn dataDir) a.json.compactText
  | .error _ => pure ()

def carryOut (i : Invocation) : IO Output := do
  if i.ephemeral then return (i.run offline default).1
  match ← load i.dataDir with
  | .error e => return .failedBecause "Failed to open pod database" e.text
  | .ok s =>
    let (output, after) := i.run offline s
    save i.dataDir after
    return output

end PodInventory.Cli

open PodInventory in
def main (arguments : List String) : IO UInt32 := do
  let output ← match Cli.Invocation.read arguments with
    | .error stop => pure (Cli.Output.ofStop stop)
    | .ok i => Cli.carryOut i
  (← IO.getStdout).putStr output.out
  (← IO.getStderr).putStr output.err
  return output.status.toUInt32
