import PodInventory.Cli.Grid
import PodInventory.Cli.Invocation
import PodInventory.Json.Render
import PodInventory.Service
import PodInventory.Worker.Registry

namespace PodInventory.Cli

/-- What a run prints, and its exit status. -/
structure Output where
  status : Nat
  out : String := ""
  err : String := ""
  deriving DecidableEq

namespace Output

def printed (out : String) : Output := { status := 0, out }

def failed (message : String) : Output := { status := 1, err := "Error: " ++ message ++ "\n" }

/-- Every line of a text set in. -/
def indented (s : String) : String :=
  "\n".intercalate ((Text.splitAll '\n' s.toList).map (fun l ↦ "    " ++ .ofList l))

def failedBecause (context cause : String) : Output :=
  failed (context ++ "\n\nCaused by:\n" ++ indented cause)

def helpText : String :=
  "Discover VM hosts through rack workers and sync pod records\n\nUsage: " ++ program
    ++ " [OPTIONS] <COMMAND>\n\nCommands: " ++ ", ".intercalate commandNames ++ "\n"

def ofStop : Stop → Output
  | .usage e =>
    { status := 2, err := "error: " ++ e.text ++ "\n\nFor more information, try '--help'.\n" }
  | .halted "version" => printed (program ++ " " ++ version ++ "\n")
  | .halted _ => printed helpText

end Output

def podHeader : List String := ["ID", "NAME", "TYPE", "ZONE", "CORES", "MEMORY", "ROUTES"]

def podRow (r : PodRecord) : List String :=
  [r.id, r.name, r.kind, r.zone, shown r.discovered.cores.toNat,
    shown r.discovered.memory.toNat ++ "MB",
    shown r.routableWorkers.length ++ "/" ++ shown r.routable.size]

def listText (pods : List PodRecord) : String := Grid.text podHeader (pods.map podRow) ++ "\n"

def routesText (routes : Dict Bool) : String :=
  Grid.text ["WORKER", "ROUTABLE"]
    (routes.entries.map (fun e ↦ [e.1, if e.2 then "true" else "false"])) ++ "\n"

/-- A pod with all that is known of its address, its architectures and its routes. -/
def podText (r : PodRecord) : String :=
  listText [r]
    ++ (match r.address with
      | some a => "IP address: " ++ a.toText ++ "\n"
      | none => "")
    ++ (if r.discovered.architectures.isEmpty then ""
      else "Architectures: " ++ ", ".intercalate r.discovered.architectures ++ "\n")
    ++ (if r.routable.isEmpty then "" else routesText r.routable)

/-- What becomes of a request to a worker, and after how many milliseconds. -/
abbrev Network := HttpWorker → Http.Url → Nat × Http.Exchange

/-- The handles to call. Of workers with one id the last one counts. -/
def connected (network : Network) (workers : List HttpWorker) : List Worker :=
  (workers.foldl (fun r w ↦ (Registry.register r (w.connect network)).1) .empty).snapshot

namespace Command

/-- Runs a command that needs the pod of a key. -/
def withPod (s : Service) (key : String) (run : PodRecord → Output × Service) : Output × Service :=
  match PodStore.resolve s.store key with
  | .error e => (.failed e.text, s)
  | .ok none => (.failed ("Pod '" ++ key ++ "' not found"), s)
  | .ok (some r) => run r

def discovered (target : Target) (report : Discovery.Report) : Output :=
  let out := (report.result.json Snapshot.json).prettyText ++ "\n"
  if report.result.succeeded.isEmpty then
    { Output.failed ("No worker could discover the " ++ target.name) with out }
  else .printed out

def run (network : Network) (timeout : Duration) (s : Service) : Command → Output × Service
  | .create pod =>
    match s.create pod with
    | (.record (.ok r), s) => (.printed (podText r), { s with trail := s.trail ++ [.created r] })
    | (.record (.error e), s) => (.failedBecause "Failed to create pod" e.text, s)
    | (_, s) => (.printed "", s)
  | .list =>
    match PodStore.list s.store with
    | .error e => (.failed e.text, s)
    | .ok pods => (.printed (listText pods), s)
  | .present key => withPod s key (fun r ↦ (.printed (podText r), s))
  | .delete key => withPod s key (fun r ↦
    match s.perform (.delete r.id) with
    | (.deleted (.error e), s) => (.failed e.text, s)
    | (_, s) =>
      (.printed ("Deleted pod " ++ r.name ++ " (" ++ r.id ++ ")\n"),
        { s with trail := s.trail ++ [.deleted r.id] }))
  | .discover target request workers =>
    match Discovery.run target request (connected network workers) timeout with
    | .error e => (.failed e.text, s)
    | .ok report => (discovered target report, s)
  | .sync key workers => withPod s key (fun r ↦
    let sync := Sync.start r (connected network workers) timeout
    match (s.begin sync).commit sync true with
    | (.synced _ (.ok r), s) => (.printed (podText r), s)
    | (.synced _ (.error e), s) => (.failedBecause "Pod sync failed" e.text, s)
    | (_, s) => (.printed "", s))

end Command

namespace Invocation

def duration (i : Invocation) : Duration := ⟨i.timeout, 0⟩

/-- An ephemeral run starts from an empty store, and nothing of it stays but the count of ids and
times. -/
def run (network : Network) (s : Service) (i : Invocation) : Output × Service :=
  if i.ephemeral then
    let (output, after) :=
      i.command.run network i.duration { s with store := { store := .memory .empty } }
    (output, { after with store := s.store })
  else i.command.run network i.duration s

end Invocation

/-- A whole run on a service that is open already. -/
def run (network : Network) (s : Service) (arguments : List String) : Output × Service :=
  match Invocation.read arguments with
  | .error stop => (.ofStop stop, s)
  | .ok i => i.run network s

end PodInventory.Cli
