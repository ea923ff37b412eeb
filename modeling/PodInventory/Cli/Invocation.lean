import PodInventory.Cli.Grammar
import PodInventory.Discovery
import PodInventory.Http.Exchange

namespace PodInventory.Cli

/-- A pair `key=value`. The key must not be empty, and the value may hold further signs. -/
def keyValue (s : String) : Except String (String × String) :=
  match Text.splitFirst? '=' s.toList with
  | none => .error ("Expected format: key=value, got '" ++ s ++ "'")
  | some ([], _) => .error ("Empty key in '" ++ s ++ "'")
  | some (key, value) => .ok (.ofList key, .ofList value)

def keyValueFault (s : String) : Option String :=
  match keyValue s with
  | .error reason => some reason
  | .ok _ => none

/-- The address given on its own counts, whatever the pairs say. -/
def powerParameters (address : String) (pairs : List (String × String)) : Dict String :=
  (Dict.ofList pairs).insert "power_address" address

/-- A word of 64 bits in decimal digits. -/
def word64 (s : String) : Except String UInt64 :=
  match s.toList with
  | [] => .error "cannot parse integer from empty string"
  | ['+'] => .error "invalid digit found in string"
  | '+' :: digits => go 0 digits
  | digits => go 0 digits
where
  go (n : Nat) : List Char → Except String UInt64
    | [] => .ok n.toUInt64
    | c :: rest =>
      match Text.digit? c with
      | none => .error "invalid digit found in string"
      | some d =>
        if UInt64.size ≤ n * 10 + d then .error "number too large to fit in target type"
        else go (n * 10 + d) rest

def word64Fault (s : String) : Option String :=
  match word64 s with
  | .error reason => some reason
  | .ok _ => none

inductive Command
  | create (pod : NewPod)
  | list
  | present (key : String)
  | delete (key : String)
  | discover (target : Target) (request : Request) (workers : List HttpWorker)
  | sync (key : String) (workers : List HttpWorker)
  deriving DecidableEq

/-- A run of the program as its arguments ask for it. -/
structure Invocation where
  dataDir : String
  ephemeral : Bool
  timeout : UInt64
  command : Command
  deriving DecidableEq

def program : String := "mvirt-podsync"

def version : String := "0.1.0"

def defaultDataDir : String := "/var/lib/mvirt/podsync"

def helpOption : Opt := { long := "help", short := some 'h', arity := .halt }

def commandNames : List String :=
  ["create", "list", "show", "delete", "discover", "sync", "help"]

def rootGrammar : Grammar where
  options := [
    { long := "data-dir", short := some 'd', placeholder := "DATA_DIR", arity := .single },
    { long := "dev", arity := .flag },
    { long := "timeout", placeholder := "TIMEOUT", arity := .single, check := word64Fault },
    helpOption,
    { long := "version", short := some 'V', arity := .halt }]
  commands := commandNames

def nameOption : Opt :=
  { long := "name", placeholder := "NAME", arity := .single, required := true }

def typeOption (placeholder : String) : Opt :=
  { long := "type", placeholder, arity := .single, required := true }

def addressOption : Opt :=
  { long := "power-address", placeholder := "POWER_ADDRESS", arity := .single, required := true }

def paramOption : Opt :=
  { long := "param", placeholder := "PARAMS", arity := .repeated, check := keyValueFault }

def workerOption : Opt :=
  { long := "worker", placeholder := "WORKERS", arity := .repeated, required := true,
    check := keyValueFault }

def createGrammar : Grammar where
  options := [nameOption, typeOption "POD_TYPE", addressOption, paramOption,
    { long := "zone", placeholder := "ZONE", arity := .single },
    { long := "pool", placeholder := "POOL", arity := .single }, helpOption]

def listGrammar : Grammar where
  options := [helpOption]

/-- A command on one pod. -/
def keyGrammar : Grammar where
  options := [helpOption]
  operand := some "POD"

def discoverGrammar : Grammar where
  options := [typeOption "TARGET_TYPE", addressOption, paramOption,
    { long := "chassis", arity := .flag }, workerOption, helpOption]

def syncGrammar : Grammar where
  options := [workerOption, { long := "blocking", arity := .flag }, helpOption]
  operand := some "POD"

namespace Command

def textOf (r : Read) (long otherwise : String) : String := (r.value? long).getD otherwise

def key (r : Read) : String := r.operand.getD ""

/-- The pairs that an option was given. -/
def pairs (r : Read) (long : String) : List (String × String) :=
  (r.values long).filterMap (fun s ↦ (keyValue s).toOption)

def parametersOf (r : Read) : Dict String :=
  powerParameters (textOf r "power-address" "") (pairs r "param")

def workersOf (r : Read) : List HttpWorker := (pairs r "worker").map (fun p ↦ ⟨p.1, p.2⟩)

def help (arguments : List String) : Stop :=
  match arguments with
  | [] => .halted "help"
  | [name] =>
    if commandNames.contains name then .halted "help" else .usage (.unknownCommand name)
  | name :: next :: _ =>
    .usage (.unknownCommand (if commandNames.contains name then next else name))

/-- The command of a name from the arguments behind it. -/
def read (name : String) (arguments : List String) : Except Stop Command := do
  match name with
  | "create" =>
    let r ← createGrammar.read arguments
    return .create ⟨textOf r "name" "", textOf r "type" "", textOf r "zone" "default",
      textOf r "pool" "default", parametersOf r⟩
  | "list" =>
    let _ ← listGrammar.read arguments
    return .list
  | "show" => return .present (key (← keyGrammar.read arguments))
  | "delete" => return .delete (key (← keyGrammar.read arguments))
  | "discover" =>
    let r ← discoverGrammar.read arguments
    return .discover (if r.has "chassis" then .chassis else .pod)
      ⟨textOf r "type" "", parametersOf r, none, none⟩ (workersOf r)
  | "sync" =>
    let r ← syncGrammar.read arguments
    return .sync (key r) (workersOf r)
  | "help" => throw (help arguments)
  | _ => throw (.usage (.unknownCommand name))

end Command

/-- What is given before the command is looked at last. -/
def Invocation.read (arguments : List String) : Except Stop Invocation := do
  let (root, found) ← Read.arguments rootGrammar {} false arguments
  match found with
  | none =>
    let _ ← root.settle
    throw (.usage (.missingCommand program commandNames))
  | some (name, rest) =>
    let command ← Command.read name rest
    let root ← root.settle
    return {
      dataDir := Command.textOf root "data-dir" defaultDataDir
      ephemeral := root.has "dev"
      timeout := ((root.value? "timeout").bind (fun s ↦ (word64 s).toOption)).getD 120
      command }

end PodInventory.Cli
