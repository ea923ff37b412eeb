import PodInventory.Text.Numeral
import PodInventory.Text.Split

namespace PodInventory.Cli

/-- What an option takes: nothing, one value, or a value each time that it is given. -/
inductive Arity
  | flag
  | single
  | repeated
  /-- Ends the reading at once. -/
  | halt
  deriving DecidableEq

/-- An option. The check tells what is wrong with a value. -/
structure Opt where
  long : String
  short : Option Char := none
  placeholder : String := ""
  arity : Arity
  required : Bool := false
  check : String → Option String := fun _ ↦ none

/-- The options of a command, the word that stands for its operand, and its subcommands. -/
structure Grammar where
  options : List Opt
  operand : Option String := none
  commands : List String := []

inductive UsageError
  | missingValue (option : String)
  | givenTwice (option : String)
  | badValue (value option reason : String)
  | surplusValue (value option : String)
  | unknownArgument (text : String)
  | unknownCommand (name : String)
  | missingCommand (program : String) (commands : List String)
  | missingArguments (names : List String)
  deriving DecidableEq

namespace UsageError

def inQuotes (s : String) : String := "'" ++ s ++ "'"

def text : UsageError → String
  | missingValue option => "a value is required for " ++ inQuotes option ++ " but none was supplied"
  | givenTwice option => "the argument " ++ inQuotes option ++ " cannot be used multiple times"
  | badValue value option reason =>
    "invalid value " ++ inQuotes value ++ " for " ++ inQuotes option ++ ": " ++ reason
  | surplusValue value option =>
    "unexpected value " ++ inQuotes value ++ " for " ++ inQuotes option
      ++ " found; no more were expected"
  | unknownArgument text => "unexpected argument " ++ inQuotes text ++ " found"
  | unknownCommand name => "unrecognized subcommand " ++ inQuotes name
  | missingCommand program commands =>
    inQuotes program ++ " requires a subcommand but one was not provided\n  [subcommands: "
      ++ ", ".intercalate commands ++ "]"
  | missingArguments names =>
    "the following required arguments were not provided:"
      ++ String.join (names.map (fun n ↦ "\n  " ++ n))

end UsageError

/-- Why a reading of arguments ends early. -/
inductive Stop
  | usage (error : UsageError)
  /-- An option that ends the reading was given. -/
  | halted (long : String)
  deriving DecidableEq

/-- An option as usage messages show it. -/
def Opt.shown (o : Opt) : String :=
  "--" ++ o.long ++
    match o.arity with
    | .single | .repeated => " <" ++ o.placeholder ++ ">"
    | _ => ""

def operandShown (name : String) : String := "<" ++ name ++ ">"

/-- What was read so far. The last option that takes a value is pending until something else comes:
only then is its value looked at. -/
structure Read where
  given : List (String × String) := []
  operand : Option String := none
  pending : Option (Opt × Option String) := none

namespace Read

def has (r : Read) (long : String) : Bool := r.given.any (fun g ↦ g.1 == long)

/-- The value of an option that takes one. -/
def value? (r : Read) (long : String) : Option String := r.given.lookup long

def values (r : Read) (long : String) : List String :=
  (r.given.filter (fun g ↦ g.1 == long)).map Prod.snd

/-- Whether the next argument is the value of an option. -/
def awaits (r : Read) : Bool :=
  match r.pending with
  | some (_, none) => true
  | _ => false

def accept (r : Read) (o : Opt) (value : String) : Except Stop Read :=
  if o.arity ≠ .repeated ∧ r.has o.long then .error (.usage (.givenTwice o.shown))
  else
    match o.check value with
    | some reason => .error (.usage (.badValue value o.shown reason))
    | none => .ok { r with given := r.given ++ [(o.long, value)], pending := none }

/-- Deals with the pending option. -/
def settle (r : Read) : Except Stop Read :=
  match r.pending with
  | none => .ok r
  | some (o, none) => .error (.usage (.missingValue o.shown))
  | some (o, some value) => r.accept o value

/-- An option that takes no value. -/
def mark (r : Read) (o : Opt) : Except Stop Read := do
  let r ← r.settle
  if o.arity = .halt then .error (.halted o.long) else r.accept o ""

/-- An option with the value that stands in the same argument. -/
def attach (r : Read) (o : Opt) (value : String) : Except Stop Read := do
  (← r.settle).accept o value

/-- An option whose value is still to come. -/
def await (r : Read) (o : Opt) : Except Stop Read := do
  return { ← r.settle with pending := some (o, none) }

def takesValue (o : Opt) : Bool := o.arity = .single || o.arity = .repeated

def long (g : Grammar) (r : Read) (body : List Char) : Except Stop Read :=
  let (name, attached) : String × Option String :=
    match Text.splitFirst? '=' body with
    | some (name, value) => (.ofList name, some (.ofList value))
    | none => (.ofList body, none)
  match g.options.find? (fun o ↦ o.long == name), attached with
  | none, _ => .error (.usage (.unknownArgument ("--" ++ name)))
  | some o, some value =>
    if takesValue o then r.attach o value else .error (.usage (.surplusValue value o.shown))
  | some o, none => if takesValue o then r.await o else r.mark o

/-- Options of one letter may stand together. The first that takes a value takes the rest. -/
def shorts (g : Grammar) (r : Read) : List Char → Except Stop Read
  | [] => .ok r
  | c :: rest =>
    match g.options.find? (fun o ↦ o.short == some c) with
    | none => .error (.usage (.unknownArgument (.ofList ['-', c])))
    | some o =>
      if takesValue o then
        match rest with
        | [] => r.await o
        | '=' :: value => r.attach o (.ofList value)
        | value => r.attach o (.ofList value)
      else do shorts g (← r.mark o) rest

/-- An argument that is no option. Behind a double dash a known command is only an argument. -/
def plain (g : Grammar) (r : Read) (onlyOperands : Bool) (text : String) : Except Stop Read :=
  if g.operand.isSome && r.operand.isNone then do
    return { ← r.settle with operand := some text }
  else if !g.commands.isEmpty && !(onlyOperands && g.commands.contains text) then
    .error (.usage (.unknownCommand text))
  else .error (.usage (.unknownArgument text))

/-- Reads arguments up to a command, which comes back with what follows it. -/
def arguments (g : Grammar) (r : Read) (onlyOperands : Bool) :
    List String → Except Stop (Read × Option (String × List String))
  | [] => .ok (r, none)
  | text :: rest =>
    if onlyOperands then do arguments g (← r.plain g true text) true rest
    else if !r.awaits && g.commands.contains text then .ok (r, some (text, rest))
    else
      match text.toList with
      | ['-', '-'] => arguments g r true rest
      | '-' :: '-' :: body => do arguments g (← r.long g body) false rest
      | '-' :: c :: more => do arguments g (← r.shorts g (c :: more)) false rest
      | _ =>
        match r.pending with
        | some (o, none) => arguments g { r with pending := some (o, some text) } false rest
        | _ => do arguments g (← r.plain g false text) false rest

/-- The options that have to be given, and the operand behind them. -/
def missing (g : Grammar) (r : Read) : List String :=
  (g.options.filter (fun o ↦ o.required && !r.has o.long)).map Opt.shown
    ++ (if r.operand.isNone then (g.operand.map operandShown).toList else [])

def complete (g : Grammar) (r : Read) : Except Stop Read := do
  let r ← r.settle
  match r.missing g with
  | [] => return r
  | names => .error (.usage (.missingArguments names))

end Read

/-- Reads the arguments of a command that has no commands of its own. -/
def Grammar.read (g : Grammar) (arguments : List String) : Except Stop Read := do
  let (r, _) ← Read.arguments g {} false arguments
  r.complete g

end PodInventory.Cli
