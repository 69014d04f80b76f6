import CloudApi.CommandLine.Options
import CloudApi.Provider.Kind
import CloudApi.Text.Numeral

/-! # Commands

The three commands and their arguments.  The provider and the region may also come from
variables; an option takes precedence. -/

namespace CloudApi.CommandLine

/-- Which provider a command is for, and what is said about where it is. -/
structure Target where
  provider : Provider
  region : Option String
  url : Option String
deriving DecidableEq, Repr

/-- A command with its arguments. -/
inductive Command where
  /-- Show the version and the endpoint of a service. -/
  | endpoint (target : Target) (service : Option String) (json : Bool)
  /-- Show the request of a capability. -/
  | prepare (target : Target) (capability : String) (ids filters lists : List String)
      (json : Bool)
  /-- Decode a reply that is kept in a file. -/
  | decode (provider : Provider) (command : String) (status : Nat) (file : String)
deriving DecidableEq, Repr

/-- Statuses are below this limit. -/
def statusLimit : Nat := 65536

/-- The status that a text gives: decimal digits after an optional sign.  Nothing less than zero
is a status. -/
def status? (s : String) : Option Nat :=
  match s.toList with
  | '+' :: digits => (Text.decimalValue? digits).filter (· < statusLimit)
  | '-' :: digits => (Text.decimalValue? digits).filter (· = 0)
  | digits => (Text.decimalValue? digits).filter (· < statusLimit)

/-- An option whose value is the name of a provider. -/
def providerOption : OptionForm :=
  { kind := .single, accepts := fun name => (Provider.ofName? name).isSome }

/-- The options that say where a provider is. -/
def targetOptions : List (String × OptionForm) :=
  [("provider", providerOption), ("region", { kind := .single }), ("url", { kind := .single })]

/-- What the first command takes. -/
def endpointShape : Shape :=
  { options := targetOptions ++ [("service", { kind := .single }), ("json", { kind := .flag })]
    positionals := [] }

/-- What the second command takes. -/
def prepareShape : Shape :=
  { options := targetOptions ++
      [("id", { kind := .repeated }), ("filter", { kind := .repeated }),
       ("list", { kind := .repeated }), ("json", { kind := .flag })]
    positionals := [fun _ => true] }

/-- What the third command takes.  The name of a file is not empty. -/
def decodeShape : Shape :=
  { options := [("provider", providerOption), ("command", { kind := .single }),
      ("status", { kind := .single, accepts := fun s => (status? s).isSome })]
    positionals := [fun file => file ≠ ""] }

/-- A value, or the failure of a missing or malformed argument. -/
def orUsage {α : Type} (x : Option α) : Except Halt α := x.elim (.error .usage) .ok

/-- The provider of a name, or the first one if none is given. -/
def providerOf (name : Option String) : Except Halt Provider :=
  match name with
  | some name => orUsage (Provider.ofName? name)
  | none => .ok .aws

/-- Where the provider is, by options and variables. -/
def targetOf (lookup : String → Option String) (g : Given) : Except Halt Target := do
  let provider ← providerOf ((g.value? "provider").or (lookup "STRATUS_PROVIDER"))
  return { provider, region := (g.value? "region").or (lookup "AWS_REGION")
           url := g.value? "url" }

/-- The arguments of the first command. -/
def endpointOf (lookup : String → Option String) (args : List String) :
    Except Halt Command := do
  let g ← scan endpointShape {} args
  let target ← targetOf lookup g
  return .endpoint target (g.value? "service") (g.has "json")

/-- The arguments of the second command. -/
def prepareOf (lookup : String → Option String) (args : List String) :
    Except Halt Command := do
  let g ← scan prepareShape {} args
  let target ← targetOf lookup g
  let capability ← orUsage g.positionals.head?
  return .prepare target capability (g.values "id") (g.values "filter") (g.values "list")
    (g.has "json")

/-- The arguments of the third command. -/
def decodeOf (args : List String) : Except Halt Command := do
  let g ← scan decodeShape {} args
  let provider ← providerOf (g.value? "provider")
  let command ← orUsage (g.value? "command")
  let status ← (g.value? "status").elim (.ok 200) (orUsage ∘ status?)
  let file ← orUsage g.positionals.head?
  return .decode provider command status file

/-- What help is asked for with: nothing, or the name of one command, help itself included. -/
def helpOf : List String → Halt
  | [] => .help
  | [name] => if name ∈ ["endpoint", "prepare", "decode", "help"] then .help else .usage
  | _ => .usage

/-- The command that arguments and variables give. -/
def Command.parse (lookup : String → Option String) : List String → Except Halt Command
  | "endpoint" :: rest => endpointOf lookup rest
  | "prepare" :: rest => prepareOf lookup rest
  | "decode" :: rest => decodeOf rest
  | "help" :: rest => .error (helpOf rest)
  | a :: _ => .error (if a = "--help" ∨ Text.startsWith "-h" a then .help else .usage)
  | [] => .error .usage

end CloudApi.CommandLine
