import CloudApi.CommandLine.Assignment
import CloudApi.CommandLine.Command
import CloudApi.Json.Writer
import CloudApi.Session.Operation

/-! # Carrying out commands

A command is carried out without sending anything: it resolves a service, prepares a request, or
decodes a reply that is kept in a file.  `CommandLine.run` answers with what is written and with
the exit code. -/

namespace CloudApi.CommandLine

/-- Why a file cannot be read. -/
inductive FileError where
  | notFound
  | notADirectory
  | isDirectory
  | denied
  | nameTooLong
  /-- The bytes of the file are no text. -/
  | notText
  /-- Anything else, in the words of the system. -/
  | other (problem : String)
deriving DecidableEq, Repr

/-- The wording of the error. -/
def FileError.message : FileError → String
  | .notFound => "No such file or directory (os error 2)"
  | .denied => "Permission denied (os error 13)"
  | .notADirectory => "Not a directory (os error 20)"
  | .isDirectory => "Is a directory (os error 21)"
  | .nameTooLong => "File name too long (os error 36)"
  | .notText => "stream did not contain valid UTF-8"
  | .other problem => problem

/-- Why a command fails. -/
inductive Failure where
  | opening (e : OpenError)
  | client (e : Error)
  | assignment (e : AssignmentError)
  | noFilters (capability : String)
  | file (path : String) (e : FileError)
deriving DecidableEq, Repr

/-- The wording of a failure. -/
def Failure.message : Failure → String
  | .opening e => e.message
  | .client e => e.message
  | .assignment e => e.message
  | .noFilters capability => capability ++ " does not accept filters"
  | .file path e => "Failed to read " ++ path ++ ": " ++ e.message

/-! ### Sessions -/

/-- The transport of commands that only prepare requests. -/
def dryRun : Transport := fun _ request =>
  .error { text := "dry run, " ++ request.method.wireName ++ " " ++ request.url ++ " was not sent" }

/-- The service that a provider's commands are about. -/
def defaultService : Provider → String
  | .aws | .eucalyptus => Ec2.service
  | .cloudStack => CloudStack.service

/-- The settings with what the command line says about where the provider is. -/
def settings (target : Target) (context : Context) : Context :=
  let c := target.region.elim context context.withRegion
  target.url.elim c (c.withUrl (defaultService c.provider))

/-- The session of a provider. -/
def openSession (context : Context) (transport : Transport) : Except OpenError Session :=
  match context.provider with
  | .aws | .eucalyptus => Session.openCompute context transport
  | .cloudStack => .ok (Session.openQuery context transport)

/-! ### Requests -/

/-- The filter that an argument gives. -/
def parseFilter (d : Definition) (text : String) : Except Failure Filter :=
  match d.filters with
  | none => .error (.noFilters d.name)
  | some names => do
    let (name, values) ← (splitAssignment text).mapError .assignment
    let name ← (names.resolve name).mapError .client
    return ⟨name, values⟩

/-- The list parameter that an argument gives. -/
def parseList (text : String) : Except Failure (String × List String) :=
  (splitAssignment text).mapError .assignment

/-- The query that arguments give. -/
def parseQuery (d : Definition) (ids filters lists : List String) : Except Failure Query := do
  let filters ← filters.mapM (parseFilter d)
  let lists ← lists.mapM parseList
  return { ids, filters, lists }

/-- The request for a capability of the session's main service. -/
def prepareRequest (s : Session) (service capability : String)
    (ids filters lists : List String) : Except Failure Prepared := do
  let f ← (Facade.make s.resolver service s.definitions).1.mapError (.client ∘ .setup)
  let i ← (f.capability capability).1.mapError (.client ∘ .setup)
  let q ← parseQuery i.value.definition ids filters lists
  (i.value.prepare q).mapError .client

/-! ### Replies -/

/-- Decode a reply. -/
def decodeReply (provider : Provider) (command : String) (status : Nat) (body : String) :
    Except Refusal (Option Json) :=
  (Protocol.ofProvider provider).decode command { status, body }

/-! ### Output -/

/-- What a command writes, and its exit code. -/
structure Output where
  exit : Nat
  stdout : String := ""
  stderr : String := ""
deriving DecidableEq, Repr

/-- Lines of text, each ended. -/
def lines (ls : List String) : String := String.join (ls.map (· ++ "\n"))

/-- The output of a command that has succeeded. -/
def success (ls : List String) : Output := { exit := 0, stdout := lines ls }

/-- The output of a command that has failed, after what it has written. -/
def failure (message : String) (written : List String) : Output :=
  { exit := 1, stdout := lines written, stderr := lines ["Error: " ++ message] }

/-- The output of a result. -/
def outputOf (result : Except Failure (List String)) : Output :=
  match result with
  | .ok ls => success ls
  | .error e => failure e.message []

/-- The lines that show a request. -/
def requestLines (r : Prepared) : List String :=
  (r.method.wireName ++ " " ++ r.url) :: r.params.map fun p => "  " ++ p.1 ++ " = " ++ p.2

/-- The handler of a service as a document. -/
def handlerDocument (provider : Provider) (service : String) (h : Handler) : Json :=
  Json.ofMembers
    [("provider", .text provider.name), ("service", .text service),
     ("version", .text h.version.text), ("endpoint", .text h.endpoint.text),
     ("url", .text h.endpoint.url)]

/-- The lines that show the handler of a service. -/
def handlerLines (provider : Provider) (service : String) (h : Handler) : List String :=
  ["Provider: " ++ provider.name, "Service: " ++ service, "API version: " ++ h.version.text,
   "Endpoint: " ++ h.endpoint.text]

/-! ### Commands -/

/-- Show the version and the endpoint of a service. -/
def runEndpoint (context : Context) (service : Option String) (json : Bool) :
    Except Failure (List String) := do
  let s ← (openSession context dryRun).mapError .opening
  let provider := s.resolver.context.provider
  let service := service.getD (defaultService provider)
  let h ← (s.resolver.resolve service).1.mapError (.client ∘ .setup)
  return if json then [(handlerDocument provider service h).pretty]
    else handlerLines provider service h

/-- Show the request of a capability. -/
def runPrepare (context : Context) (capability : String) (ids filters lists : List String)
    (json : Bool) : Except Failure (List String) := do
  let s ← (openSession context dryRun).mapError .opening
  let service := defaultService s.resolver.context.provider
  let request ← prepareRequest s service capability ids filters lists
  return if json then [(Json.object request.members).pretty] else requestLines request

/-- The text of a file. -/
def textOf (bytes : Except FileError ByteArray) : Except FileError String :=
  bytes.bind fun bytes => (String.fromUTF8? bytes).elim (.error .notText) .ok

/-- Decode a reply that is kept in a file.  A refusal that may pass is hinted at. -/
def runDecode (provider : Provider) (command : String) (status : Nat) (path : String)
    (bytes : Except FileError ByteArray) : Output :=
  match textOf bytes with
  | .error e => failure (Failure.file path e).message []
  | .ok body =>
    match decodeReply provider command status body with
    | .ok (some answer) => success [answer.pretty]
    | .ok none => success ["No result"]
    -- the hint is part of the output, and only the refusal goes to the errors
    | .error refusal =>
      failure refusal.message
        (if refusal.kind.isTransient then ["The request may succeed if retried."] else [])

/-- What the program is for. -/
def helpLines : List String :=
  ["Build cloud query API requests and decode their responses", "",
   "Usage: stratus <COMMAND>", "",
   "Commands:",
   "  endpoint  Show the API version and endpoint a service resolves to",
   "  prepare   Show the request a describe call would send, without sending it",
   "  decode    Decode a captured response body"]

/-- Carry out a command, given the variables and the files of its surroundings. -/
def runCommand (lookup : String → Option String)
    (file : String → Except FileError ByteArray) : Command → Output
  | .endpoint target service json =>
    let context := settings target (Context.ofVariables target.provider lookup)
    outputOf (runEndpoint context service json)
  | .prepare target capability ids filters lists json =>
    let context := settings target (Context.ofVariables target.provider lookup)
    outputOf (runPrepare context capability ids filters lists json)
  | .decode provider command status path =>
    runDecode provider command status path (file path)

/-- Carry out arguments, given the variables and the files of their surroundings. -/
def run (lookup : String → Option String) (file : String → Except FileError ByteArray)
    (args : List String) : Output :=
  match Command.parse lookup args with
  | .ok command => runCommand lookup file command
  | .error .help => success helpLines
  | .error .usage => { exit := 2, stderr := lines helpLines }

end CloudApi.CommandLine
