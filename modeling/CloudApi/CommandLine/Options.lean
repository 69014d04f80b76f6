import CloudApi.Text.Split

/-! # Options of a command

The arguments of a command are options and positional arguments in any order.  An option is
written `--name value` or `--name=value`; a value that follows its name must not look like an
option.  After `--` every argument is positional.  An argument is judged where it stands, so one
that is not acceptable counts even if help is asked for after it. -/

namespace CloudApi.CommandLine

/-- How often an option may stand, and whether it has a value. -/
inductive OptionKind where
  /-- At most once, without a value. -/
  | flag
  /-- At most once, with a value. -/
  | single
  /-- Any number of times, each with a value. -/
  | repeated
deriving DecidableEq, Repr

/-- An option that a command takes. -/
structure OptionForm where
  kind : OptionKind
  /-- The values that it may have. -/
  accepts : String → Bool := fun _ => true

/-- The arguments that a command takes. -/
structure Shape where
  options : List (String × OptionForm)
  /-- What each positional argument may be, in order. -/
  positionals : List (String → Bool)

/-- The arguments that have been given, in order. -/
structure Given where
  options : List (String × String) := []
  positionals : List String := []
deriving Repr

/-- Why arguments are not carried out. -/
inductive Halt where
  /-- They are not what the command takes. -/
  | usage
  /-- They ask for help. -/
  | help
deriving DecidableEq, Repr

namespace Given

/-- The option has been given. -/
def has (g : Given) (name : String) : Bool := g.options.any (·.1 == name)

/-- The value of an option that stands at most once. -/
def value? (g : Given) (name : String) : Option String := g.options.lookup name

/-- The values of an option in order. -/
def values (g : Given) (name : String) : List String :=
  (g.options.filter (·.1 == name)).map (·.2)

/-- Add an option with an acceptable value; one that stands at most once must not be there. -/
def addOption (g : Given) (form : OptionForm) (name value : String) : Except Halt Given :=
  if form.kind ≠ .repeated ∧ g.has name then .error .usage
  else if form.accepts value then .ok { g with options := g.options ++ [(name, value)] }
  else .error .usage

/-- Add a positional argument, if there is room for it and it is acceptable there. -/
def addPositional (g : Given) (shape : Shape) (value : String) : Except Halt Given :=
  match shape.positionals[g.positionals.length]? with
  | some accepts =>
    if accepts value then .ok { g with positionals := g.positionals ++ [value] }
    else .error .usage
  | none => .error .usage

/-- Add positional arguments. -/
def addPositionals (shape : Shape) : Given → List String → Except Halt Given
  | g, [] => .ok g
  | g, a :: rest => do addPositionals shape (← g.addPositional shape a) rest

end Given

/-- An argument looks like an option: a hyphen with something after it. -/
def looksLikeOption (a : String) : Bool := Text.startsWith "-" a && a ≠ "-"

/-- The name of a long option and the value that is attached to it. -/
def longOption? (a : String) : Option (String × Option String) :=
  (Text.afterStart? ['-', '-'] a.toList).map fun cs =>
    match Text.cut? '=' cs with
    | some (name, value) => (String.ofList name, some (String.ofList value))
    | none => (String.ofList cs, none)

/-- Read arguments one after the other. -/
def scan (shape : Shape) : Given → List String → Except Halt Given
  | g, [] => .ok g
  | g, a :: rest =>
    if a = "--" then g.addPositionals shape rest
    else
      match longOption? a with
      | some ("help", none) => .error .help
      | some (name, attached) =>
        match shape.options.lookup name with
        | none => .error .usage
        | some form =>
          match form.kind, attached with
          | .flag, some _ => .error .usage
          | .flag, none => do scan shape (← g.addOption form name "") rest
          | _, some value => do scan shape (← g.addOption form name value) rest
          | _, none =>
            -- the next argument is the value, unless it looks like an option itself
            match rest with
            | value :: rest =>
              if looksLikeOption value then .error .usage
              else do scan shape (← g.addOption form name value) rest
            | [] => .error .usage
      | none =>
        if Text.startsWith "-h" a then .error .help
        else if looksLikeOption a then .error .usage
        else do scan shape (← g.addPositional shape a) rest

end CloudApi.CommandLine
