/-! Reading command lines: options with two dashes, their values, and at most one positional
argument. -/
namespace LoadBench.CommandLine

inductive OptionKind
  /-- Takes no value. -/
  | flag
  /-- Takes a value, and may be given once. -/
  | single
  /-- Takes a value, and may be given any number of times. -/
  | repeated
  deriving DecidableEq, Repr

/-- An option without its dashes, and the values it accepts. -/
structure OptionSpec where
  name : String
  kind : OptionKind := .single
  accepts : String → Bool := fun _ => true

namespace OptionSpec

def flag (name : String) : OptionSpec := { name, kind := .flag }

def any (name : String) : OptionSpec := { name }

def checked (name : String) (accepts : String → Bool) : OptionSpec := { name, accepts }

end OptionSpec

/-- The options and the positional argument of a program, and which of them must be given. -/
structure Grammar where
  options : List OptionSpec
  positional : Option (String → Bool) := none
  required : List String := []

/-- Why a command line is not carried out. -/
inductive Stop
  | help
  | usage
  deriving DecidableEq, Repr

/-- What a command line gives: options in order, with their values, and positional arguments. -/
structure Arguments where
  options : List (String × String) := []
  positionals : List String := []
  deriving DecidableEq, Repr

namespace Arguments

def value? (a : Arguments) (name : String) : Option String := a.options.lookup name

def values (a : Arguments) (name : String) : List String :=
  (a.options.filter (·.1 == name)).map Prod.snd

def isGiven (a : Arguments) (name : String) : Bool := (a.value? name).isSome

end Arguments

namespace Grammar

/-- Record a value of an option. -/
def accept (a : Arguments) (o : OptionSpec) (value : String) : Except Stop Arguments :=
  if o.kind != .repeated && a.isGiven o.name then .error .usage
  else if o.accepts value then .ok { a with options := a.options ++ [(o.name, value)] }
  else .error .usage

def acceptPositional (s : Grammar) (a : Arguments) (value : String) : Except Stop Arguments :=
  match s.positional with
  | some accepts =>
    if a.positionals.isEmpty && accepts value then
      .ok { a with positionals := a.positionals ++ [value] }
    else .error .usage
  | none => .error .usage

/-- The rest of an argument behind two dashes, at the first equals sign. -/
def splitOption (body : List Char) : String × Option String :=
  (String.ofList (body.takeWhile (· != '=')),
    match body.dropWhile (· != '=') with
    | [] => none
    | _ :: value => some (String.ofList value))

/-- Whether an argument looks like an option and so is no value. A lone dash is a value. -/
def isDashed (arg : String) : Bool := arg.startsWith "-" && arg != "-"

/-- Read the arguments from left to right; the first fault or request for help decides. -/
def readFrom (s : Grammar) (a : Arguments) : List String → Except Stop Arguments
  | [] =>
    if s.required.all a.isGiven && (s.positional.isNone || !a.positionals.isEmpty) then .ok a
    else .error .usage
  | "--" :: rest =>
    rest.foldlM s.acceptPositional a >>= fun a => s.readFrom a []
  | arg :: rest =>
    if arg.startsWith "--" then
      match splitOption (arg.toList.drop 2) with
      | ("help", none) => .error .help
      | (name, value) =>
        match s.options.find? (·.name == name), value with
        | none, _ => .error .usage
        | some o, some value =>
          if o.kind = .flag then .error .usage else accept a o value >>= (s.readFrom · rest)
        | some o, none =>
          if o.kind = .flag then accept a o "" >>= (s.readFrom · rest)
          else match rest with
            | value :: rest =>
              if isDashed value then .error .usage
              else accept a o value >>= (s.readFrom · rest)
            | [] => .error .usage
    else if arg.startsWith "-h" then .error .help
    else if isDashed arg then .error .usage
    else s.acceptPositional a arg >>= (s.readFrom · rest)
  termination_by args => args.length

def read (s : Grammar) (args : List String) : Except Stop Arguments := s.readFrom {} args

end Grammar

/-- What a program leaves behind. -/
structure Outcome where
  exitCode : Nat
  stdout : String := ""
  stderr : String := ""
  deriving DecidableEq, Repr

end LoadBench.CommandLine
