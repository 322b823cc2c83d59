import PoolPlan.Class.Provider

namespace PoolPlan.Command

inductive UsageFault where
  | help
  | version
  | nothing
  | missingCommand
  | unknownCommand
  | unknownArgument
  | missingArguments
  /-- An option given twice, or beside one that excludes it. -/
  | conflict
  | badValue
  | invalidProvider
  /-- A value attached to something that takes none. -/
  | unneededValue
deriving DecidableEq, Repr

def UsageFault.name : UsageFault → String
  | .help => "DisplayHelp"
  | .version => "DisplayVersion"
  | .nothing => "DisplayHelpOnMissingArgumentOrSubcommand"
  | .missingCommand => "MissingSubcommand"
  | .unknownCommand => "InvalidSubcommand"
  | .unknownArgument => "UnknownArgument"
  | .missingArguments => "MissingRequiredArgument"
  | .conflict => "ArgumentConflict"
  | .badValue => "InvalidValue"
  | .invalidProvider => "ValueValidation"
  | .unneededValue => "TooManyValues"

inductive OutputFormat where
  | yaml | json
deriving DecidableEq, Repr

structure CompileArguments where
  worker : String
  config : String
  credentials : Option String
  secretsFromCluster : Bool
  provider : Provider
  cloudProfile : Option String
  version : String
  podNetwork : Option String
  output : OutputFormat
deriving DecidableEq, Repr

inductive Action where
  | compile (args : CompileArguments)
  | definition
deriving DecidableEq, Repr

structure Invocation where
  jsonLogs : Bool
  action : Action
deriving DecidableEq, Repr

inductive Position where
  | root | compile | definition
deriving DecidableEq, Repr

inductive ValueOption where
  | worker | config | credentials | provider | cloudProfile | version | podNetwork | output
deriving DecidableEq, Repr

inductive Flag where
  | jsonLogs | secretsFromCluster | help | version
deriving DecidableEq, Repr

inductive Switch where
  | value (o : ValueOption)
  | flag (f : Flag)
deriving DecidableEq, Repr

def Position.commandName? : Position → Option String
  | .root => none
  | .compile => some "compile"
  | .definition => some "crd"

def Position.longNames : Position → List (String × Switch)
  | .root => [("json-logs", .flag .jsonLogs), ("help", .flag .help), ("version", .flag .version)]
  | .compile => [
    ("worker", .value .worker), ("config", .value .config), ("credentials", .value .credentials),
    ("secrets-from-cluster", .flag .secretsFromCluster), ("provider", .value .provider),
    ("cloud-profile", .value .cloudProfile), ("kubernetes-version", .value .version),
    ("pod-network", .value .podNetwork), ("output", .value .output),
    ("json-logs", .flag .jsonLogs), ("help", .flag .help)]
  | .definition => [("json-logs", .flag .jsonLogs), ("help", .flag .help)]

def Position.letters : Position → List (Char × Switch)
  | .root => [('h', .flag .help), ('V', .flag .version)]
  | .compile => [('w', .value .worker), ('c', .value .config), ('o', .value .output), ('h', .flag .help)]
  | .definition => [('h', .flag .help)]

structure Settings where
  worker : Option String
  config : Option String
  credentials : Option String
  provider : Option Provider
  cloudProfile : Option String
  version : Option String
  podNetwork : Option String
  output : Option OutputFormat
  secretsFromCluster : Bool
  jsonLogs : Bool

namespace Settings

def empty : Settings := ⟨none, none, none, none, none, none, none, none, false, false⟩

def readPath (value : String) : Except UsageFault String :=
  if value = "" then .error .badValue else .ok value

def readText (value : String) : Except UsageFault String := .ok value

def readProvider (value : String) : Except UsageFault Provider :=
  match Provider.ofName? value with
  | some p => .ok p
  | none => .error .invalidProvider

def readFormat (value : String) : Except UsageFault OutputFormat :=
  if value = "yaml" then .ok .yaml else if value = "json" then .ok .json else .error .badValue

/-- Read the value of an option that was not given before. -/
def once {α : Type} (before : Option α) (read : String → Except UsageFault α) (value : String) :
    Except UsageFault (Option α) :=
  match before with
  | some _ => .error .conflict
  | none => (read value).map some

def set (s : Settings) (o : ValueOption) (value : String) : Except UsageFault Settings :=
  match o with
  | .worker => do return { s with worker := ← once s.worker readPath value }
  | .config => do return { s with config := ← once s.config readPath value }
  | .credentials => do return { s with credentials := ← once s.credentials readPath value }
  | .provider => do return { s with provider := ← once s.provider readProvider value }
  | .cloudProfile => do return { s with cloudProfile := ← once s.cloudProfile readText value }
  | .version => do return { s with version := ← once s.version readText value }
  | .podNetwork => do return { s with podNetwork := ← once s.podNetwork readText value }
  | .output => do return { s with output := ← once s.output readFormat value }

def raise (s : Settings) (f : Flag) : Except UsageFault Settings :=
  match f with
  | .help => .error .help
  | .version => .error .version
  | .jsonLogs => if s.jsonLogs then .error .conflict else .ok { s with jsonLogs := true }
  | .secretsFromCluster =>
    if s.secretsFromCluster then .error .conflict else .ok { s with secretsFromCluster := true }

/-- The arguments of `compile`. Options that exclude each other are looked at before missing ones. -/
def compileArguments (s : Settings) : Except UsageFault CompileArguments :=
  if s.credentials.isSome && s.secretsFromCluster then .error .conflict
  else match s.worker, s.config, s.version with
    | some worker, some config, some version => .ok {
        worker, config, version
        credentials := s.credentials
        secretsFromCluster := s.secretsFromCluster
        provider := s.provider.getD Provider.fallback
        cloudProfile := s.cloudProfile
        podNetwork := s.podNetwork
        output := s.output.getD .yaml }
    | _, _, _ => .error .missingArguments

end Settings

/-- What was read of the words, with the option whose value is not looked at yet, or not there yet. -/
structure Reading where
  settings : Settings
  pending : Option (ValueOption × Option String)

namespace Reading

def start : Reading := ⟨.empty, none⟩

def settle (r : Reading) : Except UsageFault Settings :=
  match r.pending with
  | none => .ok r.settings
  | some (_, none) => .error .badValue
  | some (o, some value) => r.settings.set o value

def option (r : Reading) (o : ValueOption) (attached : Option String) : Except UsageFault Reading := do
  let settings ← r.settle
  match attached with
  | some value => return ⟨← settings.set o value, none⟩
  | none => return ⟨settings, some (o, none)⟩

def flag (r : Reading) (f : Flag) : Except UsageFault Reading := do
  let settings ← r.settle
  return ⟨← settings.raise f, none⟩

def long (r : Reading) (place : Position) (name : String) (attached : Option String) :
    Except UsageFault Reading :=
  match place.longNames.lookup name with
  | none => .error .unknownArgument
  | some (.value o) => r.option o attached
  | some (.flag f) => if attached.isSome then .error .unneededValue else r.flag f

/-- Letters in a row. What follows the letter of an option is its value, an equals sign apart. -/
def cluster (r : Reading) (place : Position) : List Char → Except UsageFault Reading
  | [] => .ok r
  | c :: cs =>
    match place.letters.lookup c with
    | none => .error .unknownArgument
    | some (.flag f) => do
      let r ← r.flag f
      r.cluster place cs
    | some (.value o) =>
      match cs with
      | [] => r.option o none
      | '=' :: value => r.option o (some (String.ofList value))
      | value => r.option o (some (String.ofList value))

end Reading

inductive Word where
  /-- Two dashes: no options follow. -/
  | endOfOptions
  | long (name : String) (attached : Option String)
  | letters (cs : List Char)
  | plain

def Word.ofString (word : String) : Word :=
  match word.toList with
  | ['-', '-'] => .endOfOptions
  | '-' :: '-' :: cs =>
    let name := cs.takeWhile (· != '=')
    match cs.dropWhile (· != '=') with
    | _ :: value => .long (String.ofList name) (some (String.ofList value))
    | [] => .long (String.ofList name) none
  | '-' :: c :: cs => .letters (c :: cs)
  | _ => .plain

def command? (word : String) : Option Position :=
  [Position.compile, .definition].find? (fun p => p.commandName? == some word)

def readOptions (place : Position) (r : Reading) : List String → Except UsageFault Settings
  | [] => r.settle
  | word :: rest =>
    match Word.ofString word with
    | .endOfOptions => if rest.isEmpty then r.settle else .error .unknownArgument
    | .long name attached => do
      let r ← r.long place name attached
      readOptions place r rest
    | .letters cs => do
      let r ← r.cluster place cs
      readOptions place r rest
    | .plain =>
      match r.pending with
      | some (o, none) => readOptions place ⟨r.settings, some (o, some word)⟩ rest
      | _ => .error .unknownArgument

def helpFault : List String → UsageFault
  | [] => .help
  | [word] => if (command? word).isSome || word == "help" then .help else .unknownCommand
  | _ => .unknownCommand

def withoutCommand (r : Reading) : UsageFault :=
  if r.settings.jsonLogs then .missingCommand else .nothing

def readRoot (r : Reading) : List String → Except UsageFault Invocation
  | [] => .error (withoutCommand r)
  | word :: rest =>
    if word = "help" then .error (helpFault rest)
    else match command? word with
      | some place => do
        let s ← readOptions place .start rest
        let jsonLogs := r.settings.jsonLogs || s.jsonLogs
        match place with
        | .compile => return ⟨jsonLogs, .compile (← s.compileArguments)⟩
        | _ => return ⟨jsonLogs, .definition⟩
      | none =>
        match Word.ofString word with
        | .endOfOptions =>
          match rest with
          | [] => .error (withoutCommand r)
          | next :: _ =>
            if (command? next).isSome || next == "help" then .error .unknownArgument
            else .error .unknownCommand
        | .long name attached => do
          let r ← r.long .root name attached
          readRoot r rest
        | .letters cs => do
          let r ← r.cluster .root cs
          readRoot r rest
        | .plain => .error .unknownCommand

def Invocation.ofWords (words : List String) : Except UsageFault Invocation := readRoot .start words

end PoolPlan.Command
