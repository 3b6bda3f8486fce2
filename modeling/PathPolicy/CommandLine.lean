import PathPolicy.Configuration.Toml
import PathPolicy.Daemon

/-!
# The command line of the daemon

Options are written `--name value`, `--name=value`, `-n value`, `-nvalue` or `-n=value`, and
switches of one letter may share a dash. An option takes effect only when the next option or switch
is met or the line ends, so an unknown argument behind it is reported first.
-/

namespace PathPolicy

structure CommandLine where
  /-- The file that holds the configuration. -/
  config : Option String := none
  socket : Option String := none
  script : Option String := none
  verbose : Bool := false
  deriving DecidableEq

namespace CommandLine

/-- Why a command line is not carried out. -/
inductive Stop
  | invalidValue
  | argumentConflict
  | tooManyValues
  | unknownArgument
  | displayHelp
  | displayVersion
  deriving DecidableEq

def Stop.name : Stop → String
  | .invalidValue => "InvalidValue"
  | .argumentConflict => "ArgumentConflict"
  | .tooManyValues => "TooManyValues"
  | .unknownArgument => "UnknownArgument"
  | .displayHelp => "DisplayHelp"
  | .displayVersion => "DisplayVersion"

/-- What takes a value. -/
inductive Setting
  | config
  | socket
  | script
  deriving DecidableEq

/-- What does not. -/
inductive Switch
  | verbose
  | help
  | version
  deriving DecidableEq

inductive Argument
  | setting (s : Setting)
  | switch (s : Switch)

def Argument.ofName? : String → Option Argument
  | "config" => some (.setting .config)
  | "socket" => some (.setting .socket)
  | "script" => some (.setting .script)
  | "verbose" => some (.switch .verbose)
  | "help" => some (.switch .help)
  | "version" => some (.switch .version)
  | _ => none

def Argument.ofLetter? : Char → Option Argument
  | 'c' => some (.setting .config)
  | 's' => some (.setting .socket)
  | 'v' => some (.switch .verbose)
  | 'h' => some (.switch .help)
  | 'V' => some (.switch .version)
  | _ => none

def get (c : CommandLine) : Setting → Option String
  | .config => c.config
  | .socket => c.socket
  | .script => c.script

/-- No setting is given twice, and none an empty value. -/
def set (c : CommandLine) (s : Setting) (v : String) : Except Stop CommandLine :=
  if (c.get s).isSome then .error .argumentConflict
  else if v.isEmpty then .error .invalidValue
  else
    match s with
    | .config => .ok { c with config := some v }
    | .socket => .ok { c with socket := some v }
    | .script => .ok { c with script := some v }

def turn (c : CommandLine) : Switch → Except Stop CommandLine
  | .verbose => if c.verbose then .error .argumentConflict else .ok { c with verbose := true }
  | .help => .error .displayHelp
  | .version => .error .displayVersion

/-- A command line of which some arguments have been read. -/
structure Reading where
  line : CommandLine := {}
  /-- The setting named last, with its value if that has been read, before it takes effect. -/
  pending : Option (Setting × Option String) := none

namespace Reading

/-- Lets the setting named last take effect. -/
def settle (r : Reading) : Except Stop CommandLine :=
  match r.pending with
  | none => .ok r.line
  | some (_, none) => .error .invalidValue
  | some (s, some v) => r.line.set s v

/-- Names a setting, with its value if that is attached. -/
def name (r : Reading) (s : Setting) (attached : Option String) : Except Stop Reading := do
  let line ← r.settle
  match attached with
  | some v => return { line := ← line.set s v }
  | none => return { line, pending := some (s, none) }

def turn (r : Reading) (s : Switch) : Except Stop Reading := do
  let line ← r.settle
  return { line := ← line.turn s }

/-- An argument behind two dashes. -/
def long (r : Reading) (text : List Char) : Except Stop Reading :=
  let name := text.takeWhile (· != '=')
  let attached : Option String :=
    if name.length < text.length then some (String.ofList (text.drop (name.length + 1))) else none
  match Argument.ofName? (String.ofList name), attached with
  | none, _ => .error .unknownArgument
  | some (.setting s), v => r.name s v
  | some (.switch _), some _ => .error .tooManyValues
  | some (.switch s), none => r.turn s

/-- Letters behind one dash. -/
def short (r : Reading) : List Char → Except Stop Reading
  | [] => .ok r
  | c :: rest => do
    match Argument.ofLetter? c, rest with
    | none, _ => throw .unknownArgument
    | some (.switch s), _ => short (← r.turn s) rest
    | some (.setting s), [] => r.name s none
    | some (.setting s), '=' :: v => r.name s (some (String.ofList v))
    | some (.setting s), v => r.name s (some (String.ofList v))

/-- Any other argument, which is only ever the value of the setting named just before. -/
def plain (r : Reading) (text : String) : Except Stop Reading :=
  match r.pending with
  | some (s, none) => .ok { r with pending := some (s, some text) }
  | _ => .error .unknownArgument

/-- Behind two dashes alone nothing may stand. -/
def all (r : Reading) : List String → Except Stop CommandLine
  | [] => r.settle
  | a :: rest => do
    match a.toList with
    | ['-', '-'] => if rest.isEmpty then r.settle else throw .unknownArgument
    | '-' :: '-' :: text => (← r.long text).all rest
    | ['-'] => (← r.plain a).all rest
    | '-' :: letters => (← r.short letters).all rest
    | _ => (← r.plain a).all rest

end Reading

def parse (arguments : List String) : Except Stop CommandLine := ({} : Reading).all arguments

/-- The configuration with what the command line says in place of its own. -/
def apply (c : CommandLine) (configuration : Configuration) : Configuration :=
  let rpc := configuration.rpc
  let selector := configuration.selector
  { configuration with
    rpc := { rpc with socketPath := c.socket.getD rpc.socketPath }
    selector :=
      match c.script with
      | none => selector
      | some path => { selector with mode := .script, scriptPath := some path } }

/-- Reads the configuration in a file. -/
def readConfiguration (files : String → Except String String) (path : String) :
    Except DaemonError Configuration :=
  match files path with
  | .error reason => .error (.unreadableConfiguration path reason)
  | .ok text =>
    match Configuration.ofToml? text with
    | none => .error (.malformedConfiguration "not a configuration")
    | some c => .ok c

/-- The configuration to work with: defaults, then the file, then the command line. -/
def load (c : CommandLine) (files : String → Except String String) :
    Except DaemonError Configuration := do
  let configuration ←
    match c.config with
    | none => pure {}
    | some path => readConfiguration files path
  let configuration := c.apply configuration
  (configuration.validate.mapError fun e => .policy e.toPolicyError)
  return configuration

end CommandLine

end PathPolicy
