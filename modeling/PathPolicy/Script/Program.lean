import PathPolicy.Dictionary
import PathPolicy.Procedure
import PathPolicy.Script.Host
import PathPolicy.Script.Standard

/-!
# Declarative scripts

A `Program` says for each entry point which actions its function takes, one after another until one
of them answers. All functions of a program share a `Memory`. `Program.script` makes a `Script` of
it that keeps its memory at a place in a larger state and reports calls and log lines there.
-/

namespace PathPolicy.Script

/-- A step of an entry function, where `a` and `b` are its first two arguments. -/
inductive Action
  | nothing
  /-- Remembers `b` as the paths of `a`, and its elements in the stash. -/
  | store
  /-- Forgets the paths of `a` and which of them are down. -/
  | forget
  /-- From here on no path of `a` is down. -/
  | resetDown
  /-- The path of `a` with fingerprint `b` is down. -/
  | markDown
  /-- Answers the path at a position among those of a remote, by default of `a`. -/
  | pick (of : Option Value) (position : Nat)
  | pickLast
  | pickFingerprint (fingerprint : String)
  /-- Answers the first of the paths with the largest packets. -/
  | pickLargest
  /-- Answers the first path that is not down. -/
  | avoidDown
  /-- Answers an element of the stash. -/
  | stale (position : Nat)
  /-- Answers a new table with a fingerprint and nothing else. -/
  | fabricate (fingerprint : String)
  | answer (values : List Value)
  /-- Answers the arguments. -/
  | echo
  /-- Answers how often it was reached. -/
  | count
  | raise (message : String)
  /-- Raises the first time it is reached. -/
  | raiseOnce (message : String)
  | log (values : List Value)
  | logArguments
  /-- Logs a value whose text cannot be had. -/
  | logUnprintable
  /-- Logs a value with a text of its own. -/
  | logNamed
  /-- Answers whether the module tables are the ones a script can ask for by name. -/
  | requireSame

structure Memory where
  paths : Dictionary Key Value := {}
  down : Dictionary Key (List Key) := {}
  stash : List Value := []
  counter : Nat := 0
  raised : Bool := false
  nextTable : TableIdentity := ⟨0⟩
  deriving Inhabited

namespace Memory

def pathsOf (m : Memory) (a : Value) : List Value :=
  match a.key? with
  | none => []
  | some k => ((m.paths.get? k).getD .nil).items

def isDown (m : Memory) (a : Value) (path : Value) : Bool :=
  match a.key?, (path.field "Fingerprint").key? with
  | some k, some f => ((m.down.get? k).getD []).contains f
  | _, _ => false

def store (m : Memory) (a b : Value) : Memory :=
  match a.key? with
  | none => m
  | some k =>
    { m with
      paths := if b.isNil then m.paths.erase k else m.paths.insert k b
      stash := m.stash ++ b.items }

def forget (m : Memory) (a : Value) : Memory :=
  match a.key? with
  | none => m
  | some k => { m with paths := m.paths.erase k, down := m.down.erase k }

def resetDown (m : Memory) (a : Value) : Memory :=
  match a.key? with
  | none => m
  | some k => { m with down := m.down.insert k [] }

def markDown (m : Memory) (a b : Value) : Memory :=
  match a.key?, b.key? with
  | some k, some f => { m with down := m.down.insert k (f :: (m.down.get? k).getD []) }
  | _, _ => m

def allocate (m : Memory) : TableIdentity × Memory :=
  (m.nextTable, { m with nextTable := ⟨m.nextTable.number + 1⟩ })

end Memory

/-- The first value of greatest size, where `size` may compare equal. -/
def largest (size : Value → Value) : List Value → Value
  | [] => .nil
  | v :: vs => vs.foldl (fun best v => if (size best).isBelow (size v) then v else best) v

/-- The largest packet a path carries; -1 where that is not known. -/
def packetSize (path : Value) : Value :=
  match path.field "Metadata" with
  | .nil => .integer (-1)
  | m => m.field "MTU"

inductive Effect
  | next (m : Memory)
  | answer (values : List Value) (m : Memory)
  | raise (text : String) (m : Memory)
  | log (line : String)

def logLine (values : List Value) : String := " ".intercalate (values.map Value.toText)

def Action.effect (m : Memory) (arguments : List Value) (action : Action) : Effect :=
  let a := arguments[0]?.getD .nil
  let b := arguments[1]?.getD .nil
  match action with
  | .nothing => .next m
  | .store => .next (m.store a b)
  | .forget => .next (m.forget a)
  | .resetDown => .next (m.resetDown a)
  | .markDown => .next (m.markDown a b)
  | .pick remote position =>
    let of := (remote.getD a).key?.bind m.paths.get?
    .answer [(of.getD .nil).at? position] m
  | .pickLast => .answer [(m.pathsOf a).getLastD .nil] m
  | .pickFingerprint f =>
    let chosen := (m.pathsOf a).find? fun p => (p.field "Fingerprint").key? = some (.text f)
    .answer [chosen.getD .nil] m
  | .pickLargest => .answer [largest packetSize (m.pathsOf a)] m
  | .avoidDown => .answer [((m.pathsOf a).find? fun p => !m.isDown a p).getD .nil] m
  | .stale position => .answer [(Value.list m.stash).at? position] m
  | .fabricate f =>
    let (identity, m) := m.allocate
    .answer [.record (some identity) [("Fingerprint", .text f)]] m
  | .answer values => .answer values m
  | .echo => .answer arguments m
  | .count =>
    let m := { m with counter := m.counter + 1 }
    .answer [.ofInt m.counter] m
  | .raise message => .raise message m
  | .raiseOnce message => if m.raised then .next m else .raise message { m with raised := true }
  | .log values => .log (logLine values)
  | .logArguments => .log (logLine arguments)
  | .logUnprintable => .raise "no text" m
  | .logNamed => .log "named"
  | .requireSame => .answer [.boolean true, .boolean true] m

inductive Home
  | selector
  | tracer
  | global
  deriving DecidableEq, Inhabited

def Home.name : Home → String
  | .selector => selectorModule
  | .tracer => tracerModule
  | .global => "global"

inductive EntryBody
  | plain (v : Value)
  | function (actions : List Action)

structure Entry where
  home : Home
  name : String
  body : EntryBody

/-- What becomes of a module table once all entry points are defined. -/
inductive ModuleState
  | intact
  /-- The name leads to nothing, or to a number. -/
  | replaced
  /-- The table is still there, but looking up a missing key fails. -/
  | raising
  deriving DecidableEq, Inhabited

inductive LoadFault
  | unreadable
  | failing

structure Program where
  name : String := "policy.lua"
  fault : Option LoadFault := none
  selectorTable : ModuleState := .intact
  tracerTable : ModuleState := .intact
  entries : List Entry := []

/-- A call of an entry function, by its qualified name. -/
structure Call where
  function : String
  arguments : List Value

namespace Program

variable {σ : Type}

/-- Where a program keeps its memory, and who is told of its calls and log lines. -/
structure Surroundings (σ : Type) where
  memory : Procedure.Place σ Memory
  called : Call → σ → σ
  logged : String → σ → σ

/-- The definition in force: of several under one name, the last. -/
def find? (P : Program) (home : Home) (name : String) : Option EntryBody :=
  match (P.entries.reverse.find? fun e => e.home = home && e.name = name).map Entry.body with
  | some (.plain .nil) => none
  | body => body

/-- Takes the actions one after another until one of them answers or raises. -/
def perform (E : Surroundings σ) (arguments : List Value) :
    List Action → σ → Except String (List Value) × σ
  | [], s => (.ok [], s)
  | action :: actions, s =>
    match action.effect (E.memory.get s) arguments with
    | .next m => perform E arguments actions (E.memory.set m s)
    | .answer values m => (.ok values, E.memory.set m s)
    | .raise text m => (.error text, E.memory.set m s)
    | .log line => perform E arguments actions (E.logged line s)

def binding (E : Surroundings σ) (home : Home) (name : String) : EntryBody → Binding σ
  | .plain (.list _) | .plain (.record ..) => .table
  | .plain _ => .other
  | .function actions => .function fun arguments s =>
    perform E arguments actions (E.called ⟨home.name ++ "." ++ name, arguments⟩ s)

def standard (f : Standard.Function) : Binding σ := .function fun arguments s => (f arguments, s)

def global (P : Program) (E : Surroundings σ) (name : String) : Binding σ :=
  if name = selectorModule then if P.selectorTable = .replaced then .other else .table
  else if name = tracerModule then if P.tracerTable = .replaced then .other else .table
  else
    match P.find? .global name with
    | some body => binding E .global name body
    | none =>
      if Standard.isModule name then .table
      else ((Standard.global? name).map standard).getD .other

/-- A key of a module table, missing if nothing was defined. -/
def homeMember (P : Program) (E : Surroundings σ) (home : Home) (table : ModuleState)
    (name : String) : Except String (Binding σ) :=
  match P.find? home name with
  | some body => .ok (binding E home name body)
  | none =>
    if home = .selector && name = "log" then
      .ok (.function fun arguments s => (.ok [], E.logged (logLine arguments) s))
    else if table = .raising then .error ("no " ++ name)
    else .ok .other

def member (P : Program) (E : Surroundings σ) (module name : String) :
    Except String (Binding σ) :=
  if module = selectorModule then homeMember P E .selector P.selectorTable name
  else if module = tracerModule then homeMember P E .tracer P.tracerTable name
  else .ok (((Standard.member? module name).map standard).getD .other)

def script (P : Program) (E : Surroundings σ) : Script σ where
  global name s := (.ok (P.global E name), s)
  member module name s := (P.member E module name, s)
  allocate s :=
    let (identity, m) := (E.memory.get s).allocate
    (identity, E.memory.set m s)

end Program

end PathPolicy.Script
