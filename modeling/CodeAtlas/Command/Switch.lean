/-!
# Commands and switches

The words for the commands, and the switches that each of them takes.
-/

namespace CodeAtlas

/-- The names of the commands. -/
inductive CommandName where
  | init
  | build
  | query
  | reach
  | central
  | important
  | cycles
  | find
  | chain
  | stats
deriving DecidableEq, Repr

namespace CommandName

/-- All commands. -/
def all : List CommandName :=
  [init, build, query, reach, central, important, cycles, find, chain, stats]

/-- The word for a command. -/
def word : CommandName → String
  | init => "init"
  | build => "build"
  | query => "query"
  | reach => "blast-radius"
  | central => "central"
  | important => "important"
  | cycles => "cycles"
  | find => "find"
  | chain => "chain"
  | stats => "stats"

/-- The command of a word. -/
def ofWord? (text : String) : Option CommandName := all.find? (·.word == text)

/-- How many arguments a command takes besides its switches. -/
def arity : CommandName → Nat
  | query | reach | find => 1
  | chain => 2
  | _ => 0

end CommandName

/-- The switches. -/
inductive Switch where
  | workspace
  | findings
  | json
  | verbose
  | help
  | version
  | noSnapshot
  | limit
deriving DecidableEq, Repr

namespace Switch

/-- The long name of a switch. -/
def name : Switch → String
  | workspace => "workspace"
  | findings => "findings"
  | json => "json"
  | verbose => "verbose"
  | help => "help"
  | version => "version"
  | noSnapshot => "no-snapshot"
  | limit => "limit"

/-- The letter of a switch. -/
def letter? : Switch → Option Char
  | workspace => some 'w'
  | findings => some 'f'
  | verbose => some 'v'
  | help => some 'h'
  | version => some 'V'
  | limit => some 'l'
  | json | noSnapshot => none

/-- Whether a switch takes a value. -/
def takesValue : Switch → Bool
  | workspace | findings | limit => true
  | _ => false

/-- Whether a switch may be given more than once. -/
def mayRepeat : Switch → Bool
  | verbose => true
  | _ => false

/-- The switches of all commands. -/
def shared : List Switch := [workspace, findings, json, verbose, help, version]

end Switch

/-- The switches of a command. -/
def CommandName.switches : CommandName → List Switch
  | build => .noSnapshot :: Switch.shared
  | central | important => .limit :: Switch.shared
  | _ => Switch.shared

/-- The natural number below 2^64 that a text writes in decimal, perhaps after a plus sign. -/
def natural? (text : String) : Option Nat :=
  let digits := match text.toList with
    | '+' :: rest => rest
    | all => all
  if digits.isEmpty || !digits.all Char.isDigit then none
  else
    let n := digits.foldl (fun n c => 10 * n + (c.toNat - '0'.toNat)) 0
    if n < Nat.pow 2 64 then some n else none

/-- Whether a switch can have a value. -/
def Switch.accepts : Switch → String → Bool
  | workspace, value | findings, value => !value.isEmpty
  | limit, value => (natural? value).isSome
  | _, _ => true

end CodeAtlas
