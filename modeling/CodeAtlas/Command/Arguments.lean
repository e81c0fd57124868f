import CodeAtlas.Command.Switch

/-!
# Arguments

What a command line asks for. Switches come before or after the command, those of all commands in
either place, and the one closer to the end of the line wins over the one before the command. A
switch has a long name after two dashes, and perhaps a letter; letters may share one dash. A value
follows its switch, after an equals sign or as the next argument, which must not look like a switch.
After two dashes alone every argument stands for itself.

The line is read from left to right. The first thing that settles it decides, be it a wish for help
or for the version, or a mistake; a value is looked at only once what follows it is read.
-/

namespace CodeAtlas

/-- Why a command line runs no command. -/
inductive Notice where
  /-- It asks for help, perhaps about one command. -/
  | help (command : Option CommandName)
  /-- It asks for the version, perhaps of one command. -/
  | version (command : Option CommandName)
  /-- It asks for nothing there is. -/
  | misuse
deriving DecidableEq, Repr

/-- The part of a command line before the command, or that of a command. -/
abbrev Part : Type := Option CommandName

namespace Part

/-- The switches of a part. -/
def switches (part : Part) : List Switch := (part.map CommandName.switches).getD Switch.shared

/-- How many arguments a part takes besides its switches. -/
def arity (part : Part) : Nat := (part.map CommandName.arity).getD 0

end Part

/-- What was read of one part of a command line. -/
structure Reading where
  /-- The switches given, with their values. -/
  given : List (Switch × String) := []
  /-- The last switch that takes a value, if nothing was read after its value. -/
  pending : Option (Switch × Option String) := none
  /-- The other arguments. -/
  plain : List String := []
deriving DecidableEq, Repr

namespace Reading

/-- Takes note of a switch. -/
def take (part : Part) (r : Reading) (switch : Switch) (value : String) : Except Notice Reading :=
  match switch with
  | .help => .error (.help part)
  | .version => .error (.version part)
  | _ =>
    if (r.given.lookup switch).isSome && !switch.mayRepeat then .error .misuse
    else if switch.accepts value then .ok { r with given := r.given ++ [(switch, value)] }
    else .error .misuse

/-- Takes note of the last switch that takes a value. -/
def settle (part : Part) (r : Reading) : Except Notice Reading :=
  match r.pending with
  | none => .ok r
  | some (_, none) => .error .misuse
  | some (switch, some value) => { r with pending := none }.take part switch value

/-- Reads a switch with the value attached to it. -/
def readSwitch (part : Part) (r : Reading) (switch : Switch) (attached : Option String) :
    Except Notice Reading := do
  let settled ← r.settle part
  if switch.takesValue then
    match attached with
    | some value => settled.take part switch value
    | none => return { settled with pending := some (switch, none) }
  else settled.take part switch ""

/-- Reads a switch by its long name. -/
def readLong (part : Part) (r : Reading) (text : List Char) : Except Notice Reading :=
  let name := String.ofList (text.takeWhile (· != '='))
  let attached := match text.dropWhile (· != '=') with
    | [] => none
    | _ :: value => some (String.ofList value)
  match part.switches.find? (·.name == name) with
  | none => .error .misuse
  | some switch =>
    if attached.isSome && !switch.takesValue then .error .misuse
    else r.readSwitch part switch attached

/-- The value attached to a letter; an equals sign between the two is left out. -/
def attachedTo : List Char → Option String
  | [] => none
  | '=' :: value => some (String.ofList value)
  | value => some (String.ofList value)

/-- Reads the letters after a dash. The rest after a letter that takes a value is its value. -/
def readLetters (part : Part) (r : Reading) : List Char → Except Notice Reading
  | [] => .ok r
  | letter :: rest =>
    match part.switches.find? (·.letter? == some letter) with
    | none => .error .misuse
    | some switch =>
      if switch.takesValue then r.readSwitch part switch (attachedTo rest)
      else do (← r.readSwitch part switch none).readLetters part rest

/-- Reads an argument that stands for itself. -/
def readPlain (part : Part) (r : Reading) (text : String) : Except Notice Reading := do
  let settled ← r.settle part
  if settled.plain.length < part.arity then return { settled with plain := settled.plain ++ [text] }
  else throw .misuse

/-- Whether the next argument is the value of a switch. -/
def awaited (r : Reading) : Option Switch :=
  match r.pending with
  | some (switch, none) => some switch
  | _ => none

/-- Reads an argument that may be a switch or the value of one. -/
def readArgument (part : Part) (r : Reading) (text : String) : Except Notice Reading :=
  match text.toList with
  | '-' :: '-' :: name => r.readLong part name
  | '-' :: letter :: letters => r.readLetters part (letter :: letters)
  | _ =>
    match r.awaited with
    | some switch => .ok { r with pending := some (switch, some text) }
    | none => r.readPlain part text

/-- Reads a part to its end. The part before the command ends at a word that names one or asks for
help, which is given with the arguments after it. -/
def readPart (part : Part) (r : Reading) : List String → Except Notice (Reading × List String)
  | [] => .ok (r, [])
  | text :: rest =>
    if part.isNone && r.awaited.isNone && (text == "help" || (CommandName.ofWord? text).isSome) then
      .ok (r, text :: rest)
    else if text == "--" then do return (← rest.foldlM (readPlain part) r, [])
    else do (← r.readArgument part text).readPart part rest

/-- What was read once a part is over. -/
def finish (part : Part) (r : Reading) : Except Notice Reading := do
  let settled ← r.settle part
  if settled.plain.length = part.arity then return settled else throw .misuse

end Reading

/-- What can be asked about a workspace. -/
inductive Analysis where
  | build (withSnapshot : Bool)
  | query (question : String)
  | reach (target : String)
  | central (limit : Nat)
  | important (limit : Nat)
  | cycles
  | find (name : String)
  | chain (source target : String)
  | stats
deriving DecidableEq, Repr

/-- The commands with what they are about. -/
inductive Command where
  | init
  | analysis (asked : Analysis)
deriving DecidableEq, Repr

namespace Command

/-- How many entries of a ranking are shown unless something else is asked for. -/
def defaultLimit : Nat := 10

/-- The command of a part that was read. -/
def ofReading (name : CommandName) (r : Reading) : Command :=
  let argument (n : Nat) : String := (r.plain[n]?).getD ""
  let limit := ((r.given.lookup .limit).bind natural?).getD defaultLimit
  match name with
  | .init => .init
  | .build => .analysis (.build (r.given.lookup .noSnapshot).isNone)
  | .query => .analysis (.query (argument 0))
  | .reach => .analysis (.reach (argument 0))
  | .central => .analysis (.central limit)
  | .important => .analysis (.important limit)
  | .cycles => .analysis .cycles
  | .find => .analysis (.find (argument 0))
  | .chain => .analysis (.chain (argument 0) (argument 1))
  | .stats => .analysis .stats

end Command

/-- What a command line asks for. -/
structure Invocation where
  command : Command
  /-- The path of the workspace, if one is given. -/
  workspace : Option String := none
  /-- The directory of findings, if one is given. -/
  findings : Option String := none
  /-- Whether the output is JSON. -/
  json : Bool := false
deriving DecidableEq, Repr

namespace Invocation

/-- The wish for help after the word for it, perhaps about one command. -/
def helpOn : List String → Notice
  | [] | ["help"] => .help none
  | [text] =>
    match CommandName.ofWord? text with
    | some name => .help (some name)
    | none => .misuse
  | _ => .misuse

/-- Reads a command line. -/
def parse (arguments : List String) : Except Notice Invocation := do
  let (before, rest) ← ({} : Reading).readPart none arguments
  match rest with
  | [] => throw .misuse
  | word :: others =>
    match CommandName.ofWord? word with
    | none => throw (helpOn others)
    | some name =>
      let after ← (← ({} : Reading).readPart (some name) others).1.finish (some name)
      let before ← before.finish none
      let value? (switch : Switch) : Option String :=
        (after.given.lookup switch).or (before.given.lookup switch)
      return {
        command := Command.ofReading name after
        workspace := value? .workspace
        findings := value? .findings
        json := (value? .json).isSome }

end Invocation

end CodeAtlas
