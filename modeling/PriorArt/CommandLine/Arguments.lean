/-!
# Arguments of the command line

Five options, each with one value and given at most once. The value follows as the next argument or
in the same one: after an equals sign, or directly after the letter of a short option. An option
takes its value only when the next option or the end is reached, so that a fault of an argument in
between is found first.
-/

namespace PriorArt.CommandLine

/-- The options. -/
inductive Flag where
  | config
  | disclosure
  | caseId
  | priorContext
  | output
  deriving DecidableEq

namespace Flag

def longName : Flag → String
  | .config => "config"
  | .disclosure => "disclosure"
  | .caseId => "case-id"
  | .priorContext => "prior-context"
  | .output => "output"

def letter? : Flag → Option Char
  | .config => some 'c'
  | .disclosure => some 'd'
  | .output => some 'o'
  | .caseId => none
  | .priorContext => none

def all : List Flag :=
  [.config, .disclosure, .caseId, .priorContext, .output]

def isPath : Flag → Bool
  | .caseId => false
  | _ => true

end Flag

/-- Why the arguments say no command. -/
inductive ArgumentError where
  | helpRequested
  | versionRequested
  | unknown
  | repeated
  | badValue
  | surplusValue
  | missing
  deriving DecidableEq

/-- The command that the arguments say. -/
structure Arguments where
  config : String
  disclosure : String
  caseId : String
  priorContext : Option String
  output : Option String
  deriving DecidableEq

/-- What was read so far: the options with their values, and the last option, whose value may still
have to come. -/
structure Reading where
  given : List (Flag × String)
  pending : Option (Flag × Option String)

namespace Reading

def empty : Reading := ⟨[], none⟩

def give (reading : Reading) (flag : Flag) (value : String) : Except ArgumentError Reading :=
  if reading.given.any (·.1 = flag) then .error .repeated
  else if flag.isPath && value.isEmpty then .error .badValue
  else .ok { reading with given := reading.given ++ [(flag, value)] }

/-- The last option takes its value, if it has one. -/
def settle (reading : Reading) : Except ArgumentError Reading :=
  match reading.pending with
  | none => .ok reading
  | some (_, none) => .error .badValue
  | some (flag, some value) => { reading with pending := none }.give flag value

def option (reading : Reading) (flag : Flag) (attached : Option String) :
    Except ArgumentError Reading := do
  let settled ← reading.settle
  match attached with
  | some value => settled.give flag value
  | none => return { settled with pending := some (flag, none) }

/-- An argument that is no option: the value that the last option waits for. -/
def value (reading : Reading) (text : String) : Except ArgumentError Reading :=
  match reading.pending with
  | some (flag, none) => .ok { reading with pending := some (flag, some text) }
  | _ => .error .unknown

/-- A request for information instead of a command. -/
def inform (reading : Reading) (request : ArgumentError) : Except ArgumentError Reading := do
  let _ ← reading.settle
  .error request

def long (reading : Reading) (body : List Char) : Except ArgumentError Reading :=
  let name := String.ofList (body.takeWhile (· ≠ '='))
  let attached := match body.dropWhile (· ≠ '=') with
    | _ :: value => some (String.ofList value)
    | [] => none
  match Flag.all.find? (·.longName = name) with
  | some flag => reading.option flag attached
  | none =>
    if name = "help" || name = "version" then
      if attached.isSome then .error .surplusValue
      else reading.inform (if name = "help" then .helpRequested else .versionRequested)
    else .error .unknown

/-- An argument after one hyphen: a letter, and what follows it. -/
def short (reading : Reading) (letter : Char) (rest : List Char) :
    Except ArgumentError Reading :=
  let attached := match rest with
    | [] => none
    | '=' :: value => some (String.ofList value)
    | value => some (String.ofList value)
  match Flag.all.find? (·.letter? = some letter) with
  | some flag => reading.option flag attached
  | none =>
    if letter = 'h' then reading.inform .helpRequested
    else if letter = 'V' then reading.inform .versionRequested
    else .error .unknown

/-- All arguments. Two hyphens alone end the options, and nothing may follow them. -/
def arguments (reading : Reading) : List String → Except ArgumentError Reading
  | [] => .ok reading
  | argument :: rest =>
    match argument.toList with
    | ['-', '-'] => if rest.isEmpty then .ok reading else .error .unknown
    | '-' :: '-' :: body => do arguments (← reading.long body) rest
    | '-' :: letter :: body => do arguments (← reading.short letter body) rest
    | _ => do arguments (← reading.value argument) rest

end Reading

def Arguments.parse (args : List String) : Except ArgumentError Arguments := do
  let reading ← Reading.empty.arguments args
  let reading ← reading.settle
  let given := reading.given
  match given.lookup .config, given.lookup .disclosure, given.lookup .caseId with
  | some config, some disclosure, some caseId =>
    return { config, disclosure, caseId
             priorContext := given.lookup .priorContext
             output := given.lookup .output }
  | _, _, _ => .error .missing

end PriorArt.CommandLine
