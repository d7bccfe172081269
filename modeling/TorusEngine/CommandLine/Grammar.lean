/-!
# Grammar of command lines

A command has options, at most one positional argument, and subcommands. An option is a switch or
takes a value, which is attached to it or is the next argument, provided that this does not look like
an option itself. No option may be given twice. Arguments are checked from the left, so the first
wrong one decides, and a call for help before it is answered.
-/

namespace TorusEngine.CommandLine

abbrev Accepts := String → Bool

structure OptionRule where
  name : String
  letter : Option Char
  value : Option Accepts

structure CommandRule where
  options : List OptionRule
  positional : Option Accepts
  subcommands : List String

inductive Stop where
  | misuse
  | help
deriving DecidableEq, Repr

structure Parsed where
  values : List (String × String) := []
  positional : Option String := none
  subcommand : Option (String × List String) := none
deriving Repr

namespace Parsed

def value? (parsed : Parsed) (name : String) : Option String := parsed.values.lookup name

def has (parsed : Parsed) (name : String) : Bool := (parsed.value? name).isSome

def add (parsed : Parsed) (rule : OptionRule) (value : String) : Except Stop Parsed :=
  let accepted := match rule.value with
    | some accepts => accepts value
    | none => true
  if accepted && !parsed.has rule.name then
    .ok { parsed with values := parsed.values ++ [(rule.name, value)] }
  else .error .misuse

end Parsed

namespace CommandRule

def ofName? (rule : CommandRule) (name : String) : Option OptionRule :=
  rule.options.find? (·.name = name)

def ofLetter? (rule : CommandRule) (letter : Char) : Option OptionRule :=
  rule.options.find? (·.letter = some letter)

def takePositional (rule : CommandRule) (parsed : Parsed) (argument : String) : Except Stop Parsed :=
  match rule.positional, parsed.positional with
  | some accepts, none =>
      if accepts argument then .ok { parsed with positional := some argument } else .error .misuse
  | _, _ => .error .misuse

/-- Takes letters that follow one dash. An option at the end that still needs its value is answered
with what was taken. -/
def takeLetters (rule : CommandRule) : Parsed → List Char → Except Stop (Parsed × Option OptionRule)
  | parsed, [] => .ok (parsed, none)
  | parsed, letter :: rest =>
      match rule.ofLetter? letter with
      | none => .error (if letter = 'h' then .help else .misuse)
      | some option =>
          match option.value, rest with
          | none, _ => do takeLetters rule (← parsed.add option "") rest
          | some _, [] => .ok (parsed, some option)
          | some _, '=' :: value => do return (← parsed.add option (String.ofList value), none)
          | some _, value => do return (← parsed.add option (String.ofList value), none)

def takeName (rule : CommandRule) (parsed : Parsed) (name : String) (attached : Option String) :
    Except Stop (Parsed × Option OptionRule) :=
  match rule.ofName? name with
  | none => .error (if name = "help" && attached.isNone then .help else .misuse)
  | some option =>
      match option.value, attached with
      | none, none => do return (← parsed.add option "", none)
      | none, some _ => .error .misuse
      | some _, none => .ok (parsed, some option)
      | some _, some value => do return (← parsed.add option value, none)

private def splitAttached (cs : List Char) : String × Option String :=
  let name := cs.takeWhile (· ≠ '=')
  let attached := match cs.dropWhile (· ≠ '=') with
    | _ :: value => some (String.ofList value)
    | [] => none
  (String.ofList name, attached)

def looksLikeOption (argument : String) : Bool :=
  match argument.toList with
  | '-' :: _ :: _ => true
  | _ => false

def takeOption (rule : CommandRule) (parsed : Parsed) (argument : String) :
    Except Stop (Parsed × Option OptionRule) :=
  match argument.toList with
  | '-' :: '-' :: cs =>
      let (name, attached) := splitAttached cs
      rule.takeName parsed name attached
  | cs => rule.takeLetters parsed (cs.drop 1)

/-- Reads the arguments of a command, up to its subcommand; an option may wait for its value. -/
def parseFrom (rule : CommandRule) :
    Parsed → Option OptionRule → List String → Except Stop Parsed
  | parsed, none, [] => .ok parsed
  | _, some _, [] => .error .misuse
  | parsed, some option, value :: rest =>
      if looksLikeOption value then .error .misuse
      else do
        let parsed ← parsed.add option value
        parseFrom rule parsed none rest
  | parsed, none, argument :: rest =>
      if argument ∈ rule.subcommands then .ok { parsed with subcommand := some (argument, rest) }
      else if argument = "--" then rest.foldlM rule.takePositional parsed
      else if looksLikeOption argument then do
        let (parsed, waiting) ← rule.takeOption parsed argument
        parseFrom rule parsed waiting rest
      else do
        let parsed ← rule.takePositional parsed argument
        parseFrom rule parsed none rest

def parse (rule : CommandRule) (arguments : List String) : Except Stop Parsed :=
  rule.parseFrom {} none arguments

end CommandRule

end TorusEngine.CommandLine
