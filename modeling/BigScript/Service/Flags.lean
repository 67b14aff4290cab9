import BigScript.Service.SettingsFile

/-!
# Flags of the service

The settings that are given on the command line.  They are read before the configuration document and
win over it and over the environment.
-/

namespace BigScript
namespace Service

/-- The kinds of values of flags. -/
inductive FlagType where
  | text
  | number
  | truth
deriving DecidableEq, Repr

/-- The flags and the kinds of their values. -/
def flagTypes : List (String × FlagType) :=
  [("config", .text), ("host", .text), ("port", .number), ("scripts-dir", .text), ("watch", .truth),
   ("debug", .truth), ("heal", .truth)]

/-- The flags that were given; the last value of each counts. -/
structure Flags where
  config : Option String := none
  host : Option String := none
  port : Option Int := none
  scriptsFolder : Option String := none
  watch : Option Bool := none
  debug : Option Bool := none
  heal : Option Bool := none
deriving DecidableEq, Repr

namespace Flags

/-- The problem with the value of a flag. -/
def badValue (name value reader reason : String) : LoadProblem :=
  .badFlag ("invalid argument " ++ Text.quoted value ++ " for \"--" ++ name ++ "\" flag: strconv." ++
    reader ++ ": parsing " ++ Text.quoted value ++ ": " ++ reason)

/-- Whether the underscores of a whole number stand between its digits, in a number with the mark of
a base. -/
def underscoresFit (cs : List Char) : Bool :=
  !cs.contains '_' ||
    (match (Number.readSign cs).2 with
      | '0' :: _ => Number.underscoresSeparate cs
      | _ => false)

/-- The whole number that the value of a flag writes, in a base that its mark tells. -/
def number (name value : String) : Except LoadProblem Int :=
  let cs := value.toList
  let (negative, body) := Number.readSign cs
  let (base, digits) := Yaml.basedDigits (body.filter (· != '_'))
  match Yaml.digitsIn? base digits with
  | none => .error (badValue name value "ParseInt" "invalid syntax")
  | some size =>
    if !underscoresFit cs then .error (badValue name value "ParseInt" "invalid syntax")
    else
      let whole : Int := if negative then -size else size
      if -(Number.twoTo 63 : Int) ≤ whole && whole < Number.twoTo 63 then .ok whole
      else .error (badValue name value "ParseInt" "value out of range")

/-- Reads the value of a flag. -/
def put (name value : String) (flags : Flags) : Except LoadProblem Flags :=
  let truth (value : String) : Except LoadProblem Bool :=
    match Settings.truth? value with
    | some b => .ok b
    | none => .error (badValue name value "ParseBool" "invalid syntax")
  match name with
  | "config" => .ok { flags with config := some value }
  | "host" => .ok { flags with host := some value }
  | "port" => do return { flags with port := some (← number name value) }
  | "scripts-dir" => .ok { flags with scriptsFolder := some value }
  | "watch" => do return { flags with watch := some (← truth value) }
  | "debug" => do return { flags with debug := some (← truth value) }
  | "heal" => do return { flags with heal := some (← truth value) }
  | _ => .error (.badFlag ("unknown flag: --" ++ name))

/-- Reads a flag of one letter, none of which is known. -/
def shorthand (arg : String) : LoadProblem :=
  match arg.toList.drop 1 with
  | 'h' :: _ => .badFlag "pflag: help requested"
  | c :: _ => .badFlag ("unknown shorthand flag: '" ++ String.singleton c ++ "' in " ++ arg)
  | [] => .badFlag arg

/-- What an argument does to the flags: the flags after it, and the name of the flag whose value is
the next argument. -/
def argument (flags : Flags) (arg : String) : Except LoadProblem (Flags × Option String) := do
  if Text.startsWith arg "--" then
    let body := Text.withoutStart arg "--"
    if Text.startsWith body "-" || Text.startsWith body "=" then
      throw (.badFlag ("bad flag syntax: " ++ arg))
    let (name, given) := match Text.cut "=" body with
      | some (name, value) => (name, some value)
      | none => (body, none)
    match flagTypes.lookup name, given with
    | none, _ =>
      throw (.badFlag (if name == "help" then "pflag: help requested" else "unknown flag: --" ++ name))
    | some _, some value => return (← put name value flags, none)
    | some .truth, none => return (← put name "true" flags, none)
    | some _, none => return (flags, some name)
  else if Text.startsWith arg "-" && arg != "-" then throw (shorthand arg)
  else return (flags, none)

/-- Reads flags up to an argument of two dashes.  `pending` is the flag that still lacks its
value. -/
def read (flags : Flags) (pending : Option String) : List String → Except LoadProblem Flags
  | [] =>
    match pending with
    | some name => .error (.badFlag ("flag needs an argument: --" ++ name))
    | none => .ok flags
  | arg :: rest =>
    match pending with
    | some name =>
      match put name arg flags with
      | .ok flags => read flags none rest
      | .error problem => .error problem
    | none =>
      if arg == "--" then .ok flags
      else
        match argument flags arg with
        | .ok (flags, pending) => read flags pending rest
        | .error problem => .error problem

/-- The settings with what the flags say about them. -/
def applied (flags : Flags) (settings : Settings) : Settings :=
  { settings with
    host := flags.host.getD settings.host
    port := flags.port.getD settings.port
    scriptsFolder := flags.scriptsFolder.getD settings.scriptsFolder
    watch := flags.watch.getD settings.watch
    debug := flags.debug.getD settings.debug
    heal := flags.heal.getD settings.heal }

end Flags

/-- The settings of the arguments, the file they name and the environment.  The settings are accepted
before the flags are put over them, and again after. -/
def Settings.ofArguments (files : FileTree) (environment : List (String × String))
    (args : List String) : Except LoadProblem Plan := do
  let flags ← Flags.read {} none args
  let plan ← Settings.load files environment (flags.config.getD "")
  match (flags.applied plan.settings).accept with
  | .ok plan => return plan
  | .error cause => throw (.refused cause)

end Service
end BigScript
