import Dialogue.Config.Settings
import Dialogue.Decimal.Digits

/-!
# Command-line arguments

Options can stand anywhere before `--`; everything else is part of the question.
An option with a value takes it from the same argument or from the next one.
Only the options for rule sources and attributes can be repeated.
-/

namespace Dialogue.CommandLine

/-! ## Flags -/

/-- What the arguments say. -/
structure Flags where
  /-- The configuration file. -/
  config : Option String := none
  /-- Rule sources in the order in which they are given. -/
  files : List String := []
  /-- Attributes of the bot in the order in which they are given. -/
  attributes : List (String × String) := []
  session : Option String := none
  seed : Option Nat := none
  isVerbose : Bool := false
  hasColor : Bool := false
  noColor : Bool := false
  /-- The words of the question. -/
  input : List String := []
  deriving DecidableEq, Repr

/-- Why arguments do not lead to a run. -/
inductive Stop where
  | help
  | version
  | misuse
  deriving DecidableEq, Repr

/-- An option with a value. -/
inductive ValueOption where
  | config
  | file
  | bot
  | session
  | seed
  deriving DecidableEq, Repr

/-- An option without a value. -/
inductive Switch where
  | verbose
  | color
  | noColor
  | help
  | version
  deriving DecidableEq, Repr

/-- An option. -/
inductive NamedOption where
  | valued (o : ValueOption)
  | switch (s : Switch)
  deriving DecidableEq, Repr

/-- The options with long names. -/
def longOptions : List (String × NamedOption) :=
  [("config", .valued .config), ("file", .valued .file), ("bot", .valued .bot),
    ("session", .valued .session), ("seed", .valued .seed), ("verbose", .switch .verbose),
    ("color", .switch .color), ("no-color", .switch .noColor), ("help", .switch .help),
    ("version", .switch .version)]

/-- The options with short names. -/
def shortOptions : List (Char × NamedOption) :=
  [('f', .valued .file), ('v', .switch .verbose), ('h', .switch .help), ('V', .switch .version)]

/-! ## Values -/

/-- An attribute `NAME=VALUE`; blanks around the name do not count. -/
def attribute? (text : String) : Option (String × String) :=
  let name := text.toList.takeWhile (· != '=')
  match text.toList.dropWhile (· != '=') with
  | _ :: value =>
    let name := Text.trim name
    if name.isEmpty then none else some (String.ofList name, String.ofList value)
  | [] => none

/-- A seed: a number of 64 bits without a minus sign. -/
def seed? (text : String) : Option Nat :=
  let digits :=
    match text.toList with
    | '+' :: s => s
    | s => s
  (Decimal.natural? digits).filter (· < 0x10000000000000000)

/-- The name of a file, which is not empty. -/
def fileName? (text : String) : Option String := if text = "" then none else some text

/-- The flags with the value of an option. -/
def Flags.withValue (flags : Flags) (o : ValueOption) (text : String) : Except Stop Flags :=
  let changed : Option Flags :=
    match o with
    | .config => do
      guard flags.config.isNone
      return { flags with config := some (← fileName? text) }
    | .file => do return { flags with files := flags.files ++ [← fileName? text] }
    | .bot => do return { flags with attributes := flags.attributes ++ [← attribute? text] }
    | .session => do
      guard flags.session.isNone
      return { flags with session := some (← fileName? text) }
    | .seed => do
      guard flags.seed.isNone
      return { flags with seed := some (← seed? text) }
  match changed with
  | some flags => .ok flags
  | none => .error .misuse

/-- The flags with a switch turned on, which must have been off. -/
def Flags.withSwitch (flags : Flags) (s : Switch) : Except Stop Flags :=
  match s with
  | .verbose => if flags.isVerbose then .error .misuse else .ok { flags with isVerbose := true }
  | .color => if flags.hasColor then .error .misuse else .ok { flags with hasColor := true }
  | .noColor => if flags.noColor then .error .misuse else .ok { flags with noColor := true }
  | .help => .error .help
  | .version => .error .version

/-! ## Arguments -/

/-- What an argument does. -/
inductive Step where
  /-- It changes the flags. -/
  | done (flags : Flags)
  /-- The value of the option is the next argument. -/
  | awaits (flags : Flags) (o : ValueOption)

/-- What an option with a long name does, after its two hyphens. -/
def longStep (flags : Flags) (s : List Char) : Except Stop Step :=
  let name := String.ofList (s.takeWhile (· != '='))
  match longOptions.lookup name, s.dropWhile (· != '=') with
  | none, _ => .error .misuse
  | some (.valued o), [] => .ok (.awaits flags o)
  | some (.valued o), _ :: value => .done <$> flags.withValue o (String.ofList value)
  | some (.switch s), [] => .done <$> flags.withSwitch s
  | some (.switch _), _ :: _ => .error .misuse

/-- What options with short names do, after their hyphen. -/
def shortStep (flags : Flags) : List Char → Except Stop Step
  | [] => .ok (.done flags)
  | c :: s =>
    match shortOptions.lookup c with
    | none => .error .misuse
    | some (.switch switch) => do shortStep (← flags.withSwitch switch) s
    | some (.valued o) =>
      match s with
      | [] => .ok (.awaits flags o)
      | '=' :: value => .done <$> flags.withValue o (String.ofList value)
      | value => .done <$> flags.withValue o (String.ofList value)

/-- What an argument other than `--` does. -/
def step (flags : Flags) (argument : String) : Except Stop Step :=
  match argument.toList with
  | '-' :: '-' :: s => longStep flags s
  | '-' :: c :: s => shortStep flags (c :: s)
  | _ => .ok (.done { flags with input := flags.input ++ [argument] })

/-- Whether an argument can be the value of the option before it. -/
def isValue (argument : String) : Bool :=
  match argument.toList with
  | '-' :: _ :: _ => false
  | _ => true

/-- Reads arguments after those that have led to `flags`. -/
def readFrom (flags : Flags) : List String → Except Stop Flags
  | [] => .ok flags
  | argument :: arguments =>
    if argument = "--" then .ok { flags with input := flags.input ++ arguments }
    else
      match step flags argument with
      | .error stop => .error stop
      | .ok (.done flags) => readFrom flags arguments
      | .ok (.awaits flags o) =>
        match arguments with
        | [] => .error .misuse
        | value :: arguments =>
          if isValue value then
            match flags.withValue o value with
            | .error stop => .error stop
            | .ok flags => readFrom flags arguments
          else .error .misuse

/-- Reads the arguments of a command line.  Colours cannot be both wanted and
unwanted. -/
def read (arguments : List String) : Except Stop Flags := do
  let flags ← readFrom {} arguments
  if flags.hasColor && flags.noColor then .error .misuse else return flags

/-! ## Settings -/

/-- Settings with the flags laid over them. -/
def Flags.over (flags : Flags) (settings : Settings) : Settings where
  bot := settings.bot.insertAll flags.attributes
  sources := if flags.files.isEmpty then settings.sources else flags.files
  options := { settings.options with seed := flags.seed <|> settings.options.seed }
  session := flags.session <|> settings.session

end Dialogue.CommandLine
