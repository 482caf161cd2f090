import Dialogue.Config.Toml.Reader
import Dialogue.Config.Variable.Layer
import Dialogue.Folder
import Dialogue.Session

/-!
# Settings

The settings of a bot and its sessions come from a file and from environment
variables, which are laid over the defaults in this order.  They can be used if
every value that is known has the right type and range; other values do not
matter.

Main results:

- `natural?_eq_some_iff`: a whole number is accepted exactly within its range.
-/

namespace Dialogue

open Config

/-- The settings of a bot and its sessions. -/
structure Settings where
  /-- The attributes of the bot. -/
  bot : Bindings := .empty
  /-- The rule sources in the order in which they are loaded. -/
  sources : List String := []
  options : Options := {}
  /-- The file in which the session is kept. -/
  session : Option String := none
  deriving DecidableEq

namespace Settings

/-! ## Types -/

/-- A value that must be a text. -/
def text? : Value → Option String
  | .text content => some content
  | _ => none

/-- A value that must be a whole number below a bound. -/
def natural? (bound : Nat) : Value → Option Nat
  | .integer n => if 0 ≤ n ∧ n < bound then some n.toNat else none
  | _ => none

/-- A value that must be a list of texts. -/
def texts? : Value → Option (List String)
  | .list items => items.mapM text?
  | _ => none

/-- A value that must be a table of texts. -/
def bindings? : Value → Option Bindings
  | .table entries => do
    return .ofList (← entries.mapM fun (name, value) => do return (name, ← text? value))
  | _ => none

/-- The number of values of a 64-bit word. -/
def wordBound : Nat := 0x10000000000000000

/-- The number of values of a 32-bit word. -/
def halfWordBound : Nat := 0x100000000

/-- A whole number is accepted exactly within its range. -/
theorem natural?_eq_some_iff (bound : Nat) (value : Value) (n : Nat) :
    natural? bound value = some n ↔ (∃ m : Int, value = .integer m ∧ m = n) ∧ n < bound := by
  cases value with
  | integer m =>
    simp only [natural?, Value.integer.injEq, exists_eq_left']
    split
    · rename_i h
      simp only [Option.some.injEq]
      omega
    · rename_i h
      simp only [reduceCtorEq, false_iff]
      omega
  | _ => simp [natural?]

/-! ## Fields -/

/-- The value of a field, or a default if the field is missing. -/
def field {α : Type} (entries : Entries) (name : String) (read : Value → Option α) (default : α) :
    Option α :=
  match entries.lookup name with
  | some value => read value
  | none => some default

/-- The options of a session.  Instead of a table with names there can be a list of
the four values. -/
def options? : Value → Option Options
  | .table entries => do
    let defaults : Options := {}
    return {
      maxRedirectDepth :=
        ← field entries "max_redirect_depth" (natural? wordBound) defaults.maxRedirectDepth
      retryDelay := ← field entries "retry_delay_ms" (natural? wordBound) defaults.retryDelay
      maxRetries := ← field entries "max_retries" (natural? halfWordBound) defaults.maxRetries
      seed := ← field entries "seed" (fun value => some <$> natural? wordBound value) none }
  | .list (depth :: delay :: retries :: seed :: _) => do
    return {
      maxRedirectDepth := ← natural? wordBound depth
      retryDelay := ← natural? wordBound delay
      maxRetries := ← natural? halfWordBound retries
      seed := ← some <$> natural? wordBound seed }
  | _ => none

/-- The settings that a value stands for. -/
def ofValue? : Value → Option Settings
  | .table entries => do
    return {
      bot := ← field entries "bot" bindings? .empty
      sources := ← field entries "sources" texts? []
      options := ← field entries "engine" options? {}
      session := ← field entries "session" (fun value => some <$> text? value) none }
  | _ => none

/-! ## Layers -/

/-- The options of a session as a value. -/
def optionsValue (options : Options) : Value :=
  .table ([("max_redirect_depth", .integer options.maxRedirectDepth),
    ("retry_delay_ms", .integer options.retryDelay),
    ("max_retries", .integer options.maxRetries)] ++
    (options.seed.map fun seed => ("seed", Value.integer seed)).toList)

/-- Settings as a value. -/
def toValue (s : Settings) : Value :=
  .table ([("bot", .table (s.bot.entries.map fun (name, value) => (name, .text value))),
    ("sources", .list (s.sources.map .text)), ("engine", optionsValue s.options)] ++
    (s.session.map fun name => ("session", Value.text name)).toList)

/-- What a configuration file gives; nothing if it is not well formed. -/
def fileLayer : FileContent → Option Value
  | .absent => some (.table [])
  | .notText => none
  | .text content => Toml.parse? content

/-- Why there are no settings. -/
inductive Fault where
  /-- The layers cannot be used. -/
  | unusable
  /-- In an environment variable a character would have to be split. -/
  | splitCharacter
  deriving DecidableEq, Repr

/-- The settings that a configuration file and environment variables give. -/
def load (file : FileContent) (environment : List (String × String)) : Except Fault Settings :=
  match Variable.layer? environment with
  | none => .error .splitCharacter
  | some upper =>
    match (fileLayer file).bind fun lower => ofValue? (upper.over (lower.over (toValue {}))) with
    | some settings => .ok settings
    | none => .error .unusable

end Settings

end Dialogue
