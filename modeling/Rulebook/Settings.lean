import Rulebook.Sharing
import Rulebook.Text.Integer

/-! Settings of the service: what the environment says, unless a configuration says otherwise. -/
namespace Rulebook

structure Settings where
  logLevel : Value
  origins : Value
  socket : Value
  sharing : Sharing
  deriving DecidableEq, Repr

inductive SettingsFault
  | socket (fault : IntegerFault)
  | origins (fault : EntryFault)
  deriving DecidableEq, Repr

def SettingsFault.message : SettingsFault → String
  | .socket fault => fault.message
  | .origins fault => fault.message

namespace Settings

def isOn : Value → Bool
  | .null => false
  | .scalar (.boolean value) => value
  | .scalar (.integer value) => value ≠ 0
  | .scalar (.float value) => (Literal.float value).order? (.integer 0) ≠ some .eq
  | .scalar (.text value) => !value.isEmpty
  | .list items => !items.isEmpty
  | .object fields => !fields.isEmpty

/-- Switches that are not stated, or stated as null, are left as they are. -/
def switch (configuration : Record) (name : String) (usual : Bool) : Bool :=
  match configuration.lookup name with
  | none | some .null => usual
  | some value => isOn value

def sharingOf (configuration : Record) (origins : Origins) : Sharing where
  origins := origins
  always := switch configuration "CORS_ALWAYS_SEND" true
  star := switch configuration "CORS_SEND_WILDCARD" false
  credentials := switch configuration "CORS_SUPPORTS_CREDENTIALS" false

/-- The socket in the environment must be a number even if the configuration states another, and is
read before the origins. -/
def read (environment : List (String × String)) (configuration : Record) :
    Except SettingsFault Settings :=
  let given (name fallback : String) := (environment.lookup name).getD fallback
  let setting (name : String) (value : Value) := (configuration.lookup name).getD value
  match Text.integer (given "PORT" "5001") with
  | .error fault => .error (.socket fault)
  | .ok socket =>
    let stated := setting "CORS_ORIGINS" (.text (given "RULE_ENGINE_CORS_ORIGINS" "*"))
    match Origins.ofSetting stated with
    | .error fault => .error (.origins fault)
    | .ok origins =>
      .ok ⟨setting "LOG_LEVEL" (.text (given "RULE_ENGINE_LOG_LEVEL" "INFO")), stated,
        setting "PORT" (.integer socket), sharingOf configuration origins⟩

/-- Two letters beyond ASCII have a capital within it. -/
def capital (c : Char) : Char :=
  if c = 'ı' then 'I' else if c = 'ſ' then 'S' else c.toUpper

def levels : List (String × Nat) := [
  ("NOTSET", 0), ("DEBUG", 10), ("INFO", 20), ("WARN", 30), ("WARNING", 30), ("ERROR", 40),
  ("FATAL", 50), ("CRITICAL", 50)]

/-- The number of a log level; what names none counts as INFO. -/
def level (name : Value) : Nat :=
  match name with
  | .scalar (.text name) => (levels.lookup (name.map capital)).getD 20
  | _ => 20

end Settings

end Rulebook
