import CredentialBroker.Text.Quoted
import CredentialBroker.Text.UpperCase

/-!
Levels of the log. A threshold admits the levels from its own up; the unset one stands for warnings.
Levels have names of their own, and others by which the host of the program calls them.
-/

namespace CredentialBroker

inductive LogLevel where
  | unset
  | debug
  | info
  | warning
  | error
  | critical
deriving DecidableEq

/-- The name asked for is not the name of a level. -/
structure UnknownLevel where
  name : String
deriving DecidableEq

def UnknownLevel.message (unknown : UnknownLevel) : String :=
  s!"Unknown level: {Text.quoted unknown.name}"

theorem UnknownLevel.message_of_isPlain {unknown : UnknownLevel}
    (hplain : ∀ char ∈ unknown.name.toList, Text.IsPlain char) :
    unknown.message = "Unknown level: '" ++ unknown.name ++ "'" := by
  have hmessage : unknown.message = "Unknown level: " ++ Text.quoted unknown.name := rfl
  simp [hmessage, Text.quoted_of_isPlain hplain, ← String.append_assoc]

inductive LevelError where
  | unknown (error : UnknownLevel)
  | incomparable (error : UnknownLevel)
deriving DecidableEq

/-- A name that is no level's is a text, and a text cannot be weighed against the number of a level. -/
def LevelError.message : LevelError → String
  | .unknown error => error.message
  | .incomparable _ => "'>' not supported between instances of 'int' and 'str'"

namespace LogLevel

def number : LogLevel → Nat
  | unset => 0
  | debug => 10
  | info => 20
  | warning => 30
  | error => 40
  | critical => 50

def name : LogLevel → String
  | unset => "NOTSET"
  | debug => "DEBUG"
  | info => "INFO"
  | warning => "WARNING"
  | error => "ERROR"
  | critical => "CRITICAL"

/-- Two levels have a second name. -/
def ofName? (name : String) : Option LogLevel :=
  match name with
  | "NOTSET" => some unset
  | "DEBUG" => some debug
  | "INFO" => some info
  | "WARNING" => some warning
  | "WARN" => some warning
  | "ERROR" => some error
  | "CRITICAL" => some critical
  | "FATAL" => some critical
  | _ => none

def named (name : String) : Except UnknownLevel LogLevel :=
  match ofName? name with
  | some level => .ok level
  | none => .error ⟨name⟩

/-- The level that a text names in any letter case. -/
def ofText (text : String) : Except UnknownLevel LogLevel :=
  named (String.ofList (Text.toUpperCase text.toList))

/-- All the names of levels. -/
def names : List String :=
  ["NOTSET", "DEBUG", "INFO", "WARNING", "WARN", "ERROR", "CRITICAL", "FATAL"]

/-- The host's names for levels, which count in upper case only. Its finest level leaves the log unset. -/
def ofHostName? (name : String) : Option LogLevel :=
  match name with
  | "TRACE" => some unset
  | "DEBUG" => some debug
  | "INFO" => some info
  | "WARN" => some warning
  | "ERROR" => some error
  | "FATAL" => some critical
  | _ => none

def effective : LogLevel → LogLevel
  | unset => warning
  | level => level

def admits (threshold level : LogLevel) : Bool :=
  threshold.effective.number ≤ level.number

@[simp]
theorem ofName?_name (level : LogLevel) : ofName? level.name = some level := by
  cases level <;> rfl

theorem ofName?_eq_none_iff {name : String} : ofName? name = none ↔ name ∉ names := by
  unfold ofName?
  split <;> simp_all [names]

theorem named_eq_ok_iff {name : String} {level : LogLevel} :
    named name = .ok level ↔ ofName? name = some level := by
  rw [named]
  cases ofName? name <;> simp

theorem named_eq_error_iff {name : String} {unknown : UnknownLevel} :
    named name = .error unknown ↔ name ∉ names ∧ unknown = ⟨name⟩ := by
  rw [named, ← ofName?_eq_none_iff]
  cases ofName? name <;> simp [eq_comm]

end LogLevel

end CredentialBroker
