import CredentialBroker.Credentials.Basic
import CredentialBroker.Text.Quoted

/-!
The printed form of credentials: each value is written as the call that makes it. Main statements:
it shows exactly the texts that occur in it, and the secret key and the token have no part in it.
-/

namespace CredentialBroker

open Time

def Text.occursIn (text : List Char) : List Char → Bool
  | [] => text.isEmpty
  | char :: rest => text.isPrefixOf (char :: rest) || occursIn text rest

theorem Text.occursIn_eq_true_iff {text whole : List Char} :
    occursIn text whole = true ↔ text <:+: whole := by
  induction whole with
  | nil => simp [occursIn, List.infix_nil]
  | cons char rest ih =>
      rw [occursIn, Bool.or_eq_true, List.isPrefixOf_iff_prefix, ih, List.infix_cons_iff]

/-- A call is written as its name and, between round brackets, its arguments. -/
def printedCall (name : String) (arguments : List String) : String :=
  name ++ "(" ++ ", ".intercalate arguments ++ ")"

def printedArgument (name value : String) : String :=
  name ++ "=" ++ value

/-- Whole days are counted towards the past, so that the seconds are never negative. -/
def Time.UtcOffset.printed (offset : UtcOffset) : String :=
  if offset.seconds = 0 then "datetime.timezone.utc"
  else
    let seconds := printedArgument "seconds" (toString (offset.seconds % 86400))
    let arguments :=
      if offset.seconds < 0 then [printedArgument "days" "-1", seconds] else [seconds]
    printedCall "datetime.timezone" [printedCall "datetime.timedelta" arguments]

/-- The seconds are left out where they and the microseconds are zero, and the microseconds where they are. -/
def Time.WallTime.printedSeconds (wall : WallTime) : List Nat :=
  if wall.microsecond ≠ 0 then [wall.second, wall.microsecond]
  else if wall.second ≠ 0 then [wall.second]
  else []

def Time.Moment.printed (moment : Moment) : String :=
  let wall := moment.wall
  let fields :=
    [wall.date.year, wall.date.month, wall.date.day, wall.hour, wall.minute] ++ wall.printedSeconds
  printedCall "datetime.datetime"
    (fields.map toString ++ [printedArgument "tzinfo" moment.offset.printed])

namespace Credentials

def printed (credentials : Credentials) : String :=
  printedCall "Credentials"
    [printedArgument "access_key" (Text.quoted credentials.accessKey),
      printedArgument "expiration" credentials.expiration.printed,
      printedArgument "generated_at" credentials.generatedAt.printed]

def printedShows (credentials : Credentials) (text : String) : Bool :=
  Text.occursIn text.toList credentials.printed.toList

theorem printedShows_eq_true_iff {credentials : Credentials} {text : String} :
    credentials.printedShows text = true ↔ text.toList <:+: credentials.printed.toList :=
  Text.occursIn_eq_true_iff

/-- Credentials that differ in their secret key and token alone are printed alike. -/
theorem printed_congr {left right : Credentials} (haccessKey : left.accessKey = right.accessKey)
    (hexpiration : left.expiration = right.expiration)
    (hgeneratedAt : left.generatedAt = right.generatedAt) : left.printed = right.printed := by
  rw [printed, printed, haccessKey, hexpiration, hgeneratedAt]

end Credentials

end CredentialBroker
