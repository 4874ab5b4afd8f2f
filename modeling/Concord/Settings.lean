import Concord.Intake.Truth
import Concord.Text.Lower

/-!
# Settings

A few values are fixed for a whole program: the default locale, the text for a
missing label, the treatment of capitals, and how events are logged.  They can
be given as environment variables, whose names are read without regard to
letter case.
-/

namespace Concord

/-- The values that are fixed for a whole program. -/
structure Settings where
  /-- The locale of a caller who names none. -/
  defaultLocale : String := "en"
  /-- The text of a label that is missing. -/
  missingLabel : String := "MISSING"
  /-- Whether words keep their capitals inside a sentence, if that is not left to the language. -/
  keepsCase : Option Bool := none
  /-- The name of the least level of the events that are logged. -/
  logLevel : String := "INFO"
  /-- The name of the format in which events are logged. -/
  logFormat : String := "console"
  deriving DecidableEq

namespace Settings

/-- What the names of environment variables for settings begin with. -/
def variableStem : String := "grammaticus_"

/-- The value of a setting in the environment; the last variable of that name counts. -/
def lookupVariable (environment : List (String × String)) (name : String) : Option String :=
  (environment.reverse.find? fun pair => Text.lowercase pair.1 = variableStem ++ name).map
    Prod.snd

/-- The formats in which events can be logged. -/
def logFormats : List String := ["json", "console"]

/-- Read the treatment of capitals. -/
def readKeepsCase (environment : List (String × String)) : Checked (Option Bool) :=
  match lookupVariable environment "dont_capitalize" with
  | none => .ok none
  | some word =>
      match truthWord? word with
      | some value => .ok (some value)
      | none => .error [⟨[.name "DONT_CAPITALIZE"], .unreadableTruth⟩]

/-- Read the format of logged events. -/
def readLogFormat (environment : List (String × String)) (default : String) : Checked String :=
  match lookupVariable environment "log_format" with
  | none => .ok default
  | some word =>
      if word ∈ logFormats then .ok word else .error [⟨[.name "LOG_FORMAT"], .notListed⟩]

/-- The settings that an environment gives; what it leaves out has its default. -/
def ofEnvironment (environment : List (String × String)) : Checked Settings :=
  let defaults : Settings := {}
  match (readKeepsCase environment).both (readLogFormat environment defaults.logFormat) with
  | .error failures => .error failures
  | .ok (keepsCase, logFormat) =>
      .ok {
        defaultLocale := (lookupVariable environment "default_locale").getD defaults.defaultLocale
        missingLabel := (lookupVariable environment "missing_label").getD defaults.missingLabel
        keepsCase := keepsCase
        logLevel := (lookupVariable environment "log_level").getD defaults.logLevel
        logFormat := logFormat }

end Settings
end Concord
