import Concord.Settings
import Concord.Text.Quoted
import Concord.Text.Upper
import Concord.Value.Printer

/-!
# Logging

Events go to the handlers of one logger.  At first it has a silent handler
only.  Configuring it sets a level and a format and attaches a handler that
writes; configuring it again changes nothing unless it is forced, and then the
new handler takes the place of the old one.  A request that is refused changes
nothing either.
-/

namespace Concord

/-- What a word stands for where a level is asked for. -/
inductive LevelWord
  | weight (size : Nat)
  | lineLayout
  | layoutTable
  deriving DecidableEq

namespace LevelWord

/-- The words in capitals that stand for something; two of them are no levels. -/
def vocabulary : Table String LevelWord := [
    ("NOTSET", .weight 0), ("DEBUG", .weight 10), ("INFO", .weight 20), ("WARN", .weight 30),
    ("WARNING", .weight 30), ("ERROR", .weight 40), ("FATAL", .weight 50),
    ("CRITICAL", .weight 50), ("BASIC_FORMAT", .lineLayout), ("_STYLES", .layoutTable)]

/-- What a name stands for, whatever its letter case; an unknown one weighs as much as `INFO`. -/
def ofName (name : String) : LevelWord :=
  (vocabulary.get? (Text.uppercase name)).getD (.weight 20)

/-- The layout of a line that one of the words stands for. -/
def layoutText : String := "%(levelname)s:%(name)s:%(message)s"

end LevelWord

/-- Why a request to a logger is refused. -/
inductive LoggerFault
  | levelNotText (typeName : String)
  | levelInBytes
  | unknownFormat (word : Value)
  | number (error : NumberError)
  | layoutAsLevel
  | tableAsLevel
  | unknownMethod (level : Nat) (method : String)
  | repeatedArgument (function name : String)

/-- How events are written. -/
inductive EventFormat
  | json
  | console
  deriving DecidableEq

namespace EventFormat

/-- The format that a word names. -/
def ofWord? (word : String) : Option EventFormat :=
  if word = "json" then some .json
  else if word = "console" then some .console
  else none

/-- The name of the last step in writing an event. -/
def rendererName : EventFormat -> String
  | .json => "JSONRenderer"
  | .console => "ConsoleRenderer"

end EventFormat

/-- A receiver of events; those that write are told apart by a serial number. -/
inductive LogHandler
  | silent
  | writing (serial : Nat)
  deriving DecidableEq

/-- The state of the logger. -/
structure Logger where
  /-- Whether the logger has been configured. -/
  configured : Bool
  /-- The least level of the events that are written. -/
  level : Nat
  /-- How events are written, once that has been set. -/
  format : Option EventFormat
  /-- The handlers that receive events, in the order in which they were attached. -/
  handlers : List LogHandler
  /-- The serial number of the handler that configuring attached. -/
  attached : Option Nat
  deriving DecidableEq

namespace Logger

/-- The state before anything is configured. -/
def initial : Logger :=
  ⟨false, 0, none, [.silent], none⟩

/-- The handlers without the one that was attached last. -/
def detach (state : Logger) : List LogHandler :=
  match state.attached with
  | none => state.handlers
  | some serial => state.handlers.erase (.writing serial)

/-- Set a level and a format and replace the attached handler by a new one. -/
def install (state : Logger) (level : Nat) (format : EventFormat) : Logger :=
  let serial := (state.attached.map (· + 1)).getD 0
  { configured := true
    level := level
    format := some format
    handlers := state.detach ++ [.writing serial]
    attached := some serial }

/-- What a value stands for as a level; a blank one weighs as much as `INFO`. -/
def levelOf (level : Value) : Except LoggerFault LevelWord :=
  if level.isBlank then
    .ok (.weight 20)
  else
    match level.text?, level with
    | some name, _ => .ok (LevelWord.ofName name)
    | none, .bytes _ => .error .levelInBytes
    | none, level => .error (.levelNotText level.fullTypeName)

/-- The format that a value asks for. -/
def formatOf (format : Value) : Except LoggerFault EventFormat :=
  match format.text?.bind EventFormat.ofWord? with
  | some format => .ok format
  | none =>
      if format.isWritable then .error (.unknownFormat format) else .error (.number .unwritable)

/-- A value given by a caller, unless it is blank. -/
def givenOr (given : Value) (default : String) : Value :=
  if given.isBlank then .text default else given

/-- Set what a word stands for as the level, if it is one. -/
def installWord (state : Logger) (word : LevelWord) (format : EventFormat) :
    Except LoggerFault Logger :=
  match word with
  | .weight level => .ok (state.install level format)
  | .lineLayout => .error .layoutAsLevel
  | .layoutTable => .error .tableAsLevel

/-- Configure the logger; what the caller leaves blank is taken from the settings. -/
def configure (settings : Settings) (state : Logger) (level format : Value) (force : Bool) :
    Except LoggerFault Logger :=
  if state.configured && !force then
    .ok state
  else do
    let word ← levelOf (givenOr level settings.logLevel)
    let format ← formatOf (givenOr format settings.logFormat)
    state.installWord word format

/-- The least weight of the events that pass; a level of zero stands for that of warnings. -/
def threshold (state : Logger) : Nat :=
  if state.level = 0 then 30 else state.level

/-- The methods by which events are logged, with the levels that these are written under. -/
def eventMethods : Table String String := [
    ("debug", "debug"), ("info", "info"), ("msg", "info"), ("warning", "warning"),
    ("warn", "warning"), ("error", "error"), ("exception", "error"), ("critical", "critical"),
    ("fatal", "critical")]

/-- The weight of a level. -/
def weightOf (level : String) : Nat :=
  match LevelWord.ofName level with
  | .weight size => size
  | _ => 0

/-- Whether the methods of a level are in use; the others take their events and drop them. -/
def isInUse (state : Logger) (level : String) : Bool :=
  state.level ≤ weightOf level

/-- The names that every method has taken for its own arguments. -/
def methodArguments : List String := ["event", "self"]

/-- The name that the step behind all methods in use has taken besides. -/
def writingArgument : String := "method_name"

/-- The function behind a method of a level. -/
def functionOf (state : Logger) (method level : String) : String :=
  if method = "exception" then method
  else if state.isInUse level then "_make_filtering_bound_logger.<locals>.make_method.<locals>.meth"
  else "_nop"

/-- The level of an event that a method logs with some fields, none of which has a taken name. -/
def eventLevel (state : Logger) (method : String) (fields : List String) :
    Except LoggerFault String :=
  match eventMethods.get? method with
  | none => .error (.unknownMethod state.level method)
  | some level =>
      match fields.find? (methodArguments.contains ·) with
      | some name => .error (.repeatedArgument (state.functionOf method level) name)
      | none =>
          if state.isInUse level && fields.contains writingArgument then
            .error (.repeatedArgument "BoundLoggerBase._proxy_to_logger" writingArgument)
          else
            .ok level

/-- Whether an event of a level is written by an attached handler. -/
def writes (state : Logger) (level : String) : Bool :=
  state.configured && state.threshold ≤ weightOf level

/-- The fields of an event that are used up in writing it and not written as they are. -/
def consumedFields : List String := ["level", "timestamp", "exc_info", "stack_info"]

/-- Whether the handler that configuring attached is in place. -/
def hasAttached (state : Logger) : Bool :=
  match state.attached with
  | none => false
  | some serial => state.handlers.contains (.writing serial)

end Logger

namespace LoggerFault

/-- The word for a level in the name of a filtering logger. -/
def filterTitle (level : Nat) : String :=
  let titles : List (Nat × String) :=
    [(10, "Debug"), (20, "Info"), (30, "Warning"), (40, "Error"), (50, "Critical")]
  (Table.get? titles level).getD "Notset"

/-- The wording of a fault. -/
def message : LoggerFault -> String
  | .levelNotText typeName => Text.quoted typeName ++ " object has no attribute 'upper'"
  | .levelInBytes => "attribute name must be string, not 'bytes'"
  | .unknownFormat word => word.literal ++ " is not a valid LogFormat"
  | .number error => error.message
  | .layoutAsLevel => Text.quoted LevelWord.layoutText
  | .tableAsLevel => "unhashable type: 'dict'"
  | .unknownMethod level method =>
      "'BoundLoggerFilteringAt" ++ filterTitle level ++ "' object has no attribute " ++
        Text.quoted method
  | .repeatedArgument function name =>
      function ++ "() got multiple values for argument " ++ Text.quoted name

end LoggerFault
end Concord
