import Concord.Logger
import Mathlib.Data.List.Induction

/-!
# Configuring the logger step by step

Configuring writes to several places one after the other: how events are
written and filtered, which handler is remembered, the handlers and the level
of the logger, and the mark that it has been configured.  All that can be
refused is refused before the first of them is written.  After any calls the
places are therefore in step: they are those of a fresh logger, or those of the
last call that took effect with one handler that writes.
-/

namespace Concord

/-- A call that configures the logger. -/
structure LoggerCall where
  /-- The level that is asked for, or a blank value. -/
  level : Value
  /-- The format that is asked for, or a blank value. -/
  format : Value
  /-- Whether a logger that has been configured is configured again. -/
  force : Bool

/-- The places that configuring writes to. -/
structure LoggerParts where
  /-- The least level of the events that are handed on to the logger. -/
  filter : Nat
  /-- How events are written, once that has been set. -/
  format : Option EventFormat
  /-- The serial number of the handler that is remembered. -/
  attached : Option Nat
  /-- The handlers of the logger. -/
  handlers : List LogHandler
  /-- The level of the logger itself. -/
  level : Nat
  /-- The mark that the logger has been configured. -/
  configured : Bool
  deriving DecidableEq

/-- The level that a word stands for, unless it stands for a layout. -/
def LevelWord.level : LevelWord -> Except LoggerFault Nat
  | .weight level => .ok level
  | .lineLayout => .error .layoutAsLevel
  | .layoutTable => .error .tableAsLevel

/-! ## One call -/

namespace LoggerParts

/-- Write events in a format, without those below a level. -/
def setEvents (format : EventFormat) (filter : Nat) (parts : LoggerParts) : LoggerParts :=
  { parts with format := some format, filter := filter }

/-- Take the remembered handler away from the logger. -/
def dropHandler (parts : LoggerParts) : LoggerParts :=
  match parts.attached with
  | none => parts
  | some serial => { parts with handlers := parts.handlers.erase (.writing serial) }

/-- Remember a new handler. -/
def newHandler (parts : LoggerParts) : LoggerParts :=
  { parts with attached := some ((parts.attached.map (· + 1)).getD 0) }

/-- Give the remembered handler to the logger. -/
def addHandler (parts : LoggerParts) : LoggerParts :=
  match parts.attached with
  | none => parts
  | some serial => { parts with handlers := parts.handlers ++ [.writing serial] }

/-- Set the level of the logger. -/
def setLevel (level : Nat) (parts : LoggerParts) : LoggerParts :=
  { parts with level := level }

/-- Mark the logger as configured. -/
def setConfigured (parts : LoggerParts) : LoggerParts :=
  { parts with configured := true }

/-- All that is written by a call that takes effect. -/
def install (level : Nat) (format : EventFormat) (parts : LoggerParts) : LoggerParts :=
  ((parts.setEvents format level).dropHandler.newHandler.addHandler.setLevel level).setConfigured

end LoggerParts

/-- A program that writes to the places and may be refused on the way. -/
abbrev Configuring := ExceptT LoggerFault (StateM LoggerParts)

namespace Configuring

variable {α β : Type}

/-- Go on with a result; a fault refuses the program. -/
def check (outcome : Except LoggerFault α) : Configuring α :=
  ExceptT.mk (pure outcome)

/-- How a program ends, and the places after it. -/
def runFrom (parts : LoggerParts) (program : Configuring α) : Except LoggerFault α × LoggerParts :=
  program.run.run parts

section

variable (parts : LoggerParts) (next : α -> Configuring β)

theorem runFrom_pure (result : α) : runFrom parts (pure result) = (.ok result, parts) := rfl

theorem runFrom_get_bind (next : LoggerParts -> Configuring β) :
    runFrom parts (get >>= next) = runFrom parts (next parts) := rfl

theorem runFrom_check_ok_bind (result : α) :
    runFrom parts (check (.ok result) >>= next) = runFrom parts (next result) := rfl

theorem runFrom_check_error_bind (fault : LoggerFault) :
    runFrom parts (check (.error fault) >>= next) = (.error fault, parts) := rfl

theorem runFrom_modify (change : LoggerParts -> LoggerParts) :
    runFrom parts (modify change) = (.ok (), change parts) := rfl

theorem runFrom_modify_bind (change : LoggerParts -> LoggerParts) (next : Unit -> Configuring β) :
    runFrom parts (modify change >>= next) = runFrom (change parts) (next ()) := rfl

end

end Configuring

namespace LoggerCall

/-- What a call asks the logger to be configured with. -/
def demand (settings : Settings) (call : LoggerCall) : Except LoggerFault (Nat × EventFormat) := do
  let word ← Logger.levelOf (Logger.givenOr call.level settings.logLevel)
  let format ← Logger.formatOf (Logger.givenOr call.format settings.logFormat)
  let level ← word.level
  return (level, format)

/-- Configure the logger place by place. -/
def program (settings : Settings) (call : LoggerCall) : Configuring Unit := do
  let parts ← get
  if parts.configured && !call.force then
    return
  -- Behind this line nothing is refused any more.
  let (level, format) ← Configuring.check (call.demand settings)
  modify (·.setEvents format level)
  modify (·.dropHandler)
  modify (·.newHandler)
  modify (·.addHandler)
  modify (·.setLevel level)
  modify (·.setConfigured)

/-- How a call ends, and the places after it. -/
def run (settings : Settings) (call : LoggerCall) (parts : LoggerParts) :
    Except LoggerFault Unit × LoggerParts :=
  Configuring.runFrom parts (call.program settings)

/--
A call leaves everything as it is if it is not heard or is refused, and installs
what it asks for otherwise.
-/
theorem run_eq (settings : Settings) (call : LoggerCall) (parts : LoggerParts) :
    call.run settings parts =
      if parts.configured && !call.force then
        (.ok (), parts)
      else
        match call.demand settings with
        | .ok (level, format) => (.ok (), parts.install level format)
        | .error fault => (.error fault, parts) := by
  rw [run, program, Configuring.runFrom_get_bind]
  split
  case isTrue => exact Configuring.runFrom_pure parts ()
  case isFalse =>
    cases call.demand settings with
    | error fault => exact Configuring.runFrom_check_error_bind parts _ fault
    | ok demand =>
        rw [Configuring.runFrom_check_ok_bind]
        simp only [Configuring.runFrom_modify_bind, Configuring.runFrom_modify]
        rfl

/-- A call that is refused leaves all places as they are. -/
theorem run_of_fault
    {settings : Settings}
    {call : LoggerCall}
    {parts left : LoggerParts}
    {fault : LoggerFault}
    (refused : call.run settings parts = (.error fault, left)) :
    left = parts := by
  rw [run_eq] at refused
  split at refused
  case isTrue => cases refused
  case isFalse =>
    split at refused
    · cases refused
    · exact (congrArg Prod.snd refused).symm

/-- Unless it is forced, a call does nothing to a logger that has been configured. -/
theorem run_of_configured
    {call : LoggerCall}
    {parts : LoggerParts}
    (configured : parts.configured = true)
    (unforced : call.force = false)
    (settings : Settings) :
    call.run settings parts = (.ok (), parts) := by
  rw [run_eq, configured, unforced]
  rfl

/-- A call that is not accepted leaves all places as they are. -/
theorem run_snd_of_error
    {settings : Settings}
    {call : LoggerCall}
    {fault : LoggerFault}
    (refused : call.demand settings = .error fault)
    (parts : LoggerParts) :
    (call.run settings parts).2 = parts := by
  rw [run_eq, refused]
  split <;> rfl

/-- A call that is heard and accepted installs its level and its format. -/
theorem run_snd_of_ok
    {settings : Settings}
    {call : LoggerCall}
    {parts : LoggerParts}
    {level : Nat}
    {format : EventFormat}
    (accepted : call.demand settings = .ok (level, format))
    (heard : parts.configured = false ∨ call.force = true) :
    (call.run settings parts).2 = parts.install level format := by
  have goesOn : ¬ (parts.configured && !call.force) = true := by
    rcases heard with fresh | forced
    · simp [fresh]
    · simp [forced]
  rw [run_eq, if_neg goesOn, accepted]

end LoggerCall

/-! ## The logger and its places -/

namespace Logger

/-- The places of a logger, whose level is the filter of events too. -/
def parts (state : Logger) : LoggerParts where
  filter := state.level
  format := state.format
  attached := state.attached
  handlers := state.handlers
  level := state.level
  configured := state.configured

/-- Installing step by step ends where installing at once does. -/
theorem parts_install (state : Logger) (level : Nat) (format : EventFormat) :
    (state.install level format).parts = state.parts.install level format := by
  obtain ⟨configured, oldLevel, oldFormat, handlers, attached⟩ := state
  cases attached <;> rfl

/-- A call that is not heard keeps the state; any other installs what it asks for or is refused. -/
theorem configure_eq (settings : Settings) (state : Logger) (call : LoggerCall) :
    configure settings state call.level call.format call.force =
      if state.configured && !call.force then
        .ok state
      else
        (call.demand settings).map fun demand => state.install demand.1 demand.2 := by
  unfold configure LoggerCall.demand
  split
  · rfl
  · cases levelOf (givenOr call.level settings.logLevel) with
    | error fault => rfl
    | ok word =>
        cases formatOf (givenOr call.format settings.logFormat) with
        | error fault => rfl
        | ok format => cases word <;> rfl

/-- Configured place by place, the logger comes to the state that it is configured to. -/
theorem run_parts (settings : Settings) (state : Logger) (call : LoggerCall) :
    call.run settings state.parts =
      match configure settings state call.level call.format call.force with
      | .ok next => (.ok (), next.parts)
      | .error fault => (.error fault, state.parts) := by
  have sameMark : state.parts.configured = state.configured := rfl
  rw [LoggerCall.run_eq, configure_eq, sameMark]
  split
  · rfl
  · cases call.demand settings with
    | error fault => rfl
    | ok demand => exact congrArg (Prod.mk _) (parts_install state demand.1 demand.2).symm

/-- The state after some calls, each of which leaves it as it is if it is refused. -/
def afterCalls (settings : Settings) (state : Logger) (calls : List LoggerCall) : Logger :=
  calls.foldl (fun state call =>
    match configure settings state call.level call.format call.force with
    | .ok next => next
    | .error _ => state) state

end Logger

/-! ## Calls one after the other -/

namespace LoggerCall

/-- The places after some calls, each of which goes on from what the one before it left. -/
def runAll (settings : Settings) (calls : List LoggerCall) (parts : LoggerParts) : LoggerParts :=
  calls.foldl (fun parts call => (call.run settings parts).2) parts

theorem runAll_concat
    (settings : Settings)
    (calls : List LoggerCall)
    (call : LoggerCall)
    (parts : LoggerParts) :
    runAll settings (calls ++ [call]) parts =
      (call.run settings (runAll settings calls parts)).2 := by
  simp only [runAll, List.foldl_append, List.foldl_cons, List.foldl_nil]

/-- After any calls the places are those of the state after them. -/
theorem runAll_parts (settings : Settings) (calls : List LoggerCall) (state : Logger) :
    runAll settings calls state.parts = (state.afterCalls settings calls).parts := by
  induction calls generalizing state with
  | nil => rfl
  | cons call rest inductionHypothesis =>
      have step := Logger.run_parts settings state call
      rw [runAll, List.foldl_cons, ← runAll, Logger.afterCalls, List.foldl_cons, step]
      cases Logger.configure settings state call.level call.format call.force with
      | error fault => exact inductionHypothesis state
      | ok next => exact inductionHypothesis next

/-- Whether a call asks for a level and a format that there are. -/
def isAccepted (settings : Settings) (call : LoggerCall) : Bool :=
  (call.demand settings).isOk

/-- The calls that take effect: the first that is accepted and, behind it, those that are forced. -/
def effective (settings : Settings) (calls : List LoggerCall) : List LoggerCall :=
  match calls.filter (isAccepted settings) with
  | [] => []
  | first :: later => first :: later.filter force

/-- Whether a call takes effect after some others of which the given ones took effect. -/
def joins (settings : Settings) (call : LoggerCall) (before : List LoggerCall) : Bool :=
  call.isAccepted settings && (before.isEmpty || call.force)

/-- One more call takes effect if it is accepted, and forced unless it is the first. -/
theorem effective_concat (settings : Settings) (calls : List LoggerCall) (call : LoggerCall) :
    effective settings (calls ++ [call]) =
      if call.joins settings (effective settings calls) then
        effective settings calls ++ [call]
      else
        effective settings calls := by
  unfold effective joins
  rw [List.filter_append]
  cases accepted : call.isAccepted settings with
  | false => simp [accepted]
  | true =>
      cases calls.filter (isAccepted settings) with
      | nil => simp [accepted]
      | cons first later => cases forced : call.force <;> simp [accepted, forced]

end LoggerCall

namespace LoggerParts

/-- The places of a fresh logger. -/
def fresh : LoggerParts := Logger.initial.parts

/-- The places of a configured logger, with the silent handler and one that writes. -/
def settled (level : Nat) (format : EventFormat) (serial : Nat) : LoggerParts where
  filter := level
  format := some format
  attached := some serial
  handlers := [.silent, .writing serial]
  level := level
  configured := true

theorem install_fresh (level : Nat) (format : EventFormat) :
    fresh.install level format = settled level format 0 := rfl

/-- The new handler takes the place of the old one. -/
theorem install_settled (level newLevel serial : Nat) (format newFormat : EventFormat) :
    (settled level format serial).install newLevel newFormat =
      settled newLevel newFormat (serial + 1) := by
  have dropped : [LogHandler.silent, .writing serial].erase (.writing serial) = [.silent] := by
    simp
  simp [install, settled, setEvents, dropHandler, newHandler, addHandler, setLevel, setConfigured,
    dropped]

/--
The places are in step with the calls that took effect: as of a fresh logger
without any, else as the last one asks for.
-/
inductive InStep (settings : Settings) : List LoggerCall -> LoggerParts -> Prop
  | fresh : InStep settings [] fresh
  | settled {before : List LoggerCall} {last : LoggerCall} {level : Nat} {format : EventFormat} :
      last.demand settings = .ok (level, format) ->
      InStep settings (before ++ [last]) (settled level format before.length)

/-- A call keeps the places in step. -/
theorem InStep.run
    {settings : Settings}
    {calls : List LoggerCall}
    {parts : LoggerParts}
    (inStep : InStep settings calls parts)
    (call : LoggerCall) :
    InStep settings (if call.joins settings calls then calls ++ [call] else calls)
      (call.run settings parts).2 := by
  -- Only an accepted call can join the others, and behind another one only if it is forced.
  cases demanded : call.demand settings with
  | error fault =>
      have refused : call.joins settings calls = false := by
        simp [LoggerCall.joins, LoggerCall.isAccepted, demanded, Except.isOk, Except.toBool]
      rw [refused, if_neg Bool.false_ne_true, LoggerCall.run_snd_of_error demanded]
      exact inStep
  | ok demand =>
      have accepted : call.isAccepted settings = true := by
        rw [LoggerCall.isAccepted, demanded]
        rfl
      cases inStep with
      | fresh =>
          have joins : call.joins settings [] = true := by
            rw [LoggerCall.joins, accepted]
            rfl
          rw [if_pos joins, LoggerCall.run_snd_of_ok demanded (.inl rfl), install_fresh]
          exact .settled demanded
      | @settled before last level format lastDemand =>
          cases forced : call.force with
          | false =>
              have stays : call.joins settings (before ++ [last]) = false := by
                simp [LoggerCall.joins, forced]
              rw [stays, if_neg Bool.false_ne_true, LoggerCall.run_of_configured rfl forced]
              exact .settled lastDemand
          | true =>
              have joins : call.joins settings (before ++ [last]) = true := by
                simp [LoggerCall.joins, accepted, forced]
              have next : before.length + 1 = (before ++ [last]).length := by
                rw [List.length_append, List.length_singleton]
              rw [if_pos joins, LoggerCall.run_snd_of_ok demanded (.inr forced), install_settled,
                next]
              exact .settled demanded

/-- After any calls the places are in step with those that took effect. -/
theorem inStep_runAll (settings : Settings) (calls : List LoggerCall) :
    InStep settings (LoggerCall.effective settings calls)
      (LoggerCall.runAll settings calls fresh) := by
  induction calls using List.reverseRecOn with
  | nil => exact .fresh
  | append_singleton calls call inductionHypothesis =>
      rw [LoggerCall.effective_concat, LoggerCall.runAll_concat]
      exact inductionHypothesis.run call

end LoggerParts

/-! ## Accepted calls -/

/-- A word names a format exactly if the settings list it. -/
theorem EventFormat.isSome_ofWord?_iff (word : String) :
    (ofWord? word).isSome = true ↔ word ∈ Settings.logFormats := by
  rw [Settings.logFormats, List.mem_cons, List.mem_singleton, ofWord?]
  by_cases json : word = "json"
  · simp [json]
  · by_cases console : word = "console" <;> simp [json, console]

namespace LevelWord

/-- The words in capitals that stand for layouts. -/
def layoutNames : List String := ["BASIC_FORMAT", "_STYLES"]

/-- Every name stands for a level unless it is that of a layout. -/
theorem exists_level_ofName_iff (name : String) :
    (∃ level, (ofName name).level = .ok level) ↔ Text.uppercase name ∉ layoutNames := by
  unfold ofName
  cases found : vocabulary.get? (Text.uppercase name) with
  | none =>
      refine iff_of_true ⟨20, rfl⟩ ?_
      have layoutsListed : ∀ layout ∈ layoutNames, (vocabulary.get? layout).isSome = true := by
        decide
      intro layout
      have listed := layoutsListed _ layout
      rw [found] at listed
      cases listed
  | some word =>
      have entries : ∀ entry ∈ vocabulary,
          entry.2.level.isOk = true ↔ entry.1 ∉ layoutNames := by
        decide
      rw [Option.getD_some, ← entries _ (Table.mem_of_get? found)]
      cases word with
      | weight level => exact iff_of_true ⟨level, rfl⟩ rfl
      | lineLayout | layoutTable => exact iff_of_false nofun nofun

end LevelWord

namespace Logger

theorem levelOf_of_text
    {level : Value}
    {name : String}
    (named : level.text? = some name) :
    levelOf level = .ok (LevelWord.ofName name) := by
  unfold levelOf
  split
  case isTrue blank =>
    cases level with
    | text content =>
        obtain rfl := Option.some.inj named
        rw [of_decide_eq_true blank]
        rfl
    | tag kind => cases blank
    | _ => cases named
  case isFalse =>
    rw [named]

/-- A text asks for a format exactly if the format is listed. -/
theorem exists_formatOf_iff
    {format : Value}
    {name : String}
    (named : format.text? = some name) :
    (∃ found, formatOf format = .ok found) ↔ name ∈ Settings.logFormats := by
  unfold formatOf
  rw [named, Option.bind_some, ← EventFormat.isSome_ofWord?_iff]
  cases EventFormat.ofWord? name with
  | some found => exact iff_of_true ⟨found, rfl⟩ rfl
  | none =>
      refine iff_of_false ?_ nofun
      rintro ⟨found, refused⟩
      dsimp only at refused
      split at refused <;> cases refused

end Logger

/-- A call with texts is accepted unless it asks for a layout or for a format that is not listed. -/
theorem LoggerCall.isAccepted_iff
    {settings : Settings}
    {call : LoggerCall}
    {level format : String}
    (levelText : (Logger.givenOr call.level settings.logLevel).text? = some level)
    (formatText : (Logger.givenOr call.format settings.logFormat).text? = some format) :
    call.isAccepted settings = true ↔
      Text.uppercase level ∉ LevelWord.layoutNames ∧ format ∈ Settings.logFormats := by
  rw [← LevelWord.exists_level_ofName_iff, ← Logger.exists_formatOf_iff formatText, isAccepted,
    demand, Logger.levelOf_of_text levelText]
  cases Logger.formatOf (Logger.givenOr call.format settings.logFormat) with
  | error fault => exact iff_of_false nofun (by rintro ⟨-, ⟨_, ⟨⟩⟩⟩)
  | ok found =>
      cases LevelWord.ofName level with
      | weight size => exact iff_of_true rfl ⟨⟨size, rfl⟩, found, rfl⟩
      | lineLayout | layoutTable => exact iff_of_false nofun (by rintro ⟨⟨_, ⟨⟩⟩, -⟩)

namespace Logger

/--
After any calls on a fresh logger, all places are those of the logger after
these calls.  They are in step with the calls that took effect: untouched, or
with the level and the format of the last one and one handler that writes.  A
call that is refused writes nothing.  Once the logger is configured, a call that
is not forced is never refused and writes nothing either.  A call with texts is
accepted unless its level is the name of a layout or its format is unknown.
-/
theorem configuring_keeps_in_step (settings : Settings) (calls : List LoggerCall) :
    let parts := LoggerCall.runAll settings calls LoggerParts.fresh
    parts = (Logger.initial.afterCalls settings calls).parts ∧
    LoggerParts.InStep settings (LoggerCall.effective settings calls) parts ∧
    (∀ (call : LoggerCall) (fault : LoggerFault) (left : LoggerParts),
      call.run settings parts = (.error fault, left) -> left = parts) ∧
    (parts.configured = true -> ∀ call : LoggerCall, call.force = false ->
      call.run settings parts = (.ok (), parts)) ∧
    ∀ (call : LoggerCall) (level format : String),
      (Logger.givenOr call.level settings.logLevel).text? = some level ->
      (Logger.givenOr call.format settings.logFormat).text? = some format ->
      (call.isAccepted settings = true ↔
        Text.uppercase level ∉ LevelWord.layoutNames ∧ format ∈ Settings.logFormats) := by
  intro parts
  refine ⟨LoggerCall.runAll_parts settings calls Logger.initial,
    LoggerParts.inStep_runAll settings calls, ?_, ?_, ?_⟩
  · intro call fault left refused
    exact LoggerCall.run_of_fault refused
  · intro configured call unforced
    exact LoggerCall.run_of_configured configured unforced settings
  · intro call level format levelText formatText
    exact LoggerCall.isAccepted_iff levelText formatText

/-- Of a refused, a plain and a forced call the last two take effect, one after the other. -/
example :
    LoggerCall.runAll {} [⟨.text "debug", .text "xml", true⟩, ⟨.text "loud", .null, false⟩,
        ⟨.text "error", .text "json", true⟩] LoggerParts.fresh =
      LoggerParts.settled 40 .json 1 := by
  decide +kernel

/-- The name of a layout is neither a level nor unknown, so that a listed format is in vain. -/
theorem layout_name_refused :
    LoggerCall.runAll {} [⟨.text "basic_format", .text "json", false⟩] LoggerParts.fresh =
        LoggerParts.fresh ∧
      (formatOf (.text "json")).isOk = true := by
  decide +kernel

end Logger
end Concord
