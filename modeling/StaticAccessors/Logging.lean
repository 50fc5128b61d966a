import StaticAccessors.Host
import StaticAccessors.Value.Key

/-!
# Logging

All loggers live under one name. The log shows records from a threshold on, which is a number or the
name of a level; the handler that writes them is installed once, with the first threshold that is
accepted, and later calls change the threshold only.

## Contents
- `loggerName`.
- `thresholdOf`: the threshold a value stands for.
- `LogSetup` and `LogSetup.configure`.
-/

namespace StaticAccessors.Logging

/-- The name that all loggers live under. -/
def rootName : String := "collection_codegen"

/-- The full name of a logger. -/
def loggerName (name : Value) : Except Fault String :=
  match name with
  | .text s =>
    if s = rootName || (rootName ++ ".").toList.isPrefixOf s.toList then .ok s
    else .ok (rootName ++ "." ++ s)
  | _ => .error .noSuchAttribute

/-- The names of thresholds. -/
def thresholdNames : Table String Int := [
  ("CRITICAL", 50), ("FATAL", 50), ("ERROR", 40), ("WARN", 30), ("WARNING", 30), ("INFO", 20),
  ("DEBUG", 10), ("NOTSET", 0)]

/-- The threshold a value stands for: a whole number is kept as it is, a text has to be a name. -/
def thresholdOf (v : Value) : Except Fault Value :=
  match v with
  | .int _ | .bool _ => .ok v
  | .text s =>
    match thresholdNames.get? s with
    | some n => .ok (.int n)
    | none => .error .badValue
  | _ => .error .wrongType

/-- How records are written. -/
inductive Handler
  /-- with colours, the message alone -/
  | coloured
  /-- in plain lines, with the time, the level and the logger in front of the message -/
  | plain
deriving Repr, DecidableEq

/-- The pattern of a line. -/
def Handler.pattern : Handler → String
  | coloured => "%(message)s"
  | plain => "%(asctime)s %(levelname)s %(name)s: %(message)s"

/-- What is installed. -/
structure LogSetup where
  threshold : Value
  handler : Option Handler

/-- The threshold when none is given. -/
def defaultThreshold : Value := .int Level.warning.number

namespace LogSetup

/-- Nothing is installed and nothing is held back. -/
def fresh : LogSetup := ⟨.int 0, none⟩

/-- Sets the threshold, and installs a handler if there is none. -/
def configure (setup : LogSetup) (threshold : Value) (handler : Handler) : Except Fault LogSetup :=
  (thresholdOf threshold).map fun threshold => ⟨threshold, some (setup.handler.getD handler)⟩

end LogSetup

/-- The records from a threshold on. -/
def visible (threshold : Nat) (records : List Record) : List Record :=
  records.filter fun r => threshold ≤ r.level.number

end StaticAccessors.Logging
