import Scriptwright.Text.Basic
/-!
# The log

What happens beside the answer: settings that are passed over, files that cannot be read, conversions that do not pass
their own check.  An entry is a level, the part of the program that speaks, and a message.
-/
namespace Scriptwright
namespace Log

inductive Level where
  | warning
  | error
  deriving DecidableEq, Repr

def Level.name : Level → Text
  | .warning => "WARNING".toList
  | .error => "ERROR".toList

/-- The part of the program that speaks. -/
inductive Speaker where
  | settings
  | engine
  deriving DecidableEq, Repr

def Speaker.name : Speaker → Text
  | .settings => "scriptcuro.settings".toList
  | .engine => "scriptcuro.engine".toList

structure Entry where
  level : Level
  speaker : Speaker
  message : Text
  deriving DecidableEq, Repr

def Entry.show (e : Entry) : Text := e.level.name ++ " ".toList ++ e.speaker.name ++ ": ".toList ++ e.message

end Log

/-- The entries in the order in which they were made. -/
abbrev Log := List Log.Entry

end Scriptwright
