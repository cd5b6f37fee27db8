import Scriptwright.Text.Basic
/-!
# Settings

The names that the emitted program uses, whether its input files have a header row, and the commands for which there is
nothing to emit.
-/
namespace Scriptwright

structure Settings where
  appName : Text := "ConvertedScript".toList
  sessionName : Text := "spark".toList
  frameName : Text := "df".toList
  csvHeader : Bool := true
  unsupportedCommands : List Text := ["awk".toList]
  deriving DecidableEq, Repr

end Scriptwright
