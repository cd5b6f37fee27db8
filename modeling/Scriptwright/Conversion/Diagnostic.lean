import Scriptwright.Text.Basic
/-!
# Diagnostics

A note on one line of the script: a warning asks for a look, an unsupported construct has nothing it could become.
-/
namespace Scriptwright

inductive Severity where
  | warning
  | unsupported
  deriving DecidableEq, Repr

namespace Severity

def all : List Severity := [.warning, .unsupported]

theorem mem_all (s : Severity) : s ∈ all := by cases s <;> simp [all]

def name : Severity → Text
  | .warning => "warning".toList
  | .unsupported => "unsupported".toList

def ofName? (n : Text) : Option Severity := all.find? fun s => s.name == n

end Severity

structure Diagnostic where
  severity : Severity
  line : Int
  message : Text
  deriving DecidableEq, Repr

end Scriptwright
