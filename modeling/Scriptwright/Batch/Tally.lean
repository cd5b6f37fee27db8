import Scriptwright.Batch.Result
import Scriptwright.Number.Binary64
/-!
# Tallies

A row is what a summary needs of a result; a tally counts rows.
-/
namespace Scriptwright

/-- One line of a batch: a script, how it went, and how many diagnostics of each kind it has. -/
structure Row where
  path : Text
  status : Option Text
  success : Bool
  warnings : Nat
  unsupported : Nat
  written : Bool
  deriving DecidableEq, Repr

def Result.row (r : Result) : Row where
  path := r.label
  status := some r.status.name
  success := r.success
  warnings := r.warnings.length
  unsupported := r.unsupported.length
  written := r.written

structure Tally where
  total : Nat
  successful : Nat
  warnings : Nat
  unsupported : Nat
  written : Nat
  systemErrors : Nat
  deriving DecidableEq, Repr

namespace Tally

/-- A number summed over rows. -/
def sumOf (count : Row → Nat) : List Row → Nat
  | [] => 0
  | r :: rows => count r + sumOf count rows

def ofRows (rows : List Row) : Tally where
  total := rows.length
  successful := rows.countP (·.success)
  warnings := sumOf (·.warnings) rows
  unsupported := sumOf (·.unsupported) rows
  written := rows.countP (·.written)
  systemErrors := rows.countP fun r => r.status == some Status.engineError.name

def ofResults (rs : List Result) : Tally := ofRows (rs.map (·.row))

/-- The share of the successful ones, as a number of double precision; nothing of nothing is zero. -/
def rate (t : Tally) : Number.Binary64 :=
  if t.total = 0 then .ofRatio 0 1 else .ofRatio t.successful t.total

/-- The rate with six places. -/
def rateText (t : Tally) : Text := t.rate.toFixed 6

/-- The rate in percent with one place. -/
def percentText (t : Tally) : Text := (Number.Binary64.times 100 t.rate).toFixed 1 ++ ['%']

end Tally
end Scriptwright
