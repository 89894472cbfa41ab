/-!
Runs of letters: how the standing data on capital and small letters is written down. The code points
of a run lie at equal distances, and the letters that they correspond to all lie equally far off.
-/

namespace GraphQuery.Text

/-- The code points `first`, `first + step`, … up to `last`, whose counterparts all lie `shift`
further on. -/
structure CaseRun where
  first : Nat
  last : Nat
  step : Nat
  shift : Int

namespace CaseRun

/-- The code point is one of the run. -/
def holds (run : CaseRun) (n : Nat) : Bool :=
  run.first ≤ n && n ≤ run.last && (n - run.first) % run.step == 0

/-- The counterpart of a character, if it is in one of the runs. -/
def shifted? (runs : List CaseRun) (c : Char) : Option Char :=
  (runs.find? (·.holds c.toNat)).map fun run => Char.ofNat ((c.toNat : Int) + run.shift).toNat

end CaseRun

end GraphQuery.Text
