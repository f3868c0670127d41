import ClusterFleet.Decimal.Numeral

/-!
# Failures

A failure is told as a chain of messages, from what was attempted to what went wrong. Several
failures are told as one that lists them all.
-/

namespace ClusterFleet

/-- A failure: the outermost message and the messages of its causes. -/
structure Failure where
  /-- What was attempted. -/
  top : String
  /-- Why it failed, the next cause first. -/
  causes : List String
  deriving DecidableEq, Repr

namespace Failure

/-- The failure of a single message. -/
def plain (message : String) : Failure := ⟨message, []⟩

/-- Says what was attempted when a failure occurred. -/
def context (message : String) (f : Failure) : Failure :=
  ⟨message, f.top :: f.causes⟩

/-- The whole chain on one line. -/
def chain (f : Failure) : String :=
  ": ".intercalate (f.top :: f.causes)

/-- One failure for several: none for none, itself for one, and otherwise a list of their
chains. -/
def aggregate : List Failure → Option Failure
  | [] => none
  | [f] => some f
  | fs => some (plain (Decimal.text fs.length ++ " errors occurred:\n" ++
      "\n".intercalate (fs.map fun f => "* " ++ f.chain)))

end Failure

end ClusterFleet
