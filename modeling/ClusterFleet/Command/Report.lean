import ClusterFleet.Command.Help
import ClusterFleet.Failure
import ClusterFleet.Hub.ClusterSet
import ClusterFleet.Json.Writer
import ClusterFleet.Text.Ranges

/-!
# Command line — what is printed

The text of results, for people and as JSON, and the text of failures: what failed, and below it why,
each cause on a line of its own.
-/

namespace ClusterFleet

namespace Command

/-- What a command leaves behind when it ends. -/
structure Printed where
  /-- The number that tells how it ended. -/
  exit : Nat
  /-- What it printed. -/
  output : String
  /-- What it printed as its errors. -/
  errors : String
  deriving DecidableEq, Repr

namespace Printed

/-- A good end. -/
def good (output : String) : Printed := ⟨0, output, ""⟩

/-- The end after arguments that make no sense. -/
def misuse : Printed :=
  ⟨2, "", textOfLines [Help.usage "[OPTIONS] <COMMAND>"]⟩

/-- The end of a command that breaks off. -/
def broken : Printed := ⟨101, "", ""⟩

end Printed

/-! ## Failures -/

/-- A message with something before its first line and blanks below it. -/
def hangingText (first : String) (message : String) : String :=
  let below := String.ofList (List.replicate first.length ' ')
  first ++ ("\n" ++ below).intercalate ((Text.splitAt '\n' message.toList).map String.ofList)

/-- The number of a cause, with a colon, in a column of its own. -/
def causeNumber (n : Nat) : String :=
  let ds := Decimal.numeral n
  String.ofList (List.replicate (5 - ds.length) ' ' ++ ds) ++ ": "

/-- The lines of causes, numbered from the given number on. -/
def numberedCauses : Nat → List String → List String
  | _, [] => []
  | n, cause :: rest => hangingText (causeNumber n) cause :: numberedCauses (n + 1) rest

/-- The lines of causes. A single one has no number. -/
def causeLines : List String → List String
  | [] => []
  | [cause] => ["", "Caused by:", hangingText "    " cause]
  | causes => "" :: "Caused by:" :: numberedCauses 0 causes

/-- The text of a failure. -/
def failureText (f : Failure) : String :=
  textOfLines (("Error: " ++ f.top) :: causeLines f.causes)

/-- The end after a failure. -/
def Printed.failed (f : Failure) : Printed := ⟨1, "", failureText f⟩

/-! ## Results -/

/-- The result of checking a URL. -/
def urlText (form : OutputForm) (url : String) (isValid : Bool) : String :=
  match form with
  | .human => textOfLines [url ++ ": " ++ (if isValid then "valid" else "invalid")]
  | .json => textOfLines [(Json.ofFields [("url", .string url), ("valid", .bool isValid)]).compact]

/-- The lines on a set that was brought up to date, for people. -/
def syncLines (set : String) : SyncOutcome → List String
  | .missing => [set ++ ": not found"]
  | .deleting => [set ++ ": deleting, skipped"]
  | .reconciled selected churn updated =>
    (set ++ ": " ++ Decimal.text selected ++ " ManagedClusters selected" ++
        (if updated then " (status updated)" else "")) ::
      (churn.joined.map ("  + " ++ ·) ++ churn.left.map ("  - " ++ ·))

/-- The result of bringing a set up to date, as JSON. -/
def syncJson (set : String) (outcome : SyncOutcome) : Json :=
  let fields := match outcome with
    | .missing => [("outcome", Json.string "missing")]
    | .deleting => [("outcome", Json.string "deleting")]
    | .reconciled selected churn updated =>
      [("outcome", .string "reconciled"), ("selected", Json.ofNat selected),
       ("updated", .bool updated), ("joined", .array (churn.joined.map .string)),
       ("left", .array (churn.left.map .string))]
  Json.ofFields (("set", .string set) :: fields)

/-- The result of bringing a set up to date. -/
def syncText (form : OutputForm) (set : String) (outcome : SyncOutcome) : String :=
  match form with
  | .human => textOfLines (syncLines set outcome)
  | .json => textOfLines [(syncJson set outcome).indented]

end Command

end ClusterFleet
