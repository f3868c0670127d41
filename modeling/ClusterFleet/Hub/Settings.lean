import ClusterFleet.Decimal.Double
import ClusterFleet.Hub.Policy
import ClusterFleet.Text.Blank

/-!
# Hub — settings

What an operator can set by environment variables. Each setting has a variable of its own. A
variable that is not set, or whose text is not of the form that the setting asks for, leaves the
setting at its default.
-/

namespace ClusterFleet

/-- The texts of environment variables by name. -/
abbrev Environment := String → Option String

/-- The settings of a hub. -/
structure Settings where
  /-- How lost status writes are repeated. -/
  retry : RetryPolicy
  /-- How long the work on one key may take, if that is limited. -/
  syncTimeout : Option Span
  /-- The number of workers. -/
  workers : Nat
  /-- The number of keys that may wait. -/
  queueCapacity : Nat
  /-- Whether members that left a set are dropped from the membership cache. -/
  prune : Bool
  /-- How often all sets are queued again, if ever. -/
  resyncInterval : Option Span
  /-- The delay before a key that failed once is queued again. -/
  requeueBase : Span
  /-- The longest such delay. -/
  requeueMax : Span

namespace Settings

/-- The default settings. -/
def standard : Settings where
  retry := .standard
  syncTimeout := some (Span.ofSecs 30)
  workers := 2
  queueCapacity := 4096
  prune := false
  resyncInterval := some (Span.ofSecs 300)
  requeueBase := Span.ofMillis 5
  requeueMax := Span.ofSecs 300

/-- The characters of a variable, without blanks at either end. -/
def trimmed? (env : Environment) (name : String) : Option (List Char) :=
  (env name).map fun text => Text.trim text.toList

/-- A number of at most the given bits. -/
def word? (bits : Nat) (env : Environment) (name : String) : Option Nat :=
  (trimmed? env name).bind (Decimal.readBounded (Decimal.maxWord bits))

/-- A double. -/
def double? (env : Environment) (name : String) : Option Float :=
  (trimmed? env name).bind Decimal.readDouble

/-- A yes or no, by one of the words for it in any case. -/
def flag? (env : Environment) (name : String) : Option Bool :=
  (trimmed? env name).bind fun cs =>
    let word := String.ofList (cs.map Char.toLower)
    if ["1", "true", "yes", "on"].contains word then some true
    else if ["0", "false", "no", "off"].contains word then some false
    else none

/-- A number of at least one. -/
def positive (bits : Nat) (env : Environment) (name : String) (default : Nat) : Nat :=
  ((word? bits env name).map fun n => Nat.max n 1).getD default

/-- A number of milliseconds. -/
def millis (env : Environment) (name : String) (default : Span) : Span :=
  ((word? 64 env name).map Span.ofMillis).getD default

/-- A number of seconds. -/
def seconds (env : Environment) (name : String) (default : Span) : Span :=
  ((word? 64 env name).map Span.ofSecs).getD default

/-- A number of seconds after which something happens; zero turns it off. -/
def interval (env : Environment) (name : String) (default : Option Span) : Option Span :=
  match word? 64 env name with
  | some 0 => none
  | some n => some (Span.ofSecs n)
  | none => default

/-- The factor by which delays grow: finite and at least one. -/
def factor (env : Environment) (name : String) (default : Float) : Float :=
  ((double? env name).filter fun x => x.isFinite && 1.0 ≤ x).getD default

/-- The random part of delays: between zero and one. -/
def jitter (env : Environment) (name : String) (default : Float) : Float :=
  ((double? env name).filter fun x => x.isFinite && 0.0 ≤ x && x ≤ 1.0).getD default

/-- The settings under the given environment variables. -/
def ofEnvironment (env : Environment) : Settings where
  retry :=
    { steps := positive 32 env "HUB_RETRY_STEPS" standard.retry.steps
      initial := millis env "HUB_RETRY_INITIAL_MS" standard.retry.initial
      factor := factor env "HUB_RETRY_FACTOR" standard.retry.factor
      jitter := jitter env "HUB_RETRY_JITTER" standard.retry.jitter
      max := standard.retry.max }
  syncTimeout := interval env "HUB_SYNC_TIMEOUT_SECS" standard.syncTimeout
  workers := positive 64 env "HUB_WORKERS" standard.workers
  queueCapacity := positive 64 env "HUB_QUEUE_CAP" standard.queueCapacity
  prune := (flag? env "HUB_PRUNE_MEMBERSHIP").getD standard.prune
  resyncInterval := interval env "HUB_RESYNC_SECS" standard.resyncInterval
  requeueBase := millis env "HUB_REQUEUE_BASE_MS" standard.requeueBase
  requeueMax := seconds env "HUB_REQUEUE_MAX_SECS" standard.requeueMax

end Settings

end ClusterFleet
