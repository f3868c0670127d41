import ClusterFleet.Decimal.Binary
import ClusterFleet.Decimal.Numeral

/-!
# Time — spans

A length of time in whole nanoseconds, at most 2^64 - 1 seconds and 999999999 nanoseconds. Longer
spans saturate. A span is compared, scaled and shown exactly; only backoff computes with doubles,
in seconds, and rounds back to the nearest nanosecond.
-/

namespace ClusterFleet

/-- A length of time in nanoseconds. -/
structure Span where
  /-- The nanoseconds in all. -/
  nanos : Nat
  deriving DecidableEq, Repr, Inhabited

namespace Span

/-- The nanoseconds of one second. -/
def perSecond : Nat := 1000000000

/-- The nanoseconds of one millisecond. -/
def perMilli : Nat := 1000000

/-- The longest span. -/
def longest : Span := ⟨Nat.pow 2 64 * perSecond - 1⟩

/-- The span of no length. -/
def zero : Span := ⟨0⟩

/-- A number of seconds. -/
def ofSecs (n : Nat) : Span := ⟨n * perSecond⟩

/-- A number of milliseconds. -/
def ofMillis (n : Nat) : Span := ⟨n * perMilli⟩

/-- The whole seconds of a span. -/
def secs (s : Span) : Nat := s.nanos / perSecond

/-- The nanoseconds beyond the whole seconds. -/
def subsecNanos (s : Span) : Nat := s.nanos % perSecond

/-- The whole milliseconds of a span. -/
def millis (s : Span) : Nat := s.nanos / perMilli

/-- The shorter of two spans. -/
def shorter (a b : Span) : Span := ⟨Nat.min a.nanos b.nanos⟩

/-- A multiple of a span, the longest span if that is too long. -/
def scale (s : Span) (n : Nat) : Span := shorter ⟨s.nanos * n⟩ longest

instance : LE Span := ⟨fun a b => a.nanos ≤ b.nanos⟩

instance : LT Span := ⟨fun a b => a.nanos < b.nanos⟩

instance (a b : Span) : Decidable (a ≤ b) := inferInstanceAs (Decidable (a.nanos ≤ b.nanos))

instance (a b : Span) : Decidable (a < b) := inferInstanceAs (Decidable (a.nanos < b.nanos))

/-- A span in seconds, as a double: whole seconds and fraction are converted apart and added. -/
def toSeconds (s : Span) : Float :=
  Float.ofNat s.secs + Float.ofNat s.subsecNanos / 1000000000.0

/-- The span of a number of seconds, to the nearest nanosecond, a tie to the even one. A number that
is negative, or that reaches 2^64, has no span. -/
def ofSeconds? (x : Float) : Option Span :=
  if x < 0.0 then none
  else match Decimal.Binary.ofFloat? x with
    | none => none
    | some b =>
      let whole := Decimal.Binary.quotient b.mantissa b.exponent 0
      if Nat.pow 2 64 ≤ whole.1 / whole.2 then none
      else some ⟨b.scaleRounded perSecond⟩

end Span

/-- A moment on the clock that timers and deadlines run on: the nanoseconds since it started. -/
structure Moment where
  /-- The nanoseconds since the start. -/
  nanos : Nat
  deriving DecidableEq, Repr, Inhabited

namespace Moment

/-- The start of the clock. -/
def start : Moment := ⟨0⟩

/-- The seconds that the clock can count. -/
def clockRange : Nat := Nat.pow 2 63 - 1

/-- The moment a span after another, if the clock reaches it. -/
def after? (t : Moment) (s : Span) : Option Moment :=
  if t.nanos + s.nanos < clockRange * Span.perSecond then some ⟨t.nanos + s.nanos⟩ else none

/-- The span that stands for one beyond the range of the clock: thirty years of 365 days. -/
def farFuture : Span := Span.ofSecs (86400 * 365 * 30)

/-- The moment a span after another, thirty years on if the clock does not reach it. -/
def after (t : Moment) (s : Span) : Moment :=
  match t.after? s with
  | some m => m
  | none => ⟨t.nanos + farFuture.nanos⟩

/-- The whole millisecond at which a timer for this moment goes off: the moment rounded up. -/
def tick (t : Moment) : Nat := (Span.perMilli - 1 + t.nanos) / Span.perMilli

/-- The moment of a whole millisecond. -/
def ofTick (n : Nat) : Moment := ⟨n * Span.perMilli⟩

/-- The span from an earlier moment to a later one. -/
def since (later earlier : Moment) : Span := ⟨later.nanos - earlier.nanos⟩

end Moment

end ClusterFleet
