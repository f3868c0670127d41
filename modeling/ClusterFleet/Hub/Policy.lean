import ClusterFleet.Time.Span

/-!
# Hub — backoff between attempts

How often a lost write is attempted again and how long to wait before it: the delay grows by a
factor with every attempt, up to a greatest delay, and a random part of it may be added. The
arithmetic is that of doubles in seconds; whatever has no span, because it overflows or is no
number, counts as the greatest delay.
-/

namespace ClusterFleet

/-- How writes that lose against other writers are repeated. -/
structure RetryPolicy where
  /-- The number of attempts in all. -/
  steps : Nat
  /-- The delay after the first attempt. -/
  initial : Span
  /-- By how much the delay grows with each attempt. -/
  factor : Float
  /-- The part of the delay that is added at random, at most. -/
  jitter : Float
  /-- The greatest delay. -/
  max : Span

namespace RetryPolicy

/-- The usual policy. -/
def standard : RetryPolicy :=
  ⟨4, Span.ofMillis 10, 5.0, 0.1, Span.ofSecs 10⟩

/-- The usual policy with another number of attempts, which is at least one. -/
def withSteps (steps : Nat) : RetryPolicy :=
  { standard with steps := Nat.max steps 1 }

/-- The number of attempts that the policy allows; one is always allowed. -/
def attempts (p : RetryPolicy) : Nat :=
  Nat.max p.steps 1

/-- The greater of two doubles; a NaN loses against any number. -/
def greater (x y : Float) : Float :=
  if x.isNaN then y else if x < y then y else x

/-- The lesser of two doubles; a NaN loses against any number. -/
def lesser (x y : Float) : Float :=
  if x.isNaN then y else if y < x then y else x

/-- A power by repeated squaring, multiplied into `acc`. The order of the multiplications decides
the last digits. -/
def powerInto (acc base : Float) (n : Nat) : Float :=
  let acc := if n % 2 = 1 then acc * base else acc
  if h : n / 2 = 0 then acc else powerInto acc (base * base) (n / 2)
termination_by n
decreasing_by omega

/-- The greatest exponent that the growth uses. -/
def maxExponent : Nat := 32

/-- The delay after the given attempt, counted from one, without its random part. -/
def baseDelay (p : RetryPolicy) (attempt : Nat) : Span :=
  let exponent := Nat.min (attempt - 1) maxExponent
  let seconds := p.initial.toSeconds * powerInto 1.0 (greater p.factor 1.0) exponent
  (Span.ofSeconds? (lesser seconds p.max.toSeconds)).getD p.max

/-- Whether the policy adds a random part at all. -/
def hasJitter (p : RetryPolicy) : Bool :=
  p.jitter.isFinite && 0.0 < p.jitter

/-- The delay after the given attempt, for the random part that was drawn. -/
def delay (p : RetryPolicy) (attempt : Nat) (drawn : Float) : Span :=
  let base := p.baseDelay attempt
  if p.hasJitter then
    ((Span.ofSeconds? (base.toSeconds * (1.0 + drawn))).getD p.max).shorter p.max
  else base

/-- Whether the delay after an attempt depends on what is drawn. -/
def isRandom (p : RetryPolicy) (attempt : Nat) : Bool :=
  p.hasJitter && p.baseDelay attempt ≠ Span.zero && p.baseDelay attempt < p.max

end RetryPolicy

end ClusterFleet
