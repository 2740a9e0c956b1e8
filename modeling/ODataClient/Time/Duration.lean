import ODataClient.Number.Notation

/-! # Durations
Spans of time in whole nanoseconds. A duration is written in its largest unit with a nonzero integer
part, then the fraction without trailing zeros. -/

namespace ODataClient

/-- A span of time in nanoseconds. -/
abbrev Duration := Nat

/-- A point in time: nanoseconds since the clock started. Instants have no upper bound here, so a sum of an
instant and a duration is taken to be one that the clock can represent. -/
abbrev Instant := Nat

namespace Duration

/-- The nanoseconds in one second. -/
def perSecond : Nat := 1000000000

/-- The nanoseconds in one millisecond. -/
def perMillisecond : Nat := 1000000

/-- The longest duration: the largest 64-bit number of seconds and a fraction below one more. -/
def longest : Duration := (Nat.pow 2 64 - 1) * perSecond + (perSecond - 1)

/-- A duration of whole seconds. -/
def ofSeconds (seconds : Nat) : Duration := seconds * perSecond

/-- A duration of whole milliseconds. -/
def ofMilliseconds (milliseconds : Nat) : Duration := milliseconds * perMillisecond

/-- A multiple of a duration, cut off at the longest one. -/
def saturatingMul (duration : Duration) (factor : Nat) : Duration :=
  min (duration * factor) longest

/-- The digits of a fraction of `10 ^ places` parts, without trailing zeros and behind a point. -/
def fractionText (places part : Nat) : String :=
  let digits := (padZeros places (naturalText part)).toList.reverse.dropWhile (· == '0')
  if digits.isEmpty then "" else "." ++ String.ofList digits.reverse

/-- A duration counted in units of `10 ^ places` nanoseconds. -/
def inUnit (places : Nat) (unit : String) (duration : Duration) : String :=
  naturalText (duration / Nat.pow 10 places) ++ fractionText places (duration % Nat.pow 10 places) ++ unit

/-- A duration in its largest unit with a nonzero integer part. -/
def text (duration : Duration) : String :=
  if Nat.pow 10 9 ≤ duration then inUnit 9 "s" duration
  else if Nat.pow 10 6 ≤ duration then inUnit 6 "ms" duration
  else if Nat.pow 10 3 ≤ duration then inUnit 3 "µs" duration
  else inUnit 0 "ns" duration

end Duration

end ODataClient
