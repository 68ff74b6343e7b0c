import TopicHealth.Duration

/-!
# Durations in log lines

A duration is written in the largest of the units s, ms, µs and ns in which it has a whole part, with as many
decimals as it needs and none besides. The empty span is written in nanoseconds.
-/

namespace TopicHealth.Duration

/-- The decimals of `rest` parts out of `10 ^ width`, without the zeros at their end. -/
def decimals (rest width : Nat) : List Char :=
  let digits := Nat.toDigits 10 rest
  let padded := List.replicate (width - digits.length) '0' ++ digits
  (padded.reverse.dropWhile (· = '0')).reverse

/-- A whole number, a point and decimals if there are any, and a unit. -/
def quantity (whole rest width : Nat) (unit : String) : String :=
  match decimals rest width with
  | [] => s!"{whole}{unit}"
  | ds => s!"{whole}.{String.ofList ds}{unit}"

/-- The text of a duration. -/
def display (d : Duration) : String :=
  if 0 < d.secs then quantity d.secs d.nanos 9 "s"
  else if 10 ^ 6 ≤ d.nanos then quantity (d.nanos / 10 ^ 6) (d.nanos % 10 ^ 6) 6 "ms"
  else if 10 ^ 3 ≤ d.nanos then quantity (d.nanos / 10 ^ 3) (d.nanos % 10 ^ 3) 3 "µs"
  else s!"{d.nanos}ns"

end TopicHealth.Duration
