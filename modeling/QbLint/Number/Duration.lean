import QbLint.Number.Binary64

/-!
# Durations

Lengths of time in seconds, as floating-point numbers that are told in whole milliseconds too.

* `Duration.milliseconds`: the whole milliseconds of a duration.
-/

namespace QbLint

/-- A number of seconds, finite so that its milliseconds can be counted. -/
structure Duration where
  seconds : Binary64
  countable : ((seconds.mulNat 1000).truncate?).isSome
  deriving DecidableEq

namespace Duration

/-- No time at all. -/
def zero : Duration := ⟨.ofInt 0, by decide⟩

instance : Inhabited Duration := ⟨zero⟩

/-- The duration of a number of seconds, if it is one. -/
def ofSeconds? (seconds : Binary64) : Option Duration :=
  if h : ((seconds.mulNat 1000).truncate?).isSome then some ⟨seconds, h⟩ else none

/-- A duration in whole milliseconds. -/
def milliseconds (d : Duration) : Int := ((d.seconds.mulNat 1000).truncate?).get d.countable

end Duration

end QbLint
