namespace PlayerHub

/-- A span of time. -/
@[ext] structure Duration where
  seconds : UInt64
  nanos : Nat
  nanos_lt : nanos < 1000000000 := by omega
deriving Repr

namespace Duration

instance : DecidableEq Duration := fun _ _ => decidable_of_iff _ Duration.ext_iff.symm

/-- The span of some seconds and nanoseconds; whole seconds of nanoseconds are added to the
seconds. -/
def of (seconds : UInt64) (nanos : Nat) : Duration where
  seconds := seconds + UInt64.ofNat (nanos / 1000000000)
  nanos := nanos % 1000000000
  nanos_lt := Nat.mod_lt _ (by decide)

/-- The whole milliseconds of a span. -/
def wholeMillis (d : Duration) : Nat := d.seconds.toNat * 1000 + d.nanos / 1000000

/-- Whether a span is empty. -/
def isZero (d : Duration) : Bool := d.seconds == 0 && d.nanos == 0

end Duration

end PlayerHub
