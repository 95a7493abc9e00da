import IndexPrice.Time.Instant

/-!
# Samples

A sample is a price together with the time at which a source observed it.
-/

namespace IndexPrice

structure Sample where
  price : Float
  time : Instant
  deriving DecidableEq

namespace Sample

/-- How long ago the sample was observed; zero for a sample of the future. -/
def age (sample : Sample) (now : Instant) : Span := now.elapsed sample.time

def scaled (sample : Sample) (factor : Float) : Sample :=
  { sample with price := sample.price * factor }

/-- Equal numbers at the same time; not-a-number equals nothing. -/
def same (a b : Sample) : Bool := a.price == b.price && a.time = b.time

end Sample

end IndexPrice
