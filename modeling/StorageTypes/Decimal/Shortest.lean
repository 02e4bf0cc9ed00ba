import StorageTypes.Decimal.Binary64

namespace StorageTypes.Decimal

/-- A positive double as a quotient with the quotients halfway to its two neighbours, all three
over one denominator. The ends read back as the double iff `closed`. -/
structure Interval where
  low : Nat
  mid : Nat
  high : Nat
  den : Nat
  closed : Bool
  deriving Repr

/-- The numbers that round to `units * 2 ^ exponent`. Below a power of two the next double is only
half as far away. -/
def Interval.around (units : Nat) (exponent : Int) : Interval :=
  let closed := units % 2 == 0
  let below := if units = twoTo 52 && decide (-1074 < exponent) then 1 else 2
  let up := twoTo exponent.toNat
  let den := 4 * twoTo (-exponent).toNat
  ⟨(4 * units - below) * up, 4 * units * up, (4 * units + 2) * up, den, closed⟩

def Interval.holds (interval : Interval) (digits : Nat) (place : Int) : Bool :=
  let value := digits * tenTo place.toNat * interval.den
  let scale := tenTo (-place).toNat
  if interval.closed then interval.low * scale ≤ value && value ≤ interval.high * scale
  else interval.low * scale < value && value < interval.high * scale

def leadingPlace (num den : Nat) : Int :=
  if den ≤ num then (digitCount (num / den) : Int) - 1
  else
    let count := digitCount (den / num)
    if den ≤ num * tenTo (count - 1) then 1 - (count : Int) else -(count : Int)

/-- The neighbour on the grid of multiples of `10 ^ place` that reads back, the nearer one if both
do. -/
def Interval.onGrid (interval : Interval) (place : Int) : Option Nat :=
  let num := interval.mid * tenTo (-place).toNat
  let den := interval.den * tenTo place.toNat
  let digits := num / den
  let nearest := roundHalfEven num den
  if interval.holds nearest place then some nearest
  else if interval.holds digits place then some digits
  else if interval.holds (digits + 1) place then some (digits + 1)
  else none

def Interval.search (interval : Interval) : Nat → Int → Nat × Int
  | 0, place => (interval.mid * tenTo (-place).toNat / (interval.den * tenTo place.toNat), place)
  | tries + 1, place =>
    match interval.onGrid place with
    | some digits => (digits, place)
    | none => interval.search tries (place - 1)

/-- Digits and place of the shortest numeral that reads back as a positive double. Seventeen digits
are always enough. -/
def shortest (units : Nat) (exponent : Int) : Nat × Int :=
  let interval := Interval.around units exponent
  interval.search 17 (leadingPlace interval.mid interval.den)

end StorageTypes.Decimal
