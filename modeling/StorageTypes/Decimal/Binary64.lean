import StorageTypes.Decimal.Rounding

namespace StorageTypes.Decimal

/-- What a word stands for: a sign with a whole number of units `2 ^ exponent`, an infinity, or no
number. -/
inductive Reading where
  | finite (negative : Bool) (units : Nat) (exponent : Int)
  | infinite (negative : Bool)
  | notANumber
  deriving DecidableEq, Repr

def Reading.ofWord (word : UInt64) : Reading :=
  let raw := word.toNat
  let negative := decide (twoTo 63 ≤ raw)
  let exponent : Nat := raw / twoTo 52 % twoTo 11
  let fraction := raw % twoTo 52
  if exponent = 2047 then if fraction = 0 then .infinite negative else .notANumber
  else if exponent = 0 then .finite negative fraction (-1074)
  else .finite negative (twoTo 52 + fraction) ((exponent : Int) - 1075)

def signed (negative : Bool) (bits : Nat) : UInt64 :=
  UInt64.ofNat (if negative then twoTo 63 + bits else bits)

def infinityWord (negative : Bool) : UInt64 :=
  signed negative (2047 * twoTo 52)

def notANumberWord : UInt64 :=
  UInt64.ofNat (2047 * twoTo 52 + twoTo 51)

def isZero (word : UInt64) : Bool :=
  word.toNat % twoTo 63 == 0

def isOne (word : UInt64) : Bool :=
  word.toNat == 1023 * twoTo 52

def whole? (word : UInt64) : Option Int :=
  match Reading.ofWord word with
  | .finite negative units exponent =>
    let scale := twoTo exponent.natAbs
    let size? : Option Nat :=
      if 0 ≤ exponent then some (units * scale)
      else if units % scale = 0 then some (units / scale)
      else none
    size?.map fun size => if negative then -(size : Int) else size
  | _ => none

/-- A quotient in units of `2 ^ exponent`, as a numerator and a denominator. -/
def inUnits (num den : Nat) (exponent : Int) : Nat × Nat :=
  if 0 ≤ exponent then (num, den * twoTo exponent.toNat) else (num * twoTo (-exponent).toNat, den)

def nearestBits (num den : Nat) : Nat :=
  let guess : Int := (num.log2 : Int) - den.log2 - 53
  let (n, d) := inUnits num den guess
  let exponent := max (if twoTo 53 ≤ n / d then guess + 1 else guess) (-1074)
  let (n, d) := inUnits num den exponent
  let units := roundHalfEven n d
  if units < twoTo 52 then units
  else
    let bits := (exponent + 1074).toNat * twoTo 52 + units
    min bits (2047 * twoTo 52)

def digitCount (n : Nat) : Nat :=
  (Nat.toDigits 10 n).length

/-- The double nearest to `digits * 10 ^ exponent`. Numerals far beyond the range of doubles are
settled by their size alone. -/
def ofDecimal (negative : Bool) (digits : Nat) (exponent : Int) : UInt64 :=
  if digits = 0 then signed negative 0
  else
    let size : Int := exponent + digitCount digits
    if 310 < size then infinityWord negative
    else if size < -330 then signed negative 0
    else if 0 ≤ exponent then signed negative (nearestBits (digits * tenTo exponent.toNat) 1)
    else signed negative (nearestBits digits (tenTo (-exponent).toNat))

end StorageTypes.Decimal
