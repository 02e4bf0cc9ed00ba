import StorageTypes.Decimal.Shortest

namespace StorageTypes.Decimal

/-- Words for the doubles that have no digits. -/
structure Words where
  infinity : String
  notANumber : String

/-- The digits of a number, without the zeros at its end, which move the place up. -/
def trimmed (digits : Nat) (place : Int) : List Char × Int :=
  let all := Nat.toDigits 10 digits
  let kept := (all.reverse.dropWhile (· == '0')).reverse
  (kept, place + (all.length - kept.length : Nat))

def exponentText (exponent : Int) : List Char :=
  let digits := Nat.toDigits 10 exponent.natAbs
  (if exponent < 0 then '-' else '+') :: (if digits.length < 2 then '0' :: digits else digits)

/-- Digits with the value of the first one at `10 ^ lead`. A point is written for numbers from
`0.0001` up to but without `10 ^ 16`, and whole numbers end in `.0`. -/
def writeDigits (digits : List Char) (lead : Int) : List Char :=
  if lead < -4 || 16 ≤ lead then
    match digits with
    | [] => []
    | [d] => d :: 'e' :: exponentText lead
    | d :: rest => d :: '.' :: rest ++ 'e' :: exponentText lead
  else if lead < 0 then
    '0' :: '.' :: List.replicate ((-lead).toNat - 1) '0' ++ digits
  else
    let whole := lead.toNat + 1
    if digits.length ≤ whole then
      digits ++ List.replicate (whole - digits.length) '0' ++ ['.', '0']
    else digits.take whole ++ '.' :: digits.drop whole

def positiveText (units : Nat) (exponent : Int) : List Char :=
  if units = 0 then ['0', '.', '0']
  else
    let (digits, place) := shortest units exponent
    let (kept, place) := trimmed digits place
    writeDigits kept (place + kept.length - 1)

def numeral (words : Words) (word : UInt64) : String :=
  match Reading.ofWord word with
  | .finite negative units exponent =>
    String.ofList (if negative then '-' :: positiveText units exponent
      else positiveText units exponent)
  | .infinite negative => if negative then "-" ++ words.infinity else words.infinity
  | .notANumber => words.notANumber

end StorageTypes.Decimal
