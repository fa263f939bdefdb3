import NebulaCloud.Platform.JsonParse

namespace NebulaCloud.Platform

/-! # Numbers from text

Binary, octal and hexadecimal numbers have no sign. -/

def digitsValue (radix : Nat) (digits : List Char) : Option Rat :=
  let values := digits.mapM fun c => (hexDigit c).filter (· < radix)
  match values with
  | some (first :: rest) =>
      some (roundDouble (((first :: rest).foldl (fun value digit => value * radix + digit) 0 : Nat) : Rat))
  | _ => none

/-- A decimal number without its sign, which may begin or end with its point. -/
def decimalNumber (text : List Char) : Option Rat := do
  let (whole, rest) := leadingDigits text
  let (fraction, rest) := match rest with
    | '.' :: rest => leadingDigits rest
    | rest => ([], rest)
  let (exponent, rest) ← jsonExponent rest
  if rest ≠ [] ∨ whole ++ fraction = [] then none
  else
    let scale : Int := exponent - fraction.length
    some (roundDouble (mkRat (decimalValue (whole ++ fraction) * 10 ^ scale.toNat) (10 ^ (-scale).toNat)))

def signedNumber : List Char → Option Rat
  | [] => some 0
  | '-' :: rest => (decimalNumber rest).map (- ·)
  | '+' :: rest => decimalNumber rest
  | '0' :: marker :: rest =>
      if marker = 'x' ∨ marker = 'X' then digitsValue 16 rest
      else if marker = 'o' ∨ marker = 'O' then digitsValue 8 rest
      else if marker = 'b' ∨ marker = 'B' then digitsValue 2 rest
      else decimalNumber ('0' :: marker :: rest)
  | rest => decimalNumber rest

/-- `Number(text)`; `none` where it is not finite. -/
def numberOf (text : String) : Option Rat :=
  (signedNumber (trimList text.toList)).filter fun value => value.num.natAbs < 2 ^ 1024 * value.den

/-- `Number.isInteger(value)`, with the integer that it admits. -/
def asInteger (value : Option Rat) : Option Int :=
  value.bind fun value => if value.den = 1 then some value.num else none

end NebulaCloud.Platform
