import TableStructs.Text.Basic

/-!
Binary floating-point numbers of 64 bits, read from decimals and written as decimals again, in exact
arithmetic. A finite number is `mantissa * 2 ^ exponent` with a mantissa below `2 ^ 53`; the
exponent is the least one possible, but at least -1074.

Reading takes the nearest number, of two equally near ones that with an even mantissa. Writing
takes the fewest digits that read back as the same number, and of those the nearest.
-/
namespace TableStructs

/-- A binary floating-point number. -/
inductive Double
  | finite (negative : Bool) (mantissa : Nat) (exponent : Int)
  | infinite (negative : Bool)
  | notANumber
deriving DecidableEq, Repr

namespace Double

/-! ### Reading -/

/-- The nearest whole number to `num / den`, of two equally near ones the even one. -/
def roundDiv (num den : Nat) : Nat :=
  let q := num / den
  let r := num % den
  if 2 * r < den then q else if den < 2 * r then q + 1 else q + q % 2

-- Powers are written `Nat.pow`: what `^` stands for depends on the instances in scope.

/-- `base ^ e` times `num / den`, as a fraction. -/
def scale (base : Nat) (e : Int) (num den : Nat) : Nat × Nat :=
  match e with
  | .ofNat n => (num * Nat.pow base n, den)
  | .negSucc n => (num, den * Nat.pow base (n + 1))

/-- The nearest number to `num / den`, which is not zero. -/
def ofFraction (negative : Bool) (num den : Nat) : Double :=
  let rough : Int := max (-1074) ((num.log2 : Int) - den.log2 - 53)
  let (n, d) := scale 2 (-rough) num den
  let exponent := if Nat.pow 2 53 ≤ n / d then rough + 1 else rough
  let (n, d) := scale 2 (-exponent) num den
  let mantissa := roundDiv n d
  let (mantissa, exponent) :=
    if mantissa = Nat.pow 2 53 then (Nat.pow 2 52, exponent + 1) else (mantissa, exponent)
  if 971 < exponent then .infinite negative else .finite negative mantissa exponent

/-- The nearest number to `digits * 10 ^ exponent`. -/
def ofDecimal (negative : Bool) (digits : Nat) (exponent : Int) : Double :=
  let size : Int := (Text.decimal digits).length + exponent
  if digits = 0 ∨ size < -330 then .finite negative 0 (-1074)
  else if 310 < size then .infinite negative
  else
    let (num, den) := scale 10 exponent digits 1
    ofFraction negative num den

/-- Whether the number is zero. -/
def isZero : Double → Bool
  | finite _ m _ => m == 0
  | _ => false

/-! ### Writing -/

/-- The decimal with `places` digits that reads back as `mantissa * 2 ^ exponent` and is nearest to
it, as a whole number and a power of ten; `size` is the place of the number's first digit before
the point. -/
def candidate? (mantissa : Nat) (exponent : Int) (size : Int) (places : Nat) :
    Option (Nat × Int) :=
  let power : Int := size - places
  -- quarters of the last bit, so that the ends of the interval are whole
  let (num, den) := scale 2 (exponent - 2) (4 * mantissa) 1
  let (num, den) := scale 10 (-power) num den
  let quarter := num / (4 * mantissa)
  let low := if mantissa = Nat.pow 2 52 ∧ -1074 < exponent then num - quarter else num - 2 * quarter
  let high := num + 2 * quarter
  let readsBack (x : Nat) : Bool :=
    (low < x * den && x * den < high) ||
      (mantissa % 2 == 0 && (low == x * den || high == x * den))
  let below := num / den
  if readsBack below && (roundDiv num den == below || !readsBack (below + 1)) then
    some (below, power)
  else if readsBack (below + 1) then some (below + 1, power)
  else none

/-- The fewest digits that read back, and the place of the point: the number of digits before it.
Seventeen digits always do. -/
def shortest (mantissa : Nat) (exponent : Int) : Text × Int :=
  let (num, den) := scale 2 exponent mantissa 1
  let size : Int := ((Text.decimal (num * Nat.pow 10 340 / den)).length : Int) - 340
  match (List.range 17).findSome? fun k => candidate? mantissa exponent size (k + 1) with
  | none => ([.char '0'], 1)
  | some (digits, power) =>
    let text := Text.decimal digits
    ((text.reverse.dropWhile (· == .char '0')).reverse, text.length + power)

/-- How numbers are written: positional between 10 ^ -4 and 10 ^ 16, where a whole number keeps
one zero behind the point; else with an exponent of at least two digits. -/
def positional (digits : Text) (point : Int) : Text :=
  if point ≤ 0 then "0.".toText ++ List.replicate (-point).toNat (.char '0') ++ digits
  else if digits.length ≤ point.toNat then
    digits ++ List.replicate (point.toNat - digits.length) (.char '0') ++ ".0".toText
  else digits.take point.toNat ++ [.char '.'] ++ digits.drop point.toNat

/-- Digits with an exponent. -/
def scientific (digits : Text) (point : Int) : Text :=
  let mark := if 1 < digits.length then [.char '.'] else []
  let exponent := point - 1
  digits.take 1 ++ mark ++ digits.drop 1 ++ [.char 'e', if exponent < 0 then .char '-' else .char '+'] ++
    (Text.decimal exponent.natAbs).leftpad 2 (.char '0')

/-- The text of a number. -/
def text : Double → Text
  | finite negative mantissa exponent =>
    let sign := if negative then [.char '-'] else []
    if mantissa = 0 then sign ++ "0.0".toText
    else
      let (digits, point) := shortest mantissa exponent
      sign ++ if -4 < point ∧ point ≤ 16 then positional digits point else scientific digits point
  | infinite negative => if negative then "-inf".toText else "inf".toText
  | notANumber => "nan".toText

end Double
end TableStructs
