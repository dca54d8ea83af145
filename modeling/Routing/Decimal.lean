namespace Routing.Decimal

/-! # Decimals and doubles

A decimal text is read as a double through its significand and its power of ten, and a double is
written with the coarsest decimal that reads back as the same double.
-/

/-! ## Doubles from a significand and a power of ten

The significand is rounded to a double first, and then multiplied or divided once by a power of ten;
powers below `10 ^ -308` take one division more. -/

/-- Digits that fit, in order, behind a significand of 64 bits, and how many they are. -/
def absorb (significand : Nat) : List Nat → Nat × Nat
  | [] => (significand, 0)
  | digit :: digits =>
    if significand * 10 + digit < 2 ^ 64 then
      let (whole, count) := absorb (significand * 10 + digit) digits
      (whole, count + 1)
    else (significand, 0)

/-- The double nearest to `10 ^ exponent`. -/
def power (exponent : Nat) : Float := Float.ofScientific 1 false exponent

/-- The double `significand · 10 ^ exponent`; nothing if it is too large. -/
def scaled? (significand : Nat) (exponent : Int) : Option Float :=
  let base := Float.ofNat significand
  match exponent with
  | .ofNat e =>
    if base == 0 then some base
    else if 308 < e then none
    else
      let value := base * power e
      if value.isInf then none else some value
  | .negSucc e =>
    if e + 1 ≤ 308 then some (base / power (e + 1))
    else if e + 1 ≤ 616 then some (base / power 308 / power (e + 1 - 308))
    else some 0

/-! ## Shortest decimals

A decimal reads back when it lies among the numbers that round to the double; of two neighbours on
the same grid the nearer is taken, and on a tie the even one. -/

/-- A positive double: `significand · 2 ^ exponent`. -/
structure Binary where
  significand : Nat
  exponent : Int
  /-- The next smaller double is half as far away as the next larger one. -/
  closerBelow : Bool
  deriving DecidableEq, Repr

/-- A decimal number: `digits · 10 ^ exponent`. -/
structure Numeral where
  digits : Nat
  exponent : Int
  deriving DecidableEq, Repr

/-- The magnitude of a finite double in its 64-bit form. -/
def Binary.ofBits (bits : UInt64) : Binary :=
  let fraction : Nat := bits.toNat % Nat.pow 2 52
  let field : Nat := bits.toNat / Nat.pow 2 52 % Nat.pow 2 11
  if field = 0 then ⟨fraction, -1074, false⟩
  else ⟨Nat.pow 2 52 + fraction, (field : Int) - 1075, fraction = 0 ∧ 1 < field⟩

namespace Binary

def value (b : Binary) : Rat := b.significand * 2 ^ b.exponent

/-- Lower end of the numbers that round to the double. -/
def low (b : Binary) : Rat :=
  (b.significand - if b.closerBelow then 1 / 4 else 1 / 2) * 2 ^ b.exponent

/-- Upper end of the numbers that round to the double. -/
def high (b : Binary) : Rat := (b.significand + 1 / 2) * 2 ^ b.exponent

/-- The number rounds to the double; the ends do if the significand is even. -/
def covers (b : Binary) (x : Rat) : Bool :=
  if b.significand % 2 = 0 then b.low ≤ x && x ≤ b.high else b.low < x && x < b.high

/-- Digits on the grid of the multiples of `10 ^ exponent`, if a point of it rounds to the
double. -/
def digitsOn? (b : Binary) (exponent : Int) : Option Nat :=
  let scaled := b.value / 10 ^ exponent
  let digits := scaled.floor.toNat
  match b.covers (digits * 10 ^ exponent), b.covers ((digits + 1) * 10 ^ exponent) with
  | true, true =>
    let rest := scaled - digits
    if rest < 1 / 2 ∨ (rest = 1 / 2 ∧ digits % 2 = 0) then some digits else some (digits + 1)
  | true, false => some digits
  | false, true => some (digits + 1)
  | false, false => none

/-- An exponent so large that no point of a coarser grid rounds to the double: the double is below
`2 ^ bits`, and a decimal digit is worth more than `100000 / 30103` binary ones. -/
def coarsest (b : Binary) : Int :=
  let bits : Int := b.significand.log2 + 1 + b.exponent
  (bits + 1) * 30103 / 100000 + 1

/-- The decimal on the coarsest grid that reads back as the double; nothing for zero. Seventeen
digits always suffice, so a few grids are enough. -/
def shortest? (b : Binary) : Option Numeral :=
  if b.significand = 0 then none
  else (List.range 22).findSome? fun (step : Nat) =>
    let exponent : Int := b.coarsest - (step : Int)
    (b.digitsOn? exponent).map fun digits => ⟨digits, exponent⟩

end Binary

end Routing.Decimal
