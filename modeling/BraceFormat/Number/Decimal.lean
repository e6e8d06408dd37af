import BraceFormat.Number.Numeral

/-!
Decimal fractions: a significand and a power of ten, their written forms, and how both are read.

A decimal fraction is read from digits with an optional point, at least one digit among them, and an
optional exponent. It is written positionally or with an exponent, as a `Layout` decides.
-/

set_option autoImplicit false
set_option relaxedAutoImplicit false

namespace BraceFormat

/-- The number `significand * 10 ^ exponent`. -/
structure Decimal where
  significand : Nat
  exponent : Int
deriving DecidableEq

/-- A sign, if there is one, and the text behind it. -/
def splitSign : Text → Bool × Text
  | '-' :: rest => (true, rest)
  | '+' :: rest => (false, rest)
  | text => (false, text)

namespace Decimal

/-- Reads an exponent: nothing at all, or `e` or `E`, an optional sign, and digits. -/
def readExponent? : Text → Option Int
  | [] => some 0
  | mark :: rest =>
    if mark = 'e' ∨ mark = 'E' then
      let (negative, digits) := splitSign rest
      if digits ≠ [] ∧ digits.all Char.isDigit then
        let size : Int := Numeral.value digits
        some (if negative then -size else size)
      else none
    else none

/-- Reads an unsigned decimal fraction, which has to be the whole text. -/
def read? (text : Text) : Option Decimal :=
  let (whole, behindWhole) := runOf Char.isDigit text
  let (places, behindPlaces) :=
    match behindWhole with
    | '.' :: rest => runOf Char.isDigit rest
    | _ => ([], behindWhole)
  if whole ++ places = [] then none
  else
    (readExponent? behindPlaces).map fun exponent ↦
      ⟨Numeral.value (whole ++ places), exponent - places.length⟩

/-- How a decimal fraction is laid out: with an exponent below `leastPositional` and from
`firstScientific` on, and positionally between them. -/
structure Layout where
  leastPositional : Int
  firstScientific : Int
  exponentPlaces : Nat

/-- The exponent, its sign always written. -/
def Layout.exponent (layout : Layout) (exponent : Int) : Text :=
  (if exponent < 0 then '-' else '+') ::
    (Numeral.ofNat exponent.natAbs).leftpad layout.exponentPlaces '0'

/-- Digits with a point behind the first `point` of them, and a digit on both sides of it. -/
def positional (digits : Text) (point : Int) : Text :=
  if point ≤ 0 then '0' :: '.' :: List.replicate (-point).toNat '0' ++ digits
  else
    let whole := point.toNat
    if digits.length ≤ whole then
      digits ++ List.replicate (whole - digits.length) '0' ++ ['.', '0']
    else digits.take whole ++ '.' :: digits.drop whole

/-- Digits with a point behind the first, none if it is the only one, and an exponent. -/
def scientific (layout : Layout) (digits : Text) (exponent : Int) : Text :=
  let mantissa :=
    match digits with
    | first :: second :: rest => first :: '.' :: second :: rest
    | _ => digits
  mantissa ++ 'e' :: layout.exponent exponent

/-- The digits of the significand without the zeros at its end; none for zero. -/
def shownDigits (d : Decimal) : Text :=
  ((Numeral.ofNat d.significand).reverse.dropWhile (· == '0')).reverse

def write (layout : Layout) (d : Decimal) : Text :=
  if d.significand = 0 then ['0', '.', '0']
  else
    let point := d.exponent + (Numeral.ofNat d.significand).length
    let exponent := point - 1
    if layout.leastPositional ≤ exponent ∧ exponent < layout.firstScientific then
      positional d.shownDigits point
    else scientific layout d.shownDigits exponent

end Decimal

end BraceFormat
