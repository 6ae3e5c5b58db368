import ChildRules.Number.Shortest

/-!
# Styles of number text

Two styles write a number. The plain one is what a person reads in markup: always positional, with
no trailing point. The detailed one tells numbers from integers and keeps long runs of zeros short.
Both write the same shortest digits.
-/

namespace ChildRules

/-- The choices of one style of number text. -/
structure NumberStyle where
  /-- Whether a whole number is written with a trailing `.0`. -/
  marksWhole : Bool
  /-- Leading exponents from the first up to, not including, the second are positional. `none`
  makes all of them positional. -/
  positional : Option (Int × Int)

namespace NumberStyle

/-- Never an exponent, never a trailing point. -/
def plain : NumberStyle :=
  ⟨false, none⟩

/-- Whole numbers are marked, and positional text ends at a ten-thousandth and at ten to the
sixteenth. -/
def detailed : NumberStyle :=
  ⟨true, some (-4, 16)⟩

/-- Whether a number whose first digit has this exponent is written positionally. -/
def isPositional (style : NumberStyle) (leading : Int) : Bool :=
  match style.positional with
  | none => true
  | some (low, high) => low ≤ leading && leading < high

/-- The digits with the decimal point in its place. -/
def positionalText (style : NumberStyle) (digits : List Char) (exponent : Int) : String :=
  let places := exponent.natAbs
  if 0 ≤ exponent then
    String.ofList (digits ++ List.replicate places '0') ++ if style.marksWhole then ".0" else ""
  else
    let padded := List.replicate (places + 1 - digits.length) '0' ++ digits
    let whole := padded.length - places
    String.ofList (padded.take whole) ++ "." ++ String.ofList (padded.drop whole)

/-- The digits with the point after the first of them, then the exponent of that digit. -/
def scientificText (digits : List Char) (leading : Int) : String :=
  let tail := digits.drop 1
  String.ofList (digits.take 1) ++ (if tail.isEmpty then "" else "." ++ String.ofList tail)
    ++ "e" ++ toString leading

/-- The text of a magnitude. -/
def decimalText (style : NumberStyle) (d : Decimal) : String :=
  let digits := Nat.toDigits 10 d.digits
  let leading := d.exponent + digits.length - 1
  if d.digits = 0 || style.isPositional leading then style.positionalText digits d.exponent
  else scientificText digits leading

/-- The text of a number: its sign, zero included, and its magnitude, or the name of what has
none. What is not a number has no sign. -/
def text (style : NumberStyle) (x : Binary64) : String :=
  if x.isNaN then "NaN"
  else
    (if x.isNegative then "-" else "") ++
      if x.isInfinite then "inf" else style.decimalText x.shortest

end NumberStyle

end ChildRules
