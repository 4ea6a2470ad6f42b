import Mathlib.Algebra.Ring.Nat
import Mathlib.Data.List.DropRight

/-! # Python's texts and numbers

What `str.strip`, `float`, `int` and the format `.2f` make of a text or a number. -/

namespace Python

/-! ## Texts -/

/-- The white space of `str`. -/
def isSpace (c : Char) : Bool :=
  (9 ≤ c.toNat && c.toNat ≤ 13) || (28 ≤ c.toNat && c.toNat ≤ 32) || c.toNat = 0x85 ||
    c.toNat = 0xa0 || c.toNat = 0x1680 || (0x2000 ≤ c.toNat && c.toNat ≤ 0x200a) ||
    c.toNat = 0x2028 || c.toNat = 0x2029 || c.toNat = 0x202f || c.toNat = 0x205f ||
    c.toNat = 0x3000

def strip (text : String) : String :=
  String.ofList ((text.toList.dropWhile isSpace).rdropWhile isSpace)

/-- `str.lower` on ASCII letters. -/
def lower (text : String) : String := String.ofList (text.toList.map Char.toLower)

/-- The zeros of the decimal digits beyond ASCII. -/
def digitZeros : List ℕ :=
  [0x660, 0x6f0, 0x7c0, 0x966, 0x9e6, 0xa66, 0xae6, 0xb66, 0xbe6, 0xc66, 0xce6, 0xd66, 0xde6,
    0xe50, 0xed0, 0xf20, 0x1040, 0x1090, 0x17e0, 0x1810, 0x1946, 0x19d0, 0x1a80, 0x1a90, 0x1b50,
    0x1bb0, 0x1c40, 0x1c50, 0xa620, 0xa8d0, 0xa900, 0xa9d0, 0xa9f0, 0xaa50, 0xabf0, 0xff10,
    0x104a0, 0x10d30, 0x11066, 0x110f0, 0x11136, 0x111d0, 0x112f0, 0x11450, 0x114d0, 0x11650,
    0x116c0, 0x11730, 0x118e0, 0x11950, 0x11c50, 0x11d50, 0x11da0, 0x16a60, 0x16ac0, 0x16b50,
    0x1d7ce, 0x1d7d8, 0x1d7e2, 0x1d7ec, 0x1d7f6, 0x1e140, 0x1e2f0, 0x1e950, 0x1fbf0]

/-- White space and digits beyond ASCII in ASCII, before a number is read. -/
def toAscii (text : List Char) : Option (List Char) :=
  if text.all fun c => c.toNat < 128 then some text
  else text.mapM fun c =>
    if c.toNat < 127 then some c
    else if isSpace c then some ' '
    else (digitZeros.find? fun base => base ≤ c.toNat && c.toNat < base + 10).map fun base =>
      Nat.digitChar (c.toNat - base)

/-- The white space of C around a number. -/
def isAsciiSpace (c : Char) : Bool := (9 ≤ c.toNat && c.toNat ≤ 13) || c = ' '

/-- Underscores stand between digits only. -/
def dropUnderscores (previous : Char) : List Char → Option (List Char)
  | [] => if previous = '_' then none else some []
  | c :: text =>
      if c = '_' then
        if previous.isDigit then dropUnderscores c text else none
      else if previous = '_' && !c.isDigit then none
      else (dropUnderscores c text).map (c :: ·)

/-- The text of a number, as `float` and `int` read it. -/
def numberText (text : String) : Option (List Char) := do
  let ascii ← toAscii text.toList
  dropUnderscores ' ' ((ascii.dropWhile isAsciiSpace).rdropWhile isAsciiSpace)

/-- Whether there is a minus sign, and the text behind the sign. -/
def readSign : List Char → Bool × List Char
  | '-' :: text => (true, text)
  | '+' :: text => (false, text)
  | text => (false, text)

/-! ## `float` -/

def infinity : Float := 1.0 / 0.0

def nan : Float := 0.0 / 0.0

/-- `mantissa * 10 ^ exponent`, correctly rounded. -/
def scientific (mantissa : ℕ) (exponent : ℤ) : Float :=
  Float.ofScientific mantissa (exponent < 0) exponent.natAbs

/-- The digits of a fraction and what follows them. -/
def readFraction : List Char → List Char × List Char
  | '.' :: text => (text.takeWhile Char.isDigit, text.dropWhile Char.isDigit)
  | text => ([], text)

def readExponent : List Char → Option ℤ
  | [] => some 0
  | c :: text =>
      let (negative, digits) := readSign text
      if (c = 'e' || c = 'E') && !digits.isEmpty && digits.all Char.isDigit then
        let size : ℤ := Nat.ofDigitChars 10 digits 0
        some (if negative then -size else size)
      else none

def readUnsigned (text : List Char) : Option Float :=
  let word := text.map Char.toLower
  if word = "inf".toList || word = "infinity".toList then some infinity
  else if word = "nan".toList then some nan
  else
    let whole := text.takeWhile Char.isDigit
    let (fraction, rest) := readFraction (text.dropWhile Char.isDigit)
    if whole.isEmpty && fraction.isEmpty then none
    else (readExponent rest).map fun exponent =>
      scientific (Nat.ofDigitChars 10 (whole ++ fraction) 0) (exponent - fraction.length)

/-- `float(text)`, unless it raises. -/
def float (text : String) : Option Float := do
  let (negative, unsigned) := readSign (← numberText text)
  let value ← readUnsigned unsigned
  some (if negative then -value else value)

/-! ## `int` -/

/-- The default limit of `int` on the digits of a text. -/
def maxDigits : ℕ := 4300

/-- `int(text)`, unless it raises. -/
def int (text : String) : Option ℤ := do
  let (negative, digits) := readSign (← numberText text)
  if digits.isEmpty || !digits.all Char.isDigit || maxDigits < digits.length then none
  else
    let size : ℤ := Nat.ofDigitChars 10 digits 0
    some (if negative then -size else size)

/-- `int(value)` of a float, unless it raises: the fraction is cut off. -/
def truncate (value : Float) : Option ℤ :=
  match value.toModel.unpack with
  | .zero _ => some 0
  | .finite sign mantissa exponent _ =>
      some (Float.Model.UnpackedFloat.roundToInt sign mantissa exponent)
  | .infinity _ | .notANumber => none

/-! ## `.2f` -/

/-- `mantissa * 2 ^ exponent` in hundredths, ties to even. -/
def hundredths (mantissa : ℕ) (exponent : ℤ) : ℕ :=
  let size := mantissa * 100 * 2 ^ exponent.toNat
  let unit := 2 ^ (-exponent).toNat
  let quotient := size / unit
  if 2 * (size % unit) < unit ∨ (2 * (size % unit) = unit ∧ quotient % 2 = 0) then quotient
  else quotient + 1

def hundredthsText (negative : Bool) (n : ℕ) : String :=
  (if negative then "-" else "") ++ toString (n / 100) ++ "." ++ toString (n / 10 % 10) ++
    toString (n % 10)

/-- The format `.2f`. -/
def fixedTwo (value : Float) : String :=
  match value.toModel.unpack with
  | .zero sign => hundredthsText (sign == .negative) 0
  | .finite sign mantissa exponent _ =>
      hundredthsText (sign == .negative) (hundredths mantissa exponent)
  | .infinity sign => if sign == .negative then "-inf" else "inf"
  | .notANumber => "nan"

/-! ## `max` and `min` -/

/-- `max(first, second)`: the first unless the second is larger. -/
def max (first second : Float) : Float := if first < second then second else first

/-- `min(first, second)`: the first unless the second is smaller. -/
def min (first second : Float) : Float := if second < first then second else first

end Python
