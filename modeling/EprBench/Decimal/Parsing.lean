import EprBench.Decimal.Binary
import EprBench.Text.Pieces

/-! Numbers from text. Blanks at the ends, a sign, and single underscores between digits are taken; a number with a
point or an exponent goes to the nearest double. -/
namespace EprBench

namespace Text

/-- The ten digits of a script follow one another; these are their zeros. -/
def zeros : List Nat := [
  0x30, 0x660, 0x6F0, 0x7C0, 0x966, 0x9E6, 0xA66, 0xAE6, 0xB66, 0xBE6, 0xC66, 0xCE6, 0xD66, 0xDE6, 0xE50, 0xED0,
  0xF20, 0x1040, 0x1090, 0x17E0, 0x1810, 0x1946, 0x19D0, 0x1A80, 0x1A90, 0x1B50, 0x1BB0, 0x1C40, 0x1C50, 0xA620,
  0xA8D0, 0xA900, 0xA9D0, 0xA9F0, 0xAA50, 0xABF0, 0xFF10, 0x104A0, 0x10D30, 0x11066, 0x110F0, 0x11136, 0x111D0,
  0x112F0, 0x11450, 0x114D0, 0x11650, 0x116C0, 0x11730, 0x118E0, 0x11950, 0x11C50, 0x11D50, 0x11DA0, 0x16A60, 0x16AC0,
  0x16B50, 0x1D7CE, 0x1D7D8, 0x1D7E2, 0x1D7EC, 0x1D7F6, 0x1E140, 0x1E2F0, 0x1E950, 0x1FBF0
]

def digit? (c : Char) : Option Nat :=
  (zeros.find? fun z => z ≤ c.toNat && c.toNat < z + 10).map (c.toNat - ·)

def asciiDigit (c : Char) : Char :=
  match digit? c with
  | some d => Char.ofNat ('0'.toNat + d)
  | none => c

end Text

namespace Decimal

open Text

def takeSign : List Char → Bool × List Char
  | '-' :: rest => (true, rest)
  | '+' :: rest => (false, rest)
  | cs => (false, cs)

/-- Digits with single underscores between them: the digits read and what follows. A second
underscore, or one with no digit after it, is left in what follows. -/
def takeDigits : List Char → List Nat × List Char
  | [] => ([], [])
  | c :: '_' :: d :: more =>
    if !c.isDigit then ([], c :: '_' :: d :: more)
    else if !d.isDigit then ([c.toNat - '0'.toNat], '_' :: d :: more)
    else
      let r := takeDigits (d :: more)
      ((c.toNat - '0'.toNat) :: r.1, r.2)
  | c :: rest =>
    if !c.isDigit then ([], c :: rest)
    else
      let r := takeDigits rest
      ((c.toNat - '0'.toNat) :: r.1, r.2)

def digitsValue (ds : List Nat) : Nat := ds.foldl (fun n d => 10 * n + d) 0

def isMargin (c : Char) : Bool := c = ' ' || (9 ≤ c.toNat && c.toNat ≤ 13)

def dropMargins (cs : List Char) : List Char := ((cs.dropWhile isMargin).reverse.dropWhile isMargin).reverse

def plainChar (c : Char) : Char :=
  if c.toNat < 128 then c else if isBlank c then ' ' else asciiDigit c

def digitLimit : Nat := 4300

def parseIntChars? (cs : List Char) : Option Int :=
  let signed := takeSign (dropMargins cs)
  match takeDigits signed.2 with
  | ([], _) => none
  | (ds, []) =>
    if ds.length > digitLimit then none
    else some (if signed.1 then -(digitsValue ds : Int) else digitsValue ds)
  | _ => none

def ofDecimal (negative : Bool) (n : Nat) (exponent : Int) : Float :=
  if n = 0 then ofFraction negative 0 1
  else
    let size : Int := (Nat.toDigits 10 n).length
    if exponent + size > 400 then ofFraction negative (twoTo 1100) 1
    else if exponent + size < -400 then ofFraction negative 0 1
    else if exponent < 0 then ofFraction negative n (tenTo exponent.natAbs)
    else ofFraction negative (n * tenTo exponent.natAbs) 1

def isWord (w : String) (cs : List Char) : Bool := cs.map Char.toLower == w.toList

def takeExponent (cs : List Char) : Int × List Char :=
  match cs with
  | c :: rest =>
    if c = 'e' ∨ c = 'E' then
      let signed := takeSign rest
      match takeDigits signed.2 with
      | ([], _) => (0, cs)
      | (ds, after) => (if signed.1 then -(digitsValue ds : Int) else digitsValue ds, after)
    else (0, cs)
  | [] => (0, cs)

structure Numeral where
  negative : Bool
  digits : Nat
  exponent : Int

def Numeral.toFloat (x : Numeral) : Float := ofDecimal x.negative x.digits x.exponent

def takeNumeral (cs : List Char) : Option (Numeral × List Char) :=
  let signed := takeSign cs
  let whole := takeDigits signed.2
  match whole with
  | ([], '.' :: rest) =>
    let frac := takeDigits rest
    if frac.1.isEmpty then none
    else
      let e := takeExponent frac.2
      some (⟨signed.1, digitsValue frac.1, e.1 - (frac.1.length : Int)⟩, e.2)
  | ([], _) => none
  | (ds, '.' :: rest) =>
    let frac := takeDigits rest
    let e := takeExponent frac.2
    some (⟨signed.1, digitsValue (ds ++ frac.1), e.1 - (frac.1.length : Int)⟩, e.2)
  | (ds, rest) =>
    let e := takeExponent rest
    some (⟨signed.1, digitsValue ds, e.1⟩, e.2)

def takeNumber (cs : List Char) : Option (Float × List Char) := (takeNumeral cs).map fun r => (r.1.toFloat, r.2)

def parseNumeral? (s : String) : Option Numeral :=
  match takeNumeral (dropMargins (s.toList.map plainChar)) with
  | some (x, []) => some x
  | _ => none

def parseFloatChars? (cs : List Char) : Option Float :=
  let body := dropMargins cs
  match takeNumber body with
  | some (x, []) => some x
  | some _ => none
  | none =>
    let signed := takeSign body
    if isWord "inf" signed.2 || isWord "infinity" signed.2 then
      some (if signed.1 then -(1.0 / 0.0) else 1.0 / 0.0)
    else if isWord "nan" signed.2 then some (0.0 / 0.0)
    else none

def parseInt? (s : String) : Option Int := parseIntChars? (s.toList.map plainChar)

def parseFloat? (s : String) : Option Float := parseFloatChars? (s.toList.map plainChar)

end Decimal
end EprBench
