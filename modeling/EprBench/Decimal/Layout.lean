import EprBench.Decimal.Shortest

/-! Decimal text of numbers: the shortest text that reads back, a fixed number of places, and a
mantissa with an exponent. -/
namespace EprBench.Decimal

def natText (n : Nat) : String := String.ofList (Nat.toDigits 10 n)

def intText : Int → String
  | .ofNat n => natText n
  | .negSucc n => "-" ++ natText (n + 1)

def paddedDigits (width n : Nat) : List Char :=
  let ds := Nat.toDigits 10 n
  List.replicate (width - ds.length) '0' ++ ds

def exponentText (e : Int) : List Char :=
  'e' :: (if e < 0 then '-' else '+') :: paddedDigits 2 e.natAbs

def trimZeros (ds : List Char) : List Char := (ds.reverse.dropWhile (· = '0')).reverse

/-- How a shortest text is laid out: positional for decimal exponents from `low` up to, not
including, `high`, otherwise with an exponent. -/
structure Style where
  low : Int
  high : Int

def plain : Style := ⟨-4, 16⟩

def layoutDigits (form : Style) (ds : List Char) (point : Int) : List Char :=
  if form.low ≤ point ∧ point < form.high then
    if point < 0 then '0' :: '.' :: (List.replicate (point.natAbs - 1) '0' ++ ds)
    else
      let whole := point.toNat + 1
      if ds.length ≤ whole then ds ++ List.replicate (whole - ds.length) '0' ++ ['.', '0']
      else ds.take whole ++ '.' :: ds.drop whole
  else
    match ds with
    | [] => []
    | [d] => d :: exponentText point
    | d :: rest => d :: '.' :: (rest ++ exponentText point)

/-- The shortest text that reads back as the same double. -/
def floatText (x : Float) : String :=
  match decode x with
  | .notANumber => "nan"
  | .infinite negative => if negative then "-inf" else "inf"
  | .finite negative m e =>
    let sign := if negative then ['-'] else []
    if m = 0 then String.ofList (sign ++ ['0', '.', '0'])
    else
      let d := shortest m e
      let raw := Nat.toDigits 10 d.digits
      let point := d.exponent + (raw.length : Int) - 1
      String.ofList (sign ++ layoutDigits plain (trimZeros raw) point)

def fixedDigits (num den places : Nat) : List Char :=
  let n := roundDiv (num * tenTo places) den
  let ds := paddedDigits (places + 1) n
  let whole := ds.length - places
  if places = 0 then ds else ds.take whole ++ '.' :: ds.drop whole

def fixedText (places : Nat) (x : Float) : String :=
  match decode x with
  | .notANumber => "nan"
  | .infinite negative => if negative then "-inf" else "inf"
  | .finite negative m e =>
    let v := magnitude m e
    String.ofList ((if negative then ['-'] else []) ++ fixedDigits v.1 v.2 places)

def significant (places significand : Nat) (exponent : Int) : Digits :=
  let v := magnitude significand exponent
  let k := decimalExponent v.1 v.2 - (places : Int)
  let n := if k < 0 then roundDiv (v.1 * tenTo k.natAbs) v.2 else roundDiv v.1 (v.2 * tenTo k.natAbs)
  if n = tenTo (places + 1) then ⟨tenTo places, k + 1⟩ else ⟨n, k⟩

def scientificText (places : Nat) (x : Float) : String :=
  match decode x with
  | .notANumber => "nan"
  | .infinite negative => if negative then "-inf" else "inf"
  | .finite negative m e =>
    let sign := if negative then ['-'] else []
    let zeros := List.replicate places '0'
    if m = 0 then
      String.ofList (sign ++ '0' :: (if places = 0 then [] else '.' :: zeros) ++ exponentText 0)
    else
      let r := significant places m e
      match Nat.toDigits 10 r.digits with
      | [] => ""
      | d :: rest =>
        String.ofList (sign ++ d :: (if places = 0 then [] else '.' :: rest) ++ exponentText (r.exponent + places))

/-- Rounds to `places` decimals (a negative count rounds to tens, hundreds, …): the exact value goes
to the nearest decimal, a half to the even one, and that decimal to the nearest double. -/
def roundPlaces (x : Float) (places : Int) : Float :=
  match decode x with
  | .finite negative m e =>
    let v := magnitude m e
    if places < 0 then
      let unit := tenTo places.natAbs
      ofFraction negative (roundDiv v.1 (v.2 * unit) * unit) 1
    else if places > 330 then x
    else
      let unit := tenTo places.natAbs
      ofFraction negative (roundDiv (v.1 * unit) v.2) unit
  | _ => x

end EprBench.Decimal
