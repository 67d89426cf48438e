/-! A finite double is a sign, a significand and a power of two. Every conversion between doubles and decimal text
goes through this exact value. -/
namespace EprBench

def twoTo (n : Nat) : Nat := Nat.pow 2 n

def tenTo (n : Nat) : Nat := Nat.pow 10 n

namespace Decimal

/-- What the bits of a double stand for; a finite one is `± significand * 2 ^ exponent`. -/
inductive Decoded where
  | notANumber
  | infinite (negative : Bool)
  | finite (negative : Bool) (significand : Nat) (exponent : Int)
  deriving Repr, DecidableEq

def decode (x : Float) : Decoded :=
  let bits := x.toBits.toNat
  let negative := bits / twoTo 63 == 1
  let field : Nat := bits / twoTo 52 % twoTo 11
  let fraction : Nat := bits % twoTo 52
  if field = 2047 then
    if fraction = 0 then .infinite negative else .notANumber
  else if field = 0 then .finite negative fraction (-1074)
  else .finite negative (twoTo 52 + fraction) ((field : Int) - 1075)

/-- The integer nearest to `num / den`; an exact half goes to the even neighbour. -/
def roundDiv (num den : Nat) : Nat :=
  let q := num / den
  let twice := 2 * (num % den)
  if twice < den then q
  else if twice > den then q + 1
  else if q % 2 = 0 then q else q + 1

def scaled (num den : Nat) (e : Int) : Nat × Nat :=
  if e < 0 then (num * twoTo e.natAbs, den) else (num, den * twoTo e.natAbs)

/-- The power of two that leaves a fraction at least one and below two; `num` is not zero. -/
def binaryExponent (num den : Nat) : Int :=
  let guess : Int := (num.log2 : Int) - (den.log2 : Int)
  let s := scaled num den guess
  if s.1 < s.2 then guess - 1 else guess

def assemble (negative : Bool) (q : Nat) (e : Int) : Float :=
  let sign : Nat := if negative then twoTo 63 else 0
  let q' := if q = twoTo 53 then twoTo 52 else q
  let e' := if q = twoTo 53 then e + 1 else e
  if q' < twoTo 52 then Float.ofBits (sign + q').toUInt64
  else if e' + 1075 ≥ 2047 then Float.ofBits (sign + 2047 * twoTo 52).toUInt64
  else Float.ofBits (sign + (e' + 1075).toNat * twoTo 52 + (q' - twoTo 52)).toUInt64

def ofFraction (negative : Bool) (num den : Nat) : Float :=
  if num = 0 then assemble negative 0 (-1074)
  else
    let e := max (binaryExponent num den - 52) (-1074)
    let s := scaled num den e
    assemble negative (roundDiv s.1 s.2) e

def ofInt (n : Int) : Float := ofFraction (n < 0) n.natAbs 1

def ofQuotient (n d : Int) : Float :=
  ofFraction ((n < 0) != (d < 0)) n.natAbs d.natAbs

def magnitude (significand : Nat) (exponent : Int) : Nat × Nat :=
  if exponent < 0 then (significand, twoTo exponent.natAbs)
  else (significand * twoTo exponent.natAbs, 1)

def isFinite (x : Float) : Bool :=
  match decode x with
  | .finite .. => true
  | _ => false

def truncate? (x : Float) : Option Int :=
  match decode x with
  | .finite negative m e =>
    let v := magnitude m e
    let n : Int := (v.1 / v.2 : Nat)
    some (if negative then -n else n)
  | _ => none

def nearestInt? (x : Float) : Option Int :=
  match decode x with
  | .finite negative m e =>
    let v := magnitude m e
    let n : Int := roundDiv v.1 v.2
    some (if negative then -n else n)
  | _ => none

def nearestWhole (x : Float) : Float :=
  match nearestInt? x with
  | some 0 => if x.toBits >>> 63 == 1 then -0.0 else 0.0
  | some n => ofInt n
  | none => x

def floor? (x : Float) : Option Int :=
  match decode x with
  | .finite negative m e =>
    let v := magnitude m e
    some (if negative then -(((v.1 + v.2 - 1) / v.2 : Nat) : Int) else ((v.1 / v.2 : Nat) : Int))
  | _ => none

def ceiling? (x : Float) : Option Int := (floor? (-x)).map (- ·)

def compareInt (n : Int) (x : Float) : Option Ordering :=
  match decode x with
  | .notANumber => none
  | .infinite negative => some (if negative then .gt else .lt)
  | .finite negative m e =>
    let v := magnitude m e
    let top : Int := if negative then -(v.1 : Int) else v.1
    some (compare (n * v.2) top)

def truncatedRemainder (x y : Float) : Float :=
  match decode x, decode y with
  | .finite negative mx ex, .finite _ my ey =>
    if my = 0 then 0 / 0
    else
      let e := min ex ey
      let a := mx * twoTo (ex - e).toNat
      let b := my * twoTo (ey - e).toNat
      let r := a % b
      if e < 0 then ofFraction negative r (twoTo e.natAbs) else ofFraction negative (r * twoTo e.natAbs) 1
  | .finite .., .infinite _ => x
  | _, _ => 0 / 0

/-- The remainder of two doubles, with the sign of the second; `y` is not zero. -/
def flooredRemainder (x y : Float) : Float :=
  let r := truncatedRemainder x y
  if r == 0 then (if y < 0 then -0.0 else 0.0)
  else if (y < 0) != (r < 0) then r + y else r

end Decimal
end EprBench
