import EprBench.Decimal.Aligned
import EprBench.Text.Brackets
import EprBench.Text.Printable
import EprBench.Value

/-! How values are written: `display` for a text by itself, `literal` for a value inside another one,
where texts are quoted. -/
namespace EprBench.Value

open Decimal

def hexDigits (width n : Nat) : List Char :=
  let ds := Nat.toDigits 16 n
  List.replicate (width - ds.length) '0' ++ ds

def quotedChar (quote c : Char) : List Char :=
  if c = quote ∨ c = '\\' then ['\\', c]
  else if c = '\n' then ['\\', 'n']
  else if c = '\r' then ['\\', 'r']
  else if c = '\t' then ['\\', 't']
  else if Text.isPrintable c then [c]
  else if c.toNat < 0x100 then '\\' :: 'x' :: hexDigits 2 c.toNat
  else if c.toNat < 0x10000 then '\\' :: 'u' :: hexDigits 4 c.toNat
  else '\\' :: 'U' :: hexDigits 8 c.toNat

def quoteFor (cs : List Char) : Char :=
  if cs.contains '\'' && !cs.contains '"' then '"' else '\''

def quoted (s : String) : String :=
  let cs := s.toList
  let q := quoteFor cs
  String.ofList (q :: cs.flatMap (quotedChar q) ++ [q])

def byteChar (quote : Char) (b : UInt8) : List Char :=
  let c := Char.ofNat b.toNat
  if 127 ≤ b.toNat then '\\' :: 'x' :: hexDigits 2 b.toNat else quotedChar quote c

def quotedBytes (bs : List UInt8) : String :=
  let q := quoteFor (bs.map fun b => Char.ofNat b.toNat)
  String.ofList ('b' :: q :: bs.flatMap (byteChar q) ++ [q])

def partText (x : Float) : String :=
  let t := (floatText x).toList
  match t.reverse with
  | '0' :: '.' :: rest => String.ofList rest.reverse
  | _ => String.ofList t

def complexText (re im : Float) : String :=
  let i := partText im
  let signed := if i.startsWith "-" then i else "+" ++ i
  if re.toBits = 0 then partText im ++ "j" else "(" ++ partText re ++ signed ++ "j)"

def alone : Text.Setting := ⟨[' '], 1, 75⟩

def named : Text.Setting := ⟨[',', ' '], 7, 74⟩

def shapeText : List Nat → String
  | [n] => "(" ++ natText n ++ ",)"
  | shape => "(" ++ ", ".intercalate (shape.map natText) ++ ")"

def arrayLiteral {α : Type} (write : List α → List (List Char)) (kind : String) (shape : List Nat) (cells : List α) :
    String :=
  if !cells.isEmpty then "array(" ++ String.ofList (Text.arrayText write named shape cells) ++ ")"
  else if shape = [0] then "array([], dtype=" ++ kind ++ ")"
  else "array([], shape=" ++ shapeText shape ++ ", dtype=" ++ kind ++ ")"

mutual

def literal : Value → String
  | .nothing => "None"
  | .bool b => if b then "True" else "False"
  | .int n => intText n
  | .float x => floatText x
  | .complex re im => complexText re im
  | .text s => quoted s
  | .bytes bs => quotedBytes bs
  | .list xs => "[" ++ ", ".intercalate (literals xs) ++ "]"
  | .tuple [x] => "(" ++ literal x ++ ",)"
  | .tuple xs => "(" ++ ", ".intercalate (literals xs) ++ ")"
  | .dict es => "\x7b" ++ ", ".intercalate (entryLiterals es) ++ "\x7d"
  | .set [] => "set()"
  | .set xs => "\x7b" ++ ", ".intercalate (literals xs) ++ "\x7d"
  | .floats shape data => arrayLiteral alignedFloats "float64" shape data.toList
  | .ints shape data => arrayLiteral alignedInts "int64" shape data.toList
  | .complexes .. => "array([])"
  | .samples _ => "<samples>"
  | .series _ => "<series>"
  | .thing kind => "<" ++ kind ++ ">"

def literals : List Value → List String
  | [] => []
  | x :: xs => literal x :: literals xs

def entryLiterals : List (Value × Value) → List String
  | [] => []
  | (k, v) :: es => (literal k ++ ": " ++ literal v) :: entryLiterals es

end

def display : Value → String
  | .text s => s
  | .floats [] data => floatText (data.getD 0 0)
  | .floats shape data => String.ofList (Text.arrayText alignedFloats alone shape data.toList)
  | .ints shape data => String.ofList (Text.arrayText alignedInts alone shape data.toList)
  | v => literal v

end EprBench.Value
