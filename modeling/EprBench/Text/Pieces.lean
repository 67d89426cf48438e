/-! Cutting text into pieces. Blanks are cut from the ends of a number or a setting. Positions below zero count from the
end. -/
namespace EprBench.Text

def isBlank (c : Char) : Bool :=
  let n := c.toNat
  (9 ≤ n && n ≤ 13) || (28 ≤ n && n ≤ 32) || n = 0x85 || n = 0xA0 || n = 0x1680 ||
    (0x2000 ≤ n && n ≤ 0x200A) || n = 0x2028 || n = 0x2029 || n = 0x202F || n = 0x205F || n = 0x3000

def isLineEnd (c : Char) : Bool :=
  let n := c.toNat
  (10 ≤ n && n ≤ 13) || (28 ≤ n && n ≤ 30) || n = 0x85 || n = 0x2028 || n = 0x2029

def dropBlanks (cs : List Char) : List Char := cs.dropWhile isBlank

def trimRight (cs : List Char) : List Char := (cs.reverse.dropWhile isBlank).reverse

def trim (cs : List Char) : List Char := trimRight (dropBlanks cs)

def splitAt (sep : Char) : List Char → List (List Char)
  | [] => [[]]
  | c :: rest =>
    if c = sep then [] :: splitAt sep rest
    else
      match splitAt sep rest with
      | [] => [[c]]
      | piece :: more => (c :: piece) :: more

def dropFront? : List Char → List Char → Option (List Char)
  | [], cs => some cs
  | _ :: _, [] => none
  | f :: front, c :: cs => if f = c then dropFront? front cs else none

theorem dropFront?_length {front cs rest : List Char} (h : dropFront? front cs = some rest) :
    rest.length + front.length = cs.length := by
  induction front generalizing cs with
  | nil => simp_all [dropFront?]
  | cons f front ih =>
    cases cs with
    | nil => simp [dropFront?] at h
    | cons c cs =>
      simp only [dropFront?] at h
      split at h
      · have := ih h
        simp only [List.length_cons]
        omega
      · simp at h

def splitOnText (s : Char) (more : List Char) (cs : List Char) (piece : List Char) : List (List Char) :=
  match _h : dropFront? (s :: more) cs with
  | some rest => piece.reverse :: splitOnText s more rest []
  | none =>
    match cs with
    | [] => [piece.reverse]
    | c :: cs => splitOnText s more cs (c :: piece)
termination_by cs.length
decreasing_by
  · have := dropFront?_length _h
    simp only [List.length_cons] at this
    omega
  · simp

def linesFrom (line : List Char) : List Char → List (List Char)
  | [] => if line.isEmpty then [] else [line.reverse]
  | '\r' :: '\n' :: rest => line.reverse :: linesFrom [] rest
  | c :: rest => if isLineEnd c then line.reverse :: linesFrom [] rest else linesFrom (c :: line) rest

def lines (cs : List Char) : List (List Char) := linesFrom [] cs

def plainLineEnds : List Char → List Char
  | [] => []
  | '\r' :: '\n' :: rest => '\n' :: plainLineEnds rest
  | c :: rest => (if c = '\r' then '\n' else c) :: plainLineEnds rest

def position (length : Nat) (i : Int) : Nat :=
  if i < 0 then ((length : Int) + i).toNat else min i.toNat length

def slice {α : Type} (start stop : Option Int) (xs : List α) : List α :=
  let a := (start.map (position xs.length)).getD 0
  let b := (stop.map (position xs.length)).getD xs.length
  (xs.drop a).take (b - a)

def item? {α : Type} (xs : List α) (i : Int) : Option α :=
  if i < 0 then
    let j := (xs.length : Int) + i
    if j < 0 then none else xs[j.toNat]?
  else xs[i.toNat]?

def replaceText (s : Char) (more : List Char) (with_ : List Char) (cs : List Char) : List Char :=
  match splitOnText s more cs [] with
  | [] => []
  | first :: rest => first ++ rest.flatMap (with_ ++ ·)

end EprBench.Text

namespace String

def part (s : String) (start stop : Option Int) : String :=
  ofList (EprBench.Text.slice start stop s.toList)

def pieces (s : String) (sep : Char) : List String :=
  (EprBench.Text.splitAt sep s.toList).map ofList

def piecesOn (s sep : String) : List String :=
  match sep.toList with
  | [] => [s]
  | c :: more => (EprBench.Text.splitOnText c more s.toList []).map ofList

def substitute (s old new : String) : String :=
  match old.toList with
  | [] => s
  | c :: more => ofList (EprBench.Text.replaceText c more new.toList s.toList)

def padRight (s : String) (width : Nat) : String :=
  ofList (s.toList ++ List.replicate (width - s.length) ' ')

end String
