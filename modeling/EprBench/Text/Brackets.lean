import EprBench.Tensor
import EprBench.Text.Pieces

/-! Arrays of words in brackets: rows are broken where a line is full, further axes start new lines, and of a long
array only the corners are shown. -/
namespace EprBench.Text

structure Setting where
  sep : List Char
  indent : Nat
  width : Nat

def Setting.inner (s : Setting) : Setting := { s with indent := s.indent + 1, width := s.width - 1 }

def edge : Nat := 3

def longSize : Nat := 1000

def corners {α : Type} : List Nat → List α → List α
  | [], cells => cells
  | n :: rest, cells =>
    let rows := Tensor.pieces n (Tensor.volume rest) cells
    let ends := if 2 * edge < n then rows.take edge ++ rows.drop (n - edge) else rows
    (ends.map (corners rest)).flatten

def withDots (left : Bool) (parts : List (List Char)) : List (List Char) :=
  if left then parts.take edge ++ ['.', '.', '.'] :: parts.drop edge else parts

def fill (s : Setting) (line : List Char) : List (List Char) → List Char
  | [] => line
  | word :: more =>
    let full := line.length + word.length > s.width - 1 && line.length > s.indent
    let start := if full then List.replicate s.indent ' ' else line
    let next := start ++ word ++ (if more.isEmpty then [] else s.sep)
    (if full then trimRight line ++ ['\n'] else []) ++ fill s next more

def bracketed (short : Bool) : List Nat → Setting → List (List Char) → List Char
  | [], _, words => words.headD []
  | [n], s, words =>
    let lines := fill s (List.replicate s.indent ' ') (withDots (short && 2 * edge < n) words)
    '[' :: lines.drop s.indent ++ [']']
  | n :: m :: rest, s, words =>
    let shown := if short && 2 * edge < n then 2 * edge else n
    let size := words.length / shown
    let rows := (Tensor.pieces shown size words).map (bracketed short (m :: rest) s.inner)
    let between := trimRight s.sep ++ List.replicate (rest.length + 1) '\n' ++ List.replicate s.indent ' '
    '[' :: between.intercalate (withDots (short && 2 * edge < n) rows) ++ [']']

def arrayText {α : Type} (write : List α → List (List Char)) (s : Setting) (shape : List Nat) (cells : List α) :
    List Char :=
  if cells.isEmpty then ['[', ']']
  else
    let short := cells.length > longSize
    bracketed short shape s (write (if short then corners shape cells else cells))

end EprBench.Text
