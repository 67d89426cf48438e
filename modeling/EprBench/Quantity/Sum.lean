import EprBench.Quantity

/-! Sums of many numbers. Long rows are halved and short ones are added in eight lanes, so that rounding errors stay
small. Of a curve a window is summed. -/
namespace EprBench

/-- The part of a curve that is integrated: from `left` up to, not including, `right`. -/
structure Window where
  left : Int
  right : Int

namespace Window

def cut {β : Type} (w : Window) (xs : List β) : List β := Text.slice (some w.left) (some w.right) xs

def start : Window := ⟨0, 1⟩

end Window

namespace Quantity

variable {α : Type} [Quantity α]

def rows {β : Type} (n : Nat) : Nat → List β → List (List β)
  | 0, _ => []
  | count + 1, xs => xs.take n :: rows n count (xs.drop n)

def runningSum (start : α) (xs : List α) : α := xs.foldl (· + ·) start

def joinLanes : List α → α
  | [a, b, c, d, e, f, g, h] => ((a + b) + (c + d)) + ((e + f) + (g + h))
  | xs => runningSum zero xs

def addRows (first : List α) (more : List (List α)) : List α := more.foldl (List.zipWith (· + ·)) first

def laneSum (xs : List α) : α :=
  let full := xs.length / 8
  match rows 8 full xs with
  | [] => runningSum zero xs
  | first :: more => runningSum (joinLanes (addRows first more)) (xs.drop (8 * full))

def longestRow : Nat := 128

def middle (n : Nat) : Nat := n / 2 - n / 2 % 8

theorem middle_pos {n : Nat} (h : longestRow < n) : 0 < middle n := by
  unfold middle longestRow at *
  omega

theorem middle_lt {n : Nat} (h : longestRow < n) : middle n < n := by
  unfold middle longestRow at *
  omega

def sum (xs : List α) : α :=
  if xs.length < 8 then runningSum zero xs
  else if _h : longestRow < xs.length then
    sum (xs.take (middle xs.length)) + sum (xs.drop (middle xs.length))
  else laneSum xs
termination_by xs.length
decreasing_by
  · have := middle_lt ‹_›
    simp only [List.length_take]
    omega
  · have := middle_pos ‹_›
    simp only [List.length_drop]
    omega

end Quantity
end EprBench
