import EprBench.Pulser.Protection

/-! Output words. At every tick the board puts out one word, the sum of the bits of all channels that are on. -/
namespace EprBench.Pulser

def wordAt (rows : List Row) (t : Int) : Int :=
  rows.foldl (fun w r => if r.active t then w + r.channel else w) 0

def anyAt (rows : List Row) (t : Int) : Bool := rows.any (·.active t)

def firstStart (rows : List Row) : Int := (rows.map Row.start).foldl min ((rows.map Row.start).headD 0)

def lastStop (rows : List Row) : Int := (rows.map Row.stop).foldl max ((rows.map Row.stop).headD 0)

def wordsBetween (rows : List Row) (lo hi : Int) : List Int :=
  (List.range (hi - lo).toNat).map fun (i : Nat) => wordAt rows (lo + i)

/-- The words from a little before the first start to the last end, and the tick of the first word. A
row that ends before it starts has no words. -/
def words (rows : List Row) : Outcome (List Int × Int) := do
  if rows.isEmpty then throw .wrongValue
  if rows.any fun r => r.stop < r.start then throw .wrongValue
  let lo := firstStart rows - leadIn
  return (wordsBetween rows lo (lastStop rows), lo)

/-! ### Stretches of equal words -/

/-- The places where a row of words changes, with an idle tick before it and one behind. -/
def edges (ws : List Int) : List Nat :=
  let padded := 0 :: ws ++ [0]
  let steps := List.zipWith (fun a b => (b - a).natAbs) padded padded.tail
  (steps.zipIdx.filter (·.1 != 0)).map (·.2)

def slices (ws : List Int) (places : List Nat) : List (List Int) :=
  ((0 :: places).zip (places ++ [ws.length])).map fun p => (ws.take p.2).drop p.1

/-- The first word of each slice between two edges, and these. -/
def stretches (ws : List Int) : Outcome (List (Int × Nat × Nat)) :=
  let places := edges ws
  ((slices ws places).zip ((0 :: places).zip places)).mapM fun
    | ([], _) => .error .outOfRange
    | (w :: _, place) => .ok (w, place)

/-- A word with the tick or nanosecond at which it starts and how long it lasts. -/
structure Instruction where
  word : Int
  start : Int
  duration : Int
  deriving Repr, DecidableEq

/-- The instructions that play a row of words; idle ticks at its end are left out. The row has to start
with an idle tick. -/
def instructions (timebase : Int) (ws : List Int) : Outcome (List Instruction) := do
  return (← stretches ws).map fun (w, a, b) => ⟨w, timebase * a, timebase * (b - a)⟩

def activeRows (ws : List Int) : Outcome (List Row) := do
  return ((← stretches ws).filter (·.1 != 0)).map fun (w, a, b) => ⟨w, a, b⟩

/-! ### Joining -/

/-- Goes over a row of bits that ends with 1, with the bits behind in `seen`. A stretch of zeros before a
1 becomes ones, unless it is longer than `limit`. -/
def fillGaps (limit : Int) : List Int → Nat → List Int → List Int
  | seen, _, [] => seen.reverse
  | seen, _, [b] => (b :: seen).reverse
  | seen, count, b :: next :: rest =>
    if b = 0 then
      if next = 0 then fillGaps limit (b :: seen) (count + 1) (next :: rest)
      else if next = 1 then
        if (count : Int) < limit then
          fillGaps limit (List.replicate (count + 1) 1 ++ (b :: seen).drop (count + 1)) 0 (next :: rest)
        else fillGaps limit (b :: seen) 0 (next :: rest)
      else fillGaps limit (b :: seen) count (next :: rest)
    else fillGaps limit (b :: seen) count (next :: rest)

def betweenOnes (bits : List Int) : Nat × List Int × Nat :=
  let before := bits.takeWhile (· != 1)
  let after := bits.reverse.takeWhile (· != 1)
  (before.length, (bits.drop before.length).take (bits.length - before.length - after.length), after.length)

def joined (c : Config) (bits : List Int) : Outcome (List Int) :=
  if !bits.contains 1 then .error .outOfRange
  else
    let (before, inner, after) := betweenOnes bits
    .ok (List.replicate before 0 ++ fillGaps (c.minLength + 1) [] 0 inner ++ List.replicate after 0)

def positions (bits : List Int) : List Int :=
  (bits.zipIdx.filter fun b => b.1 == 1).map fun b => (b.2 : Int)

/-- Whether a gap between two ones is shorter than a pulse may be. -/
def hasShortGap (c : Config) (bits : List Int) : Bool :=
  let ones := positions bits
  (ones.zip ones.tail).any fun (a, b) => 1 < b - a && b - a < c.minLength + 1

def protects (c : Config) (channel : Value) : Outcome Bool := do
  if ← channel.equals (.int (← c.channel "LNA_PROTECT")) then return true
  channel.equals (.int (← c.channel "AMP_ON"))

def checkGaps (c : Config) (mode : Mode) (bits : List Int) : Outcome Unit :=
  ensure (mode == .live || !hasShortGap c bits)
    s!"There are two pulses with shorter than {Decimal.intText (c.minLength * 2)} ns distance between them"

/-- Joins bits with short gaps on a protection channel. On another channel there is no answer, and a
rehearsal refuses short gaps. -/
def closeGaps (c : Config) (mode : Mode) (channel : Value) (bits : List Int) : Outcome (Option (List Int)) := do
  if ← protects c channel then
    if hasShortGap c bits then return some (← joined c bits) else return some bits
  else
    checkGaps c mode bits
    return none

def bitsOf (rows : List Row) : Outcome (List Int) := do
  if rows.isEmpty || rows.any fun r => r.start < 0 || r.stop < r.start then throw .wrongValue
  return (List.range (lastStop rows).toNat).map fun (t : Nat) => if anyAt rows t then 1 else 0

def protectionBits (c : Config) (mode : Mode) (channel : Value) (rows : List Row) : Outcome (List Int) := do
  match ← closeGaps c mode channel (← bitsOf rows) with
  | none => throw .wrongType
  | some bits => return bits

def mended (c : Config) (mode : Mode) (name : String) (rows : List Row) : Outcome (List Row) := do
  let (apart, close) := separate rows
  if close.isEmpty then return apart
  let n ← c.channel name
  let bits ← protectionBits c mode (.int n) close
  return apart ++ (← activeRows (bits.map (twoTo n * ·)))

end EprBench.Pulser
