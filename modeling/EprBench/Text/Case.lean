/-! Small letters of all scripts. Capital letters lie in runs with one distance to their small letters, either one
after the other or every other code point. -/
namespace EprBench.Text

/-- Capital letters from 128 on that stand alone, with the distance to the small letter. -/
def singleCapitals : List (Nat × Int) := [
  (376,-121),(385,210),(390,206),(391,1),(395,1),(398,79),(399,202),(400,203),(401,1),(403,205),(404,207),(406,211),
  (407,209),(408,1),(412,211),(413,213),(415,214),(422,218),(423,1),(425,218),(428,1),(430,218),(431,1),(439,219),
  (440,1),(444,1),(452,2),(453,1),(455,2),(456,1),(458,2),(497,2),(502,-97),(503,-56),(544,-130),(570,10795),(571,1),
  (573,-163),(574,10792),(577,1),(579,-195),(580,69),(581,71),(886,1),(895,116),(902,38),(908,64),(975,8),(1012,-60),
  (1015,1),(1017,-7),(1018,1),(1216,15),(4295,7264),(4301,7264),(7838,-7615),(8124,-9),(8140,-9),(8172,-7),(8188,-9),
  (8486,-7517),(8490,-8383),(8491,-8262),(8498,28),(8579,1),(11360,1),(11362,-10743),(11363,-3814),(11364,-10727),
  (11373,-10780),(11374,-10749),(11375,-10783),(11376,-10782),(11378,1),(11381,1),(11506,1),(42877,-35332),(42891,1),
  (42893,-42280),(42922,-42308),(42923,-42319),(42924,-42315),(42925,-42305),(42926,-42308),(42928,-42258),
  (42929,-42282),(42930,-42261),(42931,928),(42948,-48),(42949,-42307),(42950,-35384),(42960,1),(42997,1)]

/-- Runs of capital letters from 128 on in which every other code point is the small letter: the first and the last. -/
def pairedCapitals : List (Nat × Nat) := [
  (256,302),(306,310),(313,327),(330,374),(377,381),(386,388),(416,420),(435,437),(459,475),(478,494),(498,500),
  (504,542),(546,562),(582,590),(880,882),(984,1006),(1120,1152),(1162,1214),(1217,1229),(1232,1326),(7680,7828),
  (7840,7934),(11367,11371),(11392,11490),(11499,11501),(42560,42604),(42624,42650),(42786,42798),(42802,42862),
  (42873,42875),(42878,42886),(42896,42898),(42902,42920),(42932,42946),(42951,42953),(42966,42968)]

/-- The other runs: the first, the last, the step, and the distance to the small letters. -/
def capitalRuns : List (Nat × Nat × Nat × Int) := [
  (192,214,1,32),(216,222,1,32),(393,394,1,205),(433,434,1,217),(904,906,1,37),(910,911,1,63),(913,929,1,32),
  (931,939,1,32),(1021,1023,1,-130),(1024,1039,1,80),(1040,1071,1,32),(1329,1366,1,48),(4256,4293,1,7264),
  (5024,5103,1,38864),(5104,5109,1,8),(7312,7354,1,-3008),(7357,7359,1,-3008),(7944,7951,1,-8),(7960,7965,1,-8),
  (7976,7983,1,-8),(7992,7999,1,-8),(8008,8013,1,-8),(8025,8031,2,-8),(8040,8047,1,-8),(8072,8079,1,-8),
  (8088,8095,1,-8),(8104,8111,1,-8),(8120,8121,1,-8),(8122,8123,1,-74),(8136,8139,1,-86),(8152,8153,1,-8),
  (8154,8155,1,-100),(8168,8169,1,-8),(8170,8171,1,-112),(8184,8185,1,-128),(8186,8187,1,-126),(8544,8559,1,16),
  (9398,9423,1,26),(11264,11311,1,48),(11390,11391,1,-10815),(65313,65338,1,32),(66560,66599,1,40),(66736,66771,1,40),
  (66928,66938,1,39),(66940,66954,1,39),(66956,66962,1,39),(66964,66965,1,39),(68736,68786,1,64),(71840,71871,1,32),
  (93760,93791,1,32),(125184,125217,1,34)]

def capitals : List (Nat × Nat × Nat × Int) :=
  capitalRuns ++ pairedCapitals.map (fun (first, last) => (first, last, 2, (1 : Int))) ++
    singleCapitals.map fun (c, distance) => (c, c, 1, distance)

def small (c : Char) : Char :=
  if c.toNat < 128 then c.toLower
  else
    match capitals.find? fun (first, last, step, _) =>
        first ≤ c.toNat && c.toNat ≤ last && (c.toNat - first) % step == 0 with
    | some (_, _, _, distance) => Char.ofNat (c.toNat + distance).toNat
    | none => c

def isLetterWithCase (c : Char) : Bool :=
  small c != c || ('a' ≤ c && c ≤ 'z') ||
    capitals.any fun (first, last, step, distance) =>
      let n := (c.toNat : Int) - distance
      first ≤ n && n ≤ last && (n - first) % step == 0

def isInnerMark (c : Char) : Bool :=
  "'.:^\x60\u00a8\u00ad\u00af\u00b4\u00b7\u00b8\u2018\u2019\u2024\u2027".toList.contains c ||
    (0x300 ≤ c.toNat && c.toNat ≤ 0x36F)

def goesOn (cs : List Char) : Bool := (cs.find? fun c => !isInnerMark c).any isLetterWithCase

/-- Small letters throughout; `before` is what stands before, last character first. The sigma has a form of its own
at the end of a word, and the dotted capital I leaves its dot behind. -/
def lowerAfter (before : List Char) : List Char → List Char
  | [] => []
  | c :: rest =>
    let new :=
      if c == 'Σ' then [if goesOn before && !goesOn rest then 'ς' else 'σ']
      else if c == 'İ' then ['i', '\u0307']
      else [small c]
    new ++ lowerAfter (c :: before) rest

def lower (s : String) : String := String.ofList (lowerAfter [] s.toList)

end EprBench.Text
