import EprBench.Proofs.Digitizer.Registers

/-! The settings of the control panel. A rehearsal corrects the numbers in the file; a session takes them as they are
and sends them to the card. -/
namespace EprBench.Digitizer

open Recorder Value Outcome

/-- The numbers that the file of the control panel holds. -/
structure PanelNumbers where
  points : Int
  rate : Int
  posttrigger : Int
  range : Int
  offset0 : Int
  offset1 : Int
  left : Int
  right : Int

structure ReadsSettings (lines : List String) (p : PanelNumbers) : Prop where
  points : Panel.field lines 0 1 = .ok p.points
  rate : Panel.field lines 1 2 = .ok p.rate
  posttrigger : Panel.field lines 2 1 = .ok p.posttrigger
  range : Panel.field lines 3 1 = .ok p.range
  offset0 : Panel.field lines 4 2 = .ok p.offset0
  offset1 : Panel.field lines 5 2 = .ok p.offset1

/-- The window follows them. -/
structure Reads (lines : List String) (p : PanelNumbers) : Prop extends ReadsSettings lines p where
  left : Panel.field lines 6 2 = .ok p.left
  right : Panel.field lines 7 2 = .ok p.right

/-- The file on a bench has them. -/
def FileHolds (b : Bench) (p : PanelNumbers) : Prop :=
  ∃ content, b.files.lookup (Bench.localName Panel.fileName) = some content ∧ Reads (Panel.lines content) p

variable {s t : Recorder} {b : Bench} {p : PanelNumbers} {lines : List String}

lemma carry_read (b : Bench) : carry Panel.read b = match b.files.lookup (Bench.localName Panel.fileName) with
    | some content => (.ok (Panel.lines content), b)
    | none => (.error .fileMissing, b) := by
  have asked : carry (Bench.fileText? Panel.fileName) b = (.ok (b.files.lookup (Bench.localName Panel.fileName)), b) := rfl
  rw [Panel.read, carry_bind, asked]
  cases b.files.lookup (Bench.localName Panel.fileName) <;> rfl

/-! ### What the panel makes of the settings -/

def started (r : Recorder) : Recorder :=
  { r with
    panelRead := true
    averaging := true
    clockMode := if r.model.hasPaths then 32 else r.clockMode
    reference := if r.model.hasPaths then 100 else r.reference }

def replaced (p : PanelNumbers) (r : Recorder) : Recorder :=
  { r with
    points := p.points
    rate := .int p.rate
    posttrigger := p.posttrigger
    range0 := p.range
    range1 := p.range
    offset0 := p.offset0
    offset1 := p.offset1 }

def mended (p : PanelNumbers) (r : Recorder) : Recorder :=
  let points := (pointsFor r.model r.posttrigger p.points).1
  let range := nearestOf p.range (if r.buffered then r.model.bufferedRanges else r.model.ranges)
  { r with
    points := points
    rate := .float (Decimal.ofQuotient (nearestOf (1000000 * p.rate) r.model.rates) 1000000)
    posttrigger := (posttriggerFor r.model r.mode points p.posttrigger).1
    range0 := range
    range1 := range
    offset0 := p.offset0
    offset1 := p.offset1 }

def windowed (p : PanelNumbers) (r : Recorder) : Recorder := { r with window := ⟨p.left, 1 + p.right⟩ }

/-- The settings that a session takes from the file. -/
def taken (p : PanelNumbers) (r : Recorder) : Recorder := windowed p (replaced p (started r))

structure Admitted (r : Recorder) (p : PanelNumbers) : Prop where
  points : r.model.least ≤ p.points
  posttrigger : r.model.step ≤ p.posttrigger
  slow : 0 < p.rate
  fast : p.rate ≤ r.model.topRate

lemma sets_takePanel (reads : ReadsSettings lines p) (s : Recorder) : Sets [] (replaced p s) (takePanel lines) s :=
  .lift_bind reads.points ((Sets.modify _).last fun _ => .lift_bind reads.rate ((Sets.modify _).last fun _ =>
    .lift_bind reads.posttrigger ((Sets.modify _).last fun _ => .lift_bind reads.range ((Sets.modify _).last fun _ =>
    .lift_bind reads.offset0 ((Sets.modify _).last fun _ => .lift_bind reads.offset1 (Sets.modify _))))))

lemma sets_takeWindow (reads : Reads lines p) (s : Recorder) : Sets [] (windowed p s)
    (Panel.takeWindow lines fun f (r : Recorder) => { r with window := f r.window }) s :=
  .lift_bind reads.left ((Sets.modify _).last fun _ => .lift_bind reads.right (Sets.modify _))

def takeLines (lines : List String) : Act Recorder Unit := do
  let mode := (← get).mode
  match mode with
  | .live => takePanel lines
  | .rehearsal => rehearsePanel lines
  Panel.takeWindow lines fun f (r : Recorder) => { r with window := f r.window }
  if mode == .live then setup

lemma perform_readPanel {content : String} (found : b.files.lookup (Bench.localName Panel.fileName) = some content)
    (s : Recorder) : perform readPanel s b = perform (takeLines (Panel.lines content)) (started s) b := by
  rw [readPanel, perform_modify_bind, perform_bind, perform_work, carry_read, found]
  rfl

lemma readPanel_live (live : s.mode = .live) (file : FileHolds b p) (card : CardAtHand b) :
    ∃ fullScale b', perform readPanel s b = ((.ok (), programmed (taken p s) fullScale), b') ∧
      writtenSince b b' = setupValues (taken p s) (1000000 * p.rate) := by
  obtain ⟨content, found, reads⟩ := file
  have known : (taken p s).hertz = .ok (1000000 * p.rate) := rfl
  have goes : Reaches (setupValues (taken p s) (1000000 * p.rate)) (fun _ t => ∃ fullScale, t = programmed (taken p s) fullScale)
      (takeLines (Panel.lines content)) (started s) := by
    refine .get_bind ?_
    rw [show (started s).mode = .live from live]
    exact .quiet_bind (sets_takePanel reads.toReadsSettings _) fun _ => .quiet_bind (sets_takeWindow reads _) fun _ =>
      reaches_setup (s := taken p s) live known
  obtain ⟨_, t, b', ran, new, -, fullScale, rfl⟩ := goes b card
  exact ⟨fullScale, b', (perform_readPanel found s).trans ran, writtenSince_eq new⟩

/-! ### What a rehearsal accepts -/

variable {α : Type} {n : Int}

abbrev Leaves (Q : Recorder → Prop) (x : Act Recorder α) (s : Recorder) : Prop := Ensures (fun _ => True) (fun _ => Q) x s

lemma tooFew_correct (c : Corrected) (bad : Int → Bool) (mended : Int → Int) {remark : Remark} (other : remark ≠ .tooFew) :
    .tooFew ∈ (correct c bad mended remark).2 ↔ .tooFew ∈ c.2 := by
  unfold correct
  split
  · simp [other.symm]
  · rfl

lemma tooFew_onGrid (step least n : Int) : .tooFew ∈ (onGrid step least n).2 ↔ n < least := by
  rw [onGrid, tooFew_correct _ _ _ (by decide), correct]
  by_cases few : n < least
  · simp [few]
  · simp [few]

lemma leaves_takeCorrected (rehearsal : s.mode = .rehearsal) (remark : Remark → String) (tooFew : String) (c : Corrected)
    (put : Int → Recorder → Recorder) :
    Leaves (fun s' => .tooFew ∉ c.2 ∧ s' = put c.1 s) (takeCorrected remark tooFew c put) s := by
  refine .get_bind ?_
  rw [rehearsal]
  refine .lift_bind trivial fun _ enough => .modify trivial ⟨?_, rfl⟩
  simpa using ensure_eq_ok.mp enough

lemma leaves_takePoints (rehearsal : s.mode = .rehearsal) (n : Int) :
    Leaves (fun s' => s.model.least ≤ n ∧ s' = { s with points := (pointsFor s.model s.posttrigger n).1 })
      (takePoints (.int n)) s := by
  refine .lift_bind trivial fun k whole => .get_bind ?_
  obtain rfl : n = k := Except.ok.inj whole
  refine (leaves_takeCorrected rehearsal _ _ _ _).mono fun _ s' ⟨enough, same⟩ => ⟨?_, same⟩
  rwa [pointsFor, tooFew_correct _ _ _ (by decide), tooFew_onGrid, not_lt] at enough

lemma leaves_takePosttrigger (rehearsal : s.mode = .rehearsal) (n : Int) :
    Leaves (fun s' => s.model.step ≤ n ∧ s' = { s with posttrigger := (posttriggerFor s.model s.mode s.points n).1 })
      (takePosttrigger (.int n)) s := by
  refine .lift_bind trivial fun k whole => .get_bind ?_
  obtain rfl : n = k := Except.ok.inj whole
  refine (leaves_takeCorrected rehearsal _ _ _ _).mono fun _ s' ⟨enough, same⟩ => ⟨?_, same⟩
  rwa [posttriggerFor, tooFew_correct _ _ _ (by decide), tooFew_correct _ _ _ (by decide), tooFew_onGrid, not_lt] at enough

lemma leaves_message {Q : Recorder → Prop} {text : String} {x : Act Recorder α} (later : Leaves Q x s) :
    Leaves Q (do Bench.message text; x) s :=
  Ensures.bind (.of_within (Within.work _) (fun _ _ _ _ => trivial) fun _ _ _ _ same => same) fun _ s' same => by
    obtain rfl : s' = s := same
    exact later

lemma leaves_reject (rehearsal : s.mode = .rehearsal) (text reason : String) :
    Leaves (fun _ => False) (reject text reason : Act Recorder α) s := by
  refine .get_bind ?_
  rw [rehearsal]
  exact .throw _ trivial

lemma leaves_takeRate (rehearsal : s.mode = .rehearsal) (n : Int) : Leaves (fun s' => (0 < n ∧ n ≤ s.model.topRate) ∧
      s' = { s with rate := .float (Decimal.ofQuotient (nearestOf (1000000 * n) s.model.rates) 1000000) })
        (takeRate (.int n)) s := by
  refine .lift_bind trivial fun k whole => .get_bind ?_
  obtain rfl : n = k := Except.ok.inj whole
  refine .ite (fun _ => (leaves_reject rehearsal _ _).bind fun _ _ never => never.elim) fun inside => ?_
  have bounds : 0 < n ∧ n ≤ s.model.topRate := by
    simp only [Bool.or_eq_true, decide_eq_true_eq, gt_iff_lt] at inside
    omega
  exact .ite (fun _ => leaves_message (.modify trivial ⟨bounds, rfl⟩)) fun _ => .modify trivial ⟨bounds, rfl⟩

lemma leaves_takeRange (s : Recorder) (n : Int) : Leaves (fun s' => s' = { s with
      range0 := nearestOf n (if s.buffered then s.model.bufferedRanges else s.model.ranges)
      range1 := nearestOf n (if s.buffered then s.model.bufferedRanges else s.model.ranges) }) (takeRange (.int n)) s := by
  refine .lift_bind trivial fun k whole => .get_bind ?_
  obtain rfl : n = k := Except.ok.inj whole
  exact .ite (fun _ => leaves_message (.modify trivial rfl)) fun _ => .modify trivial rfl

lemma number_offsets {m : Model} {suffix name : String} {x n : Int}
    (used : (offsets m).number .rehearsal suffix name x = .ok n) : n = x := by
  obtain ⟨-, -, checked⟩ := bind_eq_ok.mp used
  obtain ⟨-, -, same⟩ := bind_eq_ok.mp checked
  exact (Except.ok.inj same).symm

lemma leaves_takeOffsets {Q : Recorder → Prop} (rehearsal : s.mode = .rehearsal) {first second : Int}
    (there : Q { s with offset0 := first, offset1 := second }) :
    Leaves Q (takeOffsets ["CH0", .int first, "CH1", .int second]) s := by
  have run : Leaves Q ((offsets s.model).run (refresh fun r => Card.putAll r.offsetRegisters)
      ["CH0", .int first, "CH1", .int second]) s := by
    refine .get_bind ?_
    rw [rehearsal]
    refine .lift_bind trivial fun u known => .lift_bind trivial fun v known' => ?_
    refine .lift_bind trivial fun n used => .lift_bind trivial fun n' used' => .modify_bind ?_
    obtain rfl : n = first := (number_offsets used).trans (Except.ok.inj known).symm
    obtain rfl : n' = second := (number_offsets used').trans (Except.ok.inj known').symm
    exact .pure trivial there
  refine .get_bind ?_
  rw [rehearsal]
  exact run

lemma leaves_rehearsePanel (rehearsal : s.mode = .rehearsal) :
    Leaves (fun s' => ∃ p, ReadsSettings lines p ∧ Admitted s p ∧ s' = mended p s) (rehearsePanel lines) s := by
  refine .lift_bind trivial fun points hPoints => .bind (leaves_takePoints rehearsal points) ?_
  rintro _ _ ⟨enough, rfl⟩
  refine .lift_bind trivial fun rate hRate => .bind (leaves_takeRate (by exact rehearsal) rate) ?_
  rintro _ _ ⟨⟨slow, fast⟩, rfl⟩
  refine .lift_bind trivial fun posttrigger hPosttrigger =>
    Ensures.bind (leaves_takePosttrigger (by exact rehearsal) posttrigger) ?_
  rintro _ _ ⟨after, rfl⟩
  refine .lift_bind trivial fun range hRange => .bind (leaves_takeRange _ range) ?_
  rintro _ _ rfl
  refine .lift_bind trivial fun offset0 hOffset0 => .lift_bind trivial fun offset1 hOffset1 => ?_
  refine .bind (leaves_takeOffsets (by exact rehearsal) rfl) ?_
  rintro _ _ rfl
  exact .pure trivial ⟨⟨points, rate, posttrigger, range, offset0, offset1, 0, 0⟩,
    ⟨hPoints, hRate, hPosttrigger, hRange, hOffset0, hOffset1⟩, ⟨enough, after, slow, fast⟩, rfl⟩

lemma leaves_takeWindow (lines : List String) (s : Recorder) :
    Leaves (fun s' => ∃ left right, Panel.field lines 6 2 = .ok left ∧ Panel.field lines 7 2 = .ok right ∧
      s' = { s with window := ⟨left, 1 + right⟩ }) (Panel.takeWindow lines fun f (r : Recorder) =>
        { r with window := f r.window }) s :=
  .lift_bind trivial fun left hLeft => .modify_bind (.lift_bind trivial fun right hRight =>
    .modify trivial ⟨left, right, hLeft, hRight, rfl⟩)

lemma readPanel_rehearsal (rehearsal : s.mode = .rehearsal) {s' : Recorder} {b' : Bench}
    (accepted : perform readPanel s b = ((.ok (), s'), b')) :
    ∃ p, FileHolds b p ∧ Admitted s p ∧ s' = windowed p (mended p (started s)) := by
  obtain ⟨content, found⟩ : ∃ content, b.files.lookup (Bench.localName Panel.fileName) = some content := by
    refine Option.ne_none_iff_exists'.mp fun none => ?_
    rw [readPanel, perform_modify_bind, perform_bind, perform_work, carry_read, none] at accepted
    simp at accepted
  rw [perform_readPanel found] at accepted
  have ends : Leaves (fun s' => ∃ p, Reads (Panel.lines content) p ∧ Admitted s p ∧ s' = windowed p (mended p (started s)))
      (takeLines (Panel.lines content)) (started s) := by
    refine .get_bind ?_
    rw [show (started s).mode = .rehearsal from rehearsal]
    refine .bind (leaves_rehearsePanel (by exact rehearsal)) ?_
    rintro _ _ ⟨p, reads, admitted, rfl⟩
    refine .bind (leaves_takeWindow _ _) ?_
    rintro _ _ ⟨left, right, hLeft, hRight, rfl⟩
    exact .pure trivial ⟨{ p with left := left, right := right }, ⟨⟨reads.points, reads.rate, reads.posttrigger, reads.range,
      reads.offset0, reads.offset1⟩, hLeft, hRight⟩, ⟨admitted.points, admitted.posttrigger, admitted.slow, admitted.fast⟩, rfl⟩
  obtain ⟨p, reads, admitted, same⟩ := (ends b).2 () (congrArg (·.1.1) accepted)
  exact ⟨p, ⟨content, found, reads⟩, admitted, (congrArg (·.1.2) accepted).symm.trans same⟩

/-! ### Where both agree -/

/-- The settings that come from the panel are the same. -/
structure SamePanel (s t : Recorder) : Prop where
  points : t.points = s.points
  posttrigger : t.posttrigger = s.posttrigger
  rate : t.rate.real = s.rate.real
  range0 : t.range0 = s.range0
  range1 : t.range1 = s.range1
  offset0 : t.offset0 = s.offset0
  offset1 : t.offset1 = s.offset1
  window : t.window = s.window

/-- Numbers that need no correction where they are read. -/
structure Plain (s : Recorder) (p : PanelNumbers) : Prop where
  points : 16 ∣ p.points
  near : p.points - s.posttrigger ≤ 8000
  rate : p.rate ∈ ([125, 250, 500] : List Int)
  posttrigger : 16 ∣ p.posttrigger
  room : p.posttrigger ≤ p.points - 16
  apart : p.points - p.posttrigger ≤ 8000
  range : p.range ∈ if s.buffered then m4i4450.bufferedRanges else m4i4450.ranges

lemma real_eq_iff {n : Int} (small : n.natAbs < 2 ^ 53) :
    Number.real (.int n) = Number.real (.float (Decimal.ofQuotient (nearestOf (1000000 * n) m4i4450.rates) 1000000)) ↔
      n ∈ ([125, 250, 500] : List Int) := by
  constructor
  · have table : ∀ r ∈ m4i4450.rates, ∀ k ∈ Decimal.truncate? (Decimal.ofQuotient r 1000000),
        Decimal.ofInt k = Decimal.ofQuotient r 1000000 → k ∈ ([125, 250, 500] : List Int) := by decide +kernel
    intro same
    have finite : Decimal.isFinite (Decimal.ofInt n) = true := Decimal.isFinite_ofFraction _ small (by decide)
    have real : Number.real (.int n) = .ok (Decimal.ofInt n) := if_pos finite
    have equal := Except.ok.inj (real.symm.trans same)
    refine table _ (nearestOf_mem (1000000 * n) (by decide)) n ?_ equal
    rw [← equal]
    exact Decimal.truncate?_ofInt small
  · have table : ∀ n ∈ ([125, 250, 500] : List Int), Number.real (.int n) =
        Number.real (.float (Decimal.ofQuotient (nearestOf (1000000 * n) m4i4450.rates) 1000000)) := by decide +kernel
    exact table n

lemma samePanel_iff (model : s.model = m4i4450) (rehearsal : s.mode = .rehearsal) (even : 16 ∣ s.posttrigger)
    (admitted : Admitted s p) (opened : Bool) (bytes scale : Option Int) (fullScale : Int) :
    SamePanel (windowed p (mended p (started s))) (programmed (taken p (liveOf s opened bytes scale)) fullScale) ↔ Plain s p := by
  obtain ⟨enough, after, slow, fast⟩ := admitted
  rw [model] at enough after fast
  change 32 ≤ p.points at enough
  change 16 ≤ p.posttrigger at after
  change p.rate ≤ 500 at fast
  have points : (mended p (started s)).points = min (onGrid 16 32 p.points).1 (s.posttrigger + 8000) := by
    rw [← pointsFor_fst, ← model]
    rfl
  have posttrigger : (mended p (started s)).posttrigger =
      max (min ((mended p (started s)).points - 16) (onGrid 16 16 p.posttrigger).1) ((mended p (started s)).points - 8000) := by
    rw [← (posttriggerFor_fst ..).2, ← model, ← rehearsal]
    rfl
  have rate : Number.real (.int p.rate) = (mended p (started s)).rate.real ↔ p.rate ∈ ([125, 250, 500] : List Int) := by
    rw [← real_eq_iff (by omega), ← model]
    rfl
  have range : p.range = (mended p (started s)).range0 ↔
      p.range ∈ if s.buffered then m4i4450.bufferedRanges else m4i4450.ranges := by
    have some : (if s.buffered then m4i4450.bufferedRanges else m4i4450.ranges) ≠ [] := by
      split <;> decide
    rw [← nearestOf_eq_iff _ some, eq_comm, ← model]
    rfl
  obtain ⟨evenPoints, abovePoints, tightPoints⟩ := onGrid_spec (by decide : (0 : Int) < 16) 32 p.points
  obtain ⟨evenAfter, aboveAfter, tightAfter⟩ := onGrid_spec (by decide : (0 : Int) < 16) 16 p.posttrigger
  constructor
  · rintro ⟨samePoints, sameAfter, sameRate, sameRange, -⟩
    change p.points = (mended p (started s)).points at samePoints
    change p.posttrigger = (mended p (started s)).posttrigger at sameAfter
    rw [← samePoints] at posttrigger points
    rw [← sameAfter] at posttrigger
    exact ⟨by omega, by omega, rate.mp sameRate, by omega, by omega, by omega, range.mp sameRange⟩
  · rintro ⟨wholePoints, near, hasRate, wholeAfter, room, apart, hasRange⟩
    have samePoints : p.points = (mended p (started s)).points := by omega
    have sameAfter : p.posttrigger = (mended p (started s)).posttrigger := by omega
    exact ⟨samePoints, sameAfter, rate.mpr hasRate, range.mpr hasRange, range.mpr hasRange, rfl, rfl, rfl⟩

/-- **A panel means the same in a rehearsal and in a session just if its numbers need no correction.** A session reads every file
that a rehearsal accepts, has the offsets and the window of the rehearsal and sends all settings that it has to the card. The
other settings are those of the rehearsal if and only if the numbers in the file are plain ones. -/
theorem panel_holds_iff_plain (model : s.model = m4i4450) (rehearsal : s.mode = .rehearsal) (even : 16 ∣ s.posttrigger)
    {s' : Recorder} {b b' c : Bench} (accepted : perform readPanel s b = ((.ok (), s'), b')) (same : c.files = b.files)
    (card : CardAtHand c) (opened : Bool) (bytes scale : Option Int) :
    ∃ p, FileHolds b p ∧ ∃ t c', perform readPanel (liveOf s opened bytes scale) c = ((.ok (), t), c') ∧
      (t.offset0 = s'.offset0 ∧ t.offset1 = s'.offset1 ∧ t.window = s'.window) ∧
      (t.bufferBytes = some t.bytes ∧ ∃ hertz, t.hertz = .ok hertz ∧ writtenSince c c' = setupValues t hertz) ∧
      (SamePanel s' t ↔ Plain s p) := by
  obtain ⟨p, file, admitted, rfl⟩ := readPanel_rehearsal rehearsal accepted
  have there : FileHolds c p := by rwa [FileHolds, same]
  obtain ⟨fullScale, c', ran, sent⟩ := readPanel_live (s := liveOf s opened bytes scale) rfl there card
  exact ⟨p, file, _, c', ran, ⟨rfl, rfl, rfl⟩, ⟨rfl, _, rfl, sent⟩,
    samePanel_iff model rehearsal even admitted opened bytes scale fullScale⟩

/-- A short file of the control panel. -/
def panelText (points : String) : String := "P " ++ points ++ "\nR = 250\nT 16\nV 500\nO 0 0\nO 1 0\nL = 0\nR = 0"

def panelBench (points : String) : Bench := { files := [("atomize/control_center/digitizer.param", panelText points)] }

/-- All settings come out the same for 224 points at 250 MHz. -/
theorem panel_of_plain_numbers : ∃ t c, perform readPanel (ofModel m4i4450 .live) (panelBench "224") = ((.ok (), t), c) ∧
    SamePanel (perform readPanel (ofModel m4i4450 .rehearsal) (panelBench "224")).1.2 t := by
  have accepted : answer readPanel (ofModel m4i4450 .rehearsal) (panelBench "224") = .ok () := by decide +kernel
  have card : CardAtHand (panelBench "224") := by simp [CardAtHand, panelBench]
  obtain ⟨p, ⟨content, found, reads⟩, t, c, ran, -, -, agree⟩ :=
    panel_holds_iff_plain rfl rfl (by decide) (perform_of_answer accepted) rfl card false none none
  have named : Bench.localName Panel.fileName = "atomize/control_center/digitizer.param" := by decide +kernel
  have split : Panel.lines (panelText "224") = ["P 224", "R = 250", "T 16", "V 500", "O 0 0", "O 1 0", "L = 0", "R = 0"] := by
    decide +kernel
  obtain rfl : panelText "224" = content := by simpa [panelBench, named] using found
  rw [split] at reads
  have points : 224 = p.points := Except.ok.inj (Eq.trans (by decide +kernel) reads.points)
  have rate : 250 = p.rate := Except.ok.inj (Eq.trans (by decide +kernel) reads.rate)
  have posttrigger : 16 = p.posttrigger := Except.ok.inj (Eq.trans (by decide +kernel) reads.posttrigger)
  have range : 500 = p.range := Except.ok.inj (Eq.trans (by decide +kernel) reads.range)
  have plain : Plain (ofModel m4i4450 .rehearsal) p := by
    constructor
    · omega
    · rw [← points]; decide
    · rw [← rate]; decide
    · omega
    · omega
    · omega
    · rw [← range]; decide
  exact ⟨t, c, ran, agree.mpr plain⟩

/-- With 100 points in the file a rehearsal goes on with 112, and a session with 100. -/
theorem panel_of_uneven_points : (perform readPanel (ofModel m4i4450 .rehearsal) (panelBench "100")).1.2.points = 112 ∧
    (perform readPanel (ofModel m4i4450 .live) (panelBench "100")).1.2.points = 100 := by
  decide +kernel

end EprBench.Digitizer
