import EprBench.Proofs.Outcome
import EprBench.Proofs.Text
import EprBench.Pulser.Device

/-! Programs in a file. What a rehearsal writes down is read again as it was, as long as its numbers fit into 64 bits.
-/
namespace EprBench.Pulser.Device

open List
open Decimal (natText intText)

variable {c : Char} {is : List Instruction} {p : Device}

/-- A number that a file can hold. -/
def Short (n : Int) : Prop := n.natAbs < 2 ^ 63

instance : DecidablePred Short := fun n => inferInstanceAs (Decidable (n.natAbs < 2 ^ 63))

lemma isBlank_of_isDigit (digit : c.isDigit = true) : Text.isBlank c = false := by
  have range := Decimal.toNat_of_isDigit digit
  simp only [Text.isBlank, Bool.or_eq_false_iff, Bool.and_eq_false_iff, decide_eq_false_iff_not]
  omega

lemma takeSign_intText (n : Int) : Decimal.takeSign ((intText n).toList.dropWhile Text.isBlank) =
      (decide (n < 0), (natText n.natAbs).toList) := by
  cases n with
  | ofNat n =>
    have digits : ∀ c ∈ (natText n).toList, c.isDigit = true := fun c => Decimal.digit_of_mem_natText
    rw [intText, Decimal.dropWhile_of_forall fun c hc => isBlank_of_isDigit (digits c hc),
      Decimal.takeSign_of_isDigit digits, decide_eq_false (by simp)]
    rfl
  | negSucc n =>
    rw [intText, String.toList_append, decide_eq_true (Int.negSucc_lt_zero n)]
    rfl

lemma numbersOf_cons {n : Int} (short : Short n) (more : List (List Char)) :
    numbersOf ((intText n).toList :: more) = n :: numbersOf more := by
  have digits : (natText n.natAbs).toList.takeWhile Char.isDigit = (natText n.natAbs).toList :=
    takeWhile_eq_self_iff.mpr fun c => Decimal.digit_of_mem_natText
  rw [numbersOf]
  simp only [takeSign_intText, digits, drop_length, String.ofList_toList, Decimal.parseInt?_natText short]
  have value : (if decide (n < 0) = true then -(n.natAbs : Int) else n.natAbs) = n := by
    simp only [decide_eq_true_eq]
    split <;> omega
  rw [value, all_nil, if_pos rfl]

lemma numbersOf_map {ns : List Int} (short : ∀ n ∈ ns, Short n) :
    numbersOf (ns.map fun n => (intText n).toList) = ns := by
  induction ns with
  | nil => rfl
  | cons n ns ih =>
    obtain ⟨here, later⟩ := forall_mem_cons.mp short
    rw [map_cons, numbersOf_cons here, ih later]

/-! ### Lines -/

lemma triples_flatMap (is : List Instruction) : triples (is.flatMap fun i => [i.word, i.start, i.duration]) = some is := by
  induction is with
  | nil => rfl
  | cons i is ih =>
    rw [flatMap_cons]
    show (triples (is.flatMap _)).map _ = _
    rw [ih]
    rfl

def numbers (is : List Instruction) : List Int := is.flatMap fun i => [i.word, i.start, i.duration]

/-- A program whose numbers a file can hold. -/
def Legible (is : List Instruction) : Prop := ∀ n ∈ numbers is, Short n

instance : DecidablePred Legible := fun is => inferInstanceAs (Decidable (∀ n ∈ numbers is, Short n))

def line (is : List Instruction) : String := ",".intercalate ((numbers is).map intText)

lemma line_toList (is : List Instruction) :
    (line is).toList = [','].intercalate ((numbers is).map fun n => (intText n).toList) := by
  rw [line, String.toList_intercalate, map_map]
  rfl

lemma isLineEnd_of_mem_line (member : c ∈ (line is).toList) : Text.isLineEnd c = false := by
  rw [line_toList] at member
  rcases Text.mem_of_mem_intercalate member with comma | ⟨piece, hp, hc⟩
  · rw [mem_singleton.mp comma]
    decide
  · obtain ⟨n, -, rfl⟩ := mem_map.mp hp
    rcases Decimal.mem_intText hc with digit | rfl
    · have range := Decimal.toNat_of_isDigit digit
      simp only [Text.isLineEnd, Bool.or_eq_false_iff, Bool.and_eq_false_iff, decide_eq_false_iff_not]
      omega
    · decide

lemma triples_line (filled : is ≠ []) (legible : Legible is) :
    triples (numbersOf (Text.splitAt ',' (line is).toList)) = some is := by
  have pieces : (numbers is).map (fun n => (intText n).toList) ≠ [] := by
    cases is with
    | nil => exact absurd rfl filled
    | cons i is => simp [numbers]
  have apart : ∀ piece ∈ (numbers is).map (fun n => (intText n).toList), ',' ∉ piece := by
    intro piece hp comma
    obtain ⟨n, -, rfl⟩ := mem_map.mp hp
    rcases Decimal.mem_intText comma with digit | sign
    · exact absurd digit (by decide)
    · exact absurd sign (by decide)
  rw [Text.splitAt_eq_splitOn, line_toList, splitOn_intercalate _ apart pieces, numbersOf_map legible]
  exact triples_flatMap is

lemma lines_of_record (programs : List (List Instruction)) :
    (Text.lines (Text.plainLineEnds (String.join (programs.map recordLine)).toList)).map String.ofList =
      programs.map line := by
  have text : (String.join (programs.map recordLine)).toList =
      (programs.map fun is => (line is).toList).flatMap (· ++ ['\n']) := by
    rw [String.toList_join, flatMap_map, flatMap_map]
    exact flatMap_congr fun is _ => String.toList_append
  have within : ∀ l ∈ programs.map fun is => (line is).toList, ∀ c ∈ l, Text.isLineEnd c = false := by
    intro l hl c hc
    obtain ⟨is, -, rfl⟩ := mem_map.mp hl
    exact isLineEnd_of_mem_line hc
  have plain : '\r' ∉ (programs.map fun is => (line is).toList).flatMap (· ++ ['\n']) := by
    intro member
    obtain ⟨l, hl, hc⟩ := mem_flatMap.mp member
    rcases mem_append.mp hc with inside | ended
    · exact absurd (within l hl _ inside) (by decide)
    · exact absurd (mem_singleton.mp ended) (by decide)
  rw [text, Text.plainLineEnds_eq_self plain, Text.lines_flatten within, map_map]
  exact map_congr_left fun is _ => String.ofList_toList

/-! ### The file -/

lemma localName_recordFile : Bench.localName recordFile = recordFile := by decide +kernel

def recordText (b : Bench) : String := (b.files.lookup recordFile).getD ""

lemma lookup_replaced {files : List (String × String)} {name : String} (present : files.any (·.1 == name) = true)
    (text : String) : (files.map fun e => if e.1 == name then (name, text) else e).lookup name = some text := by
  induction files with
  | nil => simp at present
  | cons e files ih =>
    rw [map_cons, lookup_cons]
    by_cases here : e.1 = name
    · simp [here]
    · have other : (name == e.1) = false := beq_false_of_ne (Ne.symm here)
      have later : files.any (·.1 == name) = true := by simpa [here] using present
      simp only [beq_iff_eq, here, if_false, other]
      simpa using ih later

lemma lookup_added {files : List (String × String)} {name : String} (absent : ¬ files.any (·.1 == name) = true)
    (text : String) : (files ++ [(name, text)]).lookup name = some text := by
  have none : files.lookup name = none := by
    rw [lookup_eq_none_iff]
    intro e he
    refine bne_iff_ne.mpr fun same => absent (any_eq_true.mpr ⟨e, he, beq_iff_eq.mpr same.symm⟩)
  rw [lookup_append, none, Option.none_or, lookup_cons_self]

lemma recordText_append (text : String) (b : Bench) :
    ∃ b', carry (Bench.appendFile recordFile text) b = (.ok (), b') ∧ recordText b' = recordText b ++ text := by
  refine ⟨_, rfl, ?_⟩
  show ((if b.files.any (·.1 == Bench.localName recordFile) then _ else _ : List (String × String)).lookup _).getD "" =
    recordText b ++ text
  rw [localName_recordFile]
  split
  · rename_i present
    rw [lookup_replaced present]
    rfl
  · rename_i absent
    rw [lookup_added absent]
    rfl

lemma perform_record_text (records : p.fromFile = true) (is : List Instruction) (b : Bench) :
    ∃ b', perform (record is) p b = ((.ok (), p), b') ∧ recordText b' = recordText b ++ recordLine is := by
  obtain ⟨b', written, text⟩ := recordText_append (recordLine is) b
  refine ⟨b', ?_, text⟩
  rw [record, perform_get_bind, records, if_pos rfl, perform_work, written]

/-- The file is there and can be read. -/
structure Readable (c : Bench) (text : String) : Prop where
  file : c.files.lookup recordFile = some text
  plain : (carry (Bench.isDirectory recordFile) c).1 = .ok false

lemma carry_readFile {c : Bench} {text : String} (readable : Readable c text) :
    carry (Bench.readFile recordFile) c = (.ok (Text.plainLineEnds text.toList), c) := by
  have whole : recordFile.toList.contains '\x00' = false := by decide +kernel
  have named : recordFile.isEmpty = false := by decide +kernel
  have above : Bench.directory? recordFile = none := by decide +kernel
  have directory : carry (Bench.isDirectory recordFile) c = (.ok false, c) := Prod.ext readable.plain rfl
  have present : carry (Bench.fileText? recordFile) c = (.ok (some text), c) := by
    have step : carry (Bench.fileText? recordFile) c = (.ok (c.files.lookup (Bench.localName recordFile)), c) := rfl
    rw [step, localName_recordFile, readable.file]
  have opened : carry (Bench.openFile recordFile ⟨.read, false⟩) c = (.ok ⟨recordFile, false, some 0⟩, c) := by
    simp only [Bench.openFile, whole, localName_recordFile, named, Bool.false_eq_true, if_false]
    rw [carry_bind, directory]
    simp only [above, Bool.false_eq_true, if_false]
    rw [carry_bind, present]
    rfl
  rw [Bench.readFile, carry_bind, opened]
  simp only
  rw [carry_bind, present]
  rfl

lemma perform_useFile (live : p.mode = .live) {c : Bench} {text : String} (readable : Readable c text) :
    perform (useFile (.int 1) (.text recordFile)) p c = ((.ok (), { p with
      fromFile := true
      recorded := some ((Text.lines (Text.plainLineEnds text.toList)).map String.ofList) }), c) := by
  have asked : (Value.int 1).equals 1 = .ok true := by decide +kernel
  have reads : (p.mode == .live) = true := by
    rw [live]
    rfl
  rw [useFile, perform_get_bind, perform_bind, perform_lift, asked, proceed_ok, if_pos rfl,
    perform_modify_bind, if_pos reads]
  rw [perform_bind, perform_work, carry_readFile readable, proceed_ok, perform_modify]

lemma perform_useFile_rehearsal (rehearsal : p.mode = .rehearsal) (b : Bench) :
    perform (useFile (.int 1) (.text recordFile)) p b = ((.ok (), { p with fromFile := true }), b) := by
  have asked : (Value.int 1).equals 1 = .ok true := by decide +kernel
  have writes : ¬ (p.mode == .live) = true := by
    rw [rehearsal]
    decide
  rw [useFile, perform_get_bind, perform_bind, perform_lift, asked, proceed_ok, if_pos rfl,
    perform_modify_bind, if_neg writes, perform_pure]

lemma recordedProgram_eq {programs : List (List Instruction)}
    (recorded : p.recorded = some (programs.map line)) {i : Nat} (count : p.updates = some (i : Int))
    (here : programs[i]? = some is) (filled : is ≠ []) (legible : Legible is) : p.recordedProgram = .ok is := by
  have picked : pick (programs.map line) (i : Int) = .ok (line is) := by
    rw [pick, Text.item?, if_neg (by omega), Int.toNat_natCast, getElem?_map, here]
    rfl
  rw [recordedProgram, recorded, count]
  simp only
  rw [picked, Outcome.ok_bind, triples_line filled legible]
  rfl

end EprBench.Pulser.Device
