import EprBench.Proofs.Pulser.Conversion
import EprBench.Proofs.Pulser.Groups
import EprBench.Proofs.Pulser.Joining
import EprBench.Proofs.Pulser.Shields
import EprBench.Pulser.Device

/-! The rows that are played: the rows of the pulses in their groups, and the protection of the one group that needs
it. -/
namespace EprBench.Pulser

open Outcome

variable {c : Config} {name : String} {rows given : List Row} {s : Sequence} {ps : List Properties} {p : Device}

lemma bit_eq_ok {bit : Int} (h : c.bit name = .ok bit) : ∃ n, c.channel name = .ok n ∧ bit = twoTo n := by
  obtain ⟨n, hn, h⟩ := bind_eq_ok.mp h
  exact ⟨n, hn, (pure_eq_ok.mp h).symm⟩

def Wired (rows : List Row) : Prop := ∀ r ∈ rows, ∃ n, r.channel = twoTo n

lemma Wired.positive (wired : Wired rows) : ∀ r ∈ rows, 0 < r.channel := by
  intro r hr
  obtain ⟨n, channel⟩ := wired r hr
  rw [channel]
  exact twoTo_pos n

lemma wired_of_bits (bits : ∀ r ∈ rows, c.bit name = .ok r.channel) : Wired rows := by
  intro r hr
  obtain ⟨n, -, channel⟩ := bit_eq_ok (bits r hr)
  exact ⟨n, channel⟩

lemma mended_bit {mode : Mode} {out : List Row}
    (bits : ∀ r ∈ rows, c.bit name = .ok r.channel) (made : mended c mode name rows = .ok out) :
    ∀ r ∈ out, c.bit name = .ok r.channel := by
  rcases rows with _ | ⟨first, rest⟩
  · have none : mended c mode name [] = .ok [] := rfl
    rw [none] at made
    cases made
    simp
  · have bit := bits first List.mem_cons_self
    obtain ⟨n, hn, first_eq⟩ := bit_eq_ok bit
    have same : ∀ r ∈ first :: rest, r.channel = twoTo n := by
      intro r hr
      rw [← first_eq]
      exact Except.ok.inj ((bits r hr).symm.trans bit)
    intro r hr
    rw [mended_channel hn same made r hr, ← first_eq]
    exact bit

namespace Sequence

structure Protected (s : Sequence) (own : Outcome (List (List Row))) (g amp lna on closed : List Row) : Prop where
  spaced : checkDriven s.config s.mode s.windowed g = .ok ()
  shields : protections s.config s.mode s.windowed s.phased own g = .ok (amp, lna)
  amplifier : mended s.config s.mode "AMP_ON" amp = .ok on
  receiver : mended s.config s.mode "LNA_PROTECT" lna = .ok closed

lemma protectGroup_ok {own : Outcome (List (List Row))} {g : List Row} {made : Option (List Row)}
    (done : s.protectGroup own g = .ok made) :
    (s.isDriven g = .ok true ∧ ∃ amp lna on closed, Protected s own g amp lna on closed ∧ made = some (on ++ closed)) ∨
      (s.isDriven g = .ok false ∧ made = none ∧ ∃ phases, s.isPhaseGroup g = .ok phases ∧
          checkDistance s.mode (if phases then phaseDistance else s.config.minLength) g = .ok ()) := by
  rw [protectGroup] at done
  obtain ⟨driven, hd, done⟩ := bind_eq_ok.mp done
  cases driven with
  | true =>
    obtain ⟨⟨⟩, spaced, done⟩ := bind_eq_ok.mp done
    obtain ⟨⟨amp, lna⟩, shields, done⟩ := bind_eq_ok.mp done
    obtain ⟨on, amplifier, done⟩ := bind_eq_ok.mp done
    obtain ⟨closed, receiver, done⟩ := bind_eq_ok.mp done
    exact .inl ⟨hd, amp, lna, on, closed, ⟨spaced, shields, amplifier, receiver⟩, (pure_eq_ok.mp done).symm⟩
  | false =>
    obtain ⟨phases, hp, done⟩ := bind_eq_ok.mp done
    refine .inr ⟨hd, ?_⟩
    cases phases with
    | true =>
      obtain ⟨⟨⟩, spaced, done⟩ := bind_eq_ok.mp done
      exact ⟨(pure_eq_ok.mp done).symm, true, hp, spaced⟩
    | false =>
      obtain ⟨⟨⟩, spaced, done⟩ := bind_eq_ok.mp done
      exact ⟨(pure_eq_ok.mp done).symm, false, hp, spaced⟩

def shieldsOf (made : List (Option (List Row))) : List Row := (made.reverse.filterMap id).headD []

lemma prepared_ok {own : Outcome (List Row)} (done : s.prepared given own = .ok rows) :
    (s.config.autoDefense = "False" ∧ rows = given) ∨
      (s.config.autoDefense = "True" ∧ ∃ gs ownRows ogs made, s.groups given = .ok gs ∧ own = .ok ownRows ∧
        s.groups ownRows = .ok ogs ∧ gs.mapM (s.protectGroup (.ok ogs)) = .ok made ∧
        rows = ogs.flatten ++ shieldsOf made) := by
  rw [prepared] at done
  split at done
  · rename_i off
    obtain ⟨gs, -, done⟩ := bind_eq_ok.mp done
    obtain ⟨-, -, done⟩ := bind_eq_ok.mp done
    exact .inl ⟨off, (pure_eq_ok.mp done).symm⟩
  · rename_i on
    obtain ⟨gs, hgs, done⟩ := bind_eq_ok.mp done
    obtain ⟨made, hmade, done⟩ := bind_eq_ok.mp done
    obtain ⟨ogs, hogs, done⟩ := bind_eq_ok.mp done
    rw [hogs] at hmade
    obtain ⟨ownRows, hown, hogs⟩ := bind_eq_ok.mp hogs
    exact .inr ⟨on, gs, ownRows, ogs, made, hgs, hown, hogs, hmade, (pure_eq_ok.mp done).symm⟩
  · simp at done

lemma mem_shieldsOf {made : List (Option (List Row))} {r : Row} (member : r ∈ shieldsOf made) :
    ∃ shields, some shields ∈ made ∧ r ∈ shields := by
  rw [shieldsOf] at member
  rcases h : made.reverse.filterMap id with _ | ⟨shields, rest⟩
  · rw [h] at member
    simp at member
  · have here : shields ∈ made.reverse.filterMap id := h ▸ List.mem_cons_self
    rw [h] at member
    exact ⟨shields, by simpa using here, member⟩

/-! ### Channels -/

lemma Protected.bits {own : Outcome (List (List Row))} {g amp lna on closed : List Row}
    (done : Protected s own g amp lna on closed) :
    (∀ r ∈ on, s.config.bit "AMP_ON" = .ok r.channel) ∧ ∀ r ∈ closed, s.config.bit "LNA_PROTECT" = .ok r.channel := by
  obtain ⟨ampBits, lnaBits⟩ := protections_channel done.shields
  exact ⟨mended_bit ampBits done.amplifier, mended_bit lnaBits done.receiver⟩

lemma prepared_wired {own : Outcome (List Row)}
    (wired : Wired given) (ownWired : ∀ ownRows, own = .ok ownRows → Wired ownRows)
    (done : s.prepared given own = .ok rows) : Wired rows := by
  rcases prepared_ok done with ⟨-, rfl⟩ | ⟨-, gs, ownRows, ogs, made, -, hown, hogs, hmade, rfl⟩
  · exact wired
  · intro r hr
    rcases List.mem_append.mp hr with hr | hr
    · obtain ⟨q, hq, channel⟩ := grouped_channel hogs r hr
      rw [← channel]
      exact ownWired ownRows hown q hq
    · obtain ⟨shields, member, hr⟩ := mem_shieldsOf hr
      obtain ⟨g, -, done⟩ := exists_of_mem_right (mapM_eq_ok hmade) member
      rcases protectGroup_ok done with ⟨-, amp, lna, on, closed, shielded, eq⟩ | ⟨-, eq, -⟩
      · cases eq
        rcases List.mem_append.mp hr with hr | hr
        · exact wired_of_bits shielded.bits.1 r hr
        · exact wired_of_bits shielded.bits.2 r hr
      · cases eq

end Sequence

lemma Placed.wired (placed : Placed c ps rows) : Wired rows := by
  intro r hr
  obtain ⟨n, -, channel⟩ := placed.channel (P := fun _ => True) (by simp) r hr
  exact ⟨n, channel⟩

namespace Device

/-! ### Preparing the pulses of a device -/

lemma perform_prepare {flag : Bool}
    (converted : rowsOf p.config p.mode p.windowed ps = (.ok given, flag)) (b : Bench) : perform (prepare ps) p b =
      ((Sequence.prepared { p.sequence with windowed := flag } given (rowsOf p.config p.mode flag p.properties).1,
        { p with windowed := (rowsOf p.config p.mode flag p.properties).2 }), b) := by
  have first : perform (convertPulses ps) p b = ((.ok given, { p with windowed := flag }), b) := by
    rw [convertPulses, perform_get_bind, converted]
    rfl
  rw [prepare, perform_bind, first, proceed_ok, perform_get_bind]
  rfl

/-- Whether a generator pulse has been met once some pulses are converted. -/
def windowedAfter (p : Device) (ps : List Properties) : Bool := p.windowed || ps.any Properties.windowed

lemma prepare_ok {b : Bench} (done : answer (prepare ps) p b = .ok rows) :
    ∃ given, Placed p.config ps given ∧ Sequence.prepared { p.sequence with windowed := p.windowedAfter ps } given
      (rowsOf p.config p.mode (p.windowedAfter ps) p.properties).1 = .ok rows := by
  rw [answer] at done
  rcases h : rowsOf p.config p.mode p.windowed ps with ⟨result, flag⟩
  cases result with
  | error e =>
    have stopped : perform (prepare ps) p b = ((.error e, { p with windowed := flag }), b) := by
      rw [prepare, perform_bind, convertPulses, perform_get_bind, h]
      rfl
    rw [stopped] at done
    simp at done
  | ok given =>
    rw [perform_prepare h] at done
    obtain ⟨placed, rfl⟩ := rowsOf_eq_ok.mp h
    exact ⟨given, placed, done⟩

lemma prepare_wired {b : Bench} (done : answer (prepare ps) p b = .ok rows) : Wired rows := by
  obtain ⟨given, placed, done⟩ := prepare_ok done
  refine Sequence.prepared_wired placed.wired ?_ done
  intro ownRows hown
  have converted : rowsOf p.config p.mode (p.windowedAfter ps) p.properties = (.ok ownRows, _) := Prod.ext hown rfl
  exact (rowsOf_eq_ok.mp converted).1.wired

/-! ### Computing a program -/

lemma perform_prepare_fault {ps : List Properties} {p : Device} {e : Fault} {flag : Bool}
    (failed : rowsOf p.config p.mode p.windowed ps = (.error e, flag)) (b : Bench) :
    perform (prepare ps) p b = ((.error e, { p with windowed := flag }), b) := by
  rw [prepare, perform_bind, convertPulses, perform_get_bind, failed]
  rfl

lemma prepare_frame (ps : List Properties) (p : Device) :
    ∃ w, ∀ b, perform (prepare ps) p b = ((answer (prepare ps) p {}, { p with windowed := w }), b) := by
  rcases h : rowsOf p.config p.mode p.windowed ps with ⟨result, flag⟩
  cases result with
  | error e => exact ⟨flag, fun b => by rw [answer, perform_prepare_fault h, perform_prepare_fault h]⟩
  | ok given => exact ⟨_, fun b => by rw [answer, perform_prepare h, perform_prepare h]⟩

/-- The program for some pulses; nothing when it does not fit into the period. -/
def programOf (p : Device) (ps : List Properties) (period : Int) : Outcome (Option (List Instruction)) :=
  answer (prepare ps) p {} >>= p.sequence.program period

lemma perform_programFor (ps : List Properties) (period : Int) (p : Device) :
    ∃ w, ∀ b, perform (programFor ps period) p b = match p.programOf ps period with
      | .error e => ((.error e, { p with windowed := w }), b)
      | .ok (some is) => ((.ok is, { p with windowed := w }), b)
      | .ok none => perform refuseLong { p with windowed := w } b := by
  obtain ⟨w, prepared⟩ := prepare_frame ps p
  refine ⟨w, fun b => ?_⟩
  rw [programFor, perform_bind, prepared, programOf]
  cases answer (prepare ps) p {} with
  | error e => rfl
  | ok rows =>
    have same : ({ p with windowed := w } : Device).sequence.program period rows = p.sequence.program period rows := rfl
    rw [proceed_ok, perform_get_bind, perform_bind, perform_lift, same, ok_bind]
    rcases p.sequence.program period rows with e | _ | is
    · rfl
    · rfl
    · rfl

/-! ### Updating in a rehearsal -/

/-- Something has changed since the last program that a rehearsal takes notice of. -/
def waiting (p : Device) : Bool := !p.settled || p.shifted || p.incremented

def upToDate (p : Device) (windowed : Bool) : Device :=
  { p with windowed := windowed, settled := true, shifted := false, incremented := false, rated := false }

lemma perform_refuseLong {p : Device} (rehearsal : p.mode = .rehearsal) (b : Bench) {α : Type} :
    perform (refuseLong : Act Device α) p b = ((.error (.refused Sequence.tooLong), p), b) := by
  rw [refuseLong, perform_get_bind, rehearsal]
  rfl

lemma perform_record (is : List Instruction) (p : Device) (b : Bench) :
    ∃ r b', perform (record is) p b = ((r, p), b') := by
  rw [record, perform_get_bind]
  split
  · exact ⟨_, _, rfl⟩
  · exact ⟨_, _, rfl⟩

lemma rehearse_ok {p p' : Device} {b b' : Bench} {t : Int} (rehearsal : p.mode = .rehearsal)
    (done : perform (rehearse t) p b = ((.ok (), p'), b')) :
    ∃ is w, p.programOf p.properties t = .ok (some is) ∧ (∀ i ∈ is, 10 ≤ i.duration) ∧ p' = p.upToDate w := by
  obtain ⟨w, computed⟩ := perform_programFor p.properties t p
  rw [rehearse, perform_get_bind, perform_bind, computed] at done
  rcases program : p.programOf p.properties t with e | _ | is
  · rw [program] at done
    simp at done
  · have same : ({ p with windowed := w } : Device).mode = .rehearsal := rehearsal
    rw [program, perform_refuseLong same, proceed_error] at done
    simp at done
  · obtain ⟨r, b₁, recorded⟩ := perform_record is { p with windowed := w } b
    rw [program, proceed_ok, perform_bind, recorded] at done
    rcases r with e | ⟨⟩
    · simp at done
    · rw [proceed_ok, perform_bind, perform_lift] at done
      rcases checked : ensure (!is.any (·.duration < 10))
        "Incorrect instruction are found. Probably Trigger pulses are overlap with other" with e | ⟨⟩
      · rw [checked, proceed_error] at done
        simp at done
      · rw [checked, proceed_ok, perform_modify, Prod.mk.injEq, Prod.mk.injEq] at done
        refine ⟨is, w, rfl, ?_, done.1.2.symm⟩
        simpa using checked

lemma update_rehearsed {p p' : Device} {b b' : Bench} (rehearsal : p.mode = .rehearsal)
    (done : perform update p b = ((.ok (), p'), b')) :
    ∃ t, period p.rate = .ok (some t) ∧ (p.waiting = false ∧ p' = p ∨ p.waiting = true ∧ ∃ is w,
      p.programOf p.properties t = .ok (some is) ∧ (∀ i ∈ is, 10 ≤ i.duration) ∧ p' = p.upToDate w) := by
  rw [update, perform_get_bind, perform_bind, perform_lift] at done
  rcases rate : period p.rate with e | _ | t
  · rw [rate, proceed_error] at done
    simp at done
  · rw [rate, proceed_ok, rehearsal] at done
    simp at done
  · rw [rate, proceed_ok, rehearsal] at done
    refine ⟨t, rfl, ?_⟩
    simp only at done
    split at done
    · rename_i waits
      exact .inr ⟨waits, rehearse_ok rehearsal done⟩
    · rename_i idle
      rw [perform_pure, Prod.mk.injEq, Prod.mk.injEq] at done
      exact .inl ⟨Bool.eq_false_iff.mpr idle, done.1.2.symm⟩

end EprBench.Pulser.Device
