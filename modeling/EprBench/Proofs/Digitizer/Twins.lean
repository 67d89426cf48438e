import EprBench.Digitizer.Commands
import EprBench.Proofs.Acts
import EprBench.Proofs.Bench
import EprBench.Proofs.Decimal
import EprBench.Proofs.Quantity

/-! Settings of a digitizer in a rehearsal and in a live session. -/
namespace EprBench.Digitizer

open Value List

/-! ### The card -/

/-- The card is there, and tells its full scale as a number. -/
def CardAtHand (b : Bench) : Prop :=
  ∀ e ∈ b.prepared, ∀ v ∈ e.2, (e.1 = "spcm_hOpen" → v ≠ .nothing ∧ v ≠ .int 0) ∧
    (e.1 = "SPC_MIINST_MAXADCVALUE" → ∃ n, v.toInt = .ok n)

/-- Work that succeeds with the card at hand. -/
def Serves {α : Type} (Q : α → Prop) (x : Work α) : Prop :=
  ∀ b, CardAtHand b → ∃ a b', carry x b = (.ok a, b') ∧ CardAtHand b' ∧ Q a

namespace Serves

variable {α β : Type} {Q : α → Prop} {R : β → Prop}

lemma pure {a : α} (holds : Q a) : Serves Q (pure a : Work α) := fun b card => ⟨a, b, rfl, card, holds⟩

lemma bind {x : Work α} {f : α → Work β} (first : Serves Q x) (second : ∀ a, Q a → Serves R (f a)) : Serves R (x >>= f) := by
  intro b card
  obtain ⟨a, b', ran, card, holds⟩ := first b card
  obtain ⟨c, b'', ran', card, holds'⟩ := second a holds b' card
  exact ⟨c, b'', carry_bind_ok.mpr ⟨a, b', ran, ran'⟩, card, holds'⟩

lemma note (e : Event) : Serves (fun _ => True) (Bench.note e) := fun _ card => ⟨(), _, rfl, card, trivial⟩

lemma nextPrepared (name : String) : Serves (fun v => ∀ a ∈ v, (name = "spcm_hOpen" → a ≠ .nothing ∧ a ≠ .int 0) ∧
    (name = "SPC_MIINST_MAXADCVALUE" → ∃ n, a.toInt = .ok n)) (Bench.nextPrepared name) := by
  intro b card
  have got : carry (get : Work Bench) b = (.ok b, b) := rfl
  rw [Bench.nextPrepared, carry_bind, got]
  dsimp only
  split
  · rename_i v rest found
    have here : (name, v :: rest) ∈ b.prepared := by
      obtain ⟨before, after, split, -⟩ := lookup_eq_some_iff.mp found
      rw [split]
      exact mem_append_right before mem_cons_self
    refine ⟨some v, _, rfl, ?_, fun a same => Option.some.inj same ▸ card _ here v mem_cons_self⟩
    intro e member a inside
    obtain ⟨e', member', rfl⟩ := mem_map.mp member
    by_cases same : (e'.1 == name) = true
    · rw [if_pos same] at inside ⊢
      exact card _ here a (mem_cons_of_mem v inside)
    · rw [if_neg same] at inside ⊢
      exact card e' member' a inside
  · exact ⟨none, b, rfl, card, fun a never => absurd never (Option.not_mem_none a)⟩

lemma openAt (path : String) : Serves (· = true) (Card.openAt path) := by
  refine (note _).bind fun _ _ => (nextPrepared _).bind fun v answers => ?_
  split
  · exact absurd rfl ((answers .nothing rfl).1 rfl).1
  · exact absurd rfl ((answers (.int 0) rfl).1 rfl).2
  · exact pure rfl

lemma fullScale : Serves (fun v => ∃ n, v.toInt = .ok n) (Card.read "SPC_MIINST_MAXADCVALUE") := by
  refine (nextPrepared _).bind fun v answers => pure ?_
  rcases v with _ | v
  · exact ⟨32768, rfl⟩
  · exact (answers v rfl).2 rfl

end Serves

/-! ### Rehearsal and session -/

/-- A digitizer in a live session with the settings of another one. -/
def liveOf (s : Recorder) (opened : Bool) (bytes fullScale : Option Int) : Recorder :=
  { s with mode := .live, opened := opened, bufferBytes := bytes, fullScale := fullScale }

open Recorder

/-! ### Requests -/

def commands : List (Command Recorder) := (instrument m4i4450).commands

def carryOut (r : Request) : Act Recorder Unit :=
  match commands.find? (·.name == r.name) with
  | some c => do
    let _ ← c.call r
  | none => throw .noMember

def script (rs : List Request) : Act Recorder Unit := rs.forM carryOut

/-! ### Scripts -/

def rehearse (b : Bench) (rs : List Request) : Recorder := (perform (script rs) (ofModel m4i4450 .rehearsal) b).1.2

def numbers (r : Recorder) : Int × Int × Int := (r.points, r.posttrigger, r.averages)

/-- A bench whose card tells its full scale. -/
def cardBench : Bench := { prepared := [("SPC_MIINST_MAXADCVALUE", [.int 8191])] }

lemma cardAtHand_cardBench : CardAtHand cardBench := by
  simp [CardAtHand, cardBench, Value.toInt]

/-- In a buffered path with a range of 1000 mV a rehearsal sets an offset and a session stops; and of 128 points, 128 after the
trigger become 112 in a rehearsal only. -/
theorem unclear_settings_go_wrong :
    let offset : List Request := [⟨"digitizer_input_mode", ["Buffered"], []⟩, ⟨"digitizer_amplitude", [1000], []⟩,
      ⟨"digitizer_offset", ["CH0", 10], []⟩]
    let posttrigger : List Request := [⟨"digitizer_posttrigger", [128], []⟩]
    (answer (script offset) (ofModel m4i4450 .rehearsal) {} = .ok () ∧
        answer (script offset) (ofModel m4i4450 .live) {} = .error .stopped) ∧
      numbers (rehearse {} posttrigger) = (128, 112, 2) ∧
      numbers (perform (script posttrigger) (ofModel m4i4450 .live) {}).1.2 = (128, 128, 2) := by
  decide +kernel

end EprBench.Digitizer
