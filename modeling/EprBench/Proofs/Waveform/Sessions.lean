import EprBench.Proofs.Waveform.Buffers
import EprBench.Waveform.Commands

/-! Sessions with a waveform generator: requests one after another, and what the card was brought last. -/
namespace EprBench.Waveform

open Generator

/-! ### Requests -/

def commandOf (r : Request) : Option (Command Generator) := generator.commands.find? (·.name == r.name)

def carryOut (r : Request) : Act Generator Unit :=
  match commandOf r with
  | none => throw .noMember
  | some c => do
    let _ ← c.call r

/-- What requests come to, one after the other, also after one that fails: their answers, and the bench in the end. -/
def outcomes : List Request → Generator → Bench → List (Outcome Unit) × Bench
  | [], _, b => ([], b)
  | r :: rs, g, b =>
    let ran := perform (carryOut r) g b
    let later := outcomes rs ran.1.2 ran.2
    (ran.1.1 :: later.1, later.2)

/-! ### Buffers without a signal -/

namespace Generator

variable {g : Generator} {groups : List (List (Tone Float))}

def Makes (g : Generator) (samples : Array Int) : Prop := ∃ b, answer (build g.plan) g b = .ok samples

lemma monoBuffer_of_silent {tones : List (Tone Float)} (silent : ∀ p ∈ tones, p.isPlayed = false) (rate : Int)
    (draws : Nat → Float) (missing : Fault) (size : Nat) :
    monoBuffer rate draws missing size tones = pure (silence false size) := by
  rw [monoBuffer]
  -- Every tone hands the buffer on as it is.
  generalize silence false size = buffer
  induction tones with
  | nil => rfl
  | cons p tones ih =>
    obtain ⟨here, later⟩ := List.forall_mem_cons.mp silent
    have skipped : Tone.fillMono rate draws missing size buffer p = pure buffer := by
      rw [Tone.fillMono, here]
      rfl
    rw [List.foldlM_cons, skipped, pure_bind]
    exact ih later

lemma carry_withDraws {α : Type} {x : (Nat → Float) → Drawing α} {a : α} (idle : ∀ draws, x draws = pure a) (b : Bench) :
    carry (withDraws x) b = (.ok a, b) := by
  rw [withDraws]
  simp only [idle]
  rfl

lemma answer_buildJoined (live : g.mode = .live) (mono : g.stereo = false)
    (known : g.toneGroups = .ok groups) (silent : ∀ p ∈ groups.headD [], p.isPlayed = false)
    (fits : 0 ≤ joinedSize (groups.headD [])) (b : Bench) :
    answer buildJoined g b = .ok (silence false (joinedSize (groups.headD [])).toNat) := by
  obtain ⟨h, b', tones, memory, same, _⟩ := perform_joinedTones live known b
  have sound : h.stereo = false := same.trans mono
  have room : 0 ≤ h.memory * h.channelCount := by
    rw [channelCount, sound, memory]
    simpa using fits
  obtain ⟨h', allocated, _⟩ := perform_allocate room h b'
  rw [answer, buildJoined, perform_bind, tones, proceed_ok, perform_get_bind, perform_bind, allocated,
    proceed_ok, perform_work, sound, memory]
  exact congrArg Prod.fst (carry_withDraws (fun draws => monoBuffer_of_silent silent _ draws _ _) b')

end Generator

/-! ### The card -/

/-- A session: the generator, its bench, and the blocks of the pulse train that was handed over last. -/
structure Session where
  generator : Generator
  bench : Bench
  train : List (Array Int) := []

namespace Session

/-- The card was last brought what is to be played: the blocks of the last pulse train in the sequence mode, and the samples of
the current pulses in every other one. -/
structure Holds (s : Session) : Prop where
  sequence : s.generator.plan = .sequence → s.train <:+ uploads s.bench
  buffer : s.generator.plan ≠ .sequence →
    ∃ samples, s.generator.Makes samples ∧ (uploads s.bench).getLast? = some samples

/-- The blocks that were handed over last, after a command of this name. -/
def trainAfter (name : String) (g : Generator) (train : List (Array Int)) : List (Array Int) :=
  match name, g.blocks with
  | "awg_pulse_sequence", .filled bs => bs
  | _, _ => train

def next (s : Session) (r : Request) : Session where
  generator := (perform (carryOut r) s.generator s.bench).1.2
  bench := (perform (carryOut r) s.generator s.bench).2
  train := trainAfter r.name (perform (carryOut r) s.generator s.bench).1.2 s.train

def after (s : Session) (rs : List Request) : Session := rs.foldl next s

/-! ### Up to date -/

def fresh (limits : Limits) (b : Bench) : Session :=
  ⟨{ limits, mode := .live, rehearsed := false, amplitude1 := 610 }, b, []⟩

def factoryLimits : Limits := ⟨1900, 0, 400, -400, 1.57075⟩

/-- A request that declares a silent pulse on the first channel. -/
def silentPulse (name start deltaStart : String) (phases : List Value) : Request :=
  { name := "awg_pulse", named := [("name", .text name), ("channel", "CH0"), ("func", "BLANK"), ("length", "16 ns"),
      ("sigma", "16 ns"), ("start", .text start), ("delta_start", .text deltaStart), ("phase_list", .list phases)] }

/-! ### What goes unnoticed -/

/-- A pulse is moved, and the card is brought up to date. -/
def moving : List Request := [
  { name := "awg_card_mode", values := ["Single Joined"] },
  { name := "awg_channel", values := ["CH0"] },
  silentPulse "P0" "0 ns" "100 ns" ["+x", "-x"],
  { name := "awg_setup" },
  { name := "awg_update" },
  { name := "awg_shift" },
  { name := "awg_update" }]

/-- After that the pulse is taken back to its declared place. -/
def rewound : Session := (fresh factoryLimits {}).after (moving ++ [{ name := "awg_reset" }])

lemma tones_rewound : ∃ groups, rewound.generator.toneGroups = .ok groups ∧ joinedSize (groups.headD []) = 32 ∧
    ∀ p ∈ groups.headD [], p.isPlayed = false := by
  have size : rewound.generator.toneGroups.map (fun groups => joinedSize (groups.headD [])) = .ok 32 := by decide +kernel
  have silent : ∀ groups, rewound.generator.toneGroups = .ok groups → ∀ p ∈ groups.headD [], p.isPlayed = false := by
    decide +kernel
  rcases known : rewound.generator.toneGroups with e | groups
  · rw [known] at size
    cases size
  · rw [known] at size
    exact ⟨groups, rfl, Except.ok.inj size, silent groups known⟩

lemma eq_silence_of_makes {samples : Array Int} (makes : rewound.generator.Makes samples) : samples = silence false 32 := by
  have ⟨plan, live, mono⟩ : rewound.generator.plan = .joined ∧ rewound.generator.mode = .live ∧
      rewound.generator.stereo = false := by decide +kernel
  obtain ⟨groups, known, size, silent⟩ := tones_rewound
  obtain ⟨b, made⟩ := makes
  rw [plan] at made
  have built := answer_buildJoined live mono known silent (by rw [size]; decide) b
  rw [size] at built
  exact Except.ok.inj (made.symm.trans built)

/-- The reset has nothing to notice, and the card keeps the 160 samples of the pulse that was moved, while the declared pulse
makes 32. -/
theorem reset_is_not_noticed :
    answer (carryOut { name := "awg_reset" }) ((fresh factoryLimits {}).after moving).generator
      ((fresh factoryLimits {}).after moving).bench = .ok () ∧ ¬ rewound.Holds := by
  have succeeds : answer (carryOut { name := "awg_reset" }) ((fresh factoryLimits {}).after moving).generator
      ((fresh factoryLimits {}).after moving).bench = .ok () := by decide +kernel
  have ⟨plan, last⟩ : rewound.generator.plan ≠ .sequence ∧ (uploads rewound.bench).getLast? = some (silence false 160) := by
    decide +kernel
  refine ⟨succeeds, fun holds => ?_⟩
  obtain ⟨samples, makes, brought⟩ := holds.buffer plan
  rw [last, eq_silence_of_makes makes] at brought
  exact absurd (Option.some.inj brought) (by decide +kernel)

end Session

/-! ### Clearing pulses -/

def strangePulse (n : Nat) : Request where
  name := "awg_pulse"
  named := [("channel", "CH0"), ("func", ""), ("phase_list", .list (List.replicate n "+x"))]

/-- A pulse of no known kind is declared, and the next phase taken. -/
def probe (n : Nat) : List Request := [strangePulse n, { name := "awg_next_phase" }]

/-- A generator that has just been made ready for a rehearsal. -/
def rehearsing : Generator where
  limits := Session.factoryLimits
  mode := .rehearsal
  rehearsed := true
  amplitude1 := 533

/-- A cycle of two phases is noted, the pulses are cleared, and a cycle of four phases is found uneven. There is none for a new
generator. -/
theorem cleared_cycle_uneven : (outcomes ([strangePulse 2, { name := "awg_clear" }] ++ probe 4) rehearsing {}).1[3]? =
      some (.error (.refused "Phase sequence for CH0 does not have equal length")) ∧
    (outcomes (probe 4) rehearsing {}).1[1]? = some (.error (.refused "No AWG pulses are defined")) := by
  decide +kernel

end EprBench.Waveform
