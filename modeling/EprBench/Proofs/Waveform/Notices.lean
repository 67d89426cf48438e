import EprBench.Proofs.Waveform.Buffers
import EprBench.Waveform.Commands

/-! What a waveform generator takes notice of, whether a command fails or not. -/
namespace EprBench.Waveform.Generator

set_option synthInstance.maxSize 1000000

variable {g h : Generator} {b b' : Bench} {α β : Type}

/-- All of a generator but what it notes about its card, its buffer and its memory. -/
abbrev essence (g : Generator) :=
  (g.mode, g.limits, g.rate, g.channel, (g.sequenced, g.multi, g.joined), g.buffers, g.blocks,
    (g.settled, g.shifted, g.lengthened, g.changed), g.pulses, g.declared, g.names)

/-- A relation that is kept by notes about card, buffer and memory, and by work that brings nothing to the card. -/
class Tolerates (R : Generator × Bench → Generator × Bench → Prop) : Prop extends IsPreorder (Generator × Bench) R where
  note : ∀ ⦃g h : Generator⦄ (b : Bench), essence h = essence g → R (g, b) (h, b)
  work : ∀ (g : Generator) ⦃b b' : Bench⦄, Adds BringsNothing b b' → R (g, b) (g, b')

section

variable {R : Generator × Bench → Generator × Bench → Prop} [tolerates : Tolerates R]

instance (f : Generator → Generator) [same : ∀ g, Untouched (essence (f g)) (essence g)] :
    Obeys R (modify f : Act Generator PUnit) := ⟨fun g => .modify fun b => tolerates.note b (same g).eq⟩

lemma obeys_work {x : Work α} (silent : Noting BringsNothing x) : Obeys R (liftM x : Act Generator α) :=
  ⟨fun g b => tolerates.work g (silent b)⟩

/-! ### Buffers -/

instance (tones : List (Tone Float)) : Obeys R (liftM (blockSamples tones) : Act Generator Int) := by
  refine obeys_work ?_
  rw [blockSamples]
  have message : Noting BringsNothing (Bench.message tooSmall) := Noting.message rfl
  split
  · exact message.bind fun _ => .pure _
  · exact .pure _

instance : Obeys R prepareSingle := by
  dsimp only [prepareSingle]
  infer_instance

instance : Obeys R prepareMulti := by
  dsimp only [prepareMulti]
  infer_instance

instance (n : Int) : Obeys R (allocate n) := by
  dsimp only [allocate]
  infer_instance

instance (x : (Nat → Float) → Drawing α) : Obeys R (liftM (withDraws x) : Act Generator α) := by
  refine obeys_work (Noting.get_bind fun b => ?_)
  exact .bind (fun _ => Adds.of_log_eq rfl rfl) fun _ => .lift _

instance : Obeys R joinedTones := by
  dsimp only [joinedTones]
  infer_instance

instance : Obeys R buildSingle := by
  dsimp only [buildSingle]
  infer_instance

instance : Obeys R buildJoined := by
  dsimp only [buildJoined]
  infer_instance

instance : Obeys R buildMulti := by
  dsimp only [buildMulti]
  infer_instance

instance obeys_build (plan : Plan) : Obeys R (build plan) := by
  cases plan <;> dsimp only [build] <;> infer_instance

instance : Obeys R release := by
  dsimp only [release]
  infer_instance

/-! ### The card -/

instance : Obeys R needCard := by
  dsimp only [needCard]
  infer_instance

instance obeys_put (register : String) (value : Value) : Obeys R (put register value) :=
  have := obeys_work (R := R) (silent_put register value)
  Obeys.bind needCard _

instance obeys_putWide (register : String) (value : Value) : Obeys R (putWide register value) :=
  have := obeys_work (R := R) (silent_putWide register value)
  Obeys.bind needCard _

instance : Obeys R writeSetup := by
  dsimp only [writeSetup]
  infer_instance

instance : Obeys R (liftM Card.transfer : Act Generator Unit) := obeys_work silent_transfer

instance (index next segment loops flags : Value) : Obeys R (writeStep index next segment loops flags) := by
  dsimp only [writeStep]
  infer_instance

end

end EprBench.Waveform.Generator
