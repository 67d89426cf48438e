import EprBench.Proofs.Acts
import EprBench.Proofs.Bench
import EprBench.Waveform.Generator

/-! What a waveform generator brings to its card, and what the buffer of the declared pulses depends on. -/
namespace EprBench.Waveform

variable {groups : List (List (Tone Float))}

/-! ### The card -/

def uploaded? : Event → Option (Array Int)
  | .upload _ _ samples => some samples
  | _ => none

def uploads (b : Bench) : List (Array Int) := b.log.toList.filterMap uploaded?

def BringsNothing (e : Event) : Prop := uploaded? e = none

lemma silent_answer (register value : Value) : Noting BringsNothing (Card.answer register value) :=
  (Noting.nextPrepared _).bind fun _ => .pure _

lemma silent_put (register : String) (value : Value) : Noting BringsNothing (Card.put register value) := by
  have noted : Noting BringsNothing (Bench.note (.setRegister false register value)) := Noting.note rfl
  exact noted.bind fun _ => silent_answer _ _

lemma silent_putWide (register : String) (value : Value) : Noting BringsNothing (Card.putWide register value) := by
  have noted : Noting BringsNothing (Bench.note (.setRegister true register value)) := Noting.note rfl
  exact noted.bind fun _ => silent_answer _ _

lemma silent_transfer : Noting BringsNothing Card.transfer := (silent_put _ _).bind fun _ => .pure _

namespace Generator

/-! ### Joined buffers -/

variable {g h : Generator}

lemma carry_blockSamples (tones : List (Tone Float)) (b : Bench) : ∃ n b', carry (blockSamples tones) b = (.ok n, b') := by
  unfold blockSamples
  dsimp only
  split
  · obtain ⟨b', shown⟩ := carry_message tooSmall b
    rw [carry_bind, shown]
    exact ⟨_, _, rfl⟩
  · exact ⟨_, _, rfl⟩

lemma perform_joinedTones (live : g.mode = .live) (known : g.toneGroups = .ok groups) (b : Bench) :
    ∃ h b', perform joinedTones g b = ((.ok (groups.headD []), h), b') ∧ h.memory = joinedSize (groups.headD []) ∧
      h.stereo = g.stereo ∧ h.rate = g.rate ∧ h.limits = g.limits := by
  obtain ⟨n, b', counted⟩ := carry_blockSamples groups.flatten b
  have prepared : perform prepareSingle g b = ((.ok (n, groups), g), b') := by
    rw [prepareSingle, perform_get_bind, live, known]
    show perform (liftM (blockSamples groups.flatten) >>= fun n => pure (n, groups)) g b = _
    rw [perform_bind, perform_work, counted]
    rfl
  refine ⟨{ g with memory := joinedSize (groups.headD []) }, b', ?_, rfl, rfl, rfl, rfl⟩
  rw [joinedTones, perform_bind, prepared]
  rfl

lemma perform_allocate {n : Int} (fits : 0 ≤ n) (g : Generator) (b : Bench) :
    ∃ h, perform (allocate n) g b = ((.ok (), h), b) ∧ h.memory = g.memory := by
  rw [allocate, perform_bind, if_neg (Int.not_lt.mpr fits)]
  exact ⟨_, rfl, rfl⟩

lemma exists_draws {α : Type} (x : (Nat → Float) → Drawing α) (b : Bench) :
    ∃ draws k b', carry (withDraws x) b = ((carry (x draws) k).1, b') :=
  ⟨fun k => b.draws.getD (k % b.draws.size) 0.5, b.drawn, { b with drawn := (carry (x _) b.drawn).2 }, rfl⟩

lemma perform_buildJoined (live : g.mode = .live) (both : g.stereo = true)
    (known : g.toneGroups = .ok groups) (fits : 0 ≤ joinedSize (groups.headD [])) (b : Bench) :
    ∃ draws k h b', perform buildJoined g b = (((carry (stereoBuffer g.rate draws g.limits.secondPhase
      (joinedSize (groups.headD [])).toNat (groups.headD [])) k).1, h), b') ∧ h.memory = joinedSize (groups.headD []) := by
  obtain ⟨h, b', tones, memory, same, rate, limits⟩ := perform_joinedTones live known b
  have sound : h.stereo = true := same.trans both
  have room : 0 ≤ h.memory * h.channelCount := by
    rw [channelCount, if_pos sound, memory]
    omega
  obtain ⟨h', allocated, kept⟩ := perform_allocate room h b'
  obtain ⟨draws, k, b'', drawn⟩ := exists_draws (fun draws => stereoBuffer g.rate draws g.limits.secondPhase
    (joinedSize (groups.headD [])).toNat (groups.headD [])) b'
  refine ⟨draws, k, h', b'', ?_, kept.trans memory⟩
  rw [buildJoined, perform_bind, tones, proceed_ok, perform_get_bind, perform_bind, allocated,
    proceed_ok, perform_work, sound, memory, rate, limits]
  simp only [if_true, drawn]

end Generator
end EprBench.Waveform
