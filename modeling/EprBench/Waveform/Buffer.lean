import EprBench.Ladder
import EprBench.Waveform.Sample

/-! Sample buffers of separate tones. With one channel the samples follow each other; with two the
samples of both channels alternate. -/
namespace EprBench.Waveform

def blockSize : Int := 32

def blockFor {α : Type} (tones : List (Tone α)) : Int := roundUp (Tone.longest tones) blockSize

def silence (stereo : Bool) (size : Nat) : Array Int := Array.replicate (if stereo then 2 * size else size) 0

def slot (stereo : Bool) (channel i : Nat) : Nat := if stereo then 2 * i + channel else i

namespace Tone

variable {α : Type} [Scalar α]

def extent (p : Tone α) (size : Nat) : Nat := if p.isPlayed then min size (p.length + 1).toNat else 0

def fill (rate : Int) (stereo : Bool) (size k : Nat) (buffer : Array Int) (p : Tone α) : Outcome (Array Int) :=
  (List.range (p.extent size)).foldlM (fun (buffer : Array Int) (t : Nat) => do
    let clock := k * size + t
    return buffer.setIfInBounds (slot stereo p.channel clock) (← p.sample rate t clock)) buffer

end Tone

variable {α : Type} [Scalar α]

def singleBuffer (rate : Int) (stereo : Bool) (size : Nat) (groups : List (List (Tone α))) : Outcome (Array Int) :=
  groups.flatten.foldlM (Tone.fill rate stereo size 0) (silence stereo size)

def multiBuffer (rate : Int) (stereo : Bool) (size segments : Nat) (groups : List (List (Tone α))) :
    Outcome (Array Int) :=
  groups.foldlM (fun buffer group =>
    group.zipIdx.foldlM (fun buffer e => Tone.fill rate stereo size e.2 buffer e.1) buffer)
    (silence stereo (size * segments))

end EprBench.Waveform
