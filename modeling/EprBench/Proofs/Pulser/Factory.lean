import EprBench.Proofs.Outcome
import EprBench.Pulser.Config

/-! The pulse programmer as it leaves the factory. -/
namespace EprBench.Pulser.Config

def factory : Config where
  channels := [("TRIGGER", 0), ("AMP_ON", 1), ("LNA_PROTECT", 2), ("MW", 3), ("-X", 4), ("+Y", 5), ("TRIGGER_AWG", 6),
    ("AWG", 7), ("LASER", 8), ("CH9", 9), ("CH10", 10), ("CH11", 11), ("CH12", 12), ("CH13", 13), ("CH14", 14),
    ("CH15", 15), ("CH16", 16), ("CH17", 17), ("CH18", 18), ("CH19", 19), ("CH20", 20), ("CH21", 21)]
  clock := 500
  timebase := 2
  repetitionRate := "2 Hz"
  autoDefense := "True"
  maxLength := 1900
  minLength := 10
  minimalDistance := 20
  constantShift := 125
  switchDelay := 85
  ampDelay := -65
  protectDelay := -15
  switchPhaseDelay := 30
  phaseDelay := 0
  windowLead := 170
  windowTail := -130
  protectWindowDelay := -25

lemma factory_mw : factory.bit "MW" = .ok 8 := rfl

lemma factory_awg : factory.bit "AWG" = .ok 128 := rfl

lemma mem_of_lookup {c : Config} {name : String} {n : Nat} (found : c.channels.lookup name = some n) :
    (name, n) ∈ c.channels := by
  obtain ⟨front, back, split, -⟩ := List.lookup_eq_some_iff.mp found
  rw [split]
  exact List.mem_append_right _ List.mem_cons_self

lemma factory_name {name name' : String} {n : Nat} (found : (name, n) ∈ factory.channels)
    (found' : (name', n) ∈ factory.channels) : name = name' := by
  have injective : ∀ e ∈ factory.channels, ∀ e' ∈ factory.channels, e.2 = e'.2 → e.1 = e'.1 := by decide +kernel
  exact injective _ found _ found' rfl

end EprBench.Pulser.Config
