import EprBench.Proofs.Pulser.Factory
import EprBench.Proofs.Pulser.Prepared

/-! Automatic protection: that of all rows is that of the one group that needs it. -/
namespace EprBench.Pulser

open List Outcome

namespace Sequence

variable {s : Sequence} {mw awg : Int}

lemma isDriven_cons (hmw : s.config.bit "MW" = .ok mw) (hawg : s.config.bit "AWG" = .ok awg) (r : Row)
    (rest : List Row) : s.isDriven (r :: rest) = .ok (r.channel == mw || r.channel == awg) := by
  simp only [isDriven, hmw, hawg, ok_bind]
  cases r.channel == mw with
  | true => rfl
  | false => rfl

structure Defended (s : Sequence) (mw awg : Int) (phases given : List Row) (gs others : List (List Row))
    (rows : List Row) : Prop where
  grouped : s.groups given = .ok gs
  regrouped : Regrouped mw awg phases given gs others
  spaced : ∀ g ∈ others, ∃ d, (d = phaseDistance ∨ d = s.config.minLength) ∧ checkDistance s.mode d g = .ok ()
  shields : drivenRows mw awg phases given = [] ∧ rows = gs.flatten ∨
    drivenRows mw awg phases given ≠ [] ∧ ∃ amp lna on closed, Protected s (.ok gs)
      (drivenRows mw awg phases given) amp lna on closed ∧
      rows = gs.flatten ++ (on ++ closed)

lemma filterMap_idle {ms : List (Option (List Row))} (idle : ∀ m ∈ ms, m = none) : ms.reverse.filterMap id = [] := by
  rw [filterMap_eq_nil_iff]
  intro m hm
  exact idle m (mem_reverse.mp hm)

lemma shieldsOf_append {back : List (Option (List Row))} (idle : ∀ m ∈ back, m = none)
    (front : List (Option (List Row))) (shields : List Row) : shieldsOf (front ++ some shields :: back) = shields := by
  rw [shieldsOf, reverse_append, reverse_cons, filterMap_append, filterMap_append,
    filterMap_idle idle]
  rfl

lemma mem_drivenRows {phases rows : List Row} {r : Row} (member : r ∈ drivenRows mw awg phases rows) :
    r.channel = mw ∨ r.channel = awg := by
  rcases mem_append.mp member with pulse | window
  · exact .inl (mem_onChannel.mp pulse).2
  · split at window
    · exact .inr (mem_onChannel.mp window).2
    · obtain ⟨q, hq, rfl⟩ := mem_map.mp window
      rw [Row.clearOf_channel]
      exact .inr (mem_onChannel.mp hq).2

lemma protectGroup_other (hmw : s.config.bit "MW" = .ok mw) (hawg : s.config.bit "AWG" = .ok awg)
    {own : Outcome (List (List Row))} {g : List Row} (some : g ≠ []) (other : ∀ r ∈ g, r.channel ≠ mw ∧ r.channel ≠ awg)
    {m : Option (List Row)} (done : s.protectGroup own g = .ok m) :
    m = none ∧ ∃ d, (d = phaseDistance ∨ d = s.config.minLength) ∧ checkDistance s.mode d g = .ok () := by
  obtain ⟨r, rest, rfl⟩ := exists_cons_of_ne_nil some
  obtain ⟨notMw, notAwg⟩ := other r mem_cons_self
  have idle := isDriven_cons hmw hawg r rest
  rw [beq_false_of_ne notMw, beq_false_of_ne notAwg] at idle
  rcases protectGroup_ok done with ⟨driven, -⟩ | ⟨-, none, isPhase, -, spaced⟩
  · rw [idle] at driven
    simp at driven
  · refine ⟨none, _, ?_, spaced⟩
    cases isPhase <;> simp

lemma protectGroup_driven (hmw : s.config.bit "MW" = .ok mw) (hawg : s.config.bit "AWG" = .ok awg)
    {own : Outcome (List (List Row))} {g : List Row} (some : g ≠ []) (driven : ∀ r ∈ g, r.channel = mw ∨ r.channel = awg)
    {m : Option (List Row)} (done : s.protectGroup own g = .ok m) :
    ∃ amp lna on closed, Protected s own g amp lna on closed ∧ m = Option.some (on ++ closed) := by
  obtain ⟨r, rest, rfl⟩ := exists_cons_of_ne_nil some
  rcases protectGroup_ok done with ⟨-, shielded⟩ | ⟨idle, -⟩
  · exact shielded
  · have channel := driven r mem_cons_self
    rw [isDriven_cons hmw hawg, Except.ok.injEq, Bool.or_eq_false_iff, beq_eq_false_iff_ne, beq_eq_false_iff_ne] at idle
    exact absurd channel (not_or.mpr idle)

lemma defended_of_prepared (hmw : s.config.bit "MW" = .ok mw) (hawg : s.config.bit "AWG" = .ok awg) (order : mw < awg)
    (auto : s.config.autoDefense = "True") {given rows : List Row} (sorted : Sorted given)
    (bits : ∀ r ∈ given, 0 < r.channel) (flagged : (∃ r ∈ given, r.channel = awg) → s.windowed = true)
    (done : s.prepared given (.ok given) = .ok rows) :
    ∃ phases gs others, Defended s mw awg phases given gs others rows := by
  rcases prepared_ok done with ⟨off, -⟩ | ⟨-, gs, ownRows, ogs, made, hgs, hown, hogs, hmade, rfl⟩
  · rw [auto] at off
    simp at off
  obtain rfl := Except.ok.inj hown
  obtain rfl := Except.ok.inj (hgs.symm.trans hogs)
  obtain ⟨phases, others, regrouped⟩ := grouped_spec hmw hawg order sorted bits flagged hgs
  have other : ∀ g ∈ others, ∀ m, s.protectGroup (.ok gs) g = .ok m → m = none ∧
      ∃ d, (d = phaseDistance ∨ d = s.config.minLength) ∧ checkDistance s.mode d g = .ok () := by
    intro g hg m done
    obtain ⟨r, rest, eq, -⟩ := mem_groups sorted (regrouped.kept.subset hg)
    exact protectGroup_other hmw hawg (by simp [eq]) (regrouped.channel g hg) done
  have each := mapM_eq_ok hmade
  obtain ⟨front, back, rfl, eq⟩ := regrouped.split
  have spaced : ∀ g ∈ front ++ back, ∃ d, (d = phaseDistance ∨ d = s.config.minLength) ∧
      checkDistance s.mode d g = .ok () := by
    intro g hg
    have member : g ∈ gs := by
      rw [eq]
      rcases mem_append.mp hg with hg | hg <;> simp [hg]
    obtain ⟨m, -, done⟩ := exists_of_mem_left each member
    exact (other g hg m done).2
  refine ⟨phases, gs, front ++ back, hgs, regrouped, spaced, ?_⟩
  rcases eq_or_ne (drivenRows mw awg phases given) [] with none | some
  · rw [if_pos none, append_nil] at eq
    have idle : ∀ m ∈ made, m = Option.none := by
      intro m hm
      obtain ⟨g, hg, done⟩ := exists_of_mem_right each hm
      rw [eq] at hg
      exact (other g hg m done).1
    refine .inl ⟨none, ?_⟩
    rw [shieldsOf, filterMap_idle idle]
    exact append_nil _
  · rw [if_neg some, append_assoc, singleton_append] at eq
    subst eq
    rw [mapM_append, mapM_cons] at hmade
    obtain ⟨before, -, hmade⟩ := bind_eq_ok.mp hmade
    obtain ⟨tail, htail, hmade⟩ := bind_eq_ok.mp hmade
    obtain ⟨m, here, htail⟩ := bind_eq_ok.mp htail
    obtain ⟨after, rest, htail⟩ := bind_eq_ok.mp htail
    obtain rfl := pure_eq_ok.mp htail
    obtain rfl := pure_eq_ok.mp hmade
    have idle : ∀ m ∈ after, m = Option.none := by
      intro m hm
      obtain ⟨g, hg, done⟩ := exists_of_mem_right (mapM_eq_ok rest) hm
      exact (other g (mem_append_right _ hg) m done).1
    obtain ⟨amp, lna, on, closed, shielded, rfl⟩ :=
      protectGroup_driven hmw hawg some (fun _ => mem_drivenRows) here
    refine .inr ⟨some, amp, lna, on, closed, shielded, ?_⟩
    rw [shieldsOf_append idle]

end Sequence

/-! ### Factory settings -/

lemma Placed.sorted {c : Config} {ps : List Properties} {rows : List Row} (placed : Placed c ps rows) : Sorted rows := by
  obtain ⟨given, t, -, -, rfl⟩ := placed
  exact Row.sortByChannel_pairwise given

lemma find_eq_some {table : List (String × Nat)} {v : Value} {n : Nat} (found : v.find table = .ok (some n)) :
    ∃ name, v = .text name ∧ table.lookup name = some n := by
  unfold Value.find at found
  split at found
  · exact ⟨_, rfl, Except.ok.inj found⟩
  · split at found
    · simp at found
    · simp at found

lemma twoTo_inj {m n : Nat} (h : (twoTo m : Int) = twoTo n) : m = n :=
  Nat.pow_right_injective (le_refl 2) (Int.ofNat.inj h)

lemma Placed.windowed {ps : List Properties} {rows : List Row} (placed : Placed .factory ps rows) {r : Row}
    (member : r ∈ rows) (window : r.channel = 128) : ps.any Properties.windowed = true := by
  obtain ⟨n, met, channel⟩ := placed.channel (P := fun n => n = 7 → ps.any Properties.windowed = true) (by
    rintro p hp name _ named found rfl
    obtain ⟨text, rfl, listed⟩ := find_eq_some found
    obtain rfl : text = "AWG" := Config.factory_name (Config.mem_of_lookup listed) (by decide +kernel)
    exact any_eq_true.mpr ⟨p, hp, by rw [Properties.windowed, named]; rfl⟩) r member
  exact met (twoTo_inj (channel.symm.trans window))

namespace Device

variable {p : Device} {given rows : List Row}

def converted (p : Device) : Outcome (List Row) := (rowsOf p.config p.mode p.windowed p.properties).1

lemma placed_of_converted (converted : p.converted = .ok given) : Placed p.config p.properties given :=
  (rowsOf_eq_ok.mp (Prod.ext converted rfl : rowsOf p.config p.mode p.windowed p.properties = (.ok given, _))).1

lemma prepare_own (converted : p.converted = .ok given) (b : Bench) : answer (prepare p.properties) p b =
      Sequence.prepared { p.sequence with windowed := p.windowedAfter p.properties } given (.ok given) := by
  have placed := placed_of_converted converted
  rw [answer, perform_prepare (rowsOf_eq_ok.mpr ⟨placed, rfl⟩), rowsOf_eq_ok.mpr ⟨placed, rfl⟩]
  rfl

lemma defended (factory : p.config = .factory) (converted : p.converted = .ok given) {b : Bench}
    (prepared : answer (prepare p.properties) p b = .ok rows) :
    ∃ phases gs others, Sequence.Defended { p.sequence with windowed := p.windowedAfter p.properties } 8 128 phases given
      gs others rows := by
  have placed := placed_of_converted converted
  rw [prepare_own converted] at prepared
  have config : ({ p.sequence with windowed := p.windowedAfter p.properties } : Sequence).config = .factory := factory
  refine Sequence.defended_of_prepared (by rw [config]; rfl) (by rw [config]; rfl) (by decide) (by rw [config]; rfl)
    placed.sorted placed.wired.positive ?_ prepared
  rintro ⟨r, hr, window⟩
  rw [factory] at placed
  exact Bool.or_eq_true_iff.mpr (Or.inr (placed.windowed hr window))

/-- A device in a rehearsal, with pulses that are neither moved nor made longer. -/
def holding (pulses : List (String × String × String × String)) : Device :=
  { make .factory .rehearsal with
    pulses := pulses.map fun (name, channel, start, length) =>
      ⟨.text name, .text channel, .text start, .text length, "0 ns", "0 ns", .list []⟩ }

end Device
end EprBench.Pulser
