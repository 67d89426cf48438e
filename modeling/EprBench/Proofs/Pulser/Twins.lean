import EprBench.Proofs.Pulser.Calls
import EprBench.Proofs.Pulser.Playing

/-! A rehearsal and a live session side by side. -/
namespace EprBench.Pulser

open Outcome

namespace Device

/-- What a live device keeps for itself. -/
structure Own where
  windowed : Bool
  updates : Option Int
  fromFile : Bool
  recorded : Option (List String)

def lived (p : Device) (own : Own) (rated : Bool) : Device :=
  { p with mode := .live, rated := rated, windowed := own.windowed, updates := own.updates, fromFile := own.fromFile,
           recorded := own.recorded }

/-- A rehearsed device and a live one with the same pulses. A new rate that is still to be noticed in the live session is
so in the rehearsal too. -/
def Twin (own : Own) (p q : Device) : Prop :=
  p.mode = .rehearsal ∧ ∃ rated, (rated = true → p.rated = true) ∧ q = p.lived own rated

variable {own : Own} {p q : Device}

lemma Twin.live (twin : Twin own p q) : q.mode = .live := by
  obtain ⟨-, rated, -, rfl⟩ := twin
  rfl

/-! ### Declaring and redefining -/

lemma perform_notePhases {r : Pulse} {phases : List Value} (items : r.phases.items = .ok phases) (p : Device) (b : Bench) :
    perform (notePhases r) p b = ((.ok (), { p with phaseLengths := p.phaseLengths ++ [phases.length] }), b) := by
  rw [notePhases, perform_bind, perform_lift, items]
  rfl

lemma perform_addPulse_live {r : Pulse} {n : List Nat} (counted : phaseCount r = .ok n) (live : p.mode = .live)
    (b : Bench) : perform (addPulse r) p b = ((.ok (), p.holdingAlso r n), b) := by
  obtain ⟨microwave, here, counted⟩ := bind_eq_ok.mp counted
  rw [addPulse, addPulseIn, perform_get_bind, live]
  simp only [declare, noteName]
  rw [perform_modify_bind, perform_modify_bind, perform_bind, perform_lift, here,
    proceed_ok]
  cases microwave with
  | true =>
    obtain ⟨phases, items, counted⟩ := bind_eq_ok.mp counted
    rw [if_pos rfl, perform_notePhases items, ← pure_eq_ok.mp counted]
    rfl
  | false =>
    rw [← pure_eq_ok.mp counted]
    simp [holdingAlso]

lemma leads_addPulse (r : Pulse) (twin : Twin own p q) : Leads (Twin own) (addPulse r) (addPulse r) p q := by
  intro b a p' b' done
  obtain ⟨rehearsal, rated, still, rfl⟩ := twin
  obtain ⟨-, n, counted, rfl⟩ := ends_addPulse r p done
  exact ⟨_, ⟨rehearsal, rated, still, rfl⟩, fun c => perform_addPulse_live counted rfl c⟩

lemma leads_checkName (name : Value) (twin : Twin own p q) : Leads (Twin own) (checkName name) (checkName name) p q := by
  refine .of_check (ends_checkName name p) (fun c => ?_) twin
  rw [checkName, perform_get_bind, twin.live]
  rfl

lemma leads_checkTime (t : Timing) (value : Value) (twin : Twin own p q) :
    Leads (Twin own) (checkTime t value) (checkTime t value) p q := by
  refine .of_check (ends_checkTime t value p) (fun c => ?_) twin
  rw [checkTime, perform_get_bind, twin.live]
  rfl

structure Shared (change : Device → Device) : Prop where
  lived : ∀ p own rated, change (p.lived own rated) = (change p).lived own rated
  mode : ∀ p, (change p).mode = p.mode
  rated : ∀ p, (change p).rated = p.rated

lemma Shared.after {f g : Device → Device} (second : Shared g) (first : Shared f) : Shared fun p => g (f p) :=
  ⟨fun p own rated => by rw [first.lived, second.lived], fun p => (second.mode _).trans (first.mode p),
    fun p => (second.rated _).trans (first.rated p)⟩

lemma Twin.change {change : Device → Device} (shared : Shared change) (twin : Twin own p q) :
    Twin own (change p) (change q) := by
  obtain ⟨rehearsal, rated, still, rfl⟩ := twin
  exact ⟨(shared.mode p).trans rehearsal, rated, fun h => (shared.rated p).trans (still h), shared.lived p own rated⟩

lemma leads_modify {change : Device → Device} (shared : Shared change) (twin : Twin own p q) :
    Leads (Twin own) (modify change) (modify change) p q :=
  Leads.modify (twin.change shared)

lemma Timing.note_shared (t : Timing) : Shared fun p => t.note p := by
  cases t <;> exact ⟨fun _ _ _ => rfl, fun _ => rfl, fun _ => rfl⟩

lemma leads_redefine (t : Timing) (name value : Value) (twin : Twin own p q) :
    Leads (Twin own) (redefine t name value) (redefine t name value) p q := by
  refine (leads_checkName name twin).bind fun _ p q twin => .get_bind ?_
  obtain ⟨-, rated, -, rfl⟩ := id twin
  refine .forM (fun ⟨r, i⟩ _ p q twin => .lift_bind (Outcome.Lenient.refl _) fun named => ?_) twin
  split
  · refine (leads_checkTime t value twin).bind fun _ p q twin => leads_modify ?_ twin
    exact t.note_shared.after (f := fun p => { p with pulses := p.pulses.set i (t.put r value.display) })
      ⟨fun _ _ _ => rfl, fun _ => rfl, fun _ => rfl⟩
  · exact .pure _ twin

/-! ### Moving -/

variable {m : Move} {flag : Device → Device}

lemma leads_moveAll (shared : Shared flag) (twin : Twin own p q) :
    Leads (Twin own) (moveAll m flag) (moveAll m flag) p q := by
  obtain ⟨rehearsal, rated, still, rfl⟩ := id twin
  refine .get_bind ?_
  rw [rehearsal]
  rcases made : m.all .rehearsal {} p.pulses with ⟨pulses, _ | f⟩
  · have live : m.all (p.lived own rated).mode {} (p.lived own rated).pulses = (pulses, none) := m.all_lenient {} made
    rw [live]
    dsimp only
    refine (leads_modify ?_ twin).bind fun _ _ _ twin => leads_modify ?_ twin
    · exact ⟨fun _ _ _ => rfl, fun _ => rfl, fun _ => rfl⟩
    · exact shared.after (f := fun p => { p with phaseIndex := 0 }) ⟨fun _ _ _ => rfl, fun _ => rfl, fun _ => rfl⟩
  · refine .of_fails ?_
    exact (Ends.modify (Q := fun _ _ => True) trivial).bind fun _ _ _ => .throw f

lemma leads_moveOne (shared : Shared flag) (seen : Seen) (name : Value) (twin : Twin own p q) :
    Leads (Twin own) (moveOne m flag seen name) (moveOne m flag seen name) p q := by
  obtain ⟨rehearsal, rated, still, rfl⟩ := id twin
  refine .get_bind (Leads.lift_bind (Outcome.Lenient.refl _) fun place => ?_)
  cases place with
  | none =>
    rw [rehearsal]
    exact .lift_bind (Outcome.Lenient.fault _ _) fun _ => .pure _ twin
  | some i =>
    refine .lift_bind (Outcome.Lenient.refl _) fun r => ?_
    rw [rehearsal]
    refine .lift_bind (m.apply_lenient seen r) fun ⟨r', seen'⟩ => ?_
    refine (leads_modify ?_ twin).bind fun _ _ _ twin => .pure _ twin
    exact shared.after (f := fun p => { p with pulses := p.pulses.set i r', phaseIndex := 0 })
      ⟨fun _ _ _ => rfl, fun _ => rfl, fun _ => rfl⟩

lemma leads_movePulses (shared : Shared flag) (names : List Value) (twin : Twin own p q) :
    Leads (Twin own) (movePulses m flag names) (movePulses m flag names) p q := by
  rw [movePulses]
  split
  · exact leads_moveAll shared twin
  · refine .lift_bind (Outcome.Lenient.refl _) fun _ => ?_
    refine (Leads.foldlM (fun seen name _ _ twin => leads_moveOne shared seen name twin) _ _ twin).bind ?_
    exact fun _ _ _ twin => .pure _ twin

/-! ### Going back -/

lemma leads_restoreOne (name : Value) (twin : Twin own p q) :
    Leads (Twin own) (restoreOne name) (restoreOne name) p q := by
  obtain ⟨rehearsal, rated, still, rfl⟩ := id twin
  refine .get_bind (Leads.lift_bind (Outcome.Lenient.refl _) fun place => ?_)
  cases place with
  | none => exact .pure _ twin
  | some i =>
    refine .lift_bind (Outcome.Lenient.refl _) fun r => .lift_bind (Outcome.Lenient.refl _) fun d => ?_
    refine leads_modify ?_ twin
    exact ⟨fun _ _ _ => rfl, fun _ => rfl, fun _ => rfl⟩

lemma leads_restoreNamed {names : List Value} (some : names ≠ []) (cycle : Value) (twin : Twin own p q) :
    Leads (Twin own) (restore names cycle) (restore names cycle) p q := by
  have filled : names.isEmpty = false := by simpa using some
  refine .get_bind ?_
  rw [filled]
  exact .lift_bind (Outcome.Lenient.refl _) fun _ => .forM (fun name _ _ _ twin => leads_restoreOne name twin) twin

def Own.restarted (own : Own) (restarts : Bool) : Own :=
  { own with updates := if restarts then some 0 else own.updates }

lemma perform_restartCount {cycle : Value} {restarts : Bool} (asked : cycle.equals "False" = .ok restarts) (p : Device)
    (own : Own) (rated : Bool) (b : Bench) :
    perform (restartCount cycle) (p.lived own rated) b = ((.ok (), p.lived (own.restarted restarts) rated), b) := by
  rw [restartCount, perform_bind, perform_lift, asked, proceed_ok]
  cases restarts with
  | true => rfl
  | false => rfl

lemma perform_restoreAll_live (cycle : Value) (p : Device) (own : Own) (rated : Bool) (b : Bench) :
    perform (restore [] cycle) (p.lived own rated) b =
      perform (restartCount cycle) ((unsettle { p with pulses := p.declared }).lived own rated) b := rfl

lemma leads_restoreAll {cycle : Value} {restarts : Bool} (asked : cycle.equals "False" = .ok restarts)
    (twin : Twin own p q) : Leads (Twin (own.restarted restarts)) (restore [] cycle) (restore [] cycle) p q := by
  intro b a p' b' done
  obtain ⟨rehearsal, rated, still, rfl⟩ := twin
  have back : perform (restore [] cycle) p b = ((.ok (), unsettle { p with pulses := p.declared }), b) := by
    rw [restore, perform_get_bind, List.isEmpty_nil, if_pos rfl, perform_modify_bind, rehearsal]
    rfl
  rw [back, Prod.mk.injEq, Prod.mk.injEq] at done
  obtain ⟨⟨-, rfl⟩, -⟩ := done
  refine ⟨_, ⟨rehearsal, rated, still, rfl⟩, fun c => ?_⟩
  rw [perform_restoreAll_live, perform_restartCount asked]

/-! ### Phases -/

lemma perform_takePhase {p : Device} (fine : p.nextStep.fault = none) (b : Bench) :
    perform takePhase p b = ((.ok (), p.withPhase), b) := by
  rw [nextStep] at fine
  rw [takePhase, perform_get_bind, perform_modify_bind, fine]
  rfl

lemma leads_takePhase (twin : Twin own p q) : Leads (Twin own) takePhase takePhase p q := by
  intro b a p' b' done
  obtain ⟨rehearsal, rated, still, rfl⟩ := twin
  obtain ⟨-, fine, rfl⟩ := ends_takePhase p done
  have same : (p.lived own rated).nextStep = p.nextStep := by
    rw [nextStep, rehearsal] at fine
    rw [nextStep, nextStep, rehearsal]
    exact phaseStep_lenient fine
  refine ⟨_, ⟨rehearsal, rated, still, ?_⟩, fun c => perform_takePhase (same.symm ▸ fine) c⟩
  rw [withPhase, same]
  rfl

lemma leads_checkPhases (twin : Twin own p q) : Leads (Twin own) checkPhases checkPhases p q := by
  refine .of_check (Ends.get_bind (Ends.lift fun _ _ => rfl)) (fun c => ?_) twin
  rw [checkPhases, perform_get_bind, twin.live]
  rfl

lemma nextPhase_rehearsed (done : perform nextPhase p b = ((.ok (), p'), b')) :
    perform (checkPhases >>= fun _ => takePhase) p b = ((.ok (), p.withPhase), b) ∧
      perform update p.withPhase b = ((.ok (), p'), b') := by
  obtain ⟨checked, taken, -, updated⟩ := nextPhase_cases done
  exact ⟨perform_bind_ok.mpr ⟨(), _, _, checked, taken⟩, updated⟩

lemma nextPhase_twin (twin : Twin own p q) {b b' : Bench} {p' : Device}
    (taken : perform (checkPhases >>= fun _ => takePhase) p b = ((.ok (), p'), b')) :
    ∃ q', Twin own p' q' ∧ ∀ c, perform nextPhase q c = perform update q' c := by
  obtain ⟨q', twin', follows⟩ := ((leads_checkPhases twin).bind fun _ _ _ twin => leads_takePhase twin) taken
  refine ⟨q', twin', fun c => ?_⟩
  have grouped : (nextPhase : Act Device Unit) = (checkPhases >>= fun _ => takePhase) >>= fun _ => update := by
    rw [bind_assoc]
    rfl
  rw [grouped, perform_bind, follows, proceed_ok]

/-! ### Generator pulses that have been met -/

def live (p : Device) : Device := { p with mode := .live }

/-- What stays true of both devices: the declared pulses hold a generator pulse if the current ones do, one that has been
met is still there, and the live device computes and counts its programs. -/
structure Met (own : Own) (p : Device) : Prop where
  declared : hasWindow p.declared = hasWindow p.pulses
  rehearsed : p.windowed = true → hasWindow p.pulses = true
  live : own.windowed = true → hasWindow p.pulses = true
  computes : own.fromFile = false
  counts : ∃ n, own.updates = some n

lemma Met.keeps (met : Met own p) (keeps : Keeps p p') : Met own p' := by
  have windowed : p'.windowed = p.windowed := by
    show p'.fixed.windowed = p.fixed.windowed
    rw [keeps.frame]
  have windows := keeps.windows met.declared
  refine ⟨?_, ?_, ?_, met.computes, met.counts⟩
  · rw [keeps.declared, windows, met.declared]
  · rw [windowed, windows]
    exact met.rehearsed
  · rw [windows]
    exact met.live

lemma Met.holdingAlso (met : Met own p) (r : Pulse) (phases : List Nat) : Met own (p.holdingAlso r phases) := by
  have more : hasWindow p.pulses = true → hasWindow (p.pulses ++ [r]) = true := fun window => by
    rw [hasWindow_append, window, Bool.true_or]
  exact ⟨rfl, fun seen => more (met.rehearsed seen), fun seen => more (met.live seen), met.computes, met.counts⟩

lemma properties_windowed (p : Device) : p.properties.any Properties.windowed = hasWindow p.pulses := List.any_map ..

lemma windowedAfter_eq (seen : p.windowed = true → hasWindow p.pulses = true) :
    p.windowedAfter p.properties = hasWindow p.pulses := by
  rw [windowedAfter, properties_windowed]
  cases windowed : p.windowed with
  | false => rfl
  | true => rw [seen windowed, Bool.or_self]

lemma Met.alike (met : Met own p) (rated : Bool) : Alike (p.lived own rated) p :=
  Alike.of_pulses rfl rfl rfl ((windowedAfter_eq met.live : (p.lived own rated).windowedAfter _ = _).trans
    (windowedAfter_eq met.rehearsed).symm)

lemma Met.returned (met : Met own p) : Met own p.returned :=
  ⟨rfl, fun seen => met.declared.trans (met.rehearsed seen), fun seen => met.declared.trans (met.live seen), met.computes,
    met.counts⟩

lemma Met.windowed (met : Met own p) : Met own { p with windowed := p.windowedAfter p.properties } :=
  ⟨met.declared, fun seen => (windowedAfter_eq met.rehearsed).symm.trans seen, met.live, met.computes, met.counts⟩

lemma Met.restarted (met : Met own p) (restarts : Bool) : Met (own.restarted restarts) p := by
  refine ⟨met.declared, met.rehearsed, met.live, met.computes, ?_⟩
  cases restarts with
  | true => exact ⟨0, rfl⟩
  | false => exact met.counts

end Device

/-! ### Calls that play nothing -/

namespace Call

open Device

variable {own : Own} {p p' q : Device} {b b' : Bench}

def Still : Call → Prop
  | update | nextPhase | reset _ | restore [] _ => False
  | _ => True

lemma Still.silent {call : Call} (still : call.Still) : call.Silent := by
  cases call <;> trivial

lemma met {call : Call} (silent : call.Silent) (met : Met own p) (done : perform call.act p b = ((.ok (), p'), b')) :
    Met own p' := by
  obtain ⟨-, steps | ⟨r, n, -, rfl⟩⟩ := ends silent p done
  · exact met.keeps steps.keeps
  · exact met.holdingAlso r n

lemma leads {call : Call} (still : call.Still) (twin : Twin own p q) : Leads (Twin own) call.act call.act p q := by
  cases call with
  | declare r => exact leads_addPulse r twin
  | redefine t name value => exact leads_redefine t name value twin
  | askRate => exact .pure _ twin
  | setRate rate =>
    obtain ⟨rehearsal, rated, -, rfl⟩ := twin
    exact .modify ⟨rehearsal, true, fun _ => rfl, rfl⟩
  | shift names =>
    refine leads_movePulses ?_ names twin
    exact ⟨fun _ _ _ => rfl, fun _ => rfl, fun _ => rfl⟩
  | increment names =>
    obtain ⟨-, rated, -, rfl⟩ := id twin
    refine .get_bind (leads_movePulses ?_ names twin)
    exact ⟨fun _ _ _ => rfl, fun _ => rfl, fun _ => rfl⟩
  | restore names cycle =>
    cases names with
    | nil => exact still.elim
    | cons name names => exact leads_restoreNamed (List.cons_ne_nil name names) cycle twin
  | update | nextPhase | reset => exact still.elim

end Call
end EprBench.Pulser
