import EprBench.Proofs.Pulser.Factory
import EprBench.Proofs.Pulser.Steps

/-! Declarations that a rehearsal refuses. What was noted before stays noted, and so a name can be lost. -/
namespace EprBench.Pulser.Device

open List Outcome

variable {x : Outcome Unit} {s' : Device} {names : List Value}

/-- The phases that a rehearsal notes: their number for a microwave pulse. A trigger pulse must not have any. -/
def notedPhases (q : Pulse) : Outcome (List Nat) := do
  if ← q.channel.equals "MW" then return [(← q.phases.items).length]
  else if ← q.channel.equals "TRIGGER" then
    let phases ← q.phases.items
    ensure phases.isEmpty "TRIGGER pulse should not have phase"
    return []
  else return []

/-- Refuses a name that is taken, and any name as long as there are names that are no keys. -/
def checkNew (names : List Value) (name : Value) : Outcome Unit := do
  checkKeys names
  ensure (!names.any (·.isText name.display)) "Two pulses have the same name. Please, rename"

def noting (p : Device) (phases : List Nat) (names : List Value) : Device :=
  { p with phaseLengths := p.phaseLengths ++ phases, names := p.names ++ names }

inductive Declares (α : Type) [Timescale α] (p : Device) (q : Pulse) : Outcome Unit → Device → Prop
  | phases {f : Fault} : notedPhases q = .error f → Declares α p q (.error f) p
  | name {n : List Nat} {f : Fault} : notedPhases q = .ok n → checkNew p.names q.name = .error f →
      Declares α p q (.error f) (p.noting n [])
  | times {n : List Nat} {f : Fault} : notedPhases q = .ok n → checkNew p.names q.name = .ok () →
      checkPulse α p.config q = .error f → Declares α p q (.error f) (p.noting n [q.name])
  | accepted {n : List Nat} : notedPhases q = .ok n → checkNew p.names q.name = .ok () →
      checkPulse α p.config q = .ok () → Declares α p q (.ok ()) (p.holdingAlso q n)

/-- A pulse that is refused before anything is noted of it: for its phases or, if it is no microwave pulse, for its name. -/
def RefusedAtOnce (p : Device) (q : Pulse) : Prop :=
  (∃ f, notedPhases q = .error f) ∨ notedPhases q = .ok [] ∧ ∃ f, checkNew p.names q.name = .error f

section

variable {α : Type} [Timescale α] {p p' s : Device} {q r : Pulse} {b : Bench} {f : Fault}

lemma perform_takePhases (q : Pulse) (p : Device) (b : Bench) : perform (takePhases q) p b = match notedPhases q with
      | .error f => ((.error f, p), b)
      | .ok n => ((.ok (), p.noting n []), b) := by
  have none : p.noting [] [] = p := by simp [noting]
  rw [takePhases, notedPhases, perform_bind, perform_lift]
  rcases q.channel.equals "MW" with f | microwave
  · rfl
  cases microwave with
  | true =>
    rw [proceed_ok, if_pos rfl, notePhases, perform_bind, perform_lift, ok_bind, if_pos rfl]
    rcases q.phases.items with f | phases
    · rfl
    · simp [noting, pure, Except.pure, bind, Except.bind]
  | false =>
    rw [proceed_ok, if_neg (by decide), perform_bind, perform_lift, ok_bind, if_neg (by decide)]
    rcases q.channel.equals "TRIGGER" with f | trigger
    · rfl
    cases trigger with
    | true =>
      rw [proceed_ok, if_pos rfl, perform_bind, perform_lift, ok_bind, if_pos rfl]
      rcases q.phases.items with f | phases
      · rfl
      rw [proceed_ok, perform_lift, ok_bind]
      rcases ensure phases.isEmpty "TRIGGER pulse should not have phase" with f | _
      · rfl
      · simp [none, pure, Except.pure, bind, Except.bind]
    | false =>
      rw [proceed_ok, if_neg (by decide), perform_pure, ok_bind, if_neg (by decide)]
      exact congrArg (fun s => ((Except.ok (), s), b)) none.symm

lemma perform_addPulseIn (α : Type) [Timescale α] (rehearsal : p.mode = .rehearsal) (q : Pulse) (b : Bench) :
    ∃ x p', perform (addPulseIn α q) p b = ((x, p'), b) ∧ Declares α p q x p' := by
  rw [addPulseIn, perform_get_bind, rehearsal, perform_bind, perform_takePhases]
  rcases phases : notedPhases q with f | n
  · exact ⟨_, _, rfl, .phases phases⟩
  have named : perform (do
      checkKeys p.names
      ensure (!p.names.any (·.isText q.name.display)) "Two pulses have the same name. Please, rename"
      noteName q
      checkPulse α p.config q
      declare q : Act Device Unit) (p.noting n []) b = proceed (fun _ => (do
        noteName q
        checkPulse α p.config q
        declare q : Act Device Unit)) ((checkNew p.names q.name, p.noting n []), b) := by
    rw [perform_bind, perform_lift, checkNew]
    rcases checkKeys p.names with f | _
    · rfl
    · rw [proceed_ok, perform_bind, perform_lift]
      rfl
  rw [proceed_ok, named]
  rcases fresh : checkNew p.names q.name with f | _
  · exact ⟨_, _, rfl, .name phases fresh⟩
  rw [proceed_ok, noteName, perform_modify_bind, perform_bind, perform_lift]
  rcases checked : checkPulse α p.config q with f | _
  · refine ⟨_, _, rfl, ?_⟩
    convert Declares.times phases fresh checked using 1
    simp [noting]
  · refine ⟨_, _, rfl, ?_⟩
    convert Declares.accepted phases fresh checked using 1
    simp [noting, holdingAlso]

lemma Declares.of_perform {b' : Bench} (rehearsal : p.mode = .rehearsal)
    (done : perform (addPulseIn α q) p b = ((x, p'), b')) : Declares α p q x p' := by
  obtain ⟨x', s, same, declares⟩ := perform_addPulseIn α rehearsal q b
  obtain ⟨⟨rfl, rfl⟩, -⟩ : (x' = x ∧ s = p') ∧ b = b' := by simpa [same] using done
  exact declares

lemma Declares.refused_iff (declares : Declares α p q (.error f) p') :
    (p'.names = p.names ∧ p'.phaseLengths = p.phaseLengths) ↔ RefusedAtOnce p q := by
  cases declares with
  | phases refused => exact iff_of_true ⟨rfl, rfl⟩ (Or.inl ⟨f, refused⟩)
  | @name n _ counted refused =>
    constructor
    · rintro ⟨-, same⟩
      obtain rfl : n = [] := append_right_eq_self.mp same
      exact .inr ⟨counted, f, refused⟩
    · rintro (⟨g, failed⟩ | ⟨none, -⟩)
      · simp [counted] at failed
      · obtain rfl : n = [] := by simpa [counted] using none
        exact ⟨append_nil _, append_nil _⟩
  | times counted fresh _ =>
    constructor
    · rintro ⟨same, -⟩
      simp [noting] at same
    · rintro (⟨g, failed⟩ | ⟨-, g, refused⟩)
      · simp [counted] at failed
      · simp [fresh] at refused

lemma Declares.eq_of_atOnce (declares : Declares α p q (.error f) p') (atOnce : RefusedAtOnce p q) : p' = p := by
  obtain ⟨names, phases⟩ := declares.refused_iff.mpr atOnce
  cases declares with
  | phases => rfl
  | name => exact congrArg₂ (fun a b => { p with phaseLengths := a, names := b }) phases names
  | times => exact congrArg₂ (fun a b => { p with phaseLengths := a, names := b }) phases names

lemma Declares.pulses (declares : Declares α p q (.error f) p') : p'.pulses = p.pulses ∧ p'.declared = p.declared := by
  cases declares with
  | phases => exact ⟨rfl, rfl⟩
  | name => exact ⟨rfl, rfl⟩
  | times => exact ⟨rfl, rfl⟩

lemma Declares.mode (declares : Declares α p q x p') : p'.mode = p.mode := by
  cases declares with
  | phases => rfl
  | name => rfl
  | times => rfl
  | accepted => rfl

lemma Declares.lists (declares : Declares α p q (.ok ()) p') :
    ∃ n, notedPhases q = .ok n ∧ p'.names = p.names ++ [q.name] ∧ p'.phaseLengths = p.phaseLengths ++ n := by
  cases declares with
  | accepted counted => exact ⟨_, counted, rfl, rfl⟩

lemma Declares.same_iff (refused : Declares α p q (.error f) p')
    (first : Declares α p r (.ok ()) s) (later : Declares α p' r x s') :
    (x = .ok () ∧ s' = s) ↔ RefusedAtOnce p q := by
  obtain ⟨n, counted, names, phases⟩ := first.lists
  constructor
  · rintro ⟨rfl, rfl⟩
    obtain ⟨m, counted', names', phases'⟩ := later.lists
    obtain rfl : n = m := by simpa [counted] using counted'
    refine refused.refused_iff.mp ⟨?_, ?_⟩
    · exact (append_cancel_right (names.symm.trans names')).symm
    · exact (append_cancel_right (phases.symm.trans phases')).symm
  · intro atOnce
    obtain rfl := refused.eq_of_atOnce atOnce
    cases first with
    | accepted counted fresh checked =>
      cases later with
      | phases failed => simp [counted] at failed
      | name _ failed => simp [fresh] at failed
      | times _ _ failed => simp [checked] at failed
      | accepted counted' =>
        obtain rfl := Except.ok.inj (counted.symm.trans counted')
        exact ⟨rfl, rfl⟩

/-! ### Names that are lost -/

lemma checkKeys_eq_ok : checkKeys names = .ok () ↔ ∀ v ∈ names, v.isKey = true := by
  rw [checkKeys]
  split
  · rename_i bad
    obtain ⟨v, member, noKey⟩ := any_eq_true.mp bad
    simp only [reduceCtorEq, false_iff, not_forall]
    exact ⟨v, member, by simpa using noKey⟩
  · rename_i good
    simpa using good

lemma checkNew_eq_ok {name : Value} :
    checkNew names name = .ok () ↔ ∀ v ∈ names, v.isKey = true ∧ v.isText name.display = false := by
  rw [checkNew, bind_eq_ok]
  simp only [ensure_eq_ok, Bool.not_eq_true', any_eq_false, Bool.not_eq_true]
  constructor
  · rintro ⟨⟨⟩, keys, fresh⟩ v member
    exact ⟨checkKeys_eq_ok.mp keys v member, fresh v member⟩
  · intro each
    exact ⟨(), checkKeys_eq_ok.mpr fun v member => (each v member).1, fun v member => (each v member).2⟩

lemma isText_display (v : Value) : v.isText v.display = true ↔ ∃ t, v = .text t := by
  cases v with
  | text t => simp [Value.isText, Value.display]
  | _ => simp [Value.isText]

lemma checkNew_append_self {name : Value} (fresh : checkNew names name = .ok ()) :
    checkNew (names ++ [name]) name = .ok () ↔ name.isKey = true ∧ ∀ t, name ≠ .text t := by
  rw [checkNew_eq_ok, forall_mem_append, forall_mem_singleton, and_iff_right (checkNew_eq_ok.mp fresh),
    ← Bool.not_eq_true, isText_display, not_exists]

lemma checkNew_taken {t : String} (fresh : checkNew names (.text t) = .ok ()) :
    checkNew (names ++ [.text t]) (.text t) = .error (.refused "Two pulses have the same name. Please, rename") := by
  have keys : checkKeys (names ++ [.text t]) = .ok () := by
    rw [checkKeys_eq_ok, forall_mem_append, forall_mem_singleton]
    exact ⟨fun v member => (checkNew_eq_ok.mp fresh v member).1, rfl⟩
  have taken : (names ++ [Value.text t]).any (·.isText (Value.text t).display) = true := by
    rw [any_append, any_cons, (isText_display _).mpr ⟨t, rfl⟩, Bool.true_or, Bool.or_true]
  rw [checkNew, keys, taken]
  rfl

lemma Declares.again_iff (refused : Declares α p q (.error f) p')
    (first : Declares α p r (.ok ()) s) (later : Declares α p' r x s') (same : r.name = q.name) :
    x = .ok () ↔ RefusedAtOnce p q ∨ q.name.isKey = true ∧ ∀ t, q.name ≠ .text t := by
  constructor
  · rintro rfl
    cases later with
    | accepted _ fresh _ =>
      cases refused with
      | phases failed => exact .inl (Or.inl ⟨f, failed⟩)
      | name _ failed =>
        cases first with
        | accepted _ free _ => simp [same, failed] at free
      | times _ free _ =>
        rw [same] at fresh
        exact .inr ((checkNew_append_self free).mp fresh)
  · rintro (atOnce | twice)
    · exact ((refused.same_iff first later).mpr atOnce).1
    · cases first with
      | accepted counted free checked =>
        rw [same] at free
        cases refused with
        | phases failed => exact ((Declares.same_iff (.phases failed) (.accepted counted (same ▸ free) checked) later).mpr
            (Or.inl ⟨f, failed⟩)).1
        | name _ failed => simp [free] at failed
        | times _ _ _ =>
          have fresh := (checkNew_append_self free).mpr twice
          cases later with
          | phases failed => simp [counted] at failed
          | name _ failed => simp [noting, same, fresh] at failed
          | times _ _ failed => simp [noting, checked] at failed
          | accepted => rfl

lemma Declares.lost (refused : Declares α p q (.error f) p')
    (first : Declares α p r (.ok ()) s) (later : Declares α p' r x s') {t : String} (text : q.name = .text t)
    (same : r.name = q.name) (noted : ¬ RefusedAtOnce p q) :
    x = .error (.refused "Two pulses have the same name. Please, rename") := by
  cases first with
  | accepted counted free checked =>
    rw [same] at free
    cases refused with
    | phases failed => exact absurd (Or.inl ⟨f, failed⟩) noted
    | name _ failed => simp [free] at failed
    | times _ _ _ =>
      have taken := checkNew_taken (text ▸ free)
      rw [← text] at taken
      cases later with
      | phases failed => simp [counted] at failed
      | name _ failed => exact congrArg _ (Except.error.inj (failed.symm.trans (same ▸ taken)))
      | times _ fresh _ => simp [noting, same, taken] at fresh
      | accepted _ fresh _ => simp [noting, same, taken] at fresh

/-! ### The effect of a refused declaration -/

/-- What a rehearsal refuses leaves the pulses alone, but the lists of names and phases only if it was refused at once. Only
then does any pulse that would have been accepted before behave as if nothing had happened; a correction under the same
name, if that is a text, is refused otherwise. -/
theorem refused_declaration (rehearsal : p.mode = .rehearsal) (refused : answer (addPulseIn α q) p b = .error f) :
    let p' := (perform (addPulseIn α q) p b).1.2
    p'.pulses = p.pulses ∧ p'.declared = p.declared ∧
      ((p'.names = p.names ∧ p'.phaseLengths = p.phaseLengths) ↔ RefusedAtOnce p q) ∧
      ∀ r c, answer (addPulseIn α r) p c = .ok () →
        (perform (addPulseIn α r) p' c = perform (addPulseIn α r) p c ↔ RefusedAtOnce p q) ∧
        (r.name = q.name →
          (answer (addPulseIn α r) p' c = .ok () ↔
            RefusedAtOnce p q ∨ q.name.isKey = true ∧ ∀ t, q.name ≠ .text t) ∧
          ∀ t, q.name = .text t → ¬ RefusedAtOnce p q →
            answer (addPulseIn α r) p' c = .error (.refused "Two pulses have the same name. Please, rename")) := by
  intro p'
  have whole : perform (addPulseIn α q) p b = ((.error f, p'), (perform (addPulseIn α q) p b).2) :=
    Prod.ext (Prod.ext refused rfl) rfl
  have declares := Declares.of_perform rehearsal whole
  refine ⟨declares.pulses.1, declares.pulses.2, declares.refused_iff, fun r c good => ?_⟩
  obtain ⟨_, s, done, first⟩ := perform_addPulseIn α rehearsal r c
  obtain ⟨x, s', done', later⟩ := perform_addPulseIn α (declares.mode.trans rehearsal) r c
  rw [answer, done] at good
  subst good
  have answered : answer (addPulseIn α r) p' c = x := by rw [answer, done']
  refine ⟨?_, fun same => ⟨?_, fun t text noted => ?_⟩⟩
  · rw [done, done', ← declares.same_iff first later]
    simp
  · rw [answered]
    exact declares.again_iff first later same
  · rw [answered]
    exact declares.lost first later text same noted

end

def misspelt : Pulse := ⟨"P0", "MW", "300 ns", "20 nsec", "0 ns", "0 ns", .list ["+x"]⟩

/-- The same pulse with the mistake corrected. -/
def corrected : Pulse := { misspelt with length := "20 ns" }

lemma misspelt_refused : answer (addPulseIn Float misspelt) (make .factory .rehearsal) {} =
    .error (.refused "Incorrect time dimension (s, ms, us, ns)") := by decide +kernel

lemma corrected_accepted : answer (addPulseIn Float corrected) (make .factory .rehearsal) {} = .ok () := by decide +kernel

theorem refused_declaration_misspelt :
    let p' := (perform (addPulseIn Float misspelt) (make .factory .rehearsal) {}).1.2
    answer (addPulseIn Float misspelt) (make .factory .rehearsal) {} =
        .error (.refused "Incorrect time dimension (s, ms, us, ns)") ∧
      p'.pulses = [] ∧ p'.declared = [] ∧
      (perform (addPulseIn Float corrected) p' {} = perform (addPulseIn Float corrected) (make .factory .rehearsal) {} ↔
        RefusedAtOnce (make .factory .rehearsal) misspelt) := by
  obtain ⟨pulses, declared, -, later⟩ := refused_declaration rfl misspelt_refused
  exact ⟨misspelt_refused, pulses, declared, (later corrected {} corrected_accepted).1⟩

/-- A declaration is refused for a misspelt unit, and then the correct one is refused as well, although it would have been
accepted in its place. -/
theorem misspelt_keeps_name : let p' := (perform (addPulse misspelt) (make .factory .rehearsal) {}).1.2
    answer (addPulse misspelt) (make .factory .rehearsal) {} = .error (.refused "Incorrect time dimension (s, ms, us, ns)") ∧
      p'.names.map Value.display = ["P0"] ∧ p'.phaseLengths = [1] ∧
      answer (addPulse corrected) (make .factory .rehearsal) {} = .ok () ∧
      answer (addPulse corrected) p' {} = .error (.refused "Two pulses have the same name. Please, rename") := by
  decide +kernel

end EprBench.Pulser.Device
