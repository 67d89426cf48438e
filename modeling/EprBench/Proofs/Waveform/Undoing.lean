import EprBench.Proofs.Waveform.Moves
import EprBench.Proofs.Waveform.Notices

/-! Moving the pulses of a waveform generator by their names, and going back to the declared ones after any motions. -/
namespace EprBench.Waveform

open Value List

/-! ### Going through pulses by their names -/

variable {ps qs : List Pulse}

def Plainly (x : Change Unit) (p : Pulse) : Prop := ∀ seen, left? x ⟨p, seen⟩ = left? x ⟨p, {}⟩

lemma changeAll_iff {x : Change Unit} (plain : ∀ p ∈ ps, Plainly x p) (seen : Seen) :
    changeAll x seen ps = (qs, none) ↔ Forall₂ (fun p q => left? x ⟨p, {}⟩ = some q) ps qs := by
  induction ps generalizing qs seen with
  | nil =>
    rw [forall₂_nil_left_iff, changeAll, Prod.mk.injEq, and_iff_left rfl, eq_comm]
  | cons p ps ih =>
    obtain ⟨here, later⟩ := forall_mem_cons.mp plain
    rw [forall₂_cons_left_iff, changeAll]
    have same := here seen
    rcases ran : carry x ⟨p, seen⟩ with ⟨e | a, t⟩
    · have stuck : left? x ⟨p, {}⟩ = none := by rw [← same, left?, ran]
      have cut : x.run.run ⟨p, seen⟩ = (.error e, t) := ran
      simp only [cut, stuck, Prod.mk.injEq, reduceCtorEq, and_false, false_and, exists_false]
    · have done : left? x ⟨p, {}⟩ = some t.pulse := by rw [← same, left?, ran]
      have cut : x.run.run ⟨p, seen⟩ = (.ok a, t) := ran
      simp only [cut, done, Option.some.injEq]
      constructor
      · intro made
        obtain ⟨rfl, none⟩ := Prod.mk.inj made
        exact ⟨t.pulse, _, rfl, (ih later t.seen).mp (Prod.ext rfl none), rfl⟩
      · rintro ⟨q, qs, rfl, rest, rfl⟩
        rw [(ih later t.seen).mpr rest]

namespace Generator

variable {g h : Generator} {α β : Type}

def pulsesAfter (x : Act Generator α) (g : Generator) (b : Bench) : Option (List Pulse) :=
  match perform x g b with
  | ((.ok _, h), _) => some h.pulses
  | ((.error _, _), _) => none

lemma pulsesAfter_bind {x : Act Generator α} {f : α → Act Generator β} {a : α} {b b' : Bench}
    (done : perform x g b = ((.ok a, h), b')) : pulsesAfter (x >>= f) g b = pulsesAfter (f a) h b' := by
  rw [pulsesAfter, perform_bind, done]
  rfl

lemma pulsesAfter_bind_failed {x : Act Generator α} {f : α → Act Generator β} {e : Fault} {b b' : Bench}
    (failed : perform x g b = ((.error e, h), b')) : pulsesAfter (x >>= f) g b = none := by
  rw [pulsesAfter, perform_bind, failed]
  rfl

section

variable {names todo : List Value} {turn : ℕ → Pulse → Option Pulse} {ps qs : List Pulse}

def placesOf (names todo : List Value) (i : ℕ) : Prop := ∃ v ∈ todo, names[i]? = some v

open Classical in
/-- What becomes of pulses when those of some names come to their turn. -/
noncomputable def turnedBy (names todo : List Value) (turn : ℕ → Pulse → Option Pulse) (ps : List Pulse) : List (Option Pulse) :=
  ps.mapIdx fun i p => if placesOf names todo i then turn i p else some p

lemma turnedBy_nil : turnedBy names [] turn ps = ps.map some :=
  List.ext_getElem? fun i => by simp [turnedBy, placesOf]

lemma turnedBy_all (all : ∀ v, v ∈ todo ↔ v ∈ names) (lengths : ps.length = names.length) :
    turnedBy names todo turn ps = ps.mapIdx turn := by
  refine mapIdx_eq_mapIdx_iff.mpr fun i inside => if_pos ⟨names[i], (all _).mpr (getElem_mem _), ?_⟩
  exact getElem?_eq_getElem _

lemma not_placesOf {v : Value} (new : v ∉ todo) {i : ℕ} (place : names[i]? = some v) : ¬ placesOf names todo i := by
  rintro ⟨w, member, there⟩
  exact new (Option.some.inj (there.symm.trans place) ▸ member)

lemma turnedBy_cons {v : Value} (apart : names.Nodup) (new : v ∉ todo) {i : ℕ} (place : names[i]? = some v)
    {p q : Pulse} (here : ps[i]? = some p) (turns : turn i p = some q) :
    turnedBy names (v :: todo) turn ps = turnedBy names todo turn (ps.set i q) := by
  refine List.ext_getElem? fun j => ?_
  rw [turnedBy, turnedBy, getElem?_mapIdx, getElem?_mapIdx]
  by_cases off : j = i
  · subst off
    rw [here, getElem?_set_self (List.getElem?_eq_some_iff.mp here).1, Option.map_some, Option.map_some,
      if_pos ⟨v, mem_cons_self, place⟩, if_neg (not_placesOf new place), turns]
  · have both : placesOf names (v :: todo) j ↔ placesOf names todo j := by
      simp only [placesOf, mem_cons, exists_eq_or_imp]
      refine or_iff_right fun there => off ?_
      exact (getElem?_inj (List.getElem?_eq_some_iff.mp there).1 apart).mp (there.trans place.symm)
    classical simp only [getElem?_set_ne (Ne.symm off), both]

/-- Going through pulses by their names, one after another: `each` is the step for one of them. Nothing but the pulse itself
matters for its turn, and only pulses that fit come to their turn. -/
lemma pulsesAfter_foldlM (I : Generator → Prop) (fit : Pulse → Prop) (turn : ℕ → Pulse → Option Pulse)
    {step : β → Value → Act Generator β} (apart : names.Nodup)
    (each : ∀ c v g i p b, I g → names[i]? = some v → g.pulses[i]? = some p → fit p →
      (turn i p = none → ∃ e h b', perform (step c v) g b = ((.error e, h), b')) ∧
        ∀ q, turn i p = some q → ∃ c' h, perform (step c v) g b = ((.ok c', h), b) ∧ I h ∧ h.pulses = g.pulses.set i q)
    (new : todo.Nodup) (known : ∀ v ∈ todo, v ∈ names) (c : β) (good : I g) (lengths : g.pulses.length = names.length)
    (fits : ∀ i p, placesOf names todo i → g.pulses[i]? = some p → fit p) (b : Bench) :
    pulsesAfter (todo.foldlM step c) g b = some qs ↔ turnedBy names todo turn g.pulses = qs.map some := by
  induction todo generalizing c g with
  | nil =>
    rw [turnedBy_nil, List.map_inj_right fun _ _ => Option.some.inj]
    exact Option.some_inj
  | cons v todo ih =>
    obtain ⟨first, later⟩ := nodup_cons.mp new
    obtain ⟨i, place⟩ := List.mem_iff_getElem?.mp (known v mem_cons_self)
    have inside : i < g.pulses.length := lengths ▸ (List.getElem?_eq_some_iff.mp place).1
    obtain ⟨p, here⟩ : ∃ p, g.pulses[i]? = some p := ⟨_, getElem?_eq_getElem inside⟩
    have due : placesOf names (v :: todo) i := ⟨v, mem_cons_self, place⟩
    obtain ⟨fails, succeeds⟩ := each c v g i p b good place here (fits i p due here)
    rw [foldlM_cons]
    cases turns : turn i p with
    | none =>
      obtain ⟨e, h, b', failed⟩ := fails turns
      rw [pulsesAfter_bind_failed failed]
      refine ⟨nofun, fun turned => ?_⟩
      have missing := congrArg (·[i]?) turned
      simp [turnedBy, here, due, turns] at missing
    | some q =>
      obtain ⟨c', h, done, good', pulses⟩ := succeeds q turns
      rw [pulsesAfter_bind done, turnedBy_cons apart first place here turns, ← pulses]
      refine ih later (fun w member => known w (mem_cons_of_mem v member)) c' good'
        (by rw [pulses, length_set, lengths]) ?_
      intro j r due there
      have off : i ≠ j := fun same => not_placesOf first place (same ▸ due)
      rw [pulses, getElem?_set_ne off] at there
      obtain ⟨w, member, there'⟩ := due
      exact fits j r ⟨w, mem_cons_of_mem v member, there'⟩ there

end

lemma pulsesAfter_changePulses {x : Change Unit} {qs : List Pulse} (plain : ∀ p ∈ g.pulses, Plainly x p) (b : Bench) :
    pulsesAfter (changePulses x) g b = some qs ↔ Forall₂ (fun p q => left? x ⟨p, {}⟩ = some q) g.pulses qs := by
  rw [← changeAll_iff plain {}]
  unfold pulsesAfter changePulses
  rw [perform_get_bind]
  rcases changeAll x {} g.pulses with ⟨ps, _ | f⟩
  · simp
  · simp [perform_modify_bind]

lemma perform_changeNamed (x : Change Unit) (finish : Generator → Generator) (seen : Seen) {v : Value} {i : ℕ} {p : Pulse}
    (place : v.placeAmong g.names = .ok (some i)) (here : g.pulses[i]? = some p) (b : Bench) :
    perform (changeNamed x finish seen v) g b = match carry x ⟨p, seen⟩ with
      | (.error f, s) => ((.error f, { g with pulses := g.pulses.set i s.pulse }), b)
      | (.ok _, s) => ((.ok s.seen, finish { g with pulses := g.pulses.set i s.pulse }), b) := by
  rw [changeNamed, perform_get_bind, place, perform_bind, perform_lift]
  change perform (liftM (pick g.pulses i) >>= _) g b = _
  rw [pick_eq_ok.mpr here, perform_bind, perform_lift]
  rcases ran : carry x ⟨p, seen⟩ with ⟨e | a, t⟩
  · have cut : x.run.run ⟨p, seen⟩ = (.error e, t) := ran
    simp only [proceed, cut]
    rfl
  · have cut : x.run.run ⟨p, seen⟩ = (.ok a, t) := ran
    simp only [proceed, cut]
    rfl

structure Catalogued (g : Generator) : Prop where
  texts : ∀ v ∈ g.names, ∃ s, v = .text s
  apart : g.names.Nodup
  lengths : g.pulses.length = g.names.length

def NamesAll (ns : List Value) (g : Generator) : Prop := ∀ v, v ∈ ns ↔ v ∈ g.names

section

variable {ns : List Value}

lemma distinctNames_all (catalogued : Catalogued g) (all : NamesAll ns g) :
    (distinctNames ns).Nodup ∧ (∀ v, v ∈ distinctNames ns ↔ v ∈ g.names) ∧ ns.any (!·.isKey) = false := by
  have texts : ns ∈ Set.range (List.map Value.text) := by
    rw [Set.range_list_map]
    intro v member
    obtain ⟨s, rfl⟩ := catalogued.texts v ((all v).mp member)
    exact ⟨s, rfl⟩
  obtain ⟨names, rfl⟩ := texts
  obtain ⟨distinct, same, apart, members⟩ := distinct_texts names
  have same : distinctNames (names.map .text) = distinct.map .text := same
  refine ⟨?_, fun v => ?_, ?_⟩
  · rw [same]
    exact apart.map fun _ _ => Value.text.inj
  · rw [← all v, same, mem_map, mem_map]
    simp only [members]
  · simp [Value.isKey]

lemma changeEach_all {x : Change Unit} {finish : Generator → Generator} (catalogued : Catalogued g) (all : NamesAll ns g)
    (finishes : ∀ g, (finish g).names = g.names ∧ (finish g).pulses = g.pulses) (plain : ∀ p ∈ g.pulses, Plainly x p)
    (b : Bench) : pulsesAfter (changeEach x finish ns) g b = pulsesAfter (changePulses x) g b := by
  refine Option.ext fun qs => ?_
  obtain ⟨apart, members, keys⟩ := distinctNames_all catalogued all
  have dropped : pulsesAfter (changeEach x finish ns) g b =
      pulsesAfter ((distinctNames ns).foldlM (changeNamed x finish) {}) g b := by
    rw [changeEach, keys]
    unfold pulsesAfter
    simp only [Bool.false_eq_true, if_false]
    rw [perform_bind]
    rcases perform ((distinctNames ns).foldlM (changeNamed x finish) {}) g b with ⟨⟨e | a, h⟩, b'⟩
    · rfl
    · rfl
  have pairs : pulsesAfter (changePulses x) g b = some qs ↔
      turnedBy g.names (distinctNames ns) (fun _ p => left? x ⟨p, {}⟩) g.pulses = qs.map some := by
    have each : g.pulses.mapIdx (fun _ p => left? x ⟨p, {}⟩) = g.pulses.map (left? x ⟨·, {}⟩) := List.ext_getElem? (by simp)
    rw [pulsesAfter_changePulses plain, turnedBy_all members catalogued.lengths, each, ← forall₂_eq_eq_eq,
      forall₂_map_left_iff, forall₂_map_right_iff]
  rw [dropped, pairs]
  refine pulsesAfter_foldlM (fun h => h.names = g.names) (Plainly x) (fun _ p => left? x ⟨p, {}⟩) catalogued.apart ?_ apart
    (fun v => (members v).mp) _ rfl catalogued.lengths (fun i p _ here => plain p (List.mem_of_getElem? here)) b
  intro seen v h i p c names place here plain
  have found := placeAmong_of_nodup catalogued.texts catalogued.apart place
  rw [← names] at found
  rw [perform_changeNamed x finish seen found here, ← plain seen]
  unfold left?
  rcases carry x ⟨p, seen⟩ with ⟨e | a, t⟩
  · exact ⟨fun _ => ⟨e, _, c, rfl⟩, nofun⟩
  · refine ⟨nofun, fun q same => ⟨t.seen, _, rfl, ?_, ?_⟩⟩
    · rw [(finishes _).1]
      exact names
    · rw [(finishes _).2, ← Option.some.inj same]

end

/-! ### What moving leaves alone -/

section

set_option synthInstance.maxSize 1000000

abbrev outline (g : Generator) := (g.mode, g.names, g.declared, g.joined, g.pulses)

def Outlines (u v : Generator × Bench) : Prop := outline v.1 = outline u.1

instance : IsPreorder (Generator × Bench) Outlines where
  refl _ := rfl
  trans _ _ _ first second := Eq.trans second first

instance : Tolerates Outlines where
  note g h b same := by
    simp only [essence, Prod.mk.injEq] at same
    obtain ⟨mode, -, -, -, ⟨-, -, joined⟩, -, -, -, pulses, declared, names⟩ := same
    simp only [Outlines, outline, mode, pulses, declared, names, joined]
  work _ _ _ _ := rfl

instance outlines_work (x : Work α) : Obeys Outlines (liftM x : Act Generator α) := ⟨fun _ _ => rfl⟩

instance outlines_note (f : Generator → Generator) [same : ∀ g, Untouched (outline (f g)) (outline g)] :
    Obeys Outlines (modify f : Act Generator PUnit) := ⟨fun g => .modify fun _ => (same g).eq⟩

instance (copies : Int) (g : Generator) : Untouched (outline (countBytes copies g)) (outline g) := by
  unfold countBytes
  split <;> infer_instance

instance (g : Generator) : Untouched (outline (settle g)) (outline g) := ⟨rfl⟩

instance (index : Nat) (samples : Array Int) : Obeys Outlines (loadSegment index samples) := by
  dsimp only [loadSegment]
  infer_instance

instance : Obeys Outlines loadSequence := by
  refine .seq Obeys.get fun g => ?_
  split
  · infer_instance
  · infer_instance
  · have finish : Obeys Outlines (do
        match (← get).buffers with
        | .gone => throw .noMember
        | _ => modify fun g => { g with buffers := .gone, blocks := .gone }
        modify fun g => countBytes g.sequenceSegments g : Act Generator Unit) := by
      refine .seq Obeys.get fun g => ?_
      split <;> dsimp only <;> infer_instance
    infer_instance

instance (plan : Plan) (samples : Array Int) : Obeys Outlines (loadBuffer plan samples) := by
  dsimp only [loadBuffer]
  infer_instance

instance outlines_update : Obeys Outlines update := by
  refine .seq Obeys.get fun g => ?_
  cases g.mode <;> dsimp only <;> infer_instance

instance (p : Pulse) : Obeys Outlines (notePhases p) := by
  dsimp only [notePhases]
  infer_instance

instance (p : Pulse) : Obeys Outlines (noteChannel p) := by
  dsimp only [noteChannel]
  infer_instance

end

/-- What motions start from: pulses by their names, how they are played, and how far from them a pulse may get. -/
structure Ground where
  names : List Value
  pulses : List Pulse
  joined : Bool
  like : Pulse → Pulse → Prop

structure Moved (s : Ground) (g : Generator) : Prop where
  names : g.names = s.names
  declared : g.declared = s.pulses
  joined : g.joined = s.joined
  pulses : Forall₂ s.like s.pulses g.pulses

lemma forall₂_set {R : Pulse → Pulse → Prop} {ds ps : List Pulse} (all : Forall₂ R ds ps) {i : ℕ} {q : Pulse}
    (here : ∀ d, ds[i]? = some d → R d q) : Forall₂ R ds (ps.set i q) := by
  induction all generalizing i with
  | nil => exact .nil
  | cons first rest ih =>
    cases i with
    | zero => exact .cons (here _ rfl) rest
    | succ i => exact .cons first (ih here)

section

variable {s : Ground}

namespace Moved

lemma of_outline (moved : Moved s g) (same : outline h = outline g) : Moved s h := by
  simp only [outline, Prod.mk.injEq] at same
  obtain ⟨-, names, declared, plans, pulses⟩ := same
  exact ⟨names.trans moved.names, declared.trans moved.declared, plans.trans moved.joined, pulses ▸ moved.pulses⟩

lemma like (moved : Moved s g) {i : ℕ} {d p : Pulse} (there : s.pulses[i]? = some d) (here : g.pulses[i]? = some p) :
    s.like d p := by
  obtain ⟨-, each⟩ := forall₂_iff_get.mp moved.pulses
  obtain ⟨inside, rfl⟩ := List.getElem?_eq_some_iff.mp there
  obtain ⟨inside', rfl⟩ := List.getElem?_eq_some_iff.mp here
  exact each i inside inside'

lemma set (moved : Moved s g) {i : ℕ} {q : Pulse} (here : ∀ d, s.pulses[i]? = some d → s.like d q) :
    Moved s { g with pulses := g.pulses.set i q } := ⟨moved.names, moved.declared, moved.joined, forall₂_set moved.pulses here⟩

end Moved

def Moves (s : Ground) (x : Change Unit) : Prop := ∀ d t, s.like d t.pulse → Leaves (fun _ => s.like d) x t

variable {x : Change Unit}

lemma Moves.changeAll (moves : Moves s x) (seen : Seen) {ds ps : List Pulse}
    (all : Forall₂ s.like ds ps) : Forall₂ s.like ds (changeAll x seen ps).1 := by
  induction all generalizing seen with
  | nil => exact .nil
  | cons first rest ih =>
    have after := moves _ ⟨_, seen⟩ first
    rw [Waveform.changeAll]
    unfold Leaves carry at after
    rcases ran : x.run.run ⟨_, seen⟩ with ⟨e | a, t⟩
    · rw [ran] at after
      exact .cons after rest
    · rw [ran] at after
      exact .cons after (ih t.seen)

abbrev MovesOn (s : Ground) (x : Act Generator α) (g : Generator) : Prop := Ensures (Moved s) (fun _ => Moved s) x g

lemma movesOn_changePulses (moves : Moves s x) (moved : Moved s g) : MovesOn s (changePulses x) g := by
  refine .get_bind ?_
  have after := moves.changeAll {} moved.pulses
  generalize changeAll x {} g.pulses = made at after ⊢
  obtain ⟨ps, fault⟩ := made
  have moved' : Moved s { g with pulses := ps } := ⟨moved.names, moved.declared, moved.joined, after⟩
  refine .modify_bind ?_
  cases fault with
  | none => exact .pure moved' moved'
  | some f => exact .throw f moved'

lemma movesOn_changeNamed (moves : Moves s x) {finish : Generator → Generator}
    (finishes : ∀ g, outline (finish g) = outline g) (seen : Seen) (v : Value) (moved : Moved s g) :
    MovesOn s (changeNamed x finish seen v) g := by
  refine .get_bind (.lift_bind moved fun found _ => ?_)
  cases found with
  | none => exact .lift_bind moved fun _ _ => .pure moved moved
  | some i =>
    refine .lift_bind moved fun p picked => ?_
    have after (d : Pulse) (there : s.pulses[i]? = some d) := moves d ⟨p, seen⟩ (moved.like there (pick_eq_ok.mp picked))
    unfold Leaves carry at after
    rcases ran : x.run.run ⟨p, seen⟩ with ⟨e | a, t⟩
    · rw [ran] at after
      exact .modify_bind (.throw e (moved.set after))
    · rw [ran] at after
      have moved' := (moved.set after).of_outline (finishes _)
      exact .modify_bind (.modify_bind (.pure moved' moved'))

lemma movesOn_changeEach (moves : Moves s x) {finish : Generator → Generator}
    (finishes : ∀ g, outline (finish g) = outline g) (ns : List Value) (moved : Moved s g) :
    MovesOn s (changeEach x finish ns) g := by
  have loop : MovesOn s (do let _ ← (distinctNames ns).foldlM (changeNamed x finish) {} : Act Generator Unit) g :=
    (Ensures.foldlM (fun seen v _ moved => movesOn_changeNamed moves finishes seen v moved) _ _ moved).bind fun _ _ moved =>
      .pure moved moved
  exact .ite (fun _ => .throw _ moved) fun _ => loop

lemma movesOn_shift (moves : Moves s (if s.joined then shiftStart else shiftPhase)) (ns : List Value) (moved : Moved s g) :
    MovesOn s (shift ns) g := by
  have moved' : Moved s { g with shifted := true, phaseIndex := 0 } := moved.of_outline rfl
  refine .modify_bind (.get_bind ?_)
  rw [← moved.joined] at moves
  exact .ite (fun _ => movesOn_changePulses moves moved') fun _ => movesOn_changeEach moves (fun _ => rfl) ns moved'

lemma movesOn_grow (moves : ∀ byName, Moves s (lengthen g.limits g.mode byName)) (ns : List Value) (moved : Moved s g) :
    MovesOn s (grow ns) g := by
  have finishes (g : Generator) : outline { g with lengthened := true, phaseIndex := 0 } = outline g := rfl
  unfold grow
  refine .get_bind (.ite (fun _ => ?_) fun _ => movesOn_changeEach (moves true) finishes ns moved)
  refine (movesOn_changePulses (moves false) moved).bind fun _ h moved => ?_
  have moved' := moved.of_outline (finishes h)
  exact .modify moved' moved'

lemma movesOn_update (moved : Moved s g) : MovesOn s update g :=
  .of_within (outlines_update.within g) (fun _ _ _ same => moved.of_outline same) fun _ _ _ _ same => moved.of_outline same

lemma movesOn_turns {turn : Pulse × ℕ → Act Generator PUnit} (moved : Moved s g)
    (each : ∀ u ∈ g.pulses.zipIdx, ∀ h, Moved s h → MovesOn s (turn u) h) :
    MovesOn s (do
      g.pulses.zipIdx.forM turn
      modify fun g => { g with phaseIndex := g.phaseIndex + 1 }
      update) g := by
  refine (Ensures.forM each moved).bind fun _ h moved => ?_
  have moved' : Moved s { h with phaseIndex := h.phaseIndex + 1 } := moved.of_outline rfl
  exact .modify_bind (movesOn_update moved')

lemma movesOn_nextPhase (free : ∀ d p v, s.like d p → s.like d { p with phase := v }) (moved : Moved s g) :
    MovesOn s nextPhase g := by
  refine .get_bind (.ite (fun _ => .lift_bind moved fun _ _ => .lift_bind moved fun _ _ => ?_) fun _ => ?_)
  all_goals
    refine movesOn_turns moved ?_
    rintro ⟨p, i⟩ member h moved'
    have here : g.pulses[i]? = some p := List.mem_zipIdx_iff_getElem?.mp member
    refine .lift_bind moved' fun found _ => ?_
    cases found with
    | none => exact .pure moved' moved'
    | some phase =>
      have turned : Moved s { h with pulses := h.pulses.set i { p with phase := phase } } :=
        moved'.set fun d there => free d p phase (moved.like there here)
      exact .modify (turned.of_outline rfl) (turned.of_outline rfl)

end

/-! ### Moving and going back -/

inductive Motion where
  | shift (names : List Value)
  | grow (names : List Value)
  | nextPhase

def Motion.act : Motion → Act Generator Unit
  | .shift names => Generator.shift names
  | .grow names => Generator.grow names
  | .nextPhase => Generator.nextPhase

/-- Generator and bench after motions one after another, whether they succeed or not. -/
def after (ms : List Motion) (g : Generator) (b : Bench) : Generator × Bench :=
  ms.foldl (fun u m => ((perform m.act u.1 u.2).1.2, (perform m.act u.1 u.2).2)) (g, b)

/-- Pulses as they are accepted: each one is known by a text of its own, and its times have known units. -/
structure Accepted (ds : List Pulse) : Prop where
  texts : ∀ d ∈ ds, ∃ s, d.name = .text s
  apart : (ds.map (·.name)).Nodup
  timed : ∀ d ∈ ds, d.Timed

structure Declared (ds : List Pulse) (g : Generator) : Prop where
  pulses : g.pulses = ds
  declared : g.declared = ds
  names : g.names = ds.map (·.name)

section

variable {ds : List Pulse} {j : Bool} {ns : List Value}

abbrev ground (ds : List Pulse) (j : Bool) : Ground := ⟨ds.map (·.name), ds, j, Displaced (j = false)⟩

lemma Declared.moved (accepted : Accepted ds) (declared : Declared ds g) : Moved (ground ds g.joined) g where
  names := declared.names
  declared := declared.declared
  joined := rfl
  pulses := by
    rw [declared.pulses, forall₂_same]
    exact fun d member => Displaced.refl (accepted.timed d member)

lemma moves_shift (ds : List Pulse) (j : Bool) : Moves (ground ds j) (if j then shiftStart else shiftPhase) := by
  intro d t displaced
  cases j with
  | true => exact leaves_shiftStart displaced nofun
  | false => exact leaves_shiftPhase displaced

lemma Moved.after (moved : Moved (ground ds j) g) (ms : List Motion) (b : Bench) : Moved (ground ds j) (after ms g b).1 := by
  induction ms generalizing g b with
  | nil => exact moved
  | cons m ms ih =>
    refine ih ?_ _
    cases m with
    | shift names => exact (movesOn_shift (moves_shift ds j) names moved b).1
    | grow names => exact (movesOn_grow (fun _ _ _ displaced => leaves_lengthen _ _ _ displaced) names moved b).1
    | nextPhase => exact (movesOn_nextPhase (fun _ _ _ displaced => Displaced.withPhase displaced) moved b).1

lemma Moved.catalogued (moved : Moved (ground ds j) g) (accepted : Accepted ds) : Catalogued g where
  texts := by
    intro v member
    rw [moved.names] at member
    obtain ⟨d, here, rfl⟩ := mem_map.mp member
    exact accepted.texts d here
  apart := moved.names ▸ accepted.apart
  lengths := by rw [moved.names, length_map, moved.pulses.length_eq]

lemma Moved.timed (moved : Moved (ground ds j) g) {p : Pulse} (member : p ∈ g.pulses) : p.Timed := by
  obtain ⟨i, here⟩ := List.mem_iff_getElem?.mp member
  have inside : i < ds.length := moved.pulses.length_eq ▸ (List.getElem?_eq_some_iff.mp here).1
  exact (moved.like (getElem?_eq_getElem inside) here).timed

lemma Moved.bare (moved : Moved (ground ds j) g) (all : NamesAll [] g) : g.pulses = [] ∧ ds = [] := by
  have empty : g.names = [] := eq_nil_iff_forall_not_mem.mpr fun v member => by simpa using (all v).mpr member
  have none : ds = [] := map_eq_nil_iff.mp (moved.names.symm.trans empty)
  have pulses := moved.pulses
  rw [none, forall₂_nil_left_iff] at pulses
  exact ⟨pulses, none⟩

lemma pulsesAfter_shift (ns : List Value) (g : Generator) (b : Bench) : pulsesAfter (shift ns) g b =
      pulsesAfter (if ns.isEmpty then changePulses (if g.joined then shiftStart else shiftPhase)
        else changeEach (if g.joined then shiftStart else shiftPhase) id ns) { g with shifted := true, phaseIndex := 0 } b := by
  unfold pulsesAfter
  rw [shift, perform_modify_bind, perform_get_bind]

lemma shift_names (accepted : Accepted ds) (moved : Moved (ground ds j) g) (all : NamesAll ns g) (b : Bench) :
    pulsesAfter (shift ns) g b = pulsesAfter (shift []) g b := by
  have plain : ∀ p ∈ g.pulses, Plainly (if g.joined then shiftStart else shiftPhase) p := by
    intro p member seen
    split
    · exact left?_shiftStart (moved.timed member) seen {}
    · exact left?_shiftPhase seen {}
  cases ns with
  | nil => rfl
  | cons v ns =>
    have moved' : Moved (ground ds j) { g with shifted := true, phaseIndex := 0 } := moved.of_outline rfl
    rw [pulsesAfter_shift, pulsesAfter_shift, isEmpty_cons, if_neg Bool.false_ne_true, isEmpty_nil, if_pos rfl]
    exact changeEach_all (moved'.catalogued accepted) all (fun _ => ⟨rfl, rfl⟩) plain b

def notedLonger (g : Generator) : Generator := { g with lengthened := true, phaseIndex := 0 }

lemma pulsesAfter_grow (ns : List Value) (g : Generator) (b : Bench) : pulsesAfter (grow ns) g b =
      if ns.isEmpty then pulsesAfter (changePulses (lengthen g.limits g.mode false)) g b
      else pulsesAfter (changeEach (lengthen g.limits g.mode true) notedLonger ns) g b := by
  unfold pulsesAfter
  rw [grow, perform_get_bind]
  cases ns with
  | cons v ns => rfl
  | nil =>
    rw [isEmpty_nil, if_pos rfl, if_pos rfl, perform_bind]
    rcases perform (changePulses (lengthen g.limits g.mode false)) g b with ⟨⟨e | a, h⟩, b'⟩
    · rfl
    · rfl

lemma grow_names (accepted : Accepted ds) (moved : Moved (ground ds j) g) (all : NamesAll ns g) (b : Bench) (qs : List Pulse) :
    pulsesAfter (grow ns) g b = some qs ↔ (∀ p ∈ g.pulses, p.Growable) ∧ pulsesAfter (grow []) g b = some qs := by
  have plain (byName : Bool) : ∀ p ∈ g.pulses, Plainly (lengthen g.limits g.mode byName) p := fun p member seen =>
    left?_lengthen (moved.timed member) _ _ (Or.inl rfl) seen {}
  have timed : ∀ p ∈ g.pulses, p.Timed := fun p member => moved.timed member
  have catalogued := moved.catalogued accepted
  cases ns with
  | nil =>
    rw [(moved.bare all).1, and_iff_right (forall_mem_nil _)]
  | cons v ns =>
    have noted (h : Generator) : (notedLonger h).names = h.names ∧ (notedLonger h).pulses = h.pulses := ⟨rfl, rfl⟩
    rw [pulsesAfter_grow, pulsesAfter_grow, isEmpty_cons, if_neg Bool.false_ne_true, isEmpty_nil, if_pos rfl,
      changeEach_all catalogued all noted (plain true), pulsesAfter_changePulses (plain true),
      pulsesAfter_changePulses (plain false), ← forall₂_and_left]
    constructor
    · intro grown
      exact ((forall₂_and_left _ _).mpr ⟨timed, grown⟩).imp fun p q both => (left?_byName both.1 _ _).mp both.2
    · intro grown
      exact ((forall₂_and_left _ _).mpr ⟨timed, grown⟩).imp fun p q both => (left?_byName both.1 _ _).mpr both.2

lemma forM_eq_foldlM (f : α → Act Generator PUnit) (xs : List α) : xs.forM f = xs.foldlM (fun _ x => f x) ⟨⟩ := by
  induction xs with
  | nil => rfl
  | cons x xs ih =>
    rw [foldlM_cons]
    exact congrArg (f x >>= ·) (funext fun _ => ih)

lemma restore_all (moved : Moved (ground ds j) g) (b : Bench) :
    pulsesAfter (restore []) g b = some ds := congrArg some moved.declared

def goBack (name : Value) : Act Generator Unit := do
  let g ← get
  match ← name.placeAmong g.names with
  | none => return
  | some i =>
    let p ← pick g.pulses i
    let d ← pick g.declared i
    modify fun g => unsettle { g with pulses := g.pulses.set i (d.back p) }

lemma restore_eq (ns : List Value) : restore ns =
    if ns.isEmpty then modifyThe Generator fun g => unsettle { g with pulses := g.declared, phaseIndex := 0, updates := 0 }
    else if ns.any (!·.isKey) then throw .wrongType else (distinctNames ns).forM goBack := rfl

lemma perform_goBack {v : Value} {i : ℕ} {d p : Pulse} (place : v.placeAmong g.names = .ok (some i))
    (here : g.pulses[i]? = some p) (there : g.declared[i]? = some d) (b : Bench) :
    perform (goBack v) g b = ((.ok (), unsettle { g with pulses := g.pulses.set i (d.back p) }), b) := by
  rw [goBack, perform_get_bind, place, perform_bind, perform_lift]
  change perform (liftM (pick g.pulses i) >>= _) g b = _
  rw [pick_eq_ok.mpr here, perform_bind, perform_lift]
  change perform (liftM (pick g.declared i) >>= _) g b = _
  rw [pick_eq_ok.mpr there]
  rfl

lemma restore_names (accepted : Accepted ds) (moved : Moved (ground ds j) g) (all : NamesAll ns g) (b : Bench) :
    pulsesAfter (restore ns) g b = some (List.zipWith (fun d p => { d with start := p.start }) ds g.pulses) := by
  have catalogued := moved.catalogued accepted
  obtain ⟨apart, members, keys⟩ := distinctNames_all catalogued all
  cases ns with
  | nil =>
    obtain ⟨-, rfl⟩ := moved.bare all
    exact restore_all moved b
  | cons v ns =>
    rw [restore_eq, isEmpty_cons, if_neg Bool.false_ne_true, keys, if_neg Bool.false_ne_true, forM_eq_foldlM]
    refine (pulsesAfter_foldlM (fun h => h.names = g.names ∧ h.declared = ds) (fun _ => True)
      (fun i p => ds[i]?.map fun d => d.back p) catalogued.apart ?_ apart (fun v => (members v).mp) _
      ⟨rfl, moved.declared⟩ catalogued.lengths (fun _ _ _ _ => trivial) b).mpr ?_
    · rintro ⟨⟩ v h i p c ⟨names, declared⟩ place here -
      have found := placeAmong_of_nodup catalogued.texts catalogued.apart place
      have inside : i < ds.length := by
        have inside := (List.getElem?_eq_some_iff.mp place).1
        rwa [moved.names, length_map] at inside
      have there : ds[i]? = some ds[i] := getElem?_eq_getElem inside
      rw [← names] at found
      rw [there]
      refine ⟨nofun, fun q same => ?_⟩
      obtain rfl := Option.some.inj same
      exact ⟨_, _, perform_goBack found here (declared ▸ there) c, ⟨names, declared⟩, rfl⟩
    · rw [turnedBy_all members catalogued.lengths]
      refine List.ext_getElem? fun i => ?_
      rw [getElem?_mapIdx, getElem?_map, getElem?_zipWith]
      cases here : g.pulses[i]? with
      | none => cases ds[i]? <;> rfl
      | some p =>
        have inside : i < ds.length := moved.pulses.length_eq ▸ (List.getElem?_eq_some_iff.mp here).1
        have there : ds[i]? = some ds[i] := getElem?_eq_getElem inside
        rw [there]
        exact congrArg (fun q => some (some q)) (moved.like there here).back_eq

/-- Moving pulses by the names of all of them, and going back, after any motions: shifts are the same with names and without,
the pulses get longer by their names if none of them has another function than the plain ones and a step, and otherwise that
fails, and both ways back lead to the declared pulses, but those by names leave the starts. -/
theorem motions_by_names_and_back (accepted : Accepted ds) (declared : Declared ds g) (ms : List Motion) (b c : Bench)
    (all : ∀ v, v ∈ ns ↔ v ∈ ds.map (·.name)) :
    pulsesAfter (shift ns) (after ms g b).1 c = pulsesAfter (shift []) (after ms g b).1 c ∧
      (∀ qs, pulsesAfter (grow ns) (after ms g b).1 c = some qs ↔
        (∀ d ∈ ds, d.Growable) ∧ pulsesAfter (grow []) (after ms g b).1 c = some qs) ∧
      pulsesAfter (restore []) (after ms g b).1 c = some ds ∧ pulsesAfter (restore ns) (after ms g b).1 c =
        some (List.zipWith (fun d p => { d with start := p.start }) ds (after ms g b).1.pulses) ∧
      (g.joined = false → pulsesAfter (restore ns) (after ms g b).1 c = some ds) := by
  have moved := (declared.moved accepted).after ms b
  have all : NamesAll ns (after ms g b).1 := by
    intro v
    rw [moved.names]
    exact all v
  refine ⟨shift_names accepted moved all c, fun qs => ?_, restore_all moved c, restore_names accepted moved all c,
    fun alone => ?_⟩
  · rw [grow_names accepted moved all c qs, Displaced.forall_growable moved.pulses]
  · rw [restore_names accepted moved all c, Displaced.zipWith_start moved.pulses alone]

def walker : Pulse where
  name := .text "P0"
  channel := .text "CH0"
  function := .text "SINC"
  frequency := .text "200 MHz"
  phase := .float 0
  deltaPhase := .float 0
  length := .text "16 ns"
  sigma := .text "8 ns"
  lengthIncrement := .text "2 ns"
  start := .text "0 ns"
  deltaStart := .text "2 ns"
  attenuation := .int 1
  phases := .list []
  steepness := .int 30
  truncation := .float 0.02

lemma accepted_walker : Accepted [walker] where
  texts := by
    intro d member
    rw [mem_singleton.mp member]
    exact ⟨"P0", rfl⟩
  apart := nodup_singleton _
  timed := by
    intro d member
    rw [mem_singleton.mp member]
    exact ⟨⟨"0", "ns", [], 1, rfl, rfl⟩, ⟨"2", "ns", [], 1, rfl, rfl⟩, ⟨"16", "ns", [], 1, rfl, rfl⟩,
      ⟨"8", "ns", [], 1, rfl, rfl⟩, ⟨"2", "ns", [], 1, rfl, rfl⟩⟩

def strolling : Generator where
  limits := ⟨1900, 0, 280, 0, 0⟩
  mode := .rehearsal
  rehearsed := true
  joined := true
  amplitude1 := 533
  pulses := [walker]
  declared := [walker]
  names := [.text "P0"]

lemma declared_strolling : Declared [walker] strolling := ⟨rfl, rfl, rfl⟩

theorem motions_by_names_and_back_strolling : Accepted [walker] ∧ Declared [walker] strolling ∧
      pulsesAfter (restore []) (after [.shift [], .grow [], .nextPhase] strolling {}).1 {} = some [walker] ∧
      pulsesAfter (grow [.text "P0"]) (after [.shift [], .grow [], .nextPhase] strolling {}).1 {} = none := by
  have names : ∀ v, v ∈ [Value.text "P0"] ↔ v ∈ [walker].map (·.name) := fun v => Iff.rfl
  obtain ⟨-, grows, back, -⟩ := motions_by_names_and_back accepted_walker declared_strolling
    [.shift [], .grow [], .nextPhase] {} {} names
  refine ⟨accepted_walker, declared_strolling, back, Option.eq_none_iff_forall_ne_some.mpr fun qs grown => ?_⟩
  rcases ((grows qs).mp grown).1 walker (mem_singleton.mpr rfl) with still | sine | gauss
  · cases Except.ok.inj still
  · exact absurd (Value.text.inj sine) (by decide)
  · exact absurd (Value.text.inj gauss) (by decide)

/-- A pulse that was shifted keeps its start when it goes back by its name. -/
theorem start_stays : pulsesAfter (restore []) (after [.shift []] strolling {}).1 {} = some [walker] ∧
      pulsesAfter (restore [.text "P0"]) (after [.shift []] strolling {}).1 {} =
        some [{ walker with start := .text "2 ns" }] := by
  have moved := (declared_strolling.moved accepted_walker).after [.shift []] {}
  have all : NamesAll [.text "P0"] (after [.shift []] strolling {}).1 := by
    intro v
    rw [moved.names]
    exact Iff.rfl
  refine ⟨restore_all moved {}, ?_⟩
  rw [restore_names accepted_walker moved all]
  rfl

def bell : Pulse :=
  { walker with function := .text "GAUSS", length := .text "64 ns", sigma := .text "24 ns", lengthIncrement := .text "10 ns" }

/-- In two steps a fraction of a nanosecond is cut off, and the length falls behind. -/
theorem bell_loses_its_form :
    (after [.grow [], .grow []] { strolling with joined := false, pulses := [bell], declared := [bell] } {}).1.pulses.map
        (fun p => (p.sigma.display, p.length.display)) = [("44 ns", "116.47058823529412 ns")] ∧
      (64 * 44 / 24 : ℚ) > 117 := by
  constructor
  · decide +kernel
  · norm_num

end

end Generator
end EprBench.Waveform
