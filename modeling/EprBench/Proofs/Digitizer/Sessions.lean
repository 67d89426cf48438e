import EprBench.Digitizer.Commands
import EprBench.Proofs.Acts

/-! Sessions with a digitizer, in which a request that fails does not end the session. -/
namespace EprBench.Digitizer.Recorder

open List

set_option synthInstance.maxSize 1000000

variable {α : Type} {m : Model}

def commandsOf (m : Model) : List (Command Recorder) := (instrument m).commands

def request (m : Model) (r : Request) : Act Recorder Value :=
  match (commandsOf m).find? (·.name == r.name) with
  | some c => c.call r
  | none => throw .noMember

/-- Carries out requests one after the other, whatever they answer. -/
def session (m : Model) (rs : List Request) (u : Recorder × Bench) : Recorder × Bench :=
  rs.foldl (fun u r => ((perform (request m r) u.1 u.2).1.2, (perform (request m r) u.1 u.2).2)) u

/-- The digitizer after some requests in a live session. -/
def after (m : Model) (rs : List Request) (b : Bench) : Recorder := (session m rs (ofModel m .live, b)).1

/-! ### Settings of the panel -/

def SameReading (u v : Recorder × Bench) : Prop := v.1.panelRead = u.1.panelRead

instance : IsPreorder (Recorder × Bench) SameReading where
  refl _ := rfl
  trans _ _ _ first second := Eq.trans second first

instance (x : Work α) : Obeys SameReading (liftM x : Act Recorder α) := ⟨fun _ _ => rfl⟩

instance (f : Recorder → Recorder) [same : ∀ r, Untouched (f r).panelRead r.panelRead] :
    Obeys SameReading (modify f : Act Recorder PUnit) := ⟨fun r _ => (same r).eq⟩

instance (x : Act Recorder Unit) [Obeys SameReading x] : Obeys SameReading (silent x) := by
  dsimp only [silent]
  infer_instance

instance (text reason : String) : Obeys SameReading (reject text reason : Act Recorder α) := by
  refine .seq Obeys.get fun r => ?_
  cases r.mode <;> infer_instance

instance reading_setting (name : String) (answer rehearsal : Recorder → Outcome Value) (take : Value → Act Recorder Unit)
    (apply : Act Recorder Unit) (tooMany : Outcome Value) (given : Given) [∀ v, Obeys SameReading (take v)]
      [Obeys SameReading apply] :
    Obeys SameReading ((setting name answer rehearsal take apply tooMany).run given) := by
  refine .seq Obeys.get fun r => ?_
  split <;> infer_instance

instance (name : String) (table : List (String × Int)) (read : Recorder → Int) (put : Int → Recorder → Recorder)
    (rehearsal : Value) (text reason : String) (given : Given) [∀ n r, Untouched (put n r).panelRead r.panelRead] :
    Obeys SameReading ((choice name table read put rehearsal text reason).run given) := by
  have taken (v : Value) : Obeys SameReading (match table.lookup v.display with
      | some n => modify (put n)
      | none => reject text reason : Act Recorder Unit) := by
    split <;> infer_instance
  exact reading_setting ..

instance (remark : Remark → String) (tooFew : String) (c : Corrected) (put : Int → Recorder → Recorder)
    [∀ n r, Untouched (put n r).panelRead r.panelRead] : Obeys SameReading (takeCorrected remark tooFew c put) := by
  refine .seq Obeys.get fun r => ?_
  cases r.mode <;> dsimp only <;> infer_instance

instance (v : Value) : Obeys SameReading (takePoints v) := by
  dsimp only [takePoints]
  infer_instance

instance (v : Value) : Obeys SameReading (takePosttrigger v) := by
  dsimp only [takePosttrigger]
  infer_instance

instance (v : Value) : Obeys SameReading (takeAverages v) := by
  dsimp only [takeAverages]
  infer_instance

instance : Obeys SameReading fitBuffer := by
  dsimp only [fitBuffer]
  infer_instance

instance : Obeys SameReading readFullScale := by
  dsimp only [readFullScale]
  infer_instance

instance (registers : Recorder → List (String × Value)) (refit : Bool) : Obeys SameReading (refreshMemory registers refit) := by
  dsimp only [refreshMemory]
  infer_instance

instance (change : Recorder → Work Unit) : Obeys SameReading (refresh change) := by
  dsimp only [refresh]
  infer_instance

instance : Obeys SameReading refreshAverages := by
  dsimp only [refreshAverages]
  infer_instance

instance : Obeys SameReading refreshRanges := by
  dsimp only [refreshRanges]
  infer_instance

instance (v : Value) : Obeys SameReading (takeRate v) := by
  dsimp only [takeRate]
  infer_instance

instance : Obeys SameReading refreshRate := by
  dsimp only [refreshRate]
  infer_instance

instance (v : Value) : Obeys SameReading (takeReference v) := by
  dsimp only [takeReference]
  infer_instance

instance (v : Value) : Obeys SameReading (takeDelay v) := by
  refine .seq inferInstance fun _ => .seq inferInstance fun _ => .seq inferInstance fun _ => .seq inferInstance fun _ => ?_
  refine .seq Obeys.get fun r => ?_
  split
  · infer_instance
  · refine .seq inferInstance fun _ => .seq inferInstance fun _ => .seq inferInstance fun _ => ?_
    cases r.mode <;> dsimp only <;> infer_instance

instance (vs : List Value) : Obeys SameReading (takeInputs vs) := by
  refine .seq Obeys.get fun r => ?_
  dsimp only
  split
  · split <;> infer_instance
  all_goals infer_instance

instance (v : Value) : Obeys SameReading (takeRange v) := by
  dsimp only [takeRange]
  infer_instance

instance {β : Type} (p : Pair β) (apply : Act Recorder Unit) (vs : List Value) [Obeys SameReading apply]
    [∀ c n r, Untouched (p.put c n r).panelRead r.panelRead] : Obeys SameReading (p.run apply vs) := by
  have put (name : String) (n : Int) (r : Recorder) : Untouched (p.putNamed name n r).panelRead r.panelRead := by
    unfold Pair.putNamed
    split <;> infer_instance
  have both (name name' : String) (n n' : Int) (r : Recorder) :
      Untouched (p.putNamed name' n' (p.putNamed name n r)).panelRead r.panelRead :=
    ⟨(put ..).eq.trans (put ..).eq⟩
  refine .seq Obeys.get fun r => ?_
  dsimp only
  split
  on_goal 3 => split
  all_goals infer_instance

instance (m : Model) (c : Channel) (n : Int) (r : Recorder) : Untouched ((offsets m).put c n r).panelRead r.panelRead := by
  cases c <;> exact ⟨rfl⟩

instance (c : Channel) (n : Int) (r : Recorder) : Untouched (couplings.put c n r).panelRead r.panelRead := by
  cases c <;> exact ⟨rfl⟩

instance (c : Channel) (n : Int) (r : Recorder) : Untouched (impedances.put c n r).panelRead r.panelRead := by
  cases c <;> exact ⟨rfl⟩

instance (vs : List Value) : Obeys SameReading (takeOffsets vs) := by
  dsimp only [takeOffsets]
  infer_instance

instance (vs : List Value) : Obeys SameReading (takeImpedances vs) := by
  dsimp only [takeImpedances]
  infer_instance

instance : Obeys SameReading setup := by
  dsimp only [setup]
  infer_instance

instance : Obeys SameReading stop := by
  dsimp only [stop]
  infer_instance

instance : Obeys SameReading close := by
  dsimp only [close]
  infer_instance

instance : Obeys SameReading waitFor := by
  dsimp only [waitFor]
  infer_instance

instance (v : Value) : Obeys SameReading (record v) := by
  have bench : Obeys SameReading (getThe Bench : Act Recorder Bench) := ⟨fun _ _ => rfl⟩
  refine .seq Obeys.get fun r => ?_
  cases r.bufferBytes with
  | none => infer_instance
  | some bytes =>
    dsimp only
    cases r.fullScale <;> dsimp only <;> infer_instance

instance (v : Value) : Obeys SameReading (curve v) := by
  refine .seq Obeys.get fun r => ?_
  cases r.mode <;> dsimp only <;> infer_instance

instance (lines : List String) : Obeys SameReading (takePanel lines) := by
  dsimp only [takePanel]
  infer_instance

instance (lines : List String) : Obeys SameReading (rehearsePanel lines) := by
  dsimp only [rehearsePanel]
  infer_instance

lemma read_of_within {x : Act Recorder α} {s : Recorder} (within : Within SameReading x s) (read : s.panelRead = true)
    (b : Bench) : (perform x s b).1.2.panelRead = true := Eq.trans (within b) read

lemma read_readPanel (s : Recorder) (b : Bench) : (perform readPanel s b).1.2.panelRead = true := by
  rw [readPanel, perform_modify_bind]
  refine read_of_within ((Obeys.within _).bind fun lines s => .get_bind ?_) rfl b
  dsimp only [Panel.takeWindow]
  cases s.mode <;> exact Obeys.within s

/-- A request to read the panel, with nothing else asked. -/
def readsPanel (r : Request) : Bool := r.name == "digitizer_read_settings" && r.values.isEmpty && r.named.isEmpty

instance (name : String) (x : Act Recorder Value) (given : Given) [same : Obeys SameReading x] :
    Obeys SameReading ((Command.plain name x).run given) := same

instance (name : String) (f : List Value → Act Recorder Value) (given : Given) [same : ∀ vs, Obeys SameReading (f vs)] :
    Obeys SameReading ((Command.variadic name f).run given) := same given.more

lemma reading_curve (given : Given) : Obeys SameReading (match given.values with
    | [v] => curve v
    | _ => throw .wrongType : Act Recorder Value) := by
  split <;> infer_instance

lemma reading_multiple (given : Given) : Obeys SameReading (match given.values with
    | [x, y] => do return .int (← x.multipleOf y)
    | _ => throw .wrongType : Act Recorder Value) := by
  split <;> infer_instance

lemma reading_commands {c : Command Recorder} (member : c ∈ commandsOf m) (other : c.name ≠ "digitizer_read_settings")
    (given : Given) : Obeys SameReading (c.run given) := by
  have all : commandsOf m = shared m ++ if m.hasPaths then paths else [] := rfl
  rw [all] at member
  rcases mem_append.mp member with member | member
  · simp only [shared, mem_cons, not_mem_nil, or_false] at member
    repeat' rcases member with rfl | member
    on_goal 3 => exact reading_curve given
    on_goal 20 => exact absurd rfl other
    on_goal 20 => exact reading_multiple given
    all_goals infer_instance
  · split at member
    · simp only [paths, mem_cons, not_mem_nil, or_false] at member
      rcases member with rfl | rfl
      all_goals infer_instance
    · cases member

lemma matched_plain (name : String) (x : Act Recorder Value) (values : List Value) (named : Options) :
    (Command.plain name x).matched values named =
      if values.isEmpty && named.isEmpty then .ok ⟨[], [], []⟩ else .error .wrongType := by
  cases values with
  | cons v vs => rfl
  | nil =>
    cases named with
    | cons o os => simp [Command.matched, Command.plain]; rfl
    | nil => rfl

lemma panelRead_request (m : Model) (r : Request) (s : Recorder) (b : Bench) :
    (perform (request m r) s b).1.2.panelRead = (s.panelRead || readsPanel r) := by
  by_cases name : r.name = "digitizer_read_settings"
  · have found : (commandsOf m).find? (·.name == r.name) =
        some (.plain "digitizer_read_settings" (silent readPanel)) := by
      rw [name]
      rfl
    rw [request, found, readsPanel, name]
    dsimp only
    rw [Command.call, matched_plain, perform_bind, perform_lift]
    cases plain : r.values.isEmpty && r.named.isEmpty with
    | true =>
      have read : Within (fun _ v => v.1.panelRead = true) (silent readPanel) s := Within.bind_pure _ (read_readPanel s)
      rw [Bool.and_assoc, plain, beq_self_eq_true, Bool.and_self, Bool.or_true]
      exact read b
    | false =>
      rw [Bool.and_assoc, plain, Bool.and_false, Bool.or_false]
      rfl
  · have other : readsPanel r = false := by simp [readsPanel, name]
    rw [other, Bool.or_false, request]
    cases found : (commandsOf m).find? (·.name == r.name) with
    | none => rfl
    | some c =>
      have same : c.name = r.name := by simpa using find?_some found
      have obeys (given : Given) := reading_commands (mem_of_find?_eq_some found) (same ▸ name) given
      exact ((Within.lift _).bind fun given s => (obeys given).within s) b

lemma panelRead_session (m : Model) (rs : List Request) (u : Recorder × Bench) :
    (session m rs u).1.panelRead = (u.1.panelRead || rs.any readsPanel) := by
  induction rs generalizing u with
  | nil => simp [session]
  | cons r rs ih =>
    have step : session m (r :: rs) u =
      session m rs ((perform (request m r) u.1 u.2).1.2, (perform (request m r) u.1 u.2).2) := rfl
    rw [step, ih, panelRead_request, any_cons, Bool.or_assoc]

end EprBench.Digitizer.Recorder
