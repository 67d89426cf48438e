import EprBench.Proofs.Digitizer.Twins
import EprBench.Proofs.Digitizer.Sessions

/-! Settings that go to the card at once. The registers hold what a fresh setup would write all the same. -/
namespace EprBench.Digitizer

open Recorder Value List

variable {α β : Type} {m : Model} {s t : Recorder} {n : Int}

/-! ### What is written to the card -/

/-- The register that an event writes, and its value. -/
def written? : Event → Option (String × Value)
  | .setRegister _ (.text register) value => some (register, value)
  | _ => none

def written (b : Bench) : List (String × Value) := b.log.toList.filterMap written?

/-- What was written from one bench to a later one. -/
def writtenSince (b b' : Bench) : List (String × Value) := (written b').drop (written b).length

def lastValue (register : String) (ws : List (String × Value)) : Option Value := ws.reverse.lookup register

variable {b : Bench} {ws : List (String × Value)}

lemma writtenSince_eq {b' : Bench} (same : written b' = written b ++ ws) : writtenSince b b' = ws := by
  rw [writtenSince, same, drop_left]

lemma lastValue_append (register : String) (xs ys : List (String × Value)) :
    lastValue register (xs ++ ys) = (lastValue register ys).or (lastValue register xs) := by
  simp only [lastValue, reverse_append, lookup_append]

/-- Work that succeeds on every bench and writes just these values. -/
def Sends (ws : List (String × Value)) (x : Work α) : Prop :=
  ∀ b, ∃ a b', carry x b = (.ok a, b') ∧ written b' = written b ++ ws ∧ (CardAtHand b → CardAtHand b')

namespace Sends

variable {ws ws' : List (String × Value)}

lemma pure (a : α) : Sends [] (pure a : Work α) := fun b => ⟨a, b, rfl, (append_nil _).symm, id⟩

variable {x : Work α} {f : α → Work β}

lemma bind (first : Sends ws x) (second : ∀ a, Sends ws' (f a)) : Sends (ws ++ ws') (x >>= f) := by
  intro b
  obtain ⟨a, b', ran, new, card⟩ := first b
  obtain ⟨c, b'', ran', new', card'⟩ := second a b'
  exact ⟨c, b'', carry_bind_ok.mpr ⟨a, b', ran, ran'⟩, by rw [new', new, append_assoc], card' ∘ card⟩

lemma last (first : Sends [] x) (second : ∀ a, Sends ws (f a)) : Sends ws (x >>= f) :=
  first.bind second

lemma first (first : Sends ws x) (second : ∀ a, Sends [] (f a)) : Sends ws (x >>= f) :=
  append_nil ws ▸ first.bind second

lemma lift_bind {x : Outcome α} {a : α} (known : x = .ok a) (later : Sends ws (f a)) : Sends ws (liftM x >>= f) := by
  intro b
  obtain ⟨c, b', ran, rest⟩ := later b
  exact ⟨c, b', carry_bind_ok.mpr ⟨a, b, congrArg (·, b) known, ran⟩, rest⟩

lemma note (e : Event) : Sends (written? e).toList (Bench.note e) := by
  intro b
  refine ⟨(), _, rfl, ?_, id⟩
  simp only [written, Array.toList_push, filterMap_append]
  cases this : written? e <;> simp [this]

lemma nextPrepared (name : String) : Sends [] (Bench.nextPrepared name) := by
  intro b
  obtain ⟨v, left, taken⟩ := carry_nextPrepared name b
  refine ⟨v, _, taken, (append_nil _).symm, fun card => ?_⟩
  obtain ⟨v', b', taken', card', -⟩ := Serves.nextPrepared name b card
  rw [taken, Prod.mk.injEq] at taken'
  rw [taken'.2]
  exact card'

lemma message (text : String) : Sends [] (Bench.message text) := by
  intro b
  have asked : carry Bench.isLive b = (.ok (b.mode == .live), b) := rfl
  rw [Bench.message, carry_bind, asked]
  cases b.mode == .live with
  | true => exact note (.message text) b
  | false => exact pure () b

lemma put (register : String) (value : Value) : Sends [(register, value)] (Card.put register value) :=
  (note _).first fun _ => (nextPrepared _).last fun _ => pure _

lemma putWide (register : String) (value : Int) : Sends [(register, .int value)] (Recorder.putWide register value) :=
  ((note _).first fun _ => (nextPrepared _).last fun _ => pure _).first fun _ => pure _

lemma putAll (entries : List (String × Value)) : Sends entries (Card.putAll entries) := by
  induction entries with
  | nil => exact pure _
  | cons e rest ih => exact ((put e.1 e.2).first fun _ => pure _).bind fun _ => ih

end Sends

/-- The command that makes the card use its registers. -/
def writeCommand : List (String × Value) := [("SPC_M2CMD", .text "M2CMD_CARD_WRITESETUP")]

lemma sends_writeSetup : Sends writeCommand writeSetup := (Sends.put _ _).first fun _ => .pure _

/-- An act that succeeds on every bench, with these settings at the end, and writes just these values. -/
def Sets (ws : List (String × Value)) (t : Recorder) (x : Act Recorder α) (s : Recorder) : Prop :=
  ∀ b, ∃ a b', perform x s b = ((.ok a, t), b') ∧ written b' = written b ++ ws ∧ (CardAtHand b → CardAtHand b')

namespace Sets

variable {ws ws' : List (String × Value)} {u : Recorder}

lemma pure (a : α) : Sets [] s (pure a : Act Recorder α) s := fun b => ⟨a, b, rfl, (append_nil _).symm, id⟩

lemma lift {x : Outcome α} {a : α} (known : x = .ok a) : Sets [] s (liftM x : Act Recorder α) s :=
  fun b => ⟨a, b, by rw [perform_lift, known], (append_nil _).symm, id⟩

lemma modify (f : Recorder → Recorder) : Sets [] (f s) (modify f : Act Recorder PUnit) s :=
  fun b => ⟨⟨⟩, b, rfl, (append_nil _).symm, id⟩

lemma work {x : Work α} (sends : Sends ws x) : Sets ws s (liftM x : Act Recorder α) s := by
  intro b
  obtain ⟨a, b', ran, rest⟩ := sends b
  exact ⟨a, b', by rw [perform_work, ran], rest⟩

variable {x : Act Recorder α} {f : α → Act Recorder β}

lemma bind (first : Sets ws t x s) (second : ∀ a, Sets ws' u (f a) t) : Sets (ws ++ ws') u (x >>= f) s := by
  intro b
  obtain ⟨a, b', ran, new, card⟩ := first b
  obtain ⟨c, b'', ran', new', card'⟩ := second a b'
  exact ⟨c, b'', perform_bind_ok.mpr ⟨a, t, b', ran, ran'⟩, by rw [new', new, append_assoc], card' ∘ card⟩

lemma last (first : Sets [] t x s) (second : ∀ a, Sets ws u (f a) t) : Sets ws u (x >>= f) s :=
  first.bind second

lemma first (first : Sets ws t x s) (second : ∀ a, Sets [] u (f a) t) : Sets ws u (x >>= f) s :=
  append_nil ws ▸ first.bind second

lemma get_bind {f : Recorder → Act Recorder β} (here : Sets ws t (f s) s) : Sets ws t (get >>= f) s := by
  intro b
  rw [perform_get_bind]
  exact here b

lemma lift_bind {x : Outcome α} {a : α} (known : x = .ok a) (later : Sets ws t (f a) s) :
    Sets ws t (liftM x >>= f) s := by
  intro b
  rw [perform_bind, perform_lift, known, proceed_ok]
  exact later b

lemma messages (text : α → String) (xs : List α) :
    Sets [] s (xs.forM fun x => liftM (Bench.message (text x)) : Act Recorder PUnit) s := by
  induction xs with
  | nil => exact pure _
  | cons x xs ih => exact (work (Sends.message _)).last fun _ => ih

end Sets

/-- With the card at hand the act succeeds and writes just these values; the answer and the settings are as `Q` says then. -/
def Reaches (ws : List (String × Value)) (Q : α → Recorder → Prop) (x : Act Recorder α) (s : Recorder) : Prop :=
  ∀ b, CardAtHand b → ∃ a t b', perform x s b = ((.ok a, t), b') ∧ written b' = written b ++ ws ∧ CardAtHand b' ∧ Q a t

namespace Reaches

variable {ws ws' : List (String × Value)} {Q : α → Recorder → Prop} {R : β → Recorder → Prop}

variable {x : Act Recorder α}

lemma of_sets (sets : Sets ws t x s) : Reaches ws (fun _ t' => t' = t) x s := by
  intro b card
  obtain ⟨a, b', ran, new, kept⟩ := sets b
  exact ⟨a, t, b', ran, new, kept card, rfl⟩

lemma of_serves {P : α → Prop} {x : Work α} (serves : Serves P x) (quiet : Noting (fun e => written? e = none) x) :
    Reaches [] (fun a t => P a ∧ t = s) (liftM x : Act Recorder α) s := by
  intro b card
  obtain ⟨a, b', ran, card', holds⟩ := serves b card
  have same := (quiet b).filterMap_log
  rw [ran] at same
  exact ⟨a, s, b', by rw [perform_work, ran], same.trans (append_nil _).symm, card', holds, rfl⟩

variable {f : α → Act Recorder β}

lemma bind (first : Reaches ws Q x s)
    (second : ∀ a t, Q a t → Reaches ws' R (f a) t) : Reaches (ws ++ ws') R (x >>= f) s := by
  intro b card
  obtain ⟨a, t, b', ran, new, card', here⟩ := first b card
  obtain ⟨c, u, b'', ran', new', card'', there⟩ := second a t here b' card'
  exact ⟨c, u, b'', perform_bind_ok.mpr ⟨a, t, b', ran, ran'⟩, by rw [new', new, append_assoc], card'', there⟩

lemma mono {Q' : α → Recorder → Prop} (weaker : ∀ a t, Q a t → Q' a t) (reaches : Reaches ws Q x s) :
    Reaches ws Q' x s := by
  intro b card
  obtain ⟨a, t, b', ran, new, card', here⟩ := reaches b card
  exact ⟨a, t, b', ran, new, card', weaker a t here⟩

lemma sets_bind (first : Sets ws t x s)
    (second : ∀ a, Reaches ws' R (f a) t) : Reaches (ws ++ ws') R (x >>= f) s := by
  refine (of_sets first).bind ?_
  rintro a _ rfl
  exact second a

lemma quiet_bind (first : Sets [] t x s) (second : ∀ a, Reaches ws R (f a) t) : Reaches ws R (x >>= f) s :=
  sets_bind first second

lemma get_bind {f : Recorder → Act Recorder β} (here : Reaches ws R (f s) s) : Reaches ws R (get >>= f) s := by
  intro b
  rw [perform_get_bind]
  exact here b

end Reaches

/-! ### A fresh setup -/

def clockRegisters (r : Recorder) (hertz : Int) : List (String × Value) :=
  (if r.clockMode = 1 then [] else
    [("SPC_CLOCKMODE", .int r.clockMode), ("SPC_REFERENCECLOCK", .int (r.reference * 1000000))]) ++ [("SPC_SAMPLERATE", .int hertz)]

/-- All that a setup writes. -/
def setupValues (r : Recorder) (hertz : Int) : List (String × Value) :=
  [("SPC_TIMEOUT", 10000)] ++ (clockRegisters r hertz ++ (r.registers ++ writeCommand))

def programmed (r : Recorder) (fullScale : Int) : Recorder :=
  { r with opened := true, bufferBytes := some r.bytes, fullScale := some fullScale }

lemma sends_putClock (known : s.hertz = .ok n) : Sends (clockRegisters s n) s.putClock := by
  unfold putClock clockRegisters
  by_cases internal : s.clockMode = 1
  · rw [if_pos internal, internal]
    exact Sends.lift_bind known (.putWide _ n)
  · rw [if_neg internal]
    split
    · contradiction
    · exact (Sends.put _ _).bind fun _ => (Sends.putWide _ _).bind fun _ => Sends.lift_bind known (.putWide _ n)

lemma reaches_readFullScale (s : Recorder) :
    Reaches [] (fun _ t => ∃ n, t = { s with fullScale := some n }) readFullScale s := by
  have quiet : Noting (fun e => written? e = none) (Card.read "SPC_MIINST_MAXADCVALUE") :=
    (Noting.nextPrepared _).bind fun _ => .pure _
  change Reaches ([] ++ []) _ _ s
  refine (Reaches.of_serves Serves.fullScale quiet).bind ?_
  rintro v _ ⟨⟨n, whole⟩, rfl⟩
  intro b card
  rw [perform_bind, perform_lift, whole]
  exact ⟨⟨⟩, _, b, rfl, (append_nil _).symm, card, n, rfl⟩

lemma quiet_openAt (path : String) : Noting (fun e => written? e = none) (Card.openAt path) := by
  have opens : Noting (fun e => written? e = none) (Bench.note (.openCard path.toUTF8.toList)) := .note rfl
  refine opens.bind fun _ => (Noting.nextPrepared _).bind fun _ => ?_
  split <;> exact .pure _

def fitted (r : Recorder) : Recorder := { r with bufferBytes := some r.bytes }

lemma sets_fitBuffer (s : Recorder) : Sets [] (fitted s) fitBuffer s := .modify fitted

lemma reaches_setup (live : s.mode = .live) (known : s.hertz = .ok n) :
    Reaches (setupValues s n) (fun _ t => ∃ fullScale, t = programmed s fullScale) setup s := by
  have send (s' : Recorder) (same : s' = { s with opened := true }) :
      Reaches (setupValues s n) (fun _ t => ∃ fullScale, t = programmed s fullScale) (do
        let r ← get
        let _ ← Card.put "SPC_TIMEOUT" 10000
        putClock r
        Card.putAll r.registers
        readFullScale
        fitBuffer
        writeSetup) s' := by
    subst same
    refine .get_bind (.sets_bind (.work (.put _ _)) fun _ => .sets_bind (.work (sends_putClock known)) fun _ =>
      .sets_bind (.work (.putAll _)) fun _ => (reaches_readFullScale _).bind ?_)
    rintro _ _ ⟨fullScale, rfl⟩
    have finish := (sets_fitBuffer { s with opened := true, fullScale := some fullScale }).last fun _ => .work sends_writeSetup
    exact (Reaches.of_sets finish).mono fun _ _ same => ⟨fullScale, same⟩
  rw [setup]
  refine .get_bind ?_
  rw [live, if_pos (by decide)]
  refine .get_bind ?_
  cases opened : s.opened with
  | true => exact send s (by rw [← opened])
  | false =>
    refine (Reaches.of_serves (Serves.openAt _) (quiet_openAt _)).bind ?_
    rintro found _ ⟨rfl, rfl⟩
    exact .quiet_bind (.modify _) fun _ => send _ rfl

/-! ### Settings that go to the card at once -/

/-- A setting of the numbers that a recording has. -/
inductive Knob where
  | points
  | posttrigger
  | averages
  deriving DecidableEq

namespace Knob

def name : Knob → String
  | points => "digitizer_number_of_points"
  | posttrigger => "digitizer_posttrigger"
  | averages => "digitizer_number_of_averages"

def take : Knob → Value → Act Recorder Unit
  | points => takePoints
  | posttrigger => takePosttrigger
  | averages => takeAverages

def apply : Knob → Act Recorder Unit
  | points => refreshMemory memoryRegisters true
  | posttrigger => refreshMemory (fun r => [("SPC_POSTTRIGGER", .int r.posttrigger)]) false
  | averages => refreshAverages

def put : Knob → Int → Recorder → Recorder
  | points, n, r => { r with points := (pointsFor r.model r.posttrigger n).1 }
  | posttrigger, n, r => { r with posttrigger := (posttriggerFor r.model r.mode r.points n).1 }
  | averages, n, r => { r with averages := n }

def registers : Knob → Recorder → List (String × Value)
  | points, r => r.memoryRegisters
  | posttrigger, r => [("SPC_POSTTRIGGER", .int r.posttrigger)]
  | averages, r => if r.averaging then [("SPC_MEMSIZE", .int r.memory)] else []

def refits : Knob → Recorder → Bool
  | points, _ => true
  | posttrigger, _ => false
  | averages, r => r.averaging

def settled (k : Knob) (r : Recorder) : Recorder := if r.opened && k.refits r then fitted r else r

def sent (k : Knob) (r : Recorder) : List (String × Value) := if r.opened then k.registers r ++ writeCommand else []

variable {v : Value}

lemma sets_take (k : Knob) (live : s.mode = .live) (whole : v.toInt = .ok n) : Sets [] (k.put n s) (k.take v) s := by
  have corrected (remark : Remark → String) (tooFew : String) (c : Corrected) (put : Int → Recorder → Recorder) :
      Sets [] (put c.1 s) (takeCorrected remark tooFew c put) s := by
    refine .get_bind ?_
    rw [live]
    exact (Sets.messages remark c.2).last fun _ => .modify _
  cases k with
  | points => exact .lift_bind whole (.get_bind (corrected _ _ _ _))
  | posttrigger => exact .lift_bind whole (.get_bind (corrected _ _ _ _))
  | averages =>
    refine .lift_bind whole (.get_bind ?_)
    rw [live]
    exact .lift_bind rfl (.modify _)

lemma take_refused (k : Knob) {e : Fault} (other : v.toInt = .error e) (s : Recorder) (b : Bench) :
    perform (k.take v) s b = ((.error e, s), b) := by
  cases k <;> simp only [take, takePoints, takePosttrigger, takeAverages, perform_bind, perform_lift, other, proceed_error]

lemma sets_refreshMemory (registers : Recorder → List (String × Value)) (refit : Bool) (s : Recorder) :
    Sets (if s.opened then registers s ++ writeCommand else []) (if s.opened && refit then fitted s else s)
      (refreshMemory registers refit) s := by
  refine .get_bind ?_
  cases s.opened with
  | false => exact .pure _
  | true =>
    refine (Sets.work (.putAll _)).bind fun _ => ?_
    cases refit with
    | true => exact (sets_fitBuffer s).last fun _ => .work sends_writeSetup
    | false => exact .work sends_writeSetup

lemma sets_apply (k : Knob) (s : Recorder) : Sets (k.sent s) (k.settled s) k.apply s := by
  cases k with
  | points => exact sets_refreshMemory _ _ s
  | posttrigger => exact sets_refreshMemory _ _ s
  | averages =>
    refine .get_bind ?_
    by_cases averaging : s.averaging = true
    · have sent : averages.sent s = if s.opened then [("SPC_MEMSIZE", .int s.memory)] ++ writeCommand else [] := by
        simp [Knob.sent, registers, averaging]
      have settled : averages.settled s = if s.opened && true then fitted s else s := by simp [Knob.settled, refits, averaging]
      rw [if_pos averaging, sent, settled]
      exact sets_refreshMemory _ true s
    · have sent : averages.sent s = if s.opened then [] ++ writeCommand else [] := by simp [Knob.sent, registers, averaging]
      have settled : averages.settled s = if s.opened && false then fitted s else s := by
        simp [Knob.settled, refits, averaging]
      rw [if_neg averaging, sent, settled]
      exact sets_refreshMemory (fun _ => []) false s

lemma exists_command (k : Knob) (m : Model) : ∃ answer rehearsal tooMany,
    (commandsOf m).find? (·.name == k.name) = some (setting k.name answer rehearsal k.take k.apply tooMany) ∧
      ∀ r, ∃ v, answer r = .ok v := by
  cases k with
  | points => exact ⟨_, _, _, rfl, fun _ => ⟨_, rfl⟩⟩
  | posttrigger => exact ⟨_, _, _, rfl, fun _ => ⟨_, rfl⟩⟩
  | averages => exact ⟨_, _, _, rfl, fun _ => ⟨_, rfl⟩⟩

lemma matched_variadic (name : String) (f : List Value → Act Recorder Value) (values : List Value) (named : Options) :
    (Command.variadic name f).matched values named = if named.isEmpty then .ok ⟨[], values, []⟩ else .error .wrongType := by
  cases named with
  | nil => cases values <;> rfl
  | cons o os => cases values <;> simp [Command.matched, Command.variadic] <;> rfl

lemma sets_request (k : Knob) (m : Model) (live : s.mode = .live) (whole : v.toInt = .ok n) :
    Sets (k.sent (k.put n s)) (k.settled (k.put n s)) (request m ⟨k.name, [v], []⟩) s := by
  obtain ⟨answer, rehearsal, tooMany, found, -⟩ := k.exists_command m
  have run : Sets (k.sent (k.put n s)) (k.settled (k.put n s)) (silent (do k.take v; k.apply)) s :=
    ((k.sets_take live whole).last fun _ => k.sets_apply _).first fun _ => .pure _
  rw [request, found]
  refine .lift_bind (matched_variadic ..) (.get_bind ?_)
  rw [live]
  exact run

/-- What a request for a setting can do: nothing, or send the setting as it is, or change it and send it. -/
inductive Step (k : Knob) (s : Recorder) : Recorder → List (String × Value) → Prop
  | idle : Step k s s []
  | again : Step k s (k.settled s) (k.sent s)
  | changed (n : Int) : Step k s (k.settled (k.put n s)) (k.sent (k.put n s))

lemma step_of_sets {k : Knob} {u : Recorder} {ws : List (String × Value)} {x : Act Recorder α} (step : Step k s u ws)
    (sets : Sets ws u x s) (b : Bench) :
    ∃ ws, written (perform x s b).2 = written b ++ ws ∧ Step k s (perform x s b).1.2 ws := by
  obtain ⟨a, b', ran, new, -⟩ := sets b
  rw [ran]
  exact ⟨ws, new, step⟩

lemma step_request (k : Knob) (m : Model) (live : s.mode = .live) {q : Request} (name : q.name = k.name) (b : Bench) :
    ∃ ws, written (perform (request m q) s b).2 = written b ++ ws ∧ Step k s (perform (request m q) s b).1.2 ws := by
  obtain ⟨answer, rehearsal, tooMany, found, answers⟩ := k.exists_command m
  have refused {x : Act Recorder Value} {e : Fault} (done : perform x s b = ((.error e, s), b)) :
      ∃ ws, written (perform x s b).2 = written b ++ ws ∧ Step k s (perform x s b).1.2 ws := by
    rw [done]
    exact ⟨[], (append_nil _).symm, .idle⟩
  obtain ⟨_, values, named⟩ := q
  obtain rfl : _ = k.name := name
  cases named with
  | cons o os =>
    refine refused (e := .wrongType) ?_
    rw [request, found]
    simp only [Command.call, setting]
    rw [matched_variadic]
    rfl
  | nil =>
    rcases values with _ | ⟨v, _ | ⟨w, vs⟩⟩
    · obtain ⟨a, known⟩ := answers s
      refine step_of_sets .idle ?_ b
      rw [request, found]
      refine .lift_bind (matched_variadic ..) (.get_bind ?_)
      rw [live]
      exact .lift known
    · cases whole : v.toInt with
      | ok n => exact step_of_sets (.changed n) (k.sets_request m live whole) b
      | error e =>
        refine refused (e := e) ?_
        rw [request, found]
        have given : (setting k.name answer rehearsal k.take k.apply tooMany).matched [v] [] = .ok ⟨[], [v], []⟩ := rfl
        simp only [Command.call]
        rw [perform_bind, perform_lift, given, proceed_ok]
        simp only [setting, Command.variadic]
        rw [perform_get_bind, live]
        simp only [silent]
        rw [perform_bind, perform_bind, k.take_refused whole, proceed_error, proceed_error]
    · refine step_of_sets .again ?_ b
      rw [request, found]
      refine .lift_bind (matched_variadic ..) (.get_bind ?_)
      rw [live]
      exact (k.sets_apply s).first fun _ => .pure _

end Knob

/-! ### Registers in step with the settings -/

/-- The registers that hold the numbers of a recording. -/
def sizeRegisters : List String := ["SPC_MEMSIZE", "SPC_SEGMENTSIZE", "SPC_POSTTRIGGER"]

/-- The card has the numbers of a recording that the settings have. -/
structure InStep (hertz : Int) (r : Recorder) (ws : List (String × Value)) : Prop where
  live : r.mode = .live
  opened : r.opened = true
  known : r.hertz = .ok hertz
  buffer : r.bufferBytes = some r.bytes
  registers : ∀ register ∈ sizeRegisters, lastValue register ws = lastValue register r.registers
  used : ws.getLast? = some ("SPC_M2CMD", .text "M2CMD_CARD_WRITESETUP")

variable {register : String}

lemma lastValue_eq_none (absent : register ∉ ws.map (·.1)) : lastValue register ws = none := by
  rw [lastValue, lookup_eq_none_iff]
  intro e member
  rw [bne_iff_ne]
  rintro rfl
  exact absent (mem_map_of_mem (mem_reverse.mp member))

lemma lastValue_writeCommand (member : register ∈ sizeRegisters) : lastValue register writeCommand = none := by
  apply lastValue_eq_none
  revert register
  decide

lemma registers_eq (r : Recorder) : ∃ others, (∀ register ∈ sizeRegisters, register ∉ others.map (·.1)) ∧
    r.registers = [("SPC_CARDMODE", .int (if r.averaging then 2 else 1))] ++
      (r.memoryRegisters ++ ([("SPC_POSTTRIGGER", .int r.posttrigger)] ++ others)) := by
  unfold Recorder.registers
  simp only [append_assoc, cons_append, nil_append]
  refine ⟨_, ?_, rfl⟩
  unfold pathRegisters rangeRegisters offsetRegisters impedanceRegisters
  intro register member
  cases r.triggerChannel == 2 <;> cases r.model.hasPaths <;> cases r.buffered <;> simp [sizeRegisters] at member ⊢ <;>
    rcases member with rfl | rfl | rfl <;> simp

lemma lastValue_registers (r : Recorder) : lastValue "SPC_MEMSIZE" r.registers = some (.int r.memory) ∧
    lastValue "SPC_SEGMENTSIZE" r.registers = (if r.averaging then some (.int r.points) else none) ∧
    lastValue "SPC_POSTTRIGGER" r.registers = some (.int r.posttrigger) := by
  obtain ⟨others, absent, same⟩ := registers_eq r
  simp only [same, memoryRegisters, lastValue_append, lastValue_eq_none (absent _ (by decide : "SPC_MEMSIZE" ∈ sizeRegisters)),
    lastValue_eq_none (absent _ (by decide : "SPC_SEGMENTSIZE" ∈ sizeRegisters)),
    lastValue_eq_none (absent _ (by decide : "SPC_POSTTRIGGER" ∈ sizeRegisters))]
  cases r.averaging with
  | true => exact ⟨rfl, rfl, rfl⟩
  | false => exact ⟨rfl, rfl, rfl⟩

namespace Knob

variable {k : Knob} {r : Recorder}

lemma lastValue_sent (how : r = s ∨ ∃ n, r = k.put n s) {register : String} (member : register ∈ sizeRegisters) :
    (lastValue register (k.registers r)).or (lastValue register s.registers) = lastValue register r.registers := by
  have kept : r.averaging = s.averaging := by
    rcases how with rfl | ⟨n, rfl⟩
    · rfl
    · cases k <;> rfl
  obtain ⟨memory, segment, posttrigger⟩ := lastValue_registers s
  obtain ⟨memory', segment', posttrigger'⟩ := lastValue_registers r
  simp only [sizeRegisters, mem_cons, not_mem_nil, or_false] at member
  rcases member with rfl | rfl | rfl
  · rw [memory, memory']
    cases averaging : s.averaging <;> rcases how with rfl | ⟨n, rfl⟩ <;> cases k <;>
      simp [registers, put, memoryRegisters, Recorder.memory, lastValue, List.lookup, averaging]
  · rw [segment, segment', kept]
    cases averaging : s.averaging <;> rcases how with rfl | ⟨n, rfl⟩ <;> cases k <;>
      simp [registers, put, memoryRegisters, lastValue, List.lookup, averaging]
  · rw [posttrigger, posttrigger']
    cases averaging : s.averaging <;> rcases how with rfl | ⟨n, rfl⟩ <;> cases k <;>
      simp [registers, put, memoryRegisters, lastValue, List.lookup, averaging]

lemma inStep_settled {ws : List (String × Value)} (live : r.mode = .live) (opened : r.opened = true) (known : r.hertz = .ok n)
    (size : k.refits r = false → r.bufferBytes = some r.bytes) (complete : ∀ register ∈ sizeRegisters,
      (lastValue register (k.registers r)).or (lastValue register ws) = lastValue register r.registers) :
    InStep n (k.settled r) (ws ++ k.sent r) := by
  have sent : k.sent r = k.registers r ++ writeCommand := if_pos opened
  have values (register : String) (member : register ∈ sizeRegisters) :
      lastValue register (ws ++ k.sent r) = lastValue register r.registers := by
    rw [sent, lastValue_append, lastValue_append, lastValue_writeCommand member, Option.none_or, complete register member]
  have used : (ws ++ k.sent r).getLast? = some ("SPC_M2CMD", .text "M2CMD_CARD_WRITESETUP") := by
    rw [sent, ← append_assoc]
    exact getLast?_concat
  unfold settled
  rw [opened, Bool.true_and]
  cases refits : k.refits r with
  | true => exact ⟨live, opened, known, rfl, values, used⟩
  | false => exact ⟨live, opened, known, size refits, values, used⟩

end Knob

lemma inStep_step {k : Knob} {ws' : List (String × Value)} (before : InStep n s ws) (step : k.Step s t ws') :
    InStep n t (ws ++ ws') := by
  have complete {r : Recorder} (how : r = s ∨ ∃ n, r = k.put n s) (register : String) (member : register ∈ sizeRegisters) :
      (lastValue register (k.registers r)).or (lastValue register ws) = lastValue register r.registers := by
    rw [before.registers register member]
    exact Knob.lastValue_sent how member
  cases step with
  | idle => exact (append_nil ws).symm ▸ before
  | again =>
    exact Knob.inStep_settled before.live before.opened before.known (fun _ => before.buffer) (complete (.inl rfl))
  | changed n =>
    cases k with
    | points => exact Knob.inStep_settled before.live before.opened before.known nofun (complete (.inr ⟨n, rfl⟩))
    | posttrigger =>
      exact Knob.inStep_settled before.live before.opened before.known (fun _ => before.buffer) (complete (.inr ⟨n, rfl⟩))
    | averages =>
      refine Knob.inStep_settled before.live before.opened before.known (fun single => ?_) (complete (.inr ⟨n, rfl⟩))
      have same : (Knob.averages.put n s).bytes = s.bytes := by
        simp only [Knob.refits, Knob.put] at single
        simp [Recorder.bytes, Recorder.memory, Knob.put, single]
      rw [same]
      exact before.buffer

lemma lastValue_setupValues (r : Recorder) (hertz : Int) (member : register ∈ sizeRegisters) :
    lastValue register (setupValues r hertz) = lastValue register r.registers := by
  have timeout : lastValue register [("SPC_TIMEOUT", 10000)] = none := by
    apply lastValue_eq_none
    revert register
    decide
  have clock : lastValue register (clockRegisters r hertz) = none := by
    apply lastValue_eq_none
    unfold clockRegisters
    split <;> revert register <;> simp [sizeRegisters]
  simp only [setupValues, lastValue_append, lastValue_writeCommand member, clock, timeout, Option.none_or, Option.or_none]

lemma inStep_setup (live : s.mode = .live) (known : s.hertz = .ok n) (fullScale : Int) :
    InStep n (programmed s fullScale) (setupValues s n) where
  live := live
  opened := rfl
  known := known
  buffer := rfl
  registers _ member := lastValue_setupValues s n member
  used := by
    rw [setupValues, ← append_assoc, ← append_assoc]
    exact getLast?_concat

lemma inStep_session (m : Model) {u : Recorder × Bench} {rs : List Request}
    (names : ∀ q ∈ rs, ∃ k : Knob, q.name = k.name) (before : ∃ ws, written u.2 = written b ++ ws ∧ InStep n u.1 ws) :
    ∃ ws, written (session m rs u).2 = written b ++ ws ∧ InStep n (session m rs u).1 ws := by
  induction rs generalizing u with
  | nil => exact before
  | cons q rs ih =>
    obtain ⟨ws, new, here⟩ := before
    obtain ⟨k, name⟩ := names q mem_cons_self
    obtain ⟨ws', new', step⟩ := k.step_request m here.live name u.2
    refine ih (fun q' member => names q' (mem_cons_of_mem q member)) ⟨ws ++ ws', ?_, inStep_step here step⟩
    rw [new', new, append_assoc]

/-- **The card keeps in step with the settings.** A digitizer is set up, and numbers of points, of points after the trigger and
of averages are asked for in any order and in any way. Then the size of the memory and the values that the card has got last
are those of a fresh setup, and what was sent last makes the card use them. -/
theorem card_in_step (m : Model) {r : Recorder} (live : r.mode = .live) (known : r.hertz = .ok n) {b : Bench}
    (card : CardAtHand b) (rs : List Request) (names : ∀ q ∈ rs, ∃ k : Knob, q.name = k.name) :
    ∃ s b₁, perform setup r b = ((.ok (), s), b₁) ∧ let (t, b₂) := session m rs (s, b₁)
      (writtenSince b b₂).getLast? = some ("SPC_M2CMD", .text "M2CMD_CARD_WRITESETUP") ∧
        ∀ opened bytes scale c, CardAtHand c → ∃ u c', perform setup (liveOf t opened bytes scale) c = ((.ok (), u), c') ∧
          t.bufferBytes = u.bufferBytes ∧
          ∀ register ∈ sizeRegisters, lastValue register (writtenSince b b₂) = lastValue register (writtenSince c c') := by
  obtain ⟨_, s, b₁, ran, new, -, fullScale, rfl⟩ := reaches_setup live known b card
  refine ⟨_, b₁, ran, ?_⟩
  obtain ⟨ws, later, here⟩ := inStep_session m names (u := (programmed r fullScale, b₁))
    ⟨setupValues r n, new, inStep_setup live known fullScale⟩
  dsimp only
  rw [writtenSince_eq later]
  refine ⟨here.used, fun opened bytes scale c card => ?_⟩
  have fresh : Reaches _ _ setup (liveOf (session m rs (programmed r fullScale, b₁)).1 opened bytes scale) :=
    reaches_setup rfl here.known
  obtain ⟨_, u, c', ran', new', -, fullScale', rfl⟩ := fresh c card
  refine ⟨_, c', ran', here.buffer, fun register member => ?_⟩
  rw [here.registers register member, writtenSince_eq new', lastValue_setupValues _ _ member]
  rfl

/-- A digitizer that averages, and requests of which one is refused and one has too many numbers. -/
theorem card_in_step_averaging : ∃ s b₁,
    perform setup { ofModel m4i4450 .live with averaging := true } cardBench = ((.ok (), s), b₁) ∧
    (writtenSince cardBench (session m4i4450 [⟨"digitizer_number_of_points", [1000], []⟩, ⟨"digitizer_posttrigger", [2000], []⟩,
      ⟨"digitizer_number_of_averages", ["x"], []⟩, ⟨"digitizer_number_of_points", [1, 2], []⟩,
      ⟨"digitizer_number_of_averages", [16], []⟩] (s, b₁)).2).getLast? = some ("SPC_M2CMD", .text "M2CMD_CARD_WRITESETUP") := by
  have live : ({ ofModel m4i4450 .live with averaging := true } : Recorder).mode = .live := rfl
  have known : ({ ofModel m4i4450 .live with averaging := true } : Recorder).hertz = .ok 500000000 := rfl
  obtain ⟨s, b₁, ran, used, -⟩ := card_in_step m4i4450 live known cardAtHand_cardBench [⟨"digitizer_number_of_points", [1000], []⟩,
    ⟨"digitizer_posttrigger", [2000], []⟩, ⟨"digitizer_number_of_averages", ["x"], []⟩,
    ⟨"digitizer_number_of_points", [1, 2], []⟩, ⟨"digitizer_number_of_averages", [16], []⟩] (by
      simp only [mem_cons, not_mem_nil, or_false]
      rintro q (rfl | rfl | rfl | rfl | rfl)
      · exact ⟨.points, rfl⟩
      · exact ⟨.posttrigger, rfl⟩
      · exact ⟨.averages, rfl⟩
      · exact ⟨.points, rfl⟩
      · exact ⟨.averages, rfl⟩)
  exact ⟨s, b₁, ran, used⟩

/-! ### Numbers of points -/

lemma correct_fst (c : Corrected) (bad : Int → Bool) (mended : Int → Int) (remark : Remark) :
    (correct c bad mended remark).1 = if bad c.1 then mended c.1 else c.1 := by
  unfold correct
  split <;> rfl

lemma onGrid_spec {step : Int} (positive : 0 < step) (least n : Int) :
    step ∣ (onGrid step least n).1 ∧ max least n ≤ (onGrid step least n).1 ∧ (onGrid step least n).1 < max least n + step := by
  have raised : (correct (n, []) (· < least) (fun _ => least) .tooFew).1 = max least n := by
    rw [correct_fst]
    simp only [decide_eq_true_eq]
    omega
  rw [onGrid, correct_fst, raised]
  split
  · exact roundUp_spec step positive _
  · rename_i even
    exact ⟨Int.dvd_of_fmod_eq_zero (by simpa using even), le_rfl, by omega⟩

lemma pointsFor_fst (posttrigger n : Int) :
    (pointsFor m4i4450 posttrigger n).1 = min (onGrid 16 32 n).1 (posttrigger + 8000) := by
  have grid : onGrid m4i4450.step m4i4450.least n = onGrid 16 32 n := rfl
  rw [pointsFor, correct_fst, grid, maxPretrigger]
  simp only [decide_eq_true_eq]
  omega

lemma posttriggerFor_fst (points n : Int) : (posttriggerFor m4i4450 .live points n).1 =
      max (if points < (onGrid 16 16 n).1 then points - 16 else (onGrid 16 16 n).1) (points - 8000) ∧
    (posttriggerFor m4i4450 .rehearsal points n).1 = max (min (points - 16) (onGrid 16 16 n).1) (points - 8000) := by
  have step : m4i4450.step = 16 := rfl
  simp only [posttriggerFor, correct_fst, maxPretrigger, step, decide_eq_true_eq, gt_iff_lt, ge_iff_le]
  constructor
  · omega
  · omega

/-- What holds of the numbers of points, whatever was asked for. -/
structure Tidy (r : Recorder) : Prop where
  live : r.mode = .live
  model : r.model = m4i4450
  points : 16 ∣ r.points
  posttrigger : 16 ∣ r.posttrigger
  least : 32 ≤ r.points
  after : 16 ≤ r.posttrigger
  before : r.points - r.posttrigger ≤ 8000

/-- A request that leaves a step before the trigger: enough points for those after the trigger, and not a number of points after
the trigger within the last step. -/
def Roomy (r : Recorder) : Knob → Int → Prop
  | .points, n => r.posttrigger < max 32 n
  | .posttrigger, n => n ≤ r.points - 16 ∨ r.points < n
  | .averages, _ => r.posttrigger ≤ r.points - 16

namespace Tidy

lemma start : Tidy (ofModel m4i4450 .live) := ⟨rfl, rfl, by decide, by decide, by decide, by decide, by decide⟩

lemma put (tidy : Tidy s) (k : Knob) (n : Int) :
    Tidy (k.put n s) ∧ ((k.put n s).posttrigger ≤ (k.put n s).points - 16 ↔ Roomy s k n) := by
  obtain ⟨live, model, points, posttrigger, least, after, before⟩ := tidy
  cases k with
  | averages => exact ⟨⟨live, model, points, posttrigger, least, after, before⟩, Iff.rfl⟩
  | points =>
    obtain ⟨even, above, tight⟩ := onGrid_spec (by decide : (0 : Int) < 16) 32 n
    have new : (Knob.points.put n s).points = min (onGrid 16 32 n).1 (s.posttrigger + 8000) := by
      rw [← pointsFor_fst, ← model]
      rfl
    have old : (Knob.points.put n s).posttrigger = s.posttrigger := rfl
    refine ⟨⟨live, model, ?_, posttrigger, ?_, after, ?_⟩, ?_⟩
    · omega
    · omega
    · omega
    · simp only [Roomy]
      omega
  | posttrigger =>
    obtain ⟨even, above, tight⟩ := onGrid_spec (by decide : (0 : Int) < 16) 16 n
    have new : (Knob.posttrigger.put n s).posttrigger =
        max (if s.points < (onGrid 16 16 n).1 then s.points - 16 else (onGrid 16 16 n).1) (s.points - 8000) := by
      rw [← (posttriggerFor_fst ..).1, ← model, ← live]
      rfl
    have old : (Knob.posttrigger.put n s).points = s.points := rfl
    refine ⟨⟨live, model, points, ?_, least, ?_, ?_⟩, ?_⟩
    · omega
    · omega
    · omega
    · simp only [Roomy]
      omega

lemma settled {k : Knob} {r : Recorder} (tidy : Tidy r) : Tidy (k.settled r) := by
  obtain ⟨live, model, points, posttrigger, least, after, before⟩ := tidy
  unfold Knob.settled
  split <;> exact ⟨live, model, points, posttrigger, least, after, before⟩

end Tidy

/-- A request for a whole number. -/
def asked (c : Knob × Int) : Request := ⟨c.1.name, [.int c.2], []⟩

/-- The digitizer after some of them in a live session. -/
def tuned (cs : List (Knob × Int)) (b : Bench) : Recorder := Recorder.after m4i4450 (cs.map asked) b

lemma tuned_concat {cs : List (Knob × Int)} (tidy : Tidy (tuned cs b)) (c : Knob × Int) :
    tuned (cs ++ [c]) b = c.1.settled (c.1.put c.2 (tuned cs b)) := by
  obtain ⟨a, b', ran, -⟩ := c.1.sets_request m4i4450 tidy.live (v := .int c.2) rfl
    (session m4i4450 (cs.map asked) (ofModel m4i4450 .live, b)).2
  have last : tuned (cs ++ [c]) b = (perform (request m4i4450 (asked c)) (tuned cs b)
      (session m4i4450 (cs.map asked) (ofModel m4i4450 .live, b)).2).1.2 := by
    simp only [tuned, Recorder.after, session, map_append, foldl_append]
    rfl
  rw [last]
  exact congrArg (·.1.2) ran

lemma points_settled (k : Knob) (r : Recorder) :
    (k.settled r).points = r.points ∧ (k.settled r).posttrigger = r.posttrigger := by
  unfold Knob.settled
  split <;> exact ⟨rfl, rfl⟩

lemma tidy_tuned (cs : List (Knob × Int)) (b : Bench) : Tidy (tuned cs b) := by
  induction cs using List.reverseRecOn with
  | nil => exact Tidy.start
  | append_singleton cs c ih =>
    rw [tuned_concat ih]
    exact (ih.put c.1 c.2).1.settled

/-- **Numbers of points stay on their grid.** Whatever is asked for in a live session, all points and those after the trigger come
in steps of 16, there is a step after the trigger at least, and not more than 8000 points are before it. A step before the trigger
is left just if the last request is a roomy one. -/
theorem points_stay_on_grid (cs : List (Knob × Int)) (b : Bench) :
    16 ∣ (tuned cs b).points ∧ 16 ∣ (tuned cs b).posttrigger ∧ 16 ≤ (tuned cs b).posttrigger ∧
      (tuned cs b).points - (tuned cs b).posttrigger ≤ 8000 ∧
      ((tuned cs b).posttrigger ≤ (tuned cs b).points - 16 ↔ ∀ c ∈ cs.getLast?, Roomy (tuned cs.dropLast b) c.1 c.2) := by
  have tidy := tidy_tuned cs b
  refine ⟨tidy.points, tidy.posttrigger, tidy.after, tidy.before, ?_⟩
  rcases List.eq_nil_or_concat' cs with rfl | ⟨cs, c, rfl⟩
  · have room : (tuned [] b).posttrigger ≤ (tuned [] b).points - 16 := show (64 : Int) ≤ 128 - 16 by decide
    simp [room]
  · have earlier := tidy_tuned cs b
    rw [tuned_concat earlier, (points_settled ..).1, (points_settled ..).2, (earlier.put c.1 c.2).2]
    simp

/-- All of 128 points are taken for points after the trigger, and 64 points after the trigger are more than 32 points. -/
theorem no_room_before_trigger :
    ((tuned [(.posttrigger, 128)] {}).points = 128 ∧ (tuned [(.posttrigger, 128)] {}).posttrigger = 128) ∧
      (tuned [(.points, 32)] {}).points = 32 ∧ (tuned [(.points, 32)] {}).posttrigger = 64 := by
  decide +kernel

end EprBench.Digitizer
