import EprBench.Plot.Client
import EprBench.Proofs.Outcome
import EprBench.Proofs.Text
import EprBench.Session

/-! Frames on their way to the plot window. Main statement: whatever is drawn, the window gets frames of one length
after another, each the JSON text of a description. -/
namespace EprBench.Plot

open Decimal List Outcome

/-! ### JSON texts -/

def isAscii (c : Char) : Bool := decide (c.toNat < 128)

abbrev Ascii (s : String) : Prop := s.toList.all isAscii = true

variable {t text : String}

lemma ascii_append {s : String} (first : Ascii s) (second : Ascii t) : Ascii (s ++ t) := by
  rw [Ascii, String.toList_append, all_append, first, second, Bool.and_self]

lemma isAscii_of_isWritten {cs : List Char} (written : cs.all isWritten = true) : cs.all isAscii = true := by
  refine all_eq_true.mpr fun c member => ?_
  have known := all_eq_true.mp written c member
  rw [isWritten, Bool.or_eq_true] at known
  rcases known with digit | sign
  · have := (toNat_of_isDigit digit).2
    rw [isAscii, decide_eq_true_eq]
    omega
  · simp only [contains_iff_mem, mem_cons, not_mem_nil, or_false] at sign
    rcases sign with rfl | rfl | rfl | rfl | rfl | rfl | rfl | rfl <;> rfl

lemma isAscii_toDigits (n : ℕ) : (Nat.toDigits 16 n).all isAscii = true := by
  have single {d : ℕ} (small : d < 16) : [Nat.digitChar d].all isAscii = true := by
    interval_cases d <;> rfl
  induction n using Nat.strongRecOn with
  | ind n ih =>
    rcases Nat.lt_or_ge n 16 with low | high
    · rw [Nat.toDigits_of_lt_base low]
      exact single low
    · have last : n % 16 < 16 := Nat.mod_lt n (by decide)
      rw [Nat.toDigits_of_base_le (by decide) high, all_append, ih _ (by omega), single last, Bool.and_self]

lemma isAscii_unitText (n : ℕ) : (unitText n).all isAscii = true := by
  have marks : isAscii '\\' = true ∧ isAscii 'u' = true := by decide
  have zeros (k : ℕ) : (List.replicate k '0').all isAscii = true := isAscii_of_isWritten (isWritten_zeros k)
  simp only [unitText, Value.hexDigits, all_cons, all_append, marks, zeros, isAscii_toDigits, Bool.and_self]

lemma isAscii_jsonChar (c : Char) : (jsonChar c).all isAscii = true := by
  unfold jsonChar
  dsimp only
  repeat' split
  any_goals rfl
  · exact isAscii_unitText _
  · simp [isAscii]
    omega
  · rw [all_append, isAscii_unitText, isAscii_unitText, Bool.and_self]

lemma ascii_jsonText (s : String) : Ascii (jsonText s) := by
  have quote : isAscii '"' = true := by decide
  have inside : (s.toList.flatMap jsonChar).all isAscii = true := by simp [all_flatMap, isAscii_jsonChar]
  rw [Ascii, jsonText, String.toList_ofList, all_append, all_cons, inside, quote]
  rfl

lemma ascii_jsonReal (x : Float) : Ascii (jsonReal x) := by
  unfold jsonReal
  split
  · rfl
  · split
    · exact isAscii_of_isWritten (isWritten_floatText x)
    · split <;> rfl

lemma ascii_jsonKey {k : Value} (written : jsonKey k = .ok t) : Ascii t := by
  cases k <;> cases written
  · rfl
  · rename_i b
    cases b <;> rfl
  all_goals exact ascii_jsonText _

lemma ascii_intercalate {ts : List String} (all : ∀ t ∈ ts, Ascii t) {first last : String} (opening : Ascii first)
    (closing : Ascii last) : Ascii (first ++ ", ".intercalate ts ++ last) := by
  refine ascii_append (ascii_append opening (all_eq_true.mpr fun c member => ?_)) closing
  rw [String.toList_intercalate] at member
  rcases Text.mem_of_mem_intercalate member with between | ⟨cs, within, member⟩
  · exact all_eq_true.mp (by rfl : Ascii ", ") c between
  · obtain ⟨t, here, rfl⟩ := mem_map.mp within
    exact all_eq_true.mp (all t here) c member

abbrev AllAscii (ts : Outcome (List String)) : Prop := ∀ us, ts = .ok us → ∀ t ∈ us, Ascii t

lemma ascii_json (v : Value) : ∀ t, json v = .ok t → Ascii t := by
  induction v using json.induct (motive_2 := fun es => AllAscii (jsonEntries es))
    (motive_3 := fun vs => AllAscii (jsonItems vs)) with
  | case1 => exact fun t written => Except.ok.inj written ▸ rfl
  | case2 b => exact fun t written => Except.ok.inj written ▸ by cases b <;> rfl
  | case3 n => exact fun t written => Except.ok.inj written ▸ isAscii_of_isWritten (isWritten_intText n)
  | case4 x => exact fun t written => Except.ok.inj written ▸ ascii_jsonReal x
  | case5 s => exact fun t written => Except.ok.inj written ▸ ascii_jsonText s
  | case6 xs ih | case7 xs ih | case8 es ih =>
    intro t written
    rw [json] at written
    obtain ⟨ts, items, made⟩ := bind_eq_ok.mp written
    rw [← pure_eq_ok.mp made]
    exact ascii_intercalate (ih ts items) rfl rfl
  | case9 v _ _ _ _ _ _ _ _ =>
    intro t written
    rw [json] at written <;> first | cases written | assumption
  | case10 => exact fun us done => Except.ok.inj done ▸ by simp
  | case11 x xs first rest =>
    intro us done
    rw [jsonItems] at done
    obtain ⟨t, head, done⟩ := bind_eq_ok.mp done
    obtain ⟨ts, tail, done⟩ := bind_eq_ok.mp done
    rw [← pure_eq_ok.mp done]
    exact forall_mem_cons.mpr ⟨first t head, rest ts tail⟩
  | case12 => exact fun us done => Except.ok.inj done ▸ by simp
  | case13 k v es first rest =>
    intro us done
    rw [jsonEntries] at done
    obtain ⟨key, keyed, done⟩ := bind_eq_ok.mp done
    obtain ⟨t, head, done⟩ := bind_eq_ok.mp done
    obtain ⟨ts, tail, done⟩ := bind_eq_ok.mp done
    rw [← pure_eq_ok.mp done]
    have entry := ascii_append (ascii_append (ascii_jsonKey keyed) (by rfl : Ascii ": ")) (first t head)
    exact forall_mem_cons.mpr ⟨entry, rest ts tail⟩

/-! ### Frames -/

/-- A text in UTF-8. -/
def encoded (text : String) : List UInt8 := text.toList.flatMap String.utf8EncodeChar

def blank : UInt8 := 32

lemma encoded_padRight (text : String) (width : ℕ) :
    encoded (text.padRight width) = encoded text ++ List.replicate (width - text.length) blank := by
  have blanks (n : ℕ) : (List.replicate n ' ').flatMap String.utf8EncodeChar = List.replicate n blank := by
    induction n with
    | zero => rfl
    | succ n ih => rw [replicate_succ, flatMap_cons, ih]; rfl
  rw [encoded, String.padRight, String.toList_ofList, flatMap_append, blanks]
  rfl

lemma length_encoded (ascii : Ascii text) : (encoded text).length = text.length := by
  have single : ∀ c ∈ text.toList, (String.utf8EncodeChar c).length = 1 := by
    intro c member
    have small : c.toNat < 128 := by simpa [isAscii] using all_eq_true.mp ascii c member
    have one : c.utf8Size = 1 := by
      rw [Char.utf8Size_eq_one_iff, UInt32.le_iff_toNat_le]
      exact Nat.le_of_lt_succ small
    rw [String.utf8EncodeChar_eq_singleton one]
    rfl
  rw [encoded, length_flatMap, map_congr_left single, ← String.length_toList]
  simp

variable {d : Description}

lemma json_dict_ends (written : json (.dict d) = .ok t) : ∃ s : String, t = s ++ "\x7d" := by
  rw [json] at written
  obtain ⟨ts, -, made⟩ := bind_eq_ok.mp written
  exact ⟨_, (pure_eq_ok.mp made).symm⟩

/-- A frame that can be sent: it is named, its numbers have room, and its description is short enough. -/
structure Frame.Fits (f : Frame) (d : Description) (t : String) : Prop where
  named : ∃ e, f.description.find? (·.1.isText "name") = some e ∧ d = f.complete e.2
  room : ∀ a, f.numbers = some a → a.bytes ≤ capacity
  json : json (.dict d) = .ok t
  short : t.length ≤ frameLength

variable {f : Frame}

lemma Frame.text_eq_ok : f.text = .ok text ↔ ∃ d t, f.Fits d t ∧ text = t.padRight frameLength := by
  have wide : (f.numbers.any fun a => a.bytes > capacity) = true ↔ ¬ ∀ a, f.numbers = some a → a.bytes ≤ capacity := by
    cases f.numbers <;> simp
  rw [Frame.text]
  constructor
  · intro done
    split at done
    · cases done
    · rename_i key name named
      split at done
      · cases done
      · rename_i room
        obtain ⟨t, json, done⟩ := bind_eq_ok.mp done
        split at done
        · cases done
        · rename_i short
          exact ⟨_, t, ⟨⟨_, named, rfl⟩, by simpa [wide] using room, json, by omega⟩, (pure_eq_ok.mp done).symm⟩
  · rintro ⟨_, t, ⟨⟨e, named, rfl⟩, room, json, short⟩, rfl⟩
    have fits : ¬ (f.numbers.any fun a => a.bytes > capacity) = true := fun large => wide.mp large room
    simp only [named, if_neg fits, json, ok_bind, if_neg (Nat.not_lt.mpr short)]
    rfl

/-- The bytes of a frame for a description. -/
structure Framed (d : Description) (bytes : List UInt8) : Prop where
  length : bytes.length = 300
  text : ∃ t, json (.dict d) = .ok t ∧ bytes.rdropWhile (· == blank) = encoded t

lemma rdropWhile_padded {α : Type} {p : α → Bool} {x a : α} (last : p x = false) (fill : p a = true) (l : List α) (n : ℕ) :
    (l ++ [x] ++ List.replicate n a).rdropWhile p = l ++ [x] := by
  have filled : ∀ b ∈ List.replicate n a, p b = true := fun b member => eq_of_mem_replicate member ▸ fill
  rw [List.rdropWhile, reverse_append, reverse_replicate, dropWhile_append_of_pos filled, reverse_append]
  simp [last]

lemma Frame.Fits.framed (fits : f.Fits d t) : Framed d (encoded (t.padRight frameLength)) := by
  obtain ⟨s, rfl⟩ := json_dict_ends fits.json
  have brace : encoded (s ++ "\x7d") = encoded s ++ [125] := by simp [encoded, String.toList_append]; rfl
  refine ⟨?_, _, fits.json, ?_⟩
  · rw [encoded_padRight, length_append, length_replicate, length_encoded (ascii_json _ _ fits.json)]
    exact Nat.add_sub_cancel' fits.short
  · rw [encoded_padRight, brace]
    exact rdropWhile_padded rfl rfl _ _

/-! ### One call -/

/-- What a frame leaves in the log: its text, then its numbers. -/
def Frame.events (f : Frame) : List Event :=
  match f.text with
  | .ok text => .plot ⟨text⟩ text.length :: (f.numbers.map fun a => Event.sharedMemory a.data).toList
  | .error _ => []

/-- The bytes on the way to the window. -/
def wire : Event → List UInt8
  | .plot frame _ => encoded frame.text
  | _ => []

def Frame.bytes (f : Frame) : List UInt8 := f.events.flatMap wire

lemma Frame.Fits.bytes (fits : f.Fits d t) : f.bytes = encoded (t.padRight frameLength) := by
  rw [Frame.bytes, Frame.events, Frame.text_eq_ok.mpr ⟨d, t, fits, rfl⟩]
  dsimp only
  rw [flatMap_cons, wire]
  cases f.numbers with
  | none => simp
  | some a => simp [wire]

def logged (es : List Event) (b : Bench) : Bench := { b with log := b.log ++ es.toArray }

lemma logged_logged (es es' : List Event) (b : Bench) : logged es' (logged es b) = logged (es ++ es') b := by
  simp [logged]

lemma carry_note (e : Event) (b : Bench) : carry (Bench.note e) b = (.ok (), logged [e] b) := rfl

lemma carry_send (ready : f.text = .ok text) (b : Bench) : carry (send f) b = (.ok (), logged f.events b) := by
  have read : carry (liftM f.text : Work String) b = (.ok text, b) := congrArg (·, b) ready
  rw [send, carry_bind, read, Frame.events, ready]
  dsimp only
  rw [carry_bind, carry_note]
  dsimp only
  cases f.numbers with
  | none => rfl
  | some a =>
    dsimp only
    rw [carry_note, logged_logged]
    rfl

lemma carry_send_error {e : Fault} (refused : f.text = .error e) (b : Bench) : carry (send f) b = (.error e, b) := by
  have read : carry (liftM f.text : Work String) b = (.error e, b) := congrArg (·, b) refused
  rw [send, carry_bind, read]

abbrev Frame.Ready (f : Frame) : Prop := f.text.isOk = true

def Single (frames : Outcome (List Frame)) : Prop := ∀ fs, frames = .ok fs → ∀ f ∈ fs.tail, f = flush

lemma Single.bind {α : Type} {x : Outcome α} {f : α → Outcome (List Frame)} (each : ∀ a, Single (f a)) :
    Single (x >>= f) := by
  intro fs done
  obtain ⟨a, -, later⟩ := bind_eq_ok.mp done
  exact each a fs later

variable {fs : List Frame}

lemma Single.pure (tail : ∀ f ∈ fs.tail, f = flush) : Single (pure fs) :=
  fun _ done => pure_eq_ok.mp done ▸ tail

lemma Single.throw (e : Fault) : Single (throw e) := nofun

lemma single_frames : ∀ d ∈ Client.drawings, ∀ vs, Single (d.frames vs) := by
  have pair (f : Frame) : Single (pure [f, flush]) := .pure (by simp)
  simp only [Client.drawings, forall_mem_cons]
  refine ⟨?_, ?_, ?_, ?_, ?_, ?_, ?_, ?_, ?_, ?_, by simp⟩
  all_goals intro vs
  any_goals split
  any_goals exact .throw _
  · exact .bind fun _ => .bind fun _ => .bind fun _ => pair _
  · exact .bind fun _ => .bind fun _ => .bind fun _ => pair _
  · refine .bind fun _ => ?_
    dsimp only
    split
    · exact .bind fun _ => pair _
    · exact .bind fun _ => pair _
    · exact .pure (by simp)
  · exact pair _
  · exact pair _
  · exact .bind fun _ => pair _
  · exact pair _
  · exact .pure (by simp [clearPlot])
  · exact .pure (by simp [hidePlot])
  · exact pair _

lemma perform_sendAll (ready : ∀ f ∈ fs, f.Ready) (c : Client) (b : Bench) :
    perform (fs.forM fun f => liftM (send f) : Act Client PUnit) c b = ((.ok ⟨⟩, c), logged (fs.flatMap Frame.events) b) := by
  induction fs generalizing b with
  | nil => simp [logged]
  | cons f fs ih =>
    obtain ⟨text, here⟩ := exists_of_isOk (ready f mem_cons_self)
    rw [forM_eq_forM, forM_cons, perform_bind, perform_work, carry_send here, proceed_ok, ← forM_eq_forM,
      ih (fun g member => ready g (mem_cons_of_mem f member)), logged_logged, flatMap_cons]

variable {c : Client}

lemma perform_draw (single : ∀ f ∈ fs.tail, f = flush) (connected : c.connected = true) (b : Bench) :
    if ∀ f ∈ fs, f.Ready then
      perform (Client.draw (.ok fs)) c b = ((.ok .nothing, c), logged (fs.flatMap Frame.events) b)
    else ∃ e, perform (Client.draw (.ok fs)) c b = ((.error e, c), b) := by
  have start : perform (Client.draw (.ok fs)) c b =
      perform ((fs.forM fun f => liftM (send f) : Act Client PUnit) >>= fun _ => pure .nothing) c b := by
    rw [Client.draw, perform_bind, perform_lift, proceed_ok]
    refine (perform_get_bind _ c b).trans ?_
    rw [if_pos connected]
  rw [start, perform_bind]
  split
  case isTrue ready => rw [perform_sendAll ready, proceed_ok, perform_pure]
  case isFalse notAll =>
    cases fs with
    | nil => simp at notAll
    | cons f fs =>
      have refused : ¬ f.Ready := fun ready => notAll fun g member => by
        rcases mem_cons.mp member with rfl | later
        · exact ready
        · exact single g later ▸ (rfl : flush.Ready)
      match asked : f.text with
      | .ok text => exact absurd (congrArg Except.isOk asked) refused
      | .error e =>
        refine ⟨e, ?_⟩
        rw [forM_eq_forM, forM_cons, perform_bind, perform_work, carry_send_error asked, proceed_error, proceed_error]

/-! ### Sessions -/

/-- The frames that a request asks for. -/
def planned (r : Request) : Outcome (List Frame) :=
  match Client.drawings.find? (·.name == r.name) with
  | none => .error .noMember
  | some d => do d.frames (← d.command.matched r.values r.named).values

def Drawable (r : Request) (fs : List Frame) : Prop := planned r = .ok fs ∧ ∀ f ∈ fs, ∃ d t, f.Fits d t

/-- The frames that reach the window. -/
def sent (r : Request) : List Frame :=
  match planned r with
  | .ok fs => if ∀ f ∈ fs, f.Ready then fs else []
  | .error _ => []

/-- A step either draws all that was asked for or tells a fault and leaves no trace. -/
structure Answered (r : Request) (s : Step) : Prop where
  drawn : ∀ fs, Drawable r fs → s.outcome = .ok .nothing ∧ s.log = fs.flatMap Frame.events
  refused : (¬ ∃ fs, Drawable r fs) → (∃ e, s.outcome = .error e) ∧ s.log = []

lemma Frame.ready_iff : f.Ready ↔ ∃ d t, f.Fits d t := by
  constructor
  · intro ready
    obtain ⟨text, done⟩ := exists_of_isOk ready
    obtain ⟨d, t, fits, -⟩ := Frame.text_eq_ok.mp done
    exact ⟨d, t, fits⟩
  · rintro ⟨d, t, fits⟩
    rw [Frame.Ready, Frame.text_eq_ok.mpr ⟨d, t, fits, rfl⟩]
    rfl

variable {r : Request}

lemma drawable_iff : Drawable r fs ↔ planned r = .ok fs ∧ ∀ f ∈ fs, f.Ready := by
  simp only [Drawable, Frame.ready_iff]

lemma drawable_of_mem_sent (member : f ∈ sent r) : ∃ d t, f.Fits d t := by
  unfold sent at member
  split at member
  · split at member
    case isTrue ready => exact Frame.ready_iff.mp (ready f member)
    case isFalse => simp at member
  · simp at member

lemma single_planned (r : Request) : Single (planned r) := by
  unfold planned
  split
  · exact Single.throw _
  next d found => exact .bind fun _ => single_frames d (mem_of_find?_eq_some found) _

lemma perform_planned (r : Request) (connected : c.connected = true) (b : Bench) :
    ∃ outcome, perform (Client.draw (planned r)) c b = ((outcome, c), logged ((sent r).flatMap Frame.events) b) ∧
      ∀ printed, Answered r ⟨outcome, printed, (sent r).flatMap Frame.events⟩ := by
  have unlogged : logged [] b = b := by simp [logged]
  match asked : planned r with
  | .error e =>
    refine ⟨.error e, ?_, fun printed => ⟨fun fs drawable => ?_, fun _ => ⟨⟨e, rfl⟩, ?_⟩⟩⟩
    · simp only [sent, asked, flatMap_nil, unlogged]
      rfl
    · simp [Drawable, asked] at drawable
    · simp only [sent, asked, flatMap_nil]
  | .ok fs =>
    have whole := perform_draw (single_planned r fs asked) connected b
    have only : ∀ {gs}, Drawable r gs → fs = gs := fun drawable => Except.ok.inj (asked.symm.trans drawable.1)
    by_cases ready : ∀ f ∈ fs, f.Ready
    · rw [if_pos ready] at whole
      simp only [sent, asked, if_pos ready]
      refine ⟨_, whole, fun printed => ⟨fun gs drawable => only drawable ▸ ⟨rfl, rfl⟩, fun none => ?_⟩⟩
      exact absurd ⟨fs, drawable_iff.mpr ⟨asked, ready⟩⟩ none
    · rw [if_neg ready] at whole
      obtain ⟨e, whole⟩ := whole
      simp only [sent, asked, if_neg ready, flatMap_nil, unlogged]
      refine ⟨_, whole, fun printed => ⟨fun gs drawable => ?_, fun _ => ⟨⟨e, rfl⟩, rfl⟩⟩⟩
      exact absurd (only drawable ▸ (drawable_iff.mp drawable).2) ready

lemma answer_planned (drawing : r.name ∈ Client.drawings.map (·.name)) (c : Client) (b : Bench) :
    (Session.answer client c r).run.run b =
      (.ok (perform (Client.draw (planned r)) c b).1, (perform (Client.draw (planned r)) c b).2) := by
  obtain ⟨d, member, named⟩ := mem_map.mp drawing
  obtain ⟨found, first⟩ : ∃ found, Client.drawings.find? (·.name == r.name) = some found :=
    Option.isSome_iff_exists.mp (find?_isSome.mpr ⟨d, member, by simp [named]⟩)
  have listed : (Client.drawings.map (·.command)).find? (·.name == r.name) = some found.command :=
    find?_map.trans (congrArg (Option.map (·.command)) first)
  have among : Client.commands.find? (·.name == r.name) = some found.command := by
    rw [Client.commands, find?_append, listed]
    rfl
  have chosen : client.commands.find? (·.name == r.name) = some found.command := among
  have plan : planned r = (do found.frames (← found.command.matched r.values r.named).values) := by
    rw [planned, first]
  unfold Session.answer
  split
  case h_1 name values asked _ => exact absurd (asked ▸ drawing) (by decide)
  case h_2 name values asked _ => exact absurd (asked ▸ drawing) (by decide)
  case h_3 =>
    rw [chosen]
    have called : perform (found.command.call r) c b = perform (Client.draw (planned r)) c b := by
      rw [Command.call, perform_bind, perform_lift, plan]
      cases found.command.matched r.values r.named with
      | error e => rfl
      | ok given => rfl
    exact congrArg (fun p => ((.ok p.1, p.2) : Outcome (Outcome Value × Client) × Bench)) called

lemma answered_steps {rs : List Request} (drawing : ∀ r ∈ rs, r.name ∈ Client.drawings.map (·.name))
    (connected : c.connected = true) {b : Bench} (fresh : b.log = #[]) :
    Forall₂ Answered rs (Session.steps client c b rs) ∧
      (Session.steps client c b rs).map (·.log) = rs.map fun r => (sent r).flatMap Frame.events := by
  induction rs generalizing b with
  | nil => exact ⟨.nil, rfl⟩
  | cons r rs ih =>
    obtain ⟨outcome, done, answered⟩ := perform_planned r connected b
    have log : (logged ((sent r).flatMap Frame.events) b).log.toList = (sent r).flatMap Frame.events := by
      simp [logged, fresh]
    simp only [Session.steps, answer_planned (drawing r mem_cons_self), done, Session.closeStep, log]
    obtain ⟨later, logs⟩ := ih (fun s member => drawing s (mem_cons_of_mem r member))
      (b := { logged ((sent r).flatMap Frame.events) b with printed := "", log := #[] }) rfl
    exact ⟨.cons (answered _) later, by rw [map_cons, map_cons, logs]⟩

/-- Whatever is drawn, the window reads one description every three hundred bytes, in the order of the calls. A call
that cannot be drawn tells so before a byte of it is written. -/
theorem window_reads_whole_frames (b : Bench) (opened : b.openFault = none) (rs : List Request)
    (drawing : ∀ r ∈ rs, r.name ∈ Client.drawings.map (·.name)) : let steps := (Session.run client b rs).steps
    Forall₂ Answered rs steps ∧
      steps.flatMap (fun s => s.log.flatMap wire) = (rs.flatMap sent).flatMap Frame.bytes ∧
      ∀ f ∈ rs.flatMap sent, ∃ d t, f.Fits d t ∧ Framed d f.bytes := by
  intro steps
  have started : client.start.run.run b = (.ok ({} : Client), b) := by
    refine (carry_bind get _ b).trans ?_
    rw [carry_get_ok.mpr ⟨rfl, rfl⟩]
    simp only [opened]
    rfl
  have run : steps = Session.steps client ({} : Client) { b with printed := "", log := #[] } rs := by
    simp only [steps, Session.run, started, Session.closeStep]
  obtain ⟨answered, logs⟩ := answered_steps drawing (c := {}) rfl (b := { b with printed := "", log := #[] }) rfl
  refine ⟨run ▸ answered, ?_, fun f member => ?_⟩
  · calc steps.flatMap (fun s => s.log.flatMap wire)
      _ = (steps.map (·.log)).flatMap (·.flatMap wire) := (flatMap_map ..).symm
      _ = (rs.flatMap sent).flatMap Frame.bytes := by
        rw [run, logs, flatMap_map, flatMap_assoc]
        simp only [flatMap_assoc]
        rfl
  · obtain ⟨r, -, here⟩ := mem_flatMap.mp member
    obtain ⟨d, t, fits⟩ := drawable_of_mem_sent here
    exact ⟨d, t, fits, fits.bytes.symm ▸ fits.framed⟩

/-- A label, and another one whose text is no JSON. -/
def labels : List Request :=
  [{ name := "label", values := ["T1", "15 K"] }, { name := "label", values := ["T1", .bytes [1]] }]

theorem only_first_label_reads :
    (∀ r ∈ labels, r.name ∈ Client.drawings.map (·.name)) ∧ labels.map (fun r => (sent r).length) = [2, 0] ∧
      let steps := (Session.run client {} labels).steps
      Forall₂ Answered labels steps ∧
      steps.flatMap (fun s => s.log.flatMap wire) = (labels.flatMap sent).flatMap Frame.bytes ∧
      ∀ f ∈ labels.flatMap sent, ∃ d t, f.Fits d t ∧ Framed d f.bytes :=
  ⟨by decide, by decide +kernel, window_reads_whole_frames {} rfl labels (by decide)⟩

end EprBench.Plot
