import EprBench.Line.Dialogue
import EprBench.Line.Registers
import EprBench.Line.Socket
import EprBench.Proofs.Outcome

/-! Sessions over an open line. While nothing outside fails, it is known what an act writes down and what it is answered. -/
namespace EprBench

/-! ### Benches on which nothing fails -/

namespace Bench

def noted (e : Event) (b : Bench) : Bench := { b with log := b.log.push e }

/-- A bench that has taken in one thing more. -/
def written (e : Event) (b : Bench) : Bench := { b with log := b.log.push e, writes := b.writes + 1 }

def heard (b : Bench) : Bench := { b with replies := b.replies.tail }

/-- Nothing fails when the next thing is written. -/
def Accepts (b : Bench) : Prop := b.writeFaults.lookup (b.writes + 1) = none

/-- The next reply is this one. -/
def Replies (b : Bench) (v : Value) : Prop := b.replies.head? = some (.answer v)

variable {b : Bench} {v : Value}

lemma Accepts.noted (accepts : b.Accepts) (e : Event) : (b.noted e).Accepts := accepts

lemma Replies.noted (replies : b.Replies v) (e : Event) : (b.noted e).Replies v := replies

lemma carry_opening_eq (e : Event) (b : Bench) : carry (opening e) b = (b.openFault.elim (.ok ()) .error, b.noted e) := by
  rcases b with ⟨_, _, _, _ | f⟩
  · rfl
  · rfl

lemma carry_opening (opens : b.openFault = none) (e : Event) : carry (opening e) b = (.ok (), b.noted e) := by
  rw [carry_opening_eq, opens, Option.elim_none]

lemma carry_writing_eq (e : Event) (b : Bench) :
    carry (writing e) b = ((b.writeFaults.lookup (b.writes + 1)).elim (.ok ()) .error, b.written e) := by
  have noted : carry (note e) b = (.ok (), b.noted e) := rfl
  have counted : carry (modify fun b => { b with writes := b.writes + 1 } : Work PUnit) (b.noted e) = (.ok ⟨⟩, b.written e) := rfl
  have got : carry (get : Work Bench) (b.written e) = (.ok (b.written e), b.written e) := rfl
  have fault : (b.written e).writeFaults.lookup (b.written e).writes = b.writeFaults.lookup (b.writes + 1) := rfl
  simp only [writing, carry_bind, noted, counted, got, fault]
  cases b.writeFaults.lookup (b.writes + 1) with
  | none => rfl
  | some f => rfl

lemma carry_writing (accepts : b.Accepts) (e : Event) : carry (writing e) b = (.ok (), b.written e) := by
  rw [carry_writing_eq, accepts, Option.elim_none]

lemma carry_nextReply (replies : b.Replies v) : carry nextReply b = (.ok (some v), b.heard) := by
  obtain ⟨rest, shape⟩ : ∃ rest, b.replies = .answer v :: rest := List.head?_eq_some_iff.mp replies
  cases b
  cases shape
  rfl

lemma carry_message (live : b.mode = .live) (text : String) : carry (message text) b = (.ok (), b.noted (.message text)) := by
  cases b
  cases live
  rfl

end Bench

/-- A live bench after some events, on which nothing fails, with these answers to come. -/
structure Bench.Stands (b : Bench) (past : List Event) (answers : List Value) : Prop where
  live : b.mode = .live
  log : b.log.toList = past
  replies : b.replies = answers.map .answer
  calm : b.writeFaults = []

namespace Bench.Stands

variable {b : Bench} {past : List Event} {answers : List Value} (stands : b.Stands past answers)
include stands

lemma accepts : b.Accepts := by rw [Accepts, stands.calm, List.lookup_nil]

lemma noted (e : Event) : (b.noted e).Stands (past ++ [e]) answers :=
  ⟨stands.live, by rw [Bench.noted, Array.toList_push, stands.log], stands.replies, stands.calm⟩

lemma written (e : Event) : (b.written e).Stands (past ++ [e]) answers :=
  ⟨stands.live, by rw [Bench.written, Array.toList_push, stands.log], stands.replies, stands.calm⟩

lemma carry_nextReply : ∃ b', carry nextReply b = (.ok answers.head?, b') ∧ b'.Stands past answers.tail := by
  cases answers with
  | nil => exact ⟨b, by rw [nextReply, carry_bind, carry_get_ok.mpr ⟨rfl, rfl⟩]; simp only [stands.replies]; rfl, stands⟩
  | cons v answers =>
    have next : b.Replies v := by rw [Replies, stands.replies]; rfl
    exact ⟨_, Bench.carry_nextReply next, stands.live, stands.log, by rw [heard, stands.replies]; rfl, stands.calm⟩

end Bench.Stands

section Acts

variable {σ α β : Type} {s : σ} {b : Bench}

lemma lift_ok_bind (a : α) (f : α → Act σ β) : (liftM (Except.ok a : Outcome α) : Act σ α) >>= f = f a := rfl

lemma perform_note_bind (e : Event) (f : Unit → Act σ α) :
    perform (liftM (Bench.note e) >>= f) s b = perform (f ()) s (b.noted e) := rfl

lemma perform_nextReply_bind {v : Value} (replies : b.Replies v) (f : Option Value → Act σ α) :
    perform (liftM Bench.nextReply >>= f) s b = perform (f (some v)) s b.heard := by
  rw [perform_bind, perform_work, Bench.carry_nextReply replies, proceed_ok]

end Acts

/-! ### Open lines -/

namespace Line

variable {σ α : Type} [Linked σ]

/-- A session, and not a rehearsal, whose line is open. -/
structure Connected (s : σ) : Prop where
  live : (Linked.link s).mode = .live
  opened : (Linked.link s).connected = some true

lemma perform_theLink_bind (f : Link → Act σ α) (s : σ) (b : Bench) :
    perform (theLink >>= f) s b = perform (f (Linked.link s)) s b := rfl

namespace Connected

variable {s : σ} {b : Bench} {reply : Value} (here : Connected s)
include here

lemma perform_isLive_bind (f : Bool → Act σ α) : perform (isLive >>= f) s b = perform (f true) s b := by
  have asked : perform isLive s b = ((.ok ((Linked.link s).mode == .live), s), b) := rfl
  rw [perform_bind, asked, here.live]
  rfl

lemma perform_answer (session : Act σ Value) (rehearsal : Value) :
    perform (Line.answer session rehearsal) s b = perform session s b := by
  rw [Line.answer, here.perform_isLive_bind, if_pos rfl]

lemma perform_needConnection_bind (text : String) (f : Unit → Act σ α) :
    perform (needConnection text >>= f) s b = perform (f ()) s b := by
  rw [needConnection, bind_assoc, perform_theLink_bind, here.opened]
  rfl

lemma perform_writeRegister (replies : b.Replies reply) (register value decimals : Value) (function : ℤ) (signed : Bool) :
    perform (writeRegister register value decimals function signed) s b = ((.ok (), s), (b.noted (.modbus "write_register"
      [register, value, decimals] [("functioncode", .int function), ("signed", .bool signed)])).heard) := by
  rw [writeRegister, perform_theLink_bind, here.perform_needConnection_bind, perform_note_bind,
    perform_nextReply_bind (replies.noted _)]
  rfl

lemma perform_readRegister (replies : b.Replies reply) (register decimals : Value) (signed : Bool) :
    perform (readRegister register decimals signed) s b = ((.ok reply, s), (b.noted (.modbus "read_register"
      [register, decimals] [("signed", .bool signed)])).heard) := by
  rw [readRegister, readFrom, perform_theLink_bind, here.perform_needConnection_bind, perform_note_bind,
    perform_nextReply_bind (replies.noted _)]
  rfl

lemma perform_send (accepts : b.Accepts) (command : Value) :
    perform (send command) s b = ((.ok (), s), b.written (.write (.text command.display))) := by
  rw [send, perform_theLink_bind, here.perform_needConnection_bind, put, perform_work, Bench.carry_writing accepts]

end Connected

/-- An open line on which an answer comes with its question. -/
structure Converses (s : σ) : Prop extends Connected s where
  direct : ((Linked.link s).line.interface == "gpib") = false
  asks : (Linked.link s).asks = true
  prompt : (Linked.link s).rest = none

lemma Converses.perform_query {s : σ} {b : Bench} {past : List Event} {answers : List Value} (here : Converses s)
    (stands : b.Stands past answers) (command : Value) :
    ∃ b', perform (query command) s b = ((.ok (.text ((answers.head?.map Value.display).getD "")), s), b') ∧
      b'.Stands (past ++ [.query command]) answers.tail := by
  obtain ⟨b', heard, left⟩ := (stands.written (.query command)).carry_nextReply
  refine ⟨b', ?_, left⟩
  rw [query, perform_theLink_bind, here.perform_needConnection_bind, here.direct, if_neg (by decide), here.asks, if_pos rfl,
    here.prompt, perform_bind, perform_work, ask, carry_bind, Bench.carry_writing stands.accepts]
  simp only
  rw [carry_bind, heard]
  rfl

/-! ### Sockets -/

namespace Endpoint

/-- A live bench on which the next exchange brings this reply. -/
structure Serves (b : Bench) (reply : Value) : Prop where
  live : b.mode = .live
  opens : b.openFault = none
  accepts : b.Accepts
  replies : b.Replies reply

def opened (e : Endpoint) : Event := .openSocket (.text e.host) (.int e.port)

def sent (e : Endpoint) (packet : Value) : Event := .sendTo packet (.text e.host) (.int e.port)

variable {b : Bench} {reply : Value}

lemma Serves.noted (serves : Serves b reply) (e : Event) : Serves (b.noted e) reply :=
  ⟨serves.live, serves.opens, serves.accepts, serves.replies⟩

lemma Serves.carry_ask (serves : Serves b reply) (e : Endpoint) (packet : Value) (count : ℤ) :
    carry (e.ask packet (.int count)) b = (.ok (Text.slice none (some count) (replyOf (some reply))),
      (((b.noted e.opened).written (e.sent packet)).noted (.receive count)).heard) := by
  have delivered : carry (e.deliver packet) b = (.ok (), (b.noted e.opened).written (e.sent packet)) := by
    rw [deliver, carry_bind, Bench.carry_opening serves.opens]
    exact Bench.carry_writing (serves.noted _).accepts _
  have whole (b : Bench) : carry (liftM (Value.int count).toInt : Work ℤ) b = (.ok count, b) := rfl
  have noted (b : Bench) : carry (Bench.note (.receive count)) b = (.ok (), b.noted (.receive count)) := rfl
  have heard := Bench.carry_nextReply (b := ((b.noted e.opened).written (e.sent packet)).noted (.receive count)) serves.replies
  simp only [ask, guarded, carry_tryCatch, carry_bind, delivered, whole, noted, heard]
  rfl

end Endpoint

end Line

end EprBench
