import EprBench.Proofs.Bench
import EprBench.Proofs.Decimal
import EprBench.Pulser.Board

/-! What the board is told when a program is played. -/
namespace EprBench.Pulser.Board

open List

variable {is : List Instruction} {P : Event → Prop} {function : String}

/-- The library takes an instruction of a duration. -/
def Sends (x : Float) (e : Event) : Prop :=
  ∃ flags operation operand, e = .call "pb_inst_pbonly" [flags, operation, operand, .float x]

def Handles (e : Event) : Prop :=
  (∃ file, e = .loadLibrary file) ∨ ∃ function args, function ≠ "pb_inst_pbonly" ∧ e = .call function args

/-- The library takes one of some instructions or something else. -/
def Tells (is : List Instruction) (e : Event) : Prop :=
  Handles e ∨ ∃ i ∈ is, Sends (Decimal.ofInt i.duration) e

lemma Handles.tells (e : Event) (h : Handles e) : Tells is e := Or.inl h

lemma Tells.mono {js : List Instruction} (sub : is ⊆ js) (e : Event) (h : Tells is e) : Tells js e := by
  rcases h with h | ⟨i, member, sends⟩
  · exact .inl h
  · exact .inr ⟨i, sub member, sends⟩

/-! ### Single calls -/

lemma noting_library (opens : P (.loadLibrary library))
    (quiet : P (.call "pb_set_debug" [.bool false])) : Noting P use := by
  refine (Noting.useLibrary opens ?_).handle fun e => ?_
  · exact (Noting.callLibrary quiet (Noting.pure _)).bind fun _ => .pure _
  · split
    · exact .throw _
    · exact .throw _

lemma noting_use : Noting Handles use :=
  noting_library (Or.inl ⟨_, rfl⟩) (Or.inr ⟨_, _, by decide, rfl⟩)

lemma noting_ask (used : Noting P use) {args : List Value}
    (allowed : P (.call function args)) : Noting P (ask function args) :=
  used.bind fun _ => .callLibrary allowed (Noting.pure _)

lemma noting_expect (used : Noting P use) (reason : P (.call "pb_get_error" []))
    (bad : Value → Outcome Bool) (answer : Value) : Noting P (expect bad answer) := by
  refine (Noting.lift _).bind fun failed => ?_
  split
  · exact (noting_ask used reason).bind fun _ => .throw _
  · exact .pure _

lemma handles_call (other : function ≠ "pb_inst_pbonly") (args : List Value) :
    Handles (.call function args) := Or.inr ⟨function, args, other, rfl⟩

lemma noting_expected (bad : Value → Outcome Bool) (answer : Value) : Noting Handles (expect bad answer) :=
  noting_expect noting_use (handles_call (by decide) _) bad answer

lemma noting_checked (args : List Value) (other : function ≠ "pb_inst_pbonly") :
    Noting Handles (checked function args) :=
  (noting_ask noting_use (handles_call other args)).bind fun _ => noting_expected _ _

lemma noting_openProgram (clock : Float) : Noting Handles (openProgram clock) := by
  refine (noting_checked _ (by decide)).bind fun _ => .bind ?_ fun _ => .bind ?_ fun _ => .pure _
  · refine noting_use.bind fun _ => (Noting.lift _).bind fun _ => ?_
    exact (Noting.callLibrary (handles_call (by decide) _) (Noting.pure _)).bind fun _ => .pure _
  · refine noting_use.bind fun _ => (Noting.lift _).bind fun _ => .bind ?_ fun _ => noting_expected _ _
    refine .callLibrary (handles_call (by decide) _) ?_
    exact .bind (fun _ => Adds.of_log_eq rfl rfl) fun _ => .pure _

lemma noting_prepareReturn (toZero : Bool) : Noting Handles (prepareReturn toZero) := by
  rw [prepareReturn]
  split
  · exact .pure _
  · refine noting_use.bind fun _ => (Noting.lift _).bind fun _ => ?_
    exact (Noting.callLibrary (handles_call (by decide) _) (Noting.pure _)).bind fun _ => .pure _

lemma noting_launch : Noting Handles launch := by
  refine (noting_checked _ (by decide)).bind fun _ => (noting_checked _ (by decide)).bind fun _ => ?_
  exact (noting_checked _ (by decide)).bind fun _ => (noting_checked _ (by decide)).bind fun _ => .pure _

/-! ### Instructions -/

def sendable (i : Instruction) : Bool := Decimal.isFinite (Decimal.ofInt i.duration)

lemma double_duration (i : Instruction) :
    double (.int i.duration) = if sendable i then .ok (.float (Decimal.ofInt i.duration)) else .error .overflow := by
  have real : double (.int i.duration) = (do return .float (← Value.realOfInt i.duration)) := rfl
  rw [real, Value.realOfInt, sendable]
  split
  · rfl
  · rfl

lemma noting_send (i : Instruction) (operation operand : Value) :
    Noting (Tells (if sendable i then [i] else [])) (send i operation operand) := by
  refine (noting_use.mono Handles.tells).bind fun _ => (Noting.lift _).bind fun _ => (Noting.lift _).bind fun _ => ?_
  refine (Noting.lift _).bind fun _ => (Noting.lift _).bind fun _ => (Noting.lift _).bind_of_ok ?_
  intro duration b b' real
  have read : double (.int i.duration) = .ok duration := congrArg Prod.fst real
  rw [double_duration] at read
  split at read
  · rename_i finite
    obtain rfl := Except.ok.inj read
    rw [if_pos finite]
    refine .bind ?_ fun _ => (noting_expected _ _).mono Handles.tells
    refine .callLibrary (Or.inr ⟨i, mem_singleton_self i, _, _, _, rfl⟩) ?_
    exact fun _ => Adds.of_log_eq rfl rfl
  · simp at read

lemma sendable_of_send {i : Instruction} {operation operand v : Value} {b b' : Bench}
    (sent : carry (send i operation operand) b = (.ok v, b')) : sendable i = true := by
  obtain ⟨_, _, -, sent⟩ := carry_bind_ok.mp sent
  obtain ⟨_, _, -, sent⟩ := carry_bind_ok.mp sent
  obtain ⟨_, _, -, sent⟩ := carry_bind_ok.mp sent
  obtain ⟨_, _, -, sent⟩ := carry_bind_ok.mp sent
  obtain ⟨_, _, -, sent⟩ := carry_bind_ok.mp sent
  obtain ⟨duration, _, real, -⟩ := carry_bind_ok.mp sent
  have read : double (.int i.duration) = .ok duration := congrArg Prod.fst real
  rw [double_duration] at read
  split at read
  · assumption
  · simp at read

/-- The instructions that can be sent, up to the first one that cannot. -/
def sent (is : List Instruction) : List Instruction := is.takeWhile sendable

lemma sent_cons (i : Instruction) (is : List Instruction) :
    sent (i :: is) = if sendable i then i :: sent is else [] := by
  rw [sent, takeWhile_cons]
  rfl

lemma noting_send_bind {α : Type} (i : Instruction) (operation operand : Value)
    {f : Value → Work α} (others : ∀ v, Noting (Tells (sent is)) (f v)) :
    Noting (Tells (sent (i :: is))) (send i operation operand >>= f) := by
  rw [sent_cons]
  refine ((noting_send i operation operand).mono ?_).bind_of_ok fun v b b' ok => ?_
  · apply Tells.mono
    split
    · simp
    · simp
  · rw [if_pos (sendable_of_send ok)]
    exact (others v).mono (Tells.mono (subset_cons_self i _))

lemma noting_sendBody (is : List Instruction) : Noting (Tells (sent is)) (sendBody is) := by
  induction is with
  | nil => exact .pure _
  | cons i is ih => exact noting_send_bind i proceed 0 fun _ => ih.bind fun _ => .pure _

lemma sendable_of_sendBody {v : Option Value} {b b' : Bench}
    (done : carry (sendBody is) b = (.ok v, b')) : ∀ i ∈ is, sendable i = true := by
  induction is generalizing v b b' with
  | nil => simp
  | cons i is ih =>
    obtain ⟨_, _, first, done⟩ := carry_bind_ok.mp done
    obtain ⟨_, _, others, -⟩ := carry_bind_ok.mp done
    intro j hj
    rcases mem_cons.mp hj with rfl | hj
    · exact sendable_of_send first
    · exact ih others j hj

lemma sent_append (all : ∀ i ∈ is, sendable i = true) (js : List Instruction) : sent (is ++ js) = is ++ sent js :=
  takeWhile_append_of_pos all

lemma sent_subset_append (is js : List Instruction) : sent is ⊆ sent (is ++ js) := by
  rw [sent, sent, takeWhile_append]
  split
  · exact List.Subset.trans ( takeWhile_prefix _).subset (subset_append_left is _)
  · exact List.Subset.refl _

lemma noting_sendLast (toZero : Bool) (last : Instruction) (first : Option Value) :
    Noting (Tells (sent [last])) (sendLast toZero (some last) first) := by
  cases toZero with
  | true => exact noting_send_bind last branch 0 fun _ => .pure _
  | false =>
    cases first with
    | none => exact .throw _
    | some n => exact noting_send_bind last branch n fun _ => .pure _

lemma noting_play (clock : Float) (toZero : Bool) (front : List Instruction) (last : Instruction) :
    Noting (Tells (sent (front ++ [last]))) (play clock toZero (front ++ [last])) := by
  rw [play, dropLast_concat, getLast?_concat]
  refine ((noting_openProgram clock).mono Handles.tells).bind fun _ => ?_
  refine ((noting_prepareReturn toZero).mono Handles.tells).bind fun _ => ?_
  refine ((noting_sendBody front).mono (Tells.mono (sent_subset_append front _))).bind_of_ok fun first b b' done => ?_
  rw [sent_append (sendable_of_sendBody done)]
  refine ((noting_sendLast toZero last first).mono (Tells.mono (subset_append_right front _))).bind fun _ => ?_
  exact noting_launch.mono Handles.tells

end EprBench.Pulser.Board
