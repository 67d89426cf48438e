import EprBench.Proofs.Pulser.Boards

/-! What the board remembers of what it is told: the instructions that it has taken in since programming began, and those
with which it was last started. -/
namespace EprBench.Pulser.Board

open List

/-- An instruction as the board takes it: its word, what comes after it and its duration. -/
structure Told where
  flags : Value
  operation : Value
  duration : Value

structure Memory where
  taken : List Told := []
  playing : Option (List Told) := none

namespace Memory

/-- What is remembered once a function of the library has been called. -/
def hearCall (m : Memory) (function : String) (args : List Value) : Memory :=
  if function = "pb_start_programming" then { m with taken := [] }
  else if function = "pb_inst_pbonly" then
    match args with
    | [flags, operation, _, duration] => { m with taken := m.taken ++ [⟨flags, operation, duration⟩] }
    | _ => m
  else if function = "pb_start" then { m with playing := some m.taken }
  else m

def hear (m : Memory) : Event → Memory
  | .call function args => m.hearCall function args
  | _ => m

/-- The board has taken in some instructions and plays them. -/
def playingOf (ts : List Told) : Memory := ⟨ts, some ts⟩

end Memory

/-- What the board remembers of all that is in the log of a bench. -/
def memory (b : Bench) : Memory := b.log.toList.foldl Memory.hear {}

/-! ### Work that the board hears -/

def Unheard (e : Event) : Prop := ∀ m : Memory, m.hear e = m

lemma unheard_call {function : String} (args : List Value)
    (other : function ∉ ["pb_start_programming", "pb_inst_pbonly", "pb_start"]) : Unheard (.call function args) := by
  intro m
  simp only [mem_cons, not_mem_nil, or_false, not_or] at other
  simp [Memory.hear, Memory.hearCall, other]

lemma foldl_unheard {es : List Event} (unheard : ∀ e ∈ es, Unheard e) (m : Memory) : es.foldl Memory.hear m = m := by
  induction es with
  | nil => rfl
  | cons e es ih =>
    obtain ⟨here, later⟩ := forall_mem_cons.mp unheard
    rw [foldl_cons, here, ih later]

lemma memory_of_adds {b b' : Bench} (adds : Adds Unheard b b') : memory b' = memory b := by
  obtain ⟨es, log, unheard⟩ := adds.log
  rw [memory, log, foldl_append, foldl_unheard unheard]
  rfl

def Hears {α : Type} (f : Memory → Memory) (x : Work α) : Prop :=
  ∀ ⦃b a b'⦄, carry x b = (.ok a, b') → memory b' = f (memory b)

namespace Hears

variable {α β : Type} {f g : Memory → Memory}

variable {x : Work α} {k : α → Work β}

lemma bind (first : Hears f x) (second : ∀ a, Hears g (k a)) : Hears (fun m => g (f m)) (x >>= k) := by
  intro b c b'' done
  obtain ⟨a, b', here, later⟩ := carry_bind_ok.mp done
  rw [second a later, first here]

lemma of_noting (noting : Noting Unheard x) : Hears id x := by
  intro b a b' done
  have adds := noting b
  rw [done] at adds
  exact memory_of_adds adds

lemma pure (a : α) : Hears id (pure a : Work α) := of_noting (Noting.pure a)

lemma lift (x : Outcome α) : Hears id (liftM x : Work α) := of_noting (Noting.lift x)

lemma lift_bind {x : Outcome α} (each : ∀ a, x = .ok a → Hears g (k a)) : Hears g ((liftM x : Work α) >>= k) := by
  intro b c b'' done
  obtain ⟨a, b', here, later⟩ := carry_bind_ok.mp done
  obtain ⟨known, rfl⟩ : x = .ok a ∧ b = b' := Prod.mk.inj here
  exact each a known later

lemma after (first : Hears id x) (second : ∀ a, Hears g (k a)) : Hears g (x >>= k) :=
  first.bind second

lemma before (first : Hears f x) (second : ∀ a, Hears id (k a)) : Hears f (x >>= k) :=
  first.bind second

lemma note (e : Event) : Hears (fun m => m.hear e) (Bench.note e) := by
  intro b a b' done
  obtain rfl := carry_modify_ok.mp done
  rw [memory, Array.toList_push, foldl_append]
  rfl

lemma callLibrary (function : String) (args : List Value) {fallback : Work Value} (quiet : Hears id fallback) :
    Hears (fun m => m.hearCall function args) (Bench.callLibrary function args fallback) := by
  refine (note (.call function args)).before fun _ => (of_noting (Noting.nextPrepared function)).after fun v => ?_
  split
  · exact pure _
  · exact pure _
  · exact quiet

end Hears

/-! ### Calls of the library -/

lemma hears_use : Hears id use :=
  Hears.of_noting (noting_library (fun _ => rfl) (unheard_call _ (by decide)))

lemma hears_expect (bad : Value → Outcome Bool) (answer : Value) : Hears id (expect bad answer) := by
  refine (Hears.lift _).after fun failed => ?_
  cases failed with
  | true =>
    intro b a b' done
    obtain ⟨_, _, -, thrown⟩ := carry_bind_ok.mp done
    exact (carry_throw_ok.mp thrown).elim
  | false => exact .pure _

lemma hears_checked (function : String) (args : List Value) :
    Hears (fun m => m.hearCall function args) (checked function args) :=
  (hears_use.after fun _ => .callLibrary function args (Hears.pure _)).before fun _ => hears_expect _ _

lemma hears_openProgram (clock : Float) : Hears (fun m => { m with taken := [] }) (openProgram clock) := by
  refine .after (g := fun m => { m with taken := [] }) ?_ fun _ => .after ?_ fun _ =>
    Hears.before ?_ fun _ => .pure _
  · exact hears_checked "pb_init" []
  · refine hears_use.after fun _ => (Hears.lift _).after fun x => .before ?_ fun _ => .pure _
    exact .callLibrary "pb_core_clock" [x] (Hears.pure _)
  · refine hears_use.after fun _ => (Hears.lift _).after fun n => .before ?_ fun _ => hears_expect _ _
    refine .callLibrary "pb_start_programming" [n] ?_
    exact .of_noting (Noting.bind (fun _ => Adds.of_log_eq rfl rfl) fun _ => .pure _)

lemma hears_prepareReturn (toZero : Bool) : Hears id (prepareReturn toZero) := by
  rw [prepareReturn]
  split
  · exact .pure _
  · refine hears_use.after fun _ => (Hears.lift _).after fun n => .before ?_ fun _ => .pure _
    exact .callLibrary "pb_bypass_FF_fix" [n] (Hears.pure _)

lemma hears_launch : Hears (fun m => { m with playing := some m.taken }) launch := by
  refine .after (g := fun m => { m with playing := some m.taken }) ?_ fun _ => .after ?_ fun _ =>
    Hears.before ?_ fun _ => .before ?_ fun _ => .pure _
  · exact hears_checked "pb_stop_programming" []
  · exact hears_checked "pb_reset" []
  · exact hears_checked "pb_start" []
  · exact hears_checked "pb_close" []

/-! ### Instructions -/

/-- How an instruction is told. -/
def told (operation : Int) (i : Instruction) : Told :=
  ⟨.int ((outputsOn + i.word) % twoTo 32), .int operation, .float (Decimal.ofInt i.duration)⟩

/-- How a program is told: each instruction is followed by the next one, and the last one leads back. -/
def telling (is : List Instruction) : List Told := is.dropLast.map (told 0) ++ is.getLast?.toList.map (told 6)

def Memory.taking (ts : List Told) (m : Memory) : Memory := { m with taken := m.taken ++ ts }

lemma hears_send (i : Instruction) {operation : Value} {n : Int} (known : signed32 operation = .ok (.int n))
    (operand : Value) : Hears (Memory.taking [told n i]) (send i operation operand) := by
  refine hears_use.after fun _ => .lift_bind fun flags bits => .lift_bind fun flags' word => ?_
  refine .lift_bind fun operation' read => .lift_bind fun operand' _ => .lift_bind fun duration real => ?_
  obtain rfl : .int (outputsOn + i.word) = flags := Except.ok.inj bits
  obtain rfl : .int ((outputsOn + i.word) % twoTo 32) = flags' := Except.ok.inj word
  obtain rfl := Except.ok.inj (known.symm.trans read)
  rw [double_duration] at real
  split at real
  · obtain rfl := Except.ok.inj real
    refine .before ?_ fun _ => hears_expect _ _
    exact .callLibrary "pb_inst_pbonly" _ (Hears.of_noting fun _ => Adds.of_log_eq rfl rfl)
  · simp at real

lemma hears_sendBody (is : List Instruction) : Hears (Memory.taking (is.map (told 0))) (sendBody is) := by
  induction is with
  | nil =>
    intro b v b' done
    rw [Hears.pure _ done]
    simp [Memory.taking]
  | cons i is ih =>
    intro b v b' done
    rw [((hears_send i rfl 0).bind fun _ => ih.before fun _ => .pure _) done]
    simp [Memory.taking]

lemma hears_sendLast (toZero : Bool) (last : Option Instruction) (first : Option Value) :
    Hears (Memory.taking (last.toList.map (told 6))) (sendLast toZero last first) := by
  have sent (i : Instruction) (n : Value) : Hears (Memory.taking [told 6 i]) (do let _ ← send i branch n) :=
    (hears_send i rfl n).before fun _ => .pure _
  have refused (f : Memory → Memory) (e : Fault) : Hears f (throw e : Work Unit) :=
    fun _ _ _ done => (carry_throw_ok.mp done).elim
  cases last with
  | none => exact refused _ _
  | some i =>
    cases toZero with
    | true => exact sent i 0
    | false =>
      cases first with
      | none => exact refused _ _
      | some n => exact sent i n

lemma memory_of_play {clock : Float} {toZero : Bool} {is : List Instruction} {b b' : Bench} {u : Unit}
    (done : carry (play clock toZero is) b = (.ok u, b')) : memory b' = .playingOf (telling is) := by
  have hears : Hears (fun _ => .playingOf (telling is)) (play clock toZero is) :=
    (hears_openProgram clock).bind fun _ => (hears_prepareReturn toZero).bind fun _ => (hears_sendBody _).bind fun first =>
      (hears_sendLast toZero _ first).bind fun _ => hears_launch
  exact hears done

end EprBench.Pulser.Board
