import EprBench.Proofs.Outcome
import EprBench.Script

/-! What work leaves behind on the bench. Events are only ever added to the log. On a quiet bench nothing outside
fails. -/
namespace EprBench

open List

/-! ### Adding to the log -/

/-- A later bench, in the same mode, with some more events of a kind in its log. -/
structure Adds (P : Event → Prop) (b b' : Bench) : Prop where
  mode : b'.mode = b.mode
  log : ∃ es, b'.log.toList = b.log.toList ++ es ∧ ∀ e ∈ es, P e

namespace Adds

variable {P Q : Event → Prop} {b b' b'' : Bench}

lemma refl (P : Event → Prop) (b : Bench) : Adds P b b := ⟨rfl, [], by simp, by simp⟩

lemma trans (first : Adds P b b') (second : Adds P b' b'') : Adds P b b'' := by
  obtain ⟨es, log, all⟩ := first.log
  obtain ⟨es', log', all'⟩ := second.log
  refine ⟨second.mode.trans first.mode, es ++ es', by rw [log', log, append_assoc], ?_⟩
  intro e he
  rcases mem_append.mp he with he | he
  · exact all e he
  · exact all' e he

lemma mono (weaker : ∀ e, P e → Q e) (adds : Adds P b b') : Adds Q b b' := by
  obtain ⟨es, log, all⟩ := adds.log
  exact ⟨adds.mode, es, log, fun e he => weaker e (all e he)⟩

lemma of_log_eq (mode : b'.mode = b.mode) (log : b'.log = b.log) : Adds P b b' := ⟨mode, [], by simp [log], by simp⟩

lemma filterMap_log {α : Type} {f : Event → Option α} (adds : Adds (fun e => f e = none) b b') :
    b'.log.toList.filterMap f = b.log.toList.filterMap f := by
  obtain ⟨es, log, none⟩ := adds.log
  rw [log, filterMap_append, filterMap_eq_nil_iff.mpr none, append_nil]

end Adds

/-- Work that adds events of one kind only, whether it fails or not. -/
def Noting {α : Type} (P : Event → Prop) (x : Work α) : Prop := ∀ b, Adds P b (carry x b).2

namespace Noting

variable {α β : Type} {P Q : Event → Prop}

lemma mono {x : Work α} (weaker : ∀ e, P e → Q e) (noting : Noting P x) : Noting Q x :=
  fun b => (noting b).mono weaker

lemma pure (a : α) : Noting P (pure a : Work α) := fun b => Adds.refl P b

lemma throw (e : Fault) : Noting P (throw e : Work α) := fun b => Adds.refl P b

lemma lift (x : Outcome α) : Noting P (liftM x : Work α) := fun b => Adds.refl P b

lemma bind_of_ok {x : Work α} {f : α → Work β} (first : Noting P x)
    (second : ∀ a b b', carry x b = (.ok a, b') → Noting P (f a)) : Noting P (x >>= f) := by
  intro b
  rw [carry_bind]
  have here := first b
  rcases h : carry x b with ⟨e | a, b'⟩
  · rw [h] at here
    exact here
  · rw [h] at here
    exact here.trans (second a b b' h b')

lemma bind {x : Work α} {f : α → Work β} (first : Noting P x) (second : ∀ a, Noting P (f a)) : Noting P (x >>= f) :=
  first.bind_of_ok fun a _ _ _ => second a

lemma get_bind {f : Bench → Work β} (each : ∀ b, Noting P (f b)) : Noting P (get >>= f) :=
  bind (fun b => Adds.refl P b) each

lemma note {e : Event} (allowed : P e) : Noting P (Bench.note e) := fun b =>
  ⟨rfl, [e], Array.toList_push, by simpa using allowed⟩

lemma handle {x : Work α} {h : Fault → Work α} (first : Noting P x) (second : ∀ e, Noting P (h e)) :
    Noting P (tryCatch x h) := by
  intro b
  rw [carry_tryCatch]
  have here := first b
  rcases h : carry x b with ⟨e | a, b'⟩
  · rw [h] at here
    exact here.trans (second e b')
  · rw [h] at here
    exact here

lemma forM {f : α → Work PUnit} {xs : List α} (each : ∀ x ∈ xs, Noting P (f x)) : Noting P (xs.forM f) := by
  induction xs with
  | nil => exact .pure _
  | cons x xs ih =>
    exact (each x mem_cons_self).bind fun _ => ih fun y hy => each y (mem_cons_of_mem x hy)

/-! ### Messages and pictures -/

lemma message {text : String} (allowed : P (.message text)) : Noting P (Bench.message text) := by
  refine bind (get_bind fun _ => .pure _) fun live => ?_
  split
  · exact note allowed
  · exact .pure _

lemma stop {text : String} (allowed : P (.message text)) : Noting P (Bench.stop text : Work α) :=
  (message allowed).bind fun _ => .throw _

lemma drawNow (plots : ∀ text n, P (.plot text n)) (memory : ∀ xs, P (.sharedMemory xs)) (thread : P .startThread)
    (frames : Outcome (List Plot.Frame)) : Noting P (Script.drawNow frames) := by
  have send (f : Plot.Frame) : Noting P (Plot.send f) := by
    refine (Noting.lift _).bind fun _ => (note (plots _ _)).bind fun _ => ?_
    split
    · exact note (memory _)
    · exact .pure _
  refine bind (get_bind fun _ => .pure _) fun live => ?_
  split
  · exact .pure _
  · refine (Noting.lift _).bind fun _ => ?_
    split
    · exact (Noting.lift _).bind fun frames => (forM fun f _ => send f).bind fun _ => .pure _
    · refine (note thread).bind fun _ => ?_
      split
      · exact .pure _
      · exact ((forM fun f _ => send f).handle fun _ => .pure _).bind fun _ => .pure _

/-! ### Libraries -/

lemma opening {e : Event} (allowed : P e) : Noting P (Bench.opening e) := by
  refine (note allowed).bind fun _ => get_bind fun b => ?_
  cases b.openFault with
  | none => exact .pure _
  | some f => exact .throw f

lemma useLibrary {file : String} {prepare : Work Unit} (allowed : P (.loadLibrary file)) (first : Noting P prepare) :
    Noting P (Bench.useLibrary file prepare) := by
  refine get_bind fun b => ?_
  split
  · exact (opening allowed).bind fun _ => .bind (fun _ => Adds.of_log_eq rfl rfl) fun _ => first
  · exact .pure _

end Noting

lemma carry_message (text : String) (b : Bench) : ∃ c, carry (Bench.message text) b = (.ok (), c) := by
  have asked : carry Bench.isLive b = (.ok (b.mode == .live), b) := rfl
  rw [Bench.message, carry_bind, asked]
  cases b.mode == .live with
  | true => exact ⟨_, rfl⟩
  | false => exact ⟨_, rfl⟩

lemma carry_stop {α : Type} (text : String) (b : Bench) : ∃ c, carry (Bench.stop text : Work α) b = (.error .stopped, c) := by
  obtain ⟨c, shown⟩ := carry_message text b
  refine ⟨c, ?_⟩
  rw [Bench.stop, carry_bind, shown]
  rfl

lemma carry_nextPrepared (name : String) (b : Bench) :
    ∃ v left, carry (Bench.nextPrepared name) b = (.ok v, { b with prepared := left }) := by
  have got : carry (get : Work Bench) b = (.ok b, b) := rfl
  rw [Bench.nextPrepared, carry_bind, got]
  simp only
  split
  · exact ⟨_, _, rfl⟩
  · exact ⟨none, b.prepared, rfl⟩

lemma Noting.nextPrepared {P : Event → Prop} (name : String) : Noting P (Bench.nextPrepared name) := by
  intro b
  obtain ⟨v, left, taken⟩ := carry_nextPrepared name b
  rw [taken]
  exact Adds.of_log_eq rfl rfl

lemma Noting.callLibrary {P : Event → Prop} {function : String} {args : List Value} {fallback : Work Value}
    (allowed : P (.call function args)) (otherwise : Noting P fallback) :
    Noting P (Bench.callLibrary function args fallback) := by
  refine (Noting.note allowed).bind fun _ => (Noting.nextPrepared function).bind fun v => ?_
  split
  · exact .pure _
  · exact .pure _
  · exact otherwise

end EprBench
