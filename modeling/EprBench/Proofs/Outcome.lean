import Mathlib
import EprBench.Bench

/-! How outcomes and acts go on: a step after another one is carried out only if the first one succeeds. -/
namespace EprBench

open List

namespace Outcome

variable {α β : Type}

variable {f : α → Outcome β}

lemma bind_eq_ok {x : Outcome α} {b : β} : x >>= f = .ok b ↔ ∃ a, x = .ok a ∧ f a = .ok b := by
  cases x with
  | error e => simp [bind, Except.bind]
  | ok a => simp [bind, Except.bind]

@[simp] lemma ok_bind (a : α) (f : α → Outcome β) : (Except.ok a : Outcome α) >>= f = f a := rfl

@[simp] lemma pure_eq_ok {a b : α} : (pure a : Outcome α) = .ok b ↔ a = b := by
  simp [pure, Except.pure]

lemma throw_bind_ne_ok {f : Fault} {k : α → Outcome β} {b : β} : ¬ (throw f : Outcome α) >>= k = .ok b := by
  rintro ⟨⟩

@[simp] lemma throw_ne_ok {f : Fault} {b : α} : (throw f : Outcome α) = .ok b ↔ False := by
  simp [throw, throwThe, MonadExceptOf.throw]

@[simp] lemma ensure_eq_ok {condition : Bool} {reason : String} {u : Unit} :
    ensure condition reason = .ok u ↔ condition = true := by
  cases condition <;> simp [ensure]

instance {x : Outcome α} {P : α → Prop} [∀ a, Decidable (P a)] : Decidable (∀ a, x = .ok a → P a) :=
  match x with
  | .error _ => isTrue fun _ => nofun
  | .ok a => decidable_of_iff (P a) ⟨fun holds _ same => Except.ok.inj same ▸ holds, fun each => each a rfl⟩

lemma exists_of_isOk {x : Outcome α} (done : x.isOk = true) : ∃ a, x = .ok a := by
  cases x with
  | error e => simp [Except.isOk, Except.toBool] at done
  | ok a => exact ⟨a, rfl⟩

variable {xs : List α}

lemma mapM_ok {g : α → β} (each : ∀ x ∈ xs, f x = .ok (g x)) : xs.mapM f = .ok (xs.map g) := by
  induction xs with
  | nil => rfl
  | cons x xs ih =>
    rw [mapM_cons, each x mem_cons_self, ih fun y hy => each y (mem_cons_of_mem _ hy)]
    rfl

variable {ys : List β}

lemma mapM_eq_ok (all : xs.mapM f = .ok ys) : Forall₂ (fun x y => f x = .ok y) xs ys := by
  induction xs generalizing ys with
  | nil =>
    rw [mapM_nil, pure_eq_ok] at all
    subst all
    exact Forall₂.nil
  | cons x xs ih =>
    rw [mapM_cons] at all
    obtain ⟨y, hy, all⟩ := bind_eq_ok.mp all
    obtain ⟨ys', hys, all⟩ := bind_eq_ok.mp all
    rw [pure_eq_ok] at all
    subst all
    exact Forall₂.cons hy (ih hys)

variable {R : α → β → Prop}

lemma exists_of_mem_left (related : Forall₂ R xs ys) {x : α} (member : x ∈ xs) : ∃ y ∈ ys, R x y := by
  induction related with
  | nil => simp at member
  | cons here _ ih =>
    rcases mem_cons.mp member with rfl | later
    · exact ⟨_, mem_cons_self, here⟩
    · obtain ⟨y, hy, h⟩ := ih later
      exact ⟨y, mem_cons_of_mem _ hy, h⟩

lemma exists_of_getElem? (related : Forall₂ R xs ys) {i : Nat} {x : α}
    (here : xs[i]? = some x) : ∃ y, ys[i]? = some y ∧ R x y := by
  induction related generalizing i with
  | nil => simp at here
  | cons first _ ih =>
    cases i with
    | zero => exact ⟨_, rfl, Option.some.inj here ▸ first⟩
    | succ i => exact ih here

lemma exists_of_mem_right (related : Forall₂ R xs ys) {y : β} (member : y ∈ ys) : ∃ x ∈ xs, R x y :=
  exists_of_mem_left related.flip member

/-! ### Leniency -/

/-- The second outcome is the first one, unless that is a fault. -/
def Lenient (x y : Outcome α) : Prop := ∀ ⦃a⦄, x = .ok a → y = .ok a

namespace Lenient

lemma refl (x : Outcome α) : Lenient x x := fun _ done => done

lemma fault (e : Fault) (y : Outcome α) : Lenient (.error e) y := fun _ done => by simp at done

lemma bind {x y : Outcome α} {f g : α → Outcome β} (first : Lenient x y) (second : ∀ a, x = .ok a → Lenient (f a) (g a)) :
    Lenient (x >>= f) (y >>= g) := by
  intro b done
  obtain ⟨a, here, later⟩ := bind_eq_ok.mp done
  exact bind_eq_ok.mpr ⟨a, first here, second a here later⟩

lemma mapM {f g : α → Outcome β} {xs : List α} (each : ∀ x ∈ xs, Lenient (f x) (g x)) :
    Lenient (xs.mapM f) (xs.mapM g) := by
  induction xs with
  | nil => exact refl _
  | cons x xs ih =>
    rw [mapM_cons, mapM_cons]
    refine (each x mem_cons_self).bind fun y _ => ?_
    exact (ih fun z hz => each z (mem_cons_of_mem x hz)).bind fun ys _ => refl _

lemma forM {f g : α → Outcome Unit} {xs : List α} (each : ∀ x ∈ xs, Lenient (f x) (g x)) :
    Lenient (xs.forM f) (xs.forM g) := by
  induction xs with
  | nil => exact refl _
  | cons x xs ih =>
    exact (each x mem_cons_self).bind fun _ _ => ih fun z hz => each z (mem_cons_of_mem x hz)

end Lenient

end Outcome

/-! ### Steps with a memory -/

section Memory

variable {σ α β : Type} {s s' : σ}

/-- Carries out a step from a memory. -/
def carry (x : ExceptT Fault (StateM σ) α) (s : σ) : Outcome α × σ := x.run.run s

lemma carry_bind (x : ExceptT Fault (StateM σ) α) (f : α → ExceptT Fault (StateM σ) β) (s : σ) : carry (x >>= f) s =
      match carry x s with
      | (.ok a, t) => carry (f a) t
      | (.error e, t) => (.error e, t) := by
  have step : carry (x >>= f) s = (ExceptT.bindCont f (carry x s).1).run (carry x s).2 := rfl
  rw [step]
  rcases carry x s with ⟨e | a, t⟩
  · rfl
  · rfl

lemma carry_bind_ok {x : ExceptT Fault (StateM σ) α} {f : α → ExceptT Fault (StateM σ) β} {b : β} :
    carry (x >>= f) s = (.ok b, s') ↔ ∃ a t, carry x s = (.ok a, t) ∧ carry (f a) t = (.ok b, s') := by
  rw [carry_bind]
  rcases carry x s with ⟨e | a, t⟩
  · simp
  · constructor
    · intro h
      exact ⟨a, t, rfl, h⟩
    · rintro ⟨a', t', h, done⟩
      obtain ⟨rfl, rfl⟩ : a = a' ∧ t = t' := by simpa using h
      exact done

lemma carry_tryCatch (x : ExceptT Fault (StateM σ) α) (h : Fault → ExceptT Fault (StateM σ) α) (s : σ) :
    carry (tryCatch x h) s = match carry x s with
      | (.ok a, t) => (.ok a, t)
      | (.error e, t) => carry (h e) t := by
  rw [carry, carry, ExceptT.run_tryCatch, StateT.run_bind]
  rcases x.run.run s with ⟨e | a, t⟩
  · rfl
  · rfl

lemma carry_pure_ok {a b : α} : carry (pure a) s = (.ok b, s') ↔ a = b ∧ s = s' := by
  have step : carry (pure a) s = (.ok a, s) := rfl
  simp [step]

lemma carry_modify_ok {g : σ → σ} {u : PUnit} : carry (modify g) s = (.ok u, s') ↔ g s = s' := by
  have step : carry (modify g) s = (.ok ⟨⟩, g s) := rfl
  simp [step]

lemma carry_get_ok {t : σ} : carry get s = (.ok t, s') ↔ s = t ∧ s = s' := by
  have step : carry get s = (.ok s, s) := rfl
  simp [step]

lemma carry_throw_ok {f : Fault} {b : α} : carry (throw f) s = (.ok b, s') ↔ False := by
  have step : carry (throw f) s = ((.error f : Outcome α), s) := rfl
  simp [step]

end Memory

/-! ### Acts -/

section Acts

variable {σ α β : Type}

/-- Carries out an act: its answer, the memory after it and the bench after it. -/
def perform (x : Act σ α) (s : σ) (b : Bench) : (Outcome α × σ) × Bench := (x.run.run s).run b

def answer (x : Act σ α) (s : σ) (b : Bench) : Outcome α := (perform x s b).1.1

def proceed (f : α → Act σ β) : (Outcome α × σ) × Bench → (Outcome β × σ) × Bench
  | ((.ok a, s), b) => perform (f a) s b
  | ((.error e, s), b) => ((.error e, s), b)

lemma perform_bind (x : Act σ α) (f : α → Act σ β) (s : σ) (b : Bench) :
    perform (x >>= f) s b = proceed f (perform x s b) := by
  have step : perform (x >>= f) s b =
      ((ExceptT.bindCont f (perform x s b).1.1).run (perform x s b).1.2).run (perform x s b).2 := rfl
  rw [step]
  rcases perform x s b with ⟨⟨e | a, s'⟩, b'⟩
  · rfl
  · rfl

@[simp] lemma proceed_ok (f : α → Act σ β) (a : α) (s : σ) (b : Bench) :
    proceed f ((.ok a, s), b) = perform (f a) s b := rfl

@[simp] lemma proceed_error (f : α → Act σ β) (e : Fault) (s : σ) (b : Bench) :
    proceed f ((.error e, s), b) = ((.error e, s), b) := rfl

lemma perform_of_answer {x : Act σ α} {a : α} {s : σ} {b : Bench} (answered : answer x s b = .ok a) :
    perform x s b = ((.ok a, (perform x s b).1.2), (perform x s b).2) := Prod.ext (Prod.ext answered rfl) rfl

lemma perform_bind_ok {x : Act σ α} {f : α → Act σ β} {c : β} {s s'' : σ} {b b'' : Bench} :
    perform (x >>= f) s b = ((.ok c, s''), b'') ↔
      ∃ a s' b', perform x s b = ((.ok a, s'), b') ∧ perform (f a) s' b' = ((.ok c, s''), b'') := by
  rw [perform_bind]
  rcases perform x s b with ⟨⟨e | a, s'⟩, b'⟩
  · simp
  · constructor
    · intro h
      exact ⟨a, s', b', rfl, h⟩
    · rintro ⟨a', t, d, h, done⟩
      obtain ⟨⟨rfl, rfl⟩, rfl⟩ : (a = a' ∧ s' = t) ∧ b' = d := by simpa using h
      exact done

lemma perform_tryCatch (x : Act σ α) (h : Fault → Act σ α) (s : σ) (b : Bench) : perform (tryCatch x h) s b =
      match perform x s b with
      | ((.ok a, t), c) => ((.ok a, t), c)
      | ((.error e, t), c) => perform (h e) t c := by
  rw [perform, perform, ExceptT.run_tryCatch, StateT.run_bind, StateT.run_bind]
  rcases (x.run.run s).run b with ⟨⟨e | a, t⟩, c⟩
  · rfl
  · rfl

@[simp] lemma perform_pure (a : α) (s : σ) (b : Bench) : perform (pure a) s b = ((.ok a, s), b) := rfl

@[simp] lemma perform_throw (e : Fault) (s : σ) (b : Bench) :
    perform (throw e : Act σ α) s b = ((.error e, s), b) := rfl

@[simp] lemma perform_get (s : σ) (b : Bench) : perform (get : Act σ σ) s b = ((.ok s, s), b) := rfl

@[simp] lemma perform_modify (g : σ → σ) (s : σ) (b : Bench) :
    perform (modify g : Act σ PUnit) s b = ((.ok ⟨⟩, g s), b) := rfl

lemma perform_get_bind (f : σ → Act σ β) (s : σ) (b : Bench) : perform (get >>= f) s b = perform (f s) s b := rfl

lemma perform_modify_bind (g : σ → σ) (f : PUnit → Act σ β) (s : σ) (b : Bench) :
    perform (modify g >>= f) s b = perform (f ⟨⟩) (g s) b := rfl

@[simp] lemma perform_lift (x : Outcome α) (s : σ) (b : Bench) : perform (liftM x : Act σ α) s b = ((x, s), b) := rfl

@[simp] lemma perform_work (x : Work α) (s : σ) (b : Bench) :
    perform (liftM x : Act σ α) s b = (((carry x b).1, s), (carry x b).2) := rfl

end Acts

end EprBench
