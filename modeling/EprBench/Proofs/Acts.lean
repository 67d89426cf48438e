import EprBench.Proofs.Outcome

/-! Ways to speak about acts: where one ends, how one leads another, what it does to memory and bench, what it
ensures, and which acts vouch for others. -/
namespace EprBench

open List

variable {σ α β : Type} {s t : σ}

/-! ### Where an act ends -/

/-- If the act succeeds, the bench is as before, and its answer and the memory after it are as `Q` says. -/
def Ends (Q : α → σ → Prop) (x : Act σ α) (s : σ) : Prop :=
  ∀ ⦃b a s' b'⦄, perform x s b = ((.ok a, s'), b') → b' = b ∧ Q a s'

namespace Ends

variable {Q Q' : α → σ → Prop} {R : β → σ → Prop}

lemma mono {x : Act σ α} (weaker : ∀ a s, Q a s → Q' a s) (ends : Ends Q x s) : Ends Q' x s := by
  intro b a s' b' done
  obtain ⟨kept, holds⟩ := ends done
  exact ⟨kept, weaker a s' holds⟩

lemma bind {x : Act σ α} {f : α → Act σ β} (first : Ends Q x s) (second : ∀ a s', Q a s' → Ends R (f a) s') :
    Ends R (x >>= f) s := by
  intro b c s'' b'' done
  obtain ⟨a, s', b', here, later⟩ := perform_bind_ok.mp done
  obtain ⟨rfl, holds⟩ := first here
  exact second a s' holds later

lemma get_bind {f : σ → Act σ β} (here : Ends R (f s) s) : Ends R (get >>= f) s := by
  intro b c s' b' done
  rw [perform_get_bind] at done
  exact here done

lemma pure {a : α} (holds : Q a s) : Ends Q (pure a : Act σ α) s := by
  intro b a' s' b' done
  rw [perform_pure, Prod.mk.injEq, Prod.mk.injEq, Except.ok.injEq] at done
  obtain ⟨⟨rfl, rfl⟩, rfl⟩ := done
  exact ⟨rfl, holds⟩

lemma throw (e : Fault) : Ends Q (throw e : Act σ α) s := by
  intro b a s' b' done
  rw [perform_throw] at done
  simp at done

lemma lift {x : Outcome α} (holds : ∀ a, x = .ok a → Q a s) : Ends Q (liftM x : Act σ α) s := by
  intro b a s' b' done
  rw [perform_lift, Prod.mk.injEq, Prod.mk.injEq] at done
  obtain ⟨⟨rfl, rfl⟩, rfl⟩ := done
  exact ⟨rfl, holds a rfl⟩

lemma lift_bind {x : Outcome α} {f : α → Act σ β} (each : ∀ a, x = .ok a → Ends R (f a) s) :
    Ends R (liftM x >>= f) s :=
  (lift (Q := fun a s' => x = .ok a ∧ s' = s) fun _ made => ⟨made, rfl⟩).bind fun a _ h => h.2 ▸ each a h.1

lemma modify {f : σ → σ} {Q : PUnit → σ → Prop} (holds : Q ⟨⟩ (f s)) : Ends Q (modify f : Act σ PUnit) s := by
  intro b a s' b' done
  rw [perform_modify, Prod.mk.injEq, Prod.mk.injEq] at done
  obtain ⟨⟨-, rfl⟩, rfl⟩ := done
  exact ⟨rfl, holds⟩

lemma forM {I : σ → Prop} {f : α → Act σ PUnit} {xs : List α}
    (each : ∀ x ∈ xs, ∀ s, I s → Ends (fun _ => I) (f x) s) (start : I s) : Ends (fun _ => I) (xs.forM f) s := by
  induction xs generalizing s with
  | nil => exact pure start
  | cons x xs ih =>
    exact (each x mem_cons_self s start).bind fun _ s' holds =>
      ih (fun y hy => each y (mem_cons_of_mem x hy)) holds

lemma foldlM {I : σ → Prop} {f : β → α → Act σ β} (each : ∀ c x s, I s → Ends (fun _ => I) (f c x) s) (xs : List α)
    (c : β) (start : I s) : Ends (fun _ => I) (xs.foldlM f c) s := by
  induction xs generalizing c s with
  | nil => exact pure start
  | cons x xs ih => exact (each c x s start).bind fun d s' holds => ih d holds

end Ends

/-! ### Acts side by side -/

/-- If the first act succeeds, so does the second one, with the same answer and a related memory, and it leaves every
bench alone. -/
def Leads (R : σ → σ → Prop) (x y : Act σ α) (s t : σ) : Prop :=
  ∀ ⦃b a s' b'⦄, perform x s b = ((.ok a, s'), b') → ∃ t', R s' t' ∧ ∀ c, perform y t c = ((.ok a, t'), c)

namespace Leads

variable {R R' : σ → σ → Prop}

lemma bind {x y : Act σ α} {f g : α → Act σ β} (first : Leads R x y s t)
    (second : ∀ a s' t', R s' t' → Leads R' (f a) (g a) s' t') : Leads R' (x >>= f) (y >>= g) s t := by
  intro b c s'' b'' done
  obtain ⟨a, s', b', here, later⟩ := perform_bind_ok.mp done
  obtain ⟨t', related, follows⟩ := first here
  obtain ⟨t'', related', follows'⟩ := second a s' t' related later
  exact ⟨t'', related', fun c => by rw [perform_bind, follows, proceed_ok, follows']⟩

lemma get_bind {f g : σ → Act σ β} (here : Leads R (f s) (g t) s t) : Leads R (get >>= f) (get >>= g) s t := by
  intro b c s' b' done
  rw [perform_get_bind] at done
  obtain ⟨t', related, follows⟩ := here done
  exact ⟨t', related, fun c => by rw [perform_get_bind, follows]⟩

lemma lift {x y : Outcome α} (lenient : Outcome.Lenient x y) (related : R s t) :
    Leads R (liftM x : Act σ α) (liftM y) s t := by
  intro b a s' b' done
  rw [perform_lift, Prod.mk.injEq, Prod.mk.injEq] at done
  obtain ⟨⟨rfl, rfl⟩, -⟩ := done
  exact ⟨t, related, fun c => by rw [perform_lift, lenient rfl]⟩

lemma lift_bind {x y : Outcome α} {f g : α → Act σ β} (lenient : Outcome.Lenient x y)
    (each : ∀ a, Leads R (f a) (g a) s t) : Leads R (liftM x >>= f) (liftM y >>= g) s t :=
  (lift (R := fun s' t' => s' = s ∧ t' = t) lenient ⟨rfl, rfl⟩).bind fun a _ _ h => h.1 ▸ h.2 ▸ each a

lemma pure (a : α) (related : R s t) : Leads R (pure a : Act σ α) (pure a) s t :=
  lift (Outcome.Lenient.refl (.ok a)) related

lemma of_check {x y : Act σ PUnit} (checks : Ends (fun _ s' => s' = s) x s)
    (idle : ∀ c, perform y t c = ((.ok PUnit.unit, t), c)) (related : R s t) : Leads R x y s t := by
  intro b a s' b' done
  obtain ⟨-, rfl⟩ := checks done
  exact ⟨t, related, idle⟩

lemma of_fails {x y : Act σ α} (fails : Ends (fun _ _ => False) x s) : Leads R x y s t :=
  fun _ _ _ _ done => absurd (fails done).2 id

lemma modify {f g : σ → σ} (related : R (f s) (g t)) : Leads R (modify f : Act σ PUnit) (modify g) s t := by
  intro b a s' b' done
  rw [perform_modify, Prod.mk.injEq, Prod.mk.injEq] at done
  obtain ⟨⟨-, rfl⟩, -⟩ := done
  exact ⟨g t, related, fun c => by rw [perform_modify]⟩

lemma forM {f g : α → Act σ PUnit} {xs : List α} (each : ∀ x ∈ xs, ∀ s t, R s t → Leads R (f x) (g x) s t)
    (related : R s t) : Leads R (xs.forM f) (xs.forM g) s t := by
  induction xs generalizing s t with
  | nil => exact pure _ related
  | cons x xs ih =>
    exact (each x mem_cons_self s t related).bind fun _ s' t' related' =>
      ih (fun y hy => each y (mem_cons_of_mem x hy)) related'

lemma foldlM {f g : β → α → Act σ β} (each : ∀ c x s t, R s t → Leads R (f c x) (g c x) s t) (xs : List α) (c : β)
    (related : R s t) : Leads R (xs.foldlM f c) (xs.foldlM g c) s t := by
  induction xs generalizing c s t with
  | nil => exact pure _ related
  | cons x xs ih => exact (each c x s t related).bind fun d s' t' related' => ih d related'

end Leads

/-- Two ways to end with the same answer and the same bench. The memories are related by `Q` after a success and by `R` after
a fault. -/
inductive Accord (R Q : σ → σ → Prop) : (Outcome α × σ) × Bench → (Outcome α × σ) × Bench → Prop
  | done {a : α} {s t : σ} {b : Bench} (related : Q s t) : Accord R Q ((.ok a, s), b) ((.ok a, t), b)
  | failed {e : Fault} {s t : σ} {b : Bench} (related : R s t) : Accord R Q ((.error e, s), b) ((.error e, t), b)

/-- Both acts answer the same and do the same to every bench. -/
def Concurs (R Q : σ → σ → Prop) (x y : Act σ α) (s t : σ) : Prop := ∀ b, Accord R Q (perform x s b) (perform y t b)

namespace Concurs

variable {R Q Q' : σ → σ → Prop}

lemma pure (a : α) (related : Q s t) : Concurs R Q (pure a : Act σ α) (pure a) s t := fun _ => .done related

lemma throw (e : Fault) (related : R s t) : Concurs R Q (throw e : Act σ α) (throw e) s t := fun _ => .failed related

lemma modify {f g : σ → σ} (related : Q (f s) (g t)) : Concurs R Q (modify f : Act σ PUnit) (modify g) s t :=
  fun _ => .done related

lemma lift (x : Outcome α) (failing : R s t) (related : Q s t) : Concurs R Q (liftM x : Act σ α) (liftM x) s t := by
  intro b
  rw [perform_lift, perform_lift]
  cases x with
  | error e => exact .failed failing
  | ok a => exact .done related

lemma work (x : Work α) (failing : R s t) (related : Q s t) : Concurs R Q (liftM x : Act σ α) (liftM x) s t := by
  intro b
  rw [perform_work, perform_work]
  rcases carry x b with ⟨e | a, b'⟩
  · exact .failed failing
  · exact .done related

lemma get_bind {f g : σ → Act σ β} (here : Concurs R Q (f s) (g t) s t) : Concurs R Q (get >>= f) (get >>= g) s t := by
  intro b
  rw [perform_get_bind, perform_get_bind]
  exact here b

variable {x y : Act σ α}

lemma bind {f g : α → Act σ β} (first : Concurs R Q x y s t)
    (second : ∀ a s' t', Q s' t' → Concurs R Q' (f a) (g a) s' t') : Concurs R Q' (x >>= f) (y >>= g) s t := by
  intro b
  have here := first b
  rw [perform_bind, perform_bind]
  revert here
  generalize perform x s b = u, perform y t b = v
  rintro (related | related)
  · exact second _ _ _ related _
  · exact .failed related

lemma ite {p : Prop} [Decidable p] {x' y' : Act σ α} (yes : p → Concurs R Q x y s t) (no : ¬ p → Concurs R Q x' y' s t) :
    Concurs R Q (if p then x else x') (if p then y else y') s t := by
  split
  · exact yes ‹p›
  · exact no ‹¬ p›

lemma forM {f g : α → Act σ PUnit} (each : ∀ x s t, Q s t → Concurs R Q (f x) (g x) s t) (xs : List α) (related : Q s t) :
    Concurs R Q (xs.forM f) (xs.forM g) s t := by
  induction xs generalizing s t with
  | nil => exact pure _ related
  | cons x xs ih => exact (each x s t related).bind fun _ _ _ related' => ih related'

lemma foldlM {f g : β → α → Act σ β} (each : ∀ c x s t, Q s t → Concurs R Q (f c x) (g c x) s t) (xs : List α) (c : β)
    (related : Q s t) : Concurs R Q (xs.foldlM f c) (xs.foldlM g c) s t := by
  induction xs generalizing c s t with
  | nil => exact pure _ related
  | cons x xs ih => exact (each c x s t related).bind fun d _ _ related' => ih d related'

lemma agree (concurs : Concurs R R x y s t) (b : Bench) :
    (perform y t b).1.1 = (perform x s b).1.1 ∧ (perform y t b).2 = (perform x s b).2 ∧
      R (perform x s b).1.2 (perform y t b).1.2 := by
  have here := concurs b
  revert here
  generalize perform x s b = u, perform y t b = v
  rintro (related | related)
  · exact ⟨rfl, rfl, related⟩
  · exact ⟨rfl, rfl, related⟩

end Concurs

/-- Acts that concur wherever the memories are related. Of acts that are put together from such acts, instance search finds it
out by itself. -/
class Parallel (R : σ → σ → Prop) (x y : Act σ α) : Prop where
  concurs : ∀ s t, R s t → Concurs R R x y s t

namespace Parallel

variable {R : σ → σ → Prop}

instance lift (x : Outcome α) : Parallel R (liftM x : Act σ α) (liftM x) := ⟨fun _ _ related => .lift x related related⟩

instance work (x : Work α) : Parallel R (liftM x : Act σ α) (liftM x) := ⟨fun _ _ related => .work x related related⟩

instance pure (a : α) : Parallel R (pure a : Act σ α) (pure a) := ⟨fun _ _ related => .pure a related⟩

instance throw (e : Fault) : Parallel R (throw e : Act σ α) (throw e) := ⟨fun _ _ related => .throw e related⟩

lemma seq {x y : Act σ α} {f g : α → Act σ β} (first : Parallel R x y) (second : ∀ a, Parallel R (f a) (g a)) :
    Parallel R (x >>= f) (y >>= g) :=
  ⟨fun s t related => (first.concurs s t related).bind fun a => (second a).concurs⟩

instance bind (x y : Act σ α) (f g : α → Act σ β) [first : Parallel R x y] [second : ∀ a, Parallel R (f a) (g a)] :
    Parallel R (x >>= f) (y >>= g) := first.seq second

instance ite (p : Prop) [Decidable p] (x x' y y' : Act σ α) [yes : Parallel R x y] [no : Parallel R x' y'] :
    Parallel R (if p then x else x') (if p then y else y') :=
  ⟨fun s t related => .ite (fun _ => yes.concurs s t related) fun _ => no.concurs s t related⟩

instance forM (f g : α → Act σ PUnit) (xs : List α) [each : ∀ x, Parallel R (f x) (g x)] :
    Parallel R (xs.forM f) (xs.forM g) :=
  ⟨fun _ _ related => .forM (fun x => (each x).concurs) xs related⟩

instance foldlM (f g : β → α → Act σ β) (xs : List α) (c : β) [each : ∀ c x, Parallel R (f c x) (g c x)] :
    Parallel R (xs.foldlM f c) (xs.foldlM g c) :=
  ⟨fun _ _ related => .foldlM (fun c x => (each c x).concurs) xs c related⟩

end Parallel

/-! ### However an act goes -/

/-- Memory and bench before and after the act are related, whether it fails or not. -/
def Within (R : σ × Bench → σ × Bench → Prop) (x : Act σ α) (s : σ) : Prop :=
  ∀ b, R (s, b) ((perform x s b).1.2, (perform x s b).2)

namespace Within

variable {R R' : σ × Bench → σ × Bench → Prop}

variable {x : Act σ α}

lemma mono (weaker : ∀ u v, R u v → R' u v) (within : Within R x s) : Within R' x s :=
  fun b => weaker _ _ (within b)

lemma get_bind {f : σ → Act σ β} (here : Within R (f s) s) : Within R (get >>= f) s := by
  intro b
  rw [perform_get_bind]
  exact here b

lemma modify {f : σ → σ} (related : ∀ b, R (s, b) (f s, b)) : Within R (modify f : Act σ PUnit) s := related

lemma ite {p : Prop} [Decidable p] {y : Act σ α} (yes : Within R x s) (no : Within R y s) :
    Within R (if p then x else y) s := by
  split
  · exact yes
  · exact no

lemma bind_pure (f : α → β) (within : Within R x s) : Within R (x >>= fun a => pure (f a)) s := by
  intro b
  have here := within b
  rw [perform_bind]
  rcases ran : perform x s b with ⟨⟨e | a, s'⟩, b'⟩
  · rw [ran] at here
    exact here
  · rw [ran] at here
    exact here

variable [IsPreorder (σ × Bench) R]

lemma lift (x : Outcome α) : Within R (liftM x : Act σ α) s := fun _ => Std.Refl.refl _

lemma pure (a : α) : Within R (pure a : Act σ α) s := fun _ => Std.Refl.refl _

lemma throw (e : Fault) : Within R (throw e : Act σ α) s := fun _ => Std.Refl.refl _

lemma bind {f : α → Act σ β} (first : Within R x s) (second : ∀ a s, Within R (f a) s) : Within R (x >>= f) s := by
  intro b
  have here := first b
  rw [perform_bind]
  rcases ran : perform x s b with ⟨⟨e | a, s'⟩, b'⟩
  · rw [ran] at here
    exact here
  · rw [ran] at here
    exact IsTrans.trans _ _ _ here (second a s' b')

lemma lift_bind {x : Outcome α} {f : α → Act σ β} (each : ∀ a, x = .ok a → Within R (f a) s) :
    Within R (liftM x >>= f) s := by
  intro b
  rw [perform_bind, perform_lift]
  rcases known : x with e | a
  · exact Std.Refl.refl _
  · exact each a known b

lemma forM {f : α → Act σ PUnit} (each : ∀ x s, Within R (f x) s) (xs : List α) (s : σ) : Within R (xs.forM f) s := by
  induction xs generalizing s with
  | nil => exact pure _
  | cons x xs ih => exact (each x s).bind fun _ => ih

lemma foldlM {f : β → α → Act σ β} (each : ∀ c x s, Within R (f c x) s) (xs : List α) (c : β) (s : σ) :
    Within R (xs.foldlM f c) s := by
  induction xs generalizing c s with
  | nil => exact pure c
  | cons x xs ih => exact (each c x s).bind ih

lemma rescue {kind : Fault → Bool} {handler : Fault → Act σ α} (first : Within R x s)
    (second : ∀ e s, Within R (handler e) s) : Within R (Act.rescue kind x handler) s := by
  intro b
  have here := first b
  rw [Act.rescue, perform_tryCatch]
  rcases ran : perform x s b with ⟨⟨e | a, s'⟩, b'⟩
  · rw [ran] at here
    dsimp only
    split
    · exact IsTrans.trans _ _ _ here (second e s' b')
    · exact here
  · rw [ran] at here
    exact here

end Within

/-- Memory and bench are related in this way from every memory on. Of acts that are put together from such acts, instance
search finds it out by itself. -/
class Obeys (R : σ × Bench → σ × Bench → Prop) (x : Act σ α) : Prop where
  within : ∀ s, Within R x s

/-- One and the same, as can be seen from a record that was just written. -/
class Untouched (a b : α) : Prop where
  eq : a = b

instance (a : α) : Untouched a a := ⟨rfl⟩

namespace Obeys

variable {R : σ × Bench → σ × Bench → Prop} [IsPreorder (σ × Bench) R]

instance lift (x : Outcome α) : Obeys R (liftM x : Act σ α) := ⟨fun _ => .lift x⟩

instance pure (a : α) : Obeys R (pure a : Act σ α) := ⟨fun _ => .pure a⟩

instance throw (e : Fault) : Obeys R (throw e : Act σ α) := ⟨fun _ => .throw e⟩

instance get : Obeys R (get : Act σ σ) := ⟨fun _ _ => Std.Refl.refl _⟩

lemma seq {x : Act σ α} {f : α → Act σ β} (first : Obeys R x) (second : ∀ a, Obeys R (f a)) : Obeys R (x >>= f) :=
  ⟨fun s => (first.within s).bind fun a => (second a).within⟩

instance bind (x : Act σ α) (f : α → Act σ β) [first : Obeys R x] [second : ∀ a, Obeys R (f a)] : Obeys R (x >>= f) :=
  first.seq second

instance ite (p : Prop) [Decidable p] (x y : Act σ α) [yes : Obeys R x] [no : Obeys R y] :
    Obeys R (if p then x else y) :=
  ⟨fun s => .ite (yes.within s) (no.within s)⟩

instance rescue (kind : Fault → Bool) (x : Act σ α) (handler : Fault → Act σ α) [first : Obeys R x]
    [second : ∀ e, Obeys R (handler e)] : Obeys R (Act.rescue kind x handler) :=
  ⟨fun s => (first.within s).rescue fun e => (second e).within⟩

instance forM (f : α → Act σ PUnit) (xs : List α) [each : ∀ x, Obeys R (f x)] : Obeys R (xs.forM f) :=
  ⟨Within.forM (fun x => (each x).within) xs⟩

end Obeys

def SameMemory (u v : σ × Bench) : Prop := v.1 = u.1

instance : IsPreorder (σ × Bench) SameMemory where
  refl _ := rfl
  trans _ _ _ first second := second.trans first

lemma Within.work (x : Work α) : Within SameMemory (liftM x : Act σ α) s := fun _ => rfl

/-! ### What an act ensures -/

/-- The memory is as `S` says afterwards, whether the act fails or not; if it succeeds, its answer and the memory are as `Q`
says. -/
def Ensures (S : σ → Prop) (Q : α → σ → Prop) (x : Act σ α) (s : σ) : Prop :=
  ∀ b, S (perform x s b).1.2 ∧ ∀ a, (perform x s b).1.1 = .ok a → Q a (perform x s b).1.2

namespace Ensures

variable {S : σ → Prop} {Q Q' : α → σ → Prop} {R : β → σ → Prop}

variable {x : Act σ α}

lemma mono (weaker : ∀ a s, Q a s → Q' a s) (ensures : Ensures S Q x s) : Ensures S Q' x s :=
  fun b => ⟨(ensures b).1, fun a done => weaker a _ ((ensures b).2 a done)⟩

lemma of_within {G : σ × Bench → σ × Bench → Prop} (within : Within G x s)
    (safe : ∀ b s' b', G (s, b) (s', b') → S s') (holds : ∀ a b s' b', G (s, b) (s', b') → Q a s') : Ensures S Q x s :=
  fun b => ⟨safe b _ _ (within b), fun a _ => holds a b _ _ (within b)⟩

lemma pure {a : α} (safe : S s) (holds : Q a s) : Ensures S Q (pure a : Act σ α) s :=
  fun _ => ⟨safe, fun _ same => Except.ok.inj same ▸ holds⟩

lemma throw (e : Fault) (safe : S s) : Ensures S Q (throw e : Act σ α) s := fun _ => ⟨safe, nofun⟩

lemma modify_bind {f : σ → σ} {k : PUnit → Act σ β} (later : Ensures S R (k ⟨⟩) (f s)) : Ensures S R (modify f >>= k) s := by
  intro b
  rw [perform_modify_bind]
  exact later b

lemma modify {f : σ → σ} {Q : PUnit → σ → Prop} (safe : S (f s)) (holds : Q ⟨⟩ (f s)) :
    Ensures S Q (modify f : Act σ PUnit) s := fun _ => ⟨safe, fun _ _ => holds⟩

lemma ite {p : Prop} [Decidable p] {y : Act σ α} (yes : p → Ensures S Q x s) (no : ¬ p → Ensures S Q y s) :
    Ensures S Q (if p then x else y) s := by
  split
  · exact yes ‹p›
  · exact no ‹¬ p›

lemma get_bind {f : σ → Act σ β} (here : Ensures S R (f s) s) : Ensures S R (get >>= f) s := by
  intro b
  rw [perform_get_bind]
  exact here b

variable {f : α → Act σ β}

lemma bind (first : Ensures S Q x s) (second : ∀ a s', Q a s' → Ensures S R (f a) s') : Ensures S R (x >>= f) s := by
  intro b
  obtain ⟨safe, holds⟩ := first b
  rw [perform_bind]
  rcases ran : perform x s b with ⟨⟨e | a, s'⟩, b'⟩
  · rw [ran] at safe
    exact ⟨safe, nofun⟩
  · rw [ran] at holds
    exact second a s' (holds a rfl) b'

lemma bind_safe (first : Ensures S Q x s)
    (second : ∀ a s', S s' → Q a s' → Ensures S R (f a) s') : Ensures S R (x >>= f) s := by
  have both : Ensures S (fun a s' => S s' ∧ Q a s') x s := fun b => ⟨(first b).1, fun a done => ⟨(first b).1, (first b).2 a done⟩⟩
  exact both.bind fun a s' here => second a s' here.1 here.2

lemma lift_bind {x : Outcome α} (safe : S s) (each : ∀ a, x = .ok a → Ensures S R (f a) s) :
    Ensures S R (liftM x >>= f) s := by
  intro b
  rw [perform_bind, perform_lift]
  rcases known : x with e | a
  · exact ⟨safe, nofun⟩
  · exact each a known b

lemma rescue {kind : Fault → Bool} {handler : Fault → Act σ α} (first : Ensures S Q x s)
    (second : ∀ e s', S s' → Ensures S Q (handler e) s') : Ensures S Q (Act.rescue kind x handler) s := by
  intro b
  obtain ⟨safe, holds⟩ := first b
  rw [Act.rescue, perform_tryCatch]
  rcases ran : perform x s b with ⟨⟨e | a, s'⟩, b'⟩
  · rw [ran] at safe
    dsimp only
    split
    · exact second e s' safe b'
    · exact ⟨safe, nofun⟩
  · rw [ran] at safe holds
    exact ⟨safe, holds⟩

lemma forM {f : α → Act σ PUnit} {xs : List α} (each : ∀ x ∈ xs, ∀ s, S s → Ensures S (fun _ => S) (f x) s) (start : S s) :
    Ensures S (fun _ => S) (xs.forM f) s := by
  induction xs generalizing s with
  | nil => exact pure start start
  | cons x xs ih =>
    exact (each x mem_cons_self s start).bind fun _ s' holds =>
      ih (fun y hy => each y (mem_cons_of_mem x hy)) holds

lemma foldlM {f : β → α → Act σ β} (each : ∀ c x s, S s → Ensures S (fun _ => S) (f c x) s) (xs : List α) (c : β)
    (start : S s) : Ensures S (fun _ => S) (xs.foldlM f c) s := by
  induction xs generalizing c s with
  | nil => exact pure start start
  | cons x xs ih => exact (each c x s start).bind fun d s' holds => ih d holds

end Ensures

end EprBench
