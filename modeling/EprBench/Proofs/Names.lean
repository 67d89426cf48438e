import EprBench.Proofs.Outcome
import EprBench.Value.Convert

/-! Names of pulses: texts that are looked up among others, and the pulses at the places where they stand. -/
namespace EprBench

open List

lemma pick_eq_ok {α : Type} {xs : List α} {i : ℕ} {a : α} : pick xs i = .ok a ↔ xs[i]? = some a := by
  rw [pick, Text.item?, if_neg (by omega), Int.toNat_natCast]
  cases xs[i]? with
  | none => simp
  | some x => simp

lemma equals_text (s t : String) : (Value.text s).equals (.text t) = .ok (s == t) := by
  simp [Value.equals, Value.compares, Value.isArray, Value.same]

lemma theOnly_false (n : Nat) : Value.theOnly (List.replicate n false) ≠ .ok true := by
  rcases n with _ | _ | n <;> simp [Value.theOnly, replicate_succ]

lemma eq_text_of_equals {v : Value} {t : String} (equal : v.equals (.text t) = .ok true) : v = .text t := by
  cases v with
  | text s =>
    rw [equals_text, Except.ok.injEq, beq_iff_eq] at equal
    rw [equal]
  | floats shape data => exact absurd equal (theOnly_false data.size)
  | ints shape data => exact absurd equal (theOnly_false data.size)
  | _ => simp [Value.equals, Value.compares, Value.isArray, Value.same, Value.number?] at equal

lemma choice_text {α : Type} (table : List (String × α)) (s : String) :
    (Value.text s).choice table = .ok (table.lookup s) := by
  induction table with
  | nil => rfl
  | cons entry table ih =>
    rw [Value.choice, equals_text, Outcome.ok_bind, lookup_cons, ih]
    split
    · rename_i same
      rw [same]
      rfl
    · rename_i other
      simp only [Bool.not_eq_true] at other
      rw [other]

lemma distinct_texts (names : List String) : ∃ distinct : List String,
    (names.map Value.text).foldl (fun seen n => if seen.any (·.same n) then seen else seen ++ [n]) [] = distinct.map .text ∧
      distinct.Nodup ∧ ∀ s, s ∈ distinct ↔ s ∈ names := by
  have fold : ∀ before : List String, before.Nodup → ∃ distinct : List String,
      (names.map Value.text).foldl (fun seen n => if seen.any (·.same n) then seen else seen ++ [n]) (before.map .text) =
        distinct.map .text ∧ distinct.Nodup ∧ ∀ s, s ∈ distinct ↔ s ∈ before ∨ s ∈ names := by
    induction names with
    | nil => exact fun before nodup => ⟨before, rfl, nodup, by simp⟩
    | cons s names ih =>
      intro before nodup
      have known : (before.map Value.text).any (·.same (.text s)) = decide (s ∈ before) := by
        rw [Bool.eq_iff_iff]
        simp [Value.same]
      rw [map_cons, foldl_cons, known]
      by_cases member : s ∈ before
      · obtain ⟨distinct, same, nodup', members⟩ := ih before nodup
        refine ⟨distinct, ?_, nodup', fun r => ?_⟩
        · rw [decide_eq_true member, if_pos rfl, same]
        · rw [members, mem_cons]
          constructor
          · exact .imp_right Or.inr
          · rintro (here | rfl | later)
            · exact .inl here
            · exact .inl member
            · exact .inr later
      · obtain ⟨distinct, same, nodup', members⟩ := ih (before ++ [s])
          (nodup_append.mpr ⟨nodup, nodup_singleton s, by simpa using fun r hr => ne_of_mem_of_not_mem hr member⟩)
        refine ⟨distinct, ?_, nodup', fun r => ?_⟩
        · rw [decide_eq_false member, if_neg (by decide), ← same, map_append]
          rfl
        · rw [members, mem_append, mem_singleton, mem_cons, or_assoc]
  simpa using fold [] nodup_nil

lemma placeAmong_of_nodup {vs : List Value} {v : Value} {i : ℕ} (texts : ∀ v ∈ vs, ∃ s, v = .text s) (apart : vs.Nodup)
    (here : vs[i]? = some v) : v.placeAmong vs = .ok (some i) := by
  induction vs generalizing i with
  | nil => simp at here
  | cons w vs ih =>
    obtain ⟨first, later⟩ := nodup_cons.mp apart
    obtain ⟨s, rfl⟩ := texts v (List.mem_of_getElem? here)
    obtain ⟨u, rfl⟩ := texts w mem_cons_self
    rw [Value.placeAmong, equals_text, Outcome.ok_bind]
    cases i with
    | zero =>
      obtain rfl : u = s := Value.text.inj (Option.some.inj here)
      rw [beq_self_eq_true, if_pos rfl]
      rfl
    | succ i =>
      have other : u ≠ s := by
        rintro rfl
        exact first (List.mem_of_getElem? here)
      rw [beq_eq_false_iff_ne.mpr other, if_neg (by decide),
        ih (fun v member => texts v (mem_cons_of_mem _ member)) later here]
      rfl

end EprBench
