import EprBench.Proofs.Pulser.Clearing
import EprBench.Proofs.Pulser.Order

/-! Groups of rows: one group holds all rows that need protection. -/
namespace EprBench.Pulser

open List Outcome

variable {bit mw awg : Int} {rows g : List Row} {r : Row} {gs : List (List Row)} {c : Config} {windowed phased : Bool}

def onChannel (bit : Int) (rows : List Row) : List Row := rows.filter (·.channel == bit)

@[simp] lemma mem_onChannel : r ∈ onChannel bit rows ↔ r ∈ rows ∧ r.channel = bit := by
  simp [onChannel]

def Sorted (rows : List Row) : Prop := rows.Pairwise fun a b => a.channel ≤ b.channel

lemma flatten_groups (rows : List Row) : (Row.groups rows).flatten = rows := flatten_splitBy _ _

lemma groups_pairwise (sorted : Sorted rows) :
    (Row.groups rows).Pairwise fun g h => ∀ a ∈ g, ∀ b ∈ h, a.channel < b.channel := by
  refine pairwise_splitBy fun xs ys split x hx y hy differ a ha b hb => ?_
  rw [Sorted, split, pairwise_append] at sorted
  obtain ⟨left, right, across⟩ := sorted
  have cut : x.channel < y.channel := by
    have := across x (List.mem_of_getLast? hx) y (List.mem_of_head? hy)
    have : x.channel ≠ y.channel := by simpa using differ
    omega
  have upto : a.channel ≤ x.channel := by
    obtain ⟨front, rfl⟩ := getLast?_eq_some_iff.mp hx
    rcases mem_append.mp ha with ha | ha
    · exact (pairwise_append.mp left).2.2 a ha x (by simp)
    · rw [mem_singleton.mp ha]
  have from_ : y.channel ≤ b.channel := by
    obtain ⟨back, rfl⟩ := head?_eq_some_iff.mp hy
    rcases mem_cons.mp hb with rfl | hb
    · exact le_refl _
    · exact (pairwise_cons.mp right).1 b hb
  omega

lemma mem_groups (sorted : Sorted rows) (member : g ∈ Row.groups rows) :
    ∃ r rest, g = r :: rest ∧ g = onChannel r.channel rows := by
  obtain ⟨r, rest, rfl⟩ := exists_cons_of_ne_nil (ne_nil_of_mem_splitBy member)
  refine ⟨r, rest, rfl, ?_⟩
  have uniform : ∀ s ∈ r :: rest, s.channel = r.channel := by
    have chain := isChain_of_mem_splitBy member
    have pairs : (r :: rest).Pairwise fun a b => a.channel = b.channel := by
      have trans : IsTrans Row fun a b => a.channel = b.channel := ⟨fun _ _ _ => Eq.trans⟩
      exact isChain_iff_pairwise.mp (chain.imp fun a b h => by simpa using h)
    intro s hs
    rcases mem_cons.mp hs with rfl | hs
    · rfl
    · exact ((pairwise_cons.mp pairs).1 s hs).symm
  obtain ⟨front, back, split⟩ := append_of_mem member
  have order := groups_pairwise sorted
  rw [split, pairwise_append, pairwise_cons] at order
  obtain ⟨-, ⟨after, -⟩, before⟩ := order
  have noneBefore : onChannel r.channel front.flatten = [] := by
    rw [onChannel, filter_eq_nil_iff]
    intro s hs
    obtain ⟨h, hh, hs⟩ := List.mem_flatten.mp hs
    have := before h hh _ mem_cons_self s hs r mem_cons_self
    simp only [beq_iff_eq]
    omega
  have noneAfter : onChannel r.channel back.flatten = [] := by
    rw [onChannel, filter_eq_nil_iff]
    intro s hs
    obtain ⟨h, hh, hs⟩ := List.mem_flatten.mp hs
    have := after h hh r mem_cons_self s hs
    simp only [beq_iff_eq]
    omega
  have here : onChannel r.channel (r :: rest) = r :: rest :=
    filter_eq_self.mpr fun s hs => by simpa using uniform s hs
  rw [← flatten_groups rows, split, flatten_append, flatten_cons]
  simp only [onChannel, filter_append] at noneBefore noneAfter here ⊢
  rw [noneBefore, noneAfter, here, nil_append, append_nil]

lemma onChannel_mem_groups (sorted : Sorted rows) (some : onChannel bit rows ≠ []) :
    onChannel bit rows ∈ Row.groups rows := by
  obtain ⟨r, hr⟩ := exists_mem_of_ne_nil _ some
  obtain ⟨member, channel⟩ := mem_onChannel.mp hr
  rw [← flatten_groups rows, List.mem_flatten] at member
  obtain ⟨g, hg, hrg⟩ := member
  obtain ⟨s, rest, -, whole⟩ := mem_groups sorted hg
  have same : s.channel = bit := by
    rw [whole] at hrg
    rw [← (mem_onChannel.mp hrg).2, channel]
  rw [← same, ← whole]
  exact hg

/-! ### Finding a group -/

lemma find?_group_eq_none {n : Nat} (none : ∀ g ∈ gs, ∀ r ∈ g, r.channel ≠ bit) :
    (gs.zipIdx n).reverse.find? (fun g => g.1.head?.any (·.channel == bit)) = Option.none := by
  rw [find?_eq_none]
  intro g hg
  have member := fst_mem_of_mem_zipIdx (mem_reverse.mp hg)
  cases hh : g.1 with
  | nil => simp
  | cons r rest =>
    have := none g.1 member r (by rw [hh]; exact mem_cons_self)
    simpa using this

lemma groupOf_eq_none (none : ∀ g ∈ gs, ∀ r ∈ g, r.channel ≠ bit) : groupOf bit gs = Option.none := by
  rw [groupOf, find?_group_eq_none none]
  rfl

lemma groupOf_eq_some (front : List (List Row)) {back : List (List Row)}
    (here : g.head?.any (·.channel == bit) = true) (last : ∀ h ∈ back, ∀ s ∈ h, s.channel ≠ bit) :
    groupOf bit (front ++ g :: back) = some front.length := by
  rw [groupOf, zipIdx_append, zipIdx_cons, reverse_append, reverse_cons, append_assoc,
    find?_append, find?_group_eq_none last, Option.none_or, singleton_append, find?_cons,
    Nat.zero_add]
  simp only [here]
  rfl

lemma head?_onChannel (some : onChannel bit rows ≠ []) :
    (onChannel bit rows).head?.any (·.channel == bit) = true := by
  obtain ⟨r, rest, h⟩ := exists_cons_of_ne_nil some
  have : r ∈ onChannel bit rows := h ▸ mem_cons_self
  simpa [h] using (mem_onChannel.mp this).2

/-! ### Groups with the windows joined -/

lemma grouped_cases (made : grouped c windowed phased rows = .ok gs) : windowed = false ∧ gs = Row.groups rows ∨
    ∃ mw awg, c.bit "MW" = .ok mw ∧ windowBit c mw (Row.groups rows) = .ok awg ∧
      ((groupOf mw (Row.groups rows) = none ∨ groupOf awg (Row.groups rows) = none) ∧ gs = Row.groups rows ∨
      ∃ i j phases, groupOf mw (Row.groups rows) = some i ∧ groupOf awg (Row.groups rows) = some j ∧
        gs = ((Row.groups rows).set i ((Row.groups rows).getD i [] ++
          ((Row.groups rows).getD j []).map (Row.clearOf ((Row.groups rows).getD i []) phases))).eraseIdx j) := by
  rw [grouped] at made
  split at made
  · exact absurd made throw_bind_ne_ok
  simp only at made
  split at made
  · rename_i plain
    rw [pure_eq_ok] at made
    exact .inl ⟨by simpa using plain, made.symm⟩
  obtain ⟨mw, hmw, made⟩ := bind_eq_ok.mp made
  obtain ⟨awg, hawg, made⟩ := bind_eq_ok.mp made
  refine .inr ⟨mw, awg, hmw, hawg, ?_⟩
  cases hi : groupOf mw (Row.groups rows) with
  | none =>
    rw [hi] at made
    exact .inl ⟨Or.inl rfl, (pure_eq_ok.mp made).symm⟩
  | some i =>
    cases hj : groupOf awg (Row.groups rows) with
    | none =>
      rw [hi, hj] at made
      exact .inl ⟨Or.inr rfl, (pure_eq_ok.mp made).symm⟩
    | some j =>
      rw [hi, hj] at made
      obtain ⟨phases, -, made⟩ := bind_eq_ok.mp made
      exact .inr ⟨i, j, phases, rfl, rfl, (pure_eq_ok.mp made).symm⟩

lemma mem_getD_groups {i : Nat} (member : r ∈ (Row.groups rows).getD i []) : r ∈ rows := by
  by_cases h : i < (Row.groups rows).length
  · rw [getD_eq_getElem _ _ h] at member
    rw [← flatten_groups rows]
    exact List.mem_flatten.mpr ⟨_, getElem_mem h, member⟩
  · rw [getD_eq_default _ _ (by omega)] at member
    simp at member

lemma grouped_channel
    (made : grouped c windowed phased rows = .ok gs) : ∀ r ∈ gs.flatten, ∃ s ∈ rows, s.channel = r.channel := by
  have plain : ∀ r ∈ (Row.groups rows).flatten, ∃ s ∈ rows, s.channel = r.channel := fun r hr =>
    ⟨r, by rwa [flatten_groups] at hr, rfl⟩
  rcases grouped_cases made with ⟨-, rfl⟩ | ⟨mw, awg, -, -, ⟨-, rfl⟩ | ⟨i, j, phases, -, -, rfl⟩⟩
  · exact plain
  · exact plain
  · intro r hr
    obtain ⟨g, hg, hr⟩ := List.mem_flatten.mp hr
    rcases mem_or_eq_of_mem_set ((eraseIdx_sublist _ _).subset hg) with hg | rfl
    · exact plain r (List.mem_flatten.mpr ⟨g, hg, hr⟩)
    · rcases mem_append.mp hr with hr | hr
      · exact ⟨r, mem_getD_groups hr, rfl⟩
      · obtain ⟨s, hs, rfl⟩ := mem_map.mp hr
        exact ⟨s, mem_getD_groups hs, (Row.clearOf_channel _ _ s).symm⟩

lemma groups_split (sorted : Sorted rows) (some : onChannel bit rows ≠ []) :
    ∃ front back, Row.groups rows = front ++ onChannel bit rows :: back ∧
      (∀ g ∈ front, ∀ r ∈ g, r.channel < bit) ∧ ∀ g ∈ back, ∀ r ∈ g, bit < r.channel := by
  obtain ⟨front, back, split⟩ := append_of_mem (onChannel_mem_groups sorted some)
  obtain ⟨q, hq⟩ := exists_mem_of_ne_nil _ some
  have channel := (mem_onChannel.mp hq).2
  have order := groups_pairwise sorted
  rw [split, pairwise_append, pairwise_cons] at order
  refine ⟨front, back, split, ?_, ?_⟩
  · intro g hg r hr
    rw [← channel]
    exact order.2.2 g hg _ mem_cons_self r hr q hq
  · intro g hg r hr
    rw [← channel]
    exact order.2.1.1 g hg q hq r hr

/-! ### The group that needs protection -/

def drivenRows (mw awg : Int) (phases rows : List Row) : List Row :=
  onChannel mw rows ++
    if onChannel mw rows = [] then onChannel awg rows
    else (onChannel awg rows).map (Row.clearOf (onChannel mw rows) phases)

structure Regrouped (mw awg : Int) (phases rows : List Row) (gs others : List (List Row)) : Prop where
  split : ∃ front back, others = front ++ back ∧
    gs = front ++ (if drivenRows mw awg phases rows = [] then [] else [drivenRows mw awg phases rows]) ++ back
  kept : others.Sublist (Row.groups rows)
  channel : ∀ g ∈ others, ∀ r ∈ g, r.channel ≠ mw ∧ r.channel ≠ awg
  complete : ∀ r ∈ rows, r.channel ≠ mw → r.channel ≠ awg → r ∈ others.flatten

lemma not_mem_of_onChannel_eq_nil (none : onChannel bit rows = []) : ∀ r ∈ rows, r.channel ≠ bit := by
  intro r hr channel
  have : r ∈ onChannel bit rows := mem_onChannel.mpr ⟨hr, channel⟩
  rw [none] at this
  simp at this

lemma mem_of_mem_group (member : g ∈ Row.groups rows) (hr : r ∈ g) : r ∈ rows := by
  rw [← flatten_groups rows]
  exact List.mem_flatten.mpr ⟨g, member, hr⟩

lemma regrouped_plain (sorted : Sorted rows)
    (one : onChannel mw rows = [] ∨ onChannel awg rows = []) (phases : List Row) :
    ∃ others, Regrouped mw awg phases rows (Row.groups rows) others := by
  by_cases both : onChannel mw rows = [] ∧ onChannel awg rows = []
  · obtain ⟨noPulses, noWindows⟩ := both
    have driven : drivenRows mw awg phases rows = [] := by simp [drivenRows, noPulses, noWindows]
    refine ⟨Row.groups rows, ⟨Row.groups rows, [], by simp, by simp [driven]⟩, List.Sublist.refl _, ?_, ?_⟩
    · intro g hg r hr
      have member := mem_of_mem_group hg hr
      exact ⟨not_mem_of_onChannel_eq_nil noPulses r member, not_mem_of_onChannel_eq_nil noWindows r member⟩
    · intro r hr _ _
      rwa [flatten_groups]
  · -- One of the two groups is there, and it is the driven one.
    obtain ⟨bit, other, some, none, driven, either⟩ : ∃ bit other, onChannel bit rows ≠ [] ∧ onChannel other rows = [] ∧
        drivenRows mw awg phases rows = onChannel bit rows ∧ (bit = mw ∧ other = awg ∨ bit = awg ∧ other = mw) := by
      rcases one with noPulses | noWindows
      · exact ⟨awg, mw, fun h => both ⟨noPulses, h⟩, noPulses, by simp [drivenRows, noPulses], Or.inr ⟨rfl, rfl⟩⟩
      · exact ⟨mw, awg, fun h => both ⟨h, noWindows⟩, noWindows, by simp [drivenRows, noWindows], Or.inl ⟨rfl, rfl⟩⟩
    obtain ⟨front, back, split, before, after⟩ := groups_split sorted some
    have kept : (front ++ back).Sublist (Row.groups rows) := by
      rw [split]
      exact List.Sublist.append (List.Sublist.refl _) (sublist_cons_self _ _)
    refine ⟨front ++ back, ⟨front, back, rfl, ?_⟩, kept, ?_, ?_⟩
    · rw [driven, if_neg some, split]
      simp
    · intro g hg r hr
      have absent := not_mem_of_onChannel_eq_nil none r (mem_of_mem_group (kept.subset hg) hr)
      have differ : r.channel ≠ bit := by
        rcases mem_append.mp hg with hg | hg
        · exact ne_of_lt (before g hg r hr)
        · exact ne_of_gt (after g hg r hr)
      rcases either with ⟨rfl, rfl⟩ | ⟨rfl, rfl⟩
      · exact ⟨differ, absent⟩
      · exact ⟨absent, differ⟩
    · intro r hr noPulse noWindow
      rw [← flatten_groups rows, split, flatten_append, flatten_cons] at hr
      rw [flatten_append]
      simp only [mem_append] at hr ⊢
      rcases hr with hr | hr | hr
      · exact .inl hr
      · have channel := (mem_onChannel.mp hr).2
        rcases either with ⟨rfl, rfl⟩ | ⟨rfl, rfl⟩
        · exact absurd channel noPulse
        · exact absurd channel noWindow
      · exact .inr hr

lemma groups_split_both (order : mw < awg) (sorted : Sorted rows)
    (pulses : onChannel mw rows ≠ []) (windows : onChannel awg rows ≠ []) :
    ∃ front middle back, Row.groups rows = front ++ onChannel mw rows :: (middle ++ onChannel awg rows :: back) ∧
      (∀ g ∈ front, ∀ r ∈ g, r.channel < mw) ∧ (∀ g ∈ middle, ∀ r ∈ g, mw < r.channel ∧ r.channel < awg) ∧
      ∀ g ∈ back, ∀ r ∈ g, awg < r.channel := by
  obtain ⟨front, rest, split, before, after⟩ := groups_split sorted pulses
  obtain ⟨q, hq⟩ := exists_mem_of_ne_nil _ windows
  have channel := (mem_onChannel.mp hq).2
  have member : onChannel awg rows ∈ rest := by
    have member := onChannel_mem_groups sorted windows
    rw [split] at member
    rcases mem_append.mp member with member | member
    · have := before _ member q hq
      omega
    · rcases mem_cons.mp member with same | member
      · rw [same] at hq
        have := (mem_onChannel.mp hq).2
        omega
      · exact member
  obtain ⟨middle, back, rfl⟩ := append_of_mem member
  have pairs := groups_pairwise sorted
  rw [split, pairwise_append, pairwise_cons, pairwise_append, pairwise_cons] at pairs
  obtain ⟨-, ⟨-, -, ⟨behind, -⟩, between⟩, -⟩ := pairs
  refine ⟨front, middle, back, split, before, ?_, ?_⟩
  · intro g hg r hr
    have := between g hg _ mem_cons_self r hr q hq
    exact ⟨after g (mem_append_left _ hg) r hr, by omega⟩
  · intro g hg r hr
    have := behind g hg q hq r hr
    omega

lemma regrouped_joined (order : mw < awg) (sorted : Sorted rows)
    (pulses : onChannel mw rows ≠ []) (windows : onChannel awg rows ≠ []) (phases : List Row) {i j : Nat}
    (hi : groupOf mw (Row.groups rows) = some i) (hj : groupOf awg (Row.groups rows) = some j) :
    ∃ others, Regrouped mw awg phases rows (((Row.groups rows).set i ((Row.groups rows).getD i [] ++
      ((Row.groups rows).getD j []).map (Row.clearOf ((Row.groups rows).getD i []) phases))).eraseIdx j) others := by
  obtain ⟨front, middle, back, split, before, between, behind⟩ := groups_split_both order sorted pulses windows
  have split' : Row.groups rows = (front ++ onChannel mw rows :: middle) ++ onChannel awg rows :: back := by
    rw [split, append_assoc, cons_append]
  have atPulses : i = front.length := by
    rw [split, groupOf_eq_some front (head?_onChannel pulses), Option.some.injEq] at hi
    · exact hi.symm
    · intro g hg r hr
      rcases mem_append.mp hg with hg | hg
      · exact ne_of_gt (between g hg r hr).1
      · rcases mem_cons.mp hg with rfl | hg
        · rw [(mem_onChannel.mp hr).2]
          exact ne_of_gt order
        · exact ne_of_gt (order.trans (behind g hg r hr))
  have atWindows : j = (front ++ onChannel mw rows :: middle).length := by
    rw [split', groupOf_eq_some _ (head?_onChannel windows), Option.some.injEq] at hj
    · exact hj.symm
    · exact fun g hg r hr => ne_of_gt (behind g hg r hr)
  have pulsesAt : (Row.groups rows).getD i [] = onChannel mw rows := by
    rw [atPulses, split, getD_append_right _ _ _ _ (le_refl _), Nat.sub_self]
    rfl
  have windowsAt : (Row.groups rows).getD j [] = onChannel awg rows := by
    rw [atWindows, split', getD_append_right _ _ _ _ (le_refl _), Nat.sub_self]
    rfl
  have driven : drivenRows mw awg phases rows =
      onChannel mw rows ++ (onChannel awg rows).map (Row.clearOf (onChannel mw rows) phases) := by
    rw [drivenRows, if_neg pulses]
  have moved : ((Row.groups rows).set i (drivenRows mw awg phases rows)).eraseIdx j =
      front ++ [drivenRows mw awg phases rows] ++ (middle ++ back) := by
    rw [atPulses, atWindows, split, set_append_right _ _ (le_refl _), Nat.sub_self, set_cons_zero,
      eraseIdx_append_of_length_le (by simp)]
    simp [eraseIdx_append_of_length_le]
  rw [pulsesAt, windowsAt, ← driven, moved]
  refine ⟨front ++ (middle ++ back), ⟨front, middle ++ back, rfl, ?_⟩, ?_, ?_, ?_⟩
  · rw [if_neg]
    intro none
    rw [driven, append_eq_nil_iff] at none
    exact pulses none.1
  · rw [split]
    exact List.Sublist.append (List.Sublist.refl _) (List.Sublist.cons _
      (List.Sublist.append (List.Sublist.refl _) (sublist_cons_self _ _)))
  · intro g hg r hr
    simp only [mem_append] at hg
    rcases hg with hg | hg | hg
    · have := before g hg r hr
      exact ⟨by omega, by omega⟩
    · have := between g hg r hr
      exact ⟨by omega, by omega⟩
    · have := behind g hg r hr
      exact ⟨by omega, by omega⟩
  · intro r hr noPulse noWindow
    rw [← flatten_groups rows, split] at hr
    simp only [flatten_append, flatten_cons, mem_append, mem_onChannel] at hr ⊢
    rcases hr with hr | ⟨-, pulse⟩ | hr | ⟨-, window⟩ | hr
    · exact .inl hr
    · exact absurd pulse noPulse
    · exact .inr (Or.inl hr)
    · exact absurd window noWindow
    · exact .inr (Or.inr hr)

lemma groupOf_eq_none_iff (sorted : Sorted rows) :
    groupOf bit (Row.groups rows) = none ↔ onChannel bit rows = [] := by
  constructor
  · intro none
    by_contra some
    obtain ⟨front, back, split, -, after⟩ := groups_split sorted some
    rw [split, groupOf_eq_some front (head?_onChannel some) fun g hg r hr => ne_of_gt (after g hg r hr)] at none
    simp at none
  · intro none
    exact groupOf_eq_none fun g hg r hr => not_mem_of_onChannel_eq_nil none r (mem_of_mem_group hg hr)

lemma windowBit_eq (hawg : c.bit "AWG" = .ok awg) (differ : mw ≠ awg)
    (sorted : Sorted rows) (bits : ∀ r ∈ rows, 0 < r.channel) (some : onChannel awg rows ≠ [] ∨ onChannel bit rows ≠ [])
    (made : windowBit c mw (Row.groups rows) = .ok bit) : bit = awg := by
  rw [windowBit] at made
  split at made
  · rename_i all
    rcases some with windows | rows'
    · have pulse := all_eq_true.mp all _ (onChannel_mem_groups sorted windows)
      obtain ⟨r, rest, h⟩ := exists_cons_of_ne_nil windows
      have window : r ∈ onChannel awg rows := h ▸ mem_cons_self
      rw [h] at pulse
      have : r.channel = mw := by simpa using pulse
      exact absurd (this.symm.trans (mem_onChannel.mp window).2) differ
    · obtain ⟨r, hr⟩ := exists_mem_of_ne_nil _ rows'
      obtain ⟨member, channel⟩ := mem_onChannel.mp hr
      have := bits r member
      have := Except.ok.inj made
      omega
  · rw [hawg] at made
    exact (Except.ok.inj made).symm

lemma grouped_spec (hmw : c.bit "MW" = .ok mw) (hawg : c.bit "AWG" = .ok awg)
    (order : mw < awg) (sorted : Sorted rows) (bits : ∀ r ∈ rows, 0 < r.channel)
    (flagged : (∃ r ∈ rows, r.channel = awg) → windowed = true)
    (made : grouped c windowed phased rows = .ok gs) : ∃ phases others, Regrouped mw awg phases rows gs others := by
  rcases grouped_cases made with ⟨plain, rfl⟩ | ⟨mw', bit, hmw', hbit, ⟨none, rfl⟩ | ⟨i, j, phases, hi, hj, rfl⟩⟩
  · have noWindows : onChannel awg rows = [] := by
      by_contra some
      obtain ⟨r, hr⟩ := exists_mem_of_ne_nil _ some
      have := flagged ⟨r, mem_onChannel.mp hr⟩
      rw [plain] at this
      simp at this
    exact ⟨[], regrouped_plain sorted (Or.inr noWindows) []⟩
  · rw [hmw, Except.ok.injEq] at hmw'
    subst hmw'
    refine ⟨[], regrouped_plain sorted ?_ []⟩
    rw [groupOf_eq_none_iff sorted, groupOf_eq_none_iff sorted] at none
    rcases none with noPulses | noWindows
    · exact .inl noPulses
    · by_contra both
      rw [not_or] at both
      have same := windowBit_eq hawg (ne_of_lt order) sorted bits (Or.inl both.2) hbit
      exact both.2 (same ▸ noWindows)
  · rw [hmw, Except.ok.injEq] at hmw'
    subst hmw'
    have pulses : onChannel mw rows ≠ [] := fun none => by
      rw [(groupOf_eq_none_iff sorted).mpr none] at hi
      simp at hi
    have windows : onChannel bit rows ≠ [] := fun none => by
      rw [(groupOf_eq_none_iff sorted).mpr none] at hj
      simp at hj
    have same := windowBit_eq hawg (ne_of_lt order) sorted bits (Or.inr windows) hbit
    subst same
    exact ⟨phases, regrouped_joined order sorted pulses windows phases hi hj⟩

end EprBench.Pulser
