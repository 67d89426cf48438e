import EprBench.Proofs.Waveform.Channels

/-! Tones at other places. In a joined buffer a tone that is moved takes its samples along; only a hyperbolic sweep
sounds otherwise at another place. -/
namespace EprBench.Waveform

open Scalar List Outcome

variable {n k k' : ℕ} {b : Array ℤ} {rate : ℤ} {α : Type}

/-! ### Windows of a buffer -/

variable {β : Type}

lemma foldlM_put {f : Array ℤ → β → Outcome (Array ℤ)} {ws : β → List (ℕ × ℤ)} {l : List β}
    (each : ∀ x ∈ l, ∀ b, f b x = .ok (put (ws x) b)) (b : Array ℤ) : l.foldlM f b = .ok (put (l.flatMap ws) b) := by
  induction l generalizing b with
  | nil => rfl
  | cons x l ih =>
    rw [forall_mem_cons] at each
    rw [foldlM_cons, each.1, ok_bind, ih each.2, flatMap_cons, put_append]

lemma forall_of_foldlM {f : Array ℤ → β → Outcome (Array ℤ)} {P : β → Prop} {l : List β}
    (each : ∀ x ∈ l, ∀ b b', f b x = .ok b' → P x) {b b' : Array ℤ} (done : l.foldlM f b = .ok b') : ∀ x ∈ l, P x := by
  induction l generalizing b with
  | nil => simp
  | cons x l ih =>
    rw [forall_mem_cons] at each ⊢
    obtain ⟨b₁, first, rest⟩ := bind_eq_ok.mp done
    exact ⟨each.1 b b₁ first, ih each.2 rest⟩

def inWindow (first width : ℕ) (e : ℕ × ℤ) : Option (ℕ × ℤ) :=
  if first ≤ e.1 ∧ e.1 < first + width then some (e.1 - first, e.2) else none

lemma put_window {first width : ℕ} {s : Array ℤ} (size : s.size = width) (room : first + width ≤ b.size)
    (same : ∀ i < width, b[first + i]? = s[i]?) (writes : List (ℕ × ℤ)) :
    ∀ i < width, (put writes b)[first + i]? = (put (writes.filterMap (inWindow first width)) s)[i]? := by
  induction writes generalizing b s with
  | nil => exact same
  | cons e writes ih =>
    rw [put_cons]
    by_cases seen : first ≤ e.1 ∧ e.1 < first + width
    · have kept : inWindow first width e = some (e.1 - first, e.2) := if_pos seen
      rw [filterMap_cons_some kept, put_cons]
      refine ih (by simpa using size) (by simpa using room) fun i inside => ?_
      by_cases hit : e.1 - first = i
      · rw [show first + i = e.1 by omega, Array.getElem?_setIfInBounds_self_of_lt (by omega), hit,
          Array.getElem?_setIfInBounds_self_of_lt (by omega)]
      · rw [Array.getElem?_setIfInBounds_ne (by omega), Array.getElem?_setIfInBounds_ne hit]
        exact same i inside
    · have dropped : inWindow first width e = none := if_neg seen
      rw [filterMap_cons_none dropped]
      refine ih size (by simpa using room) fun i inside => ?_
      rw [Array.getElem?_setIfInBounds_ne (by omega)]
      exact same i inside

lemma extract_put {first width total : ℕ} (room : first + width ≤ total) (writes : List (ℕ × ℤ)) :
    (put writes (Array.replicate total 0)).extract first (first + width) =
      put (writes.filterMap (inWindow first width)) (Array.replicate width 0) := by
  have silent (i : ℕ) (within : i < width) :
      (Array.replicate total (0 : ℤ))[first + i]? = (Array.replicate width (0 : ℤ))[i]? := by
    rw [Array.getElem?_replicate, Array.getElem?_replicate, if_pos (by omega), if_pos within]
  have inner := put_window (by simp) (by simpa using room) silent writes
  apply Array.ext_getElem?
  intro i
  by_cases within : i < width
  · rw [← inner i within, Array.getElem?_extract, if_pos (by simp; omega)]
  · rw [Array.getElem?_eq_none (by simp; omega), Array.getElem?_eq_none (by simp; omega)]

variable [Scalar α]

/-! ### Segments -/

namespace Tone

omit [Scalar α] in
lemma extent_le (p : Tone α) (size : ℕ) : p.extent size ≤ size := by
  unfold extent
  split <;> omega

variable {size : ℕ}

omit [Scalar α] in
lemma extent_mono (p : Tone α) {alone : ℕ} (less : alone ≤ size) : p.extent alone ≤ p.extent size := by
  unfold extent
  split <;> omega

def Sounds (rate : ℤ) (size : ℕ) (p : Tone α) : Prop := ∀ t < p.extent size, ∃ v, p.sample rate t t = .ok v

def level (rate : ℤ) (p : Tone α) (t : ℕ) : ℤ := (p.sample rate t t).toOption.getD 0

def writes (rate : ℤ) (stereo : Bool) (size k : ℕ) (p : Tone α) : List (ℕ × ℤ) :=
  (List.range (p.extent size)).map fun t => (slot stereo p.channel (k * size + t), p.level rate t)

variable {p : Tone α}

lemma phases_clock (other : p.shape ≠ .sech) (rate clock clock' : ℤ) :
    p.phases rate clock = p.phases rate clock' := by
  unfold phases
  cases shape : p.shape <;> first | rfl | exact absurd shape other

lemma sample_clock (other : p.shape ≠ .sech) (rate t clock : ℤ) : p.sample rate t clock = p.sample rate t t := by
  rw [sample, value, phases_clock other rate clock t]
  rfl

lemma Sounds.shorter {alone : ℕ} (sounds : p.Sounds rate size) (less : alone ≤ size) : p.Sounds rate alone := by
  intro t during
  exact sounds t (during.trans_le (p.extent_mono less))

lemma Sounds.fill (sounds : p.Sounds rate size) (other : p.shape ≠ .sech) (stereo : Bool) (k : ℕ)
    (b : Array ℤ) : p.fill rate stereo size k b = .ok (put (p.writes rate stereo size k) b) := by
  rw [Tone.fill, writes, map_eq_flatMap]
  refine foldlM_put (fun t during b => ?_) b
  obtain ⟨v, here⟩ := sounds t (mem_range.mp during)
  dsimp only
  rw [sample_clock other, level, here]
  rfl

lemma Sounds.of_fill (other : p.shape ≠ .sech) {stereo : Bool} {b b' : Array ℤ}
    (done : p.fill rate stereo size k b = .ok b') : p.Sounds rate size := by
  have all := forall_of_foldlM (P := fun t : ℕ => ∃ v, p.sample rate t t = .ok v) (fun t _ b b' step => ?_) done
  · exact fun t during => all t (mem_range.mpr during)
  · obtain ⟨v, here, _⟩ := bind_eq_ok.mp step
    exact ⟨v, sample_clock other rate t _ ▸ here⟩

end Tone

/-- How many places a segment takes. -/
def width (stereo : Bool) (size : ℕ) : ℕ := if stereo then 2 * size else size

lemma silence_eq (stereo : Bool) (size : ℕ) : silence stereo size = Array.replicate (width stereo size) 0 := rfl

variable {alone size : ℕ}

lemma width_mono (stereo : Bool) (less : alone ≤ size) : width stereo alone ≤ width stereo size := by
  cases stereo <;> simp [width, less]

lemma width_mul (stereo : Bool) (size segments : ℕ) : width stereo (size * segments) = width stereo size * segments := by
  cases stereo <;> simp [width, mul_assoc]

lemma slot_eq (stereo : Bool) {channel t : ℕ} (known : channel < 2) (during : t < size) (k : ℕ) :
    slot stereo channel (k * size + t) = width stereo size * k + slot stereo channel t ∧
      slot stereo channel t < width stereo size := by
  cases stereo with
  | false => exact ⟨by simp [slot, width, mul_comm], by simpa [slot, width] using during⟩
  | true =>
    constructor
    · simp only [slot, width, if_true]
      ring
    · simp only [slot, width, if_true]
      omega

omit [Scalar α] in
lemma Tone.late (p : Tone α) {rest : ℕ} (more : p.extent size = p.extent alone + rest) (some : 0 < rest) (j : ℕ) :
    alone ≤ p.extent alone + j := by
  unfold Tone.extent at more ⊢
  split
  case isTrue played =>
    rw [if_pos played, if_pos played] at more
    omega
  case isFalse silent =>
    rw [if_neg silent, if_neg silent] at more
    omega

lemma slot_late (stereo : Bool) (channel : ℕ) {t : ℕ} (late : size ≤ t) : width stereo size ≤ slot stereo channel t := by
  cases stereo <;> simp [width, slot] <;> omega

lemma writes_inWindow {p : Tone α} (known : p.channel < 2) (stereo : Bool) (less : alone ≤ size) (i k : ℕ) :
    (p.writes rate stereo size i).filterMap (inWindow (width stereo size * k) (width stereo alone)) =
      if i = k then p.writes rate stereo alone 0 else [] := by
  have place (t : ℕ) (during : t ∈ List.range (p.extent size)) :=
    slot_eq stereo known ((mem_range.mp during).trans_le (p.extent_le size)) i
  have narrow := width_mono stereo less
  rw [Tone.writes, filterMap_map]
  by_cases own : i = k
  · subst own
    obtain ⟨rest, more⟩ := Nat.exists_eq_add_of_le (p.extent_mono less)
    have kept (t : ℕ) (during : t ∈ List.range (p.extent alone)) :
        inWindow (width stereo size * i) (width stereo alone) (slot stereo p.channel (i * size + t), p.level rate t) =
          some (slot stereo p.channel (0 * alone + t), p.level rate t) := by
      have below := (slot_eq stereo known ((mem_range.mp during).trans_le (p.extent_le alone)) 0).2
      have here := (place t (by simp at during ⊢; omega)).1
      simp [inWindow, here, below]
    have dropped (t : ℕ) (later : t ∈ (List.range rest).map (p.extent alone + ·)) :
        inWindow (width stereo size * i) (width stereo alone) (slot stereo p.channel (i * size + t), p.level rate t) = none := by
      obtain ⟨j, inside, rfl⟩ := mem_map.mp later
      rw [mem_range] at inside
      have here := (place (p.extent alone + j) (by rw [mem_range]; omega)).1
      have late := slot_late stereo p.channel (p.late more (by omega) j)
      exact if_neg (by dsimp only; omega)
    rw [if_pos rfl, more, range_add, filterMap_append]
    refine (congrArg₂ (· ++ ·) (filterMap_congr kept) (filterMap_eq_nil_iff.mpr dropped)).trans ?_
    rw [append_nil, Tone.writes, List.filterMap_eq_map']
  · rw [if_neg own, filterMap_eq_nil_iff]
    intro t during
    obtain ⟨here, below⟩ := place t during
    refine if_neg ?_
    rcases Nat.lt_or_gt_of_ne own with before | after
    · have := Nat.mul_le_mul_left (width stereo size) before
      rw [Nat.mul_succ] at this
      dsimp only
      omega
    · have := Nat.mul_le_mul_left (width stereo size) after
      rw [Nat.mul_succ] at this
      dsimp only
      omega

/-- The tones of all channels in segment `k`. -/
def column (k : ℕ) (groups : List (List (Tone α))) : List (List (Tone α)) := groups.map fun g => g[k]?.toList

lemma zipIdx_flatMap {γ : Type} (f : β → List γ) (k : ℕ) (l : List β) :
    (l.zipIdx.flatMap fun e => if e.2 = k then f e.1 else []) = l[k]?.toList.flatMap f := by
  suffices from_ : ∀ n, ((l.zipIdx n).flatMap fun e => if e.2 = n + k then f e.1 else []) = l[k]?.toList.flatMap f by
    simpa using from_ 0
  intro n
  induction l generalizing k n with
  | nil => simp
  | cons x l ih =>
    cases k with
    | zero =>
      have later : ((l.zipIdx (n + 1)).flatMap fun e => if e.2 = n then f e.1 else []) = [] := by
        rw [flatMap_eq_nil_iff]
        intro e member
        have := le_snd_of_mem_zipIdx member
        exact if_neg (by omega)
      simp [later]
    | succ k =>
      have shifted := ih k (n + 1)
      rw [show n + 1 + k = n + (k + 1) by omega] at shifted
      simp [shifted]

variable {groups : List (List (Tone α))} {stereo : Bool} {size segments : ℕ}

/-- The tones of a layout: none is a hyperbolic sweep, there are two channels, and no channel has more tones than there are
segments. -/
structure Segmented (segments : ℕ) (groups : List (List (Tone α))) : Prop where
  other : ∀ g ∈ groups, ∀ p ∈ g, p.shape ≠ .sech
  known : ∀ g ∈ groups, ∀ p ∈ g, p.channel < 2
  few : ∀ g ∈ groups, g.length ≤ segments

omit [Scalar α] in
lemma mem_column {k : ℕ} {g : List (Tone α)} {p : Tone α} (there : g ∈ column k groups) (here : p ∈ g) :
    ∃ g' ∈ groups, g'[k]? = some p := by
  obtain ⟨g', member, rfl⟩ := mem_map.mp there
  exact ⟨g', member, by simpa using here⟩

lemma singleBuffer_column (other : ∀ g ∈ groups, ∀ p ∈ g, p.shape ≠ .sech)
    (sounds : ∀ g ∈ groups, ∀ p ∈ g, p.Sounds rate size) (k : ℕ) : singleBuffer rate stereo size (column k groups) =
      .ok (put (groups.flatMap fun g => g[k]?.toList.flatMap (Tone.writes rate stereo size 0)) (silence stereo size)) := by
  have each (p : Tone α) (member : p ∈ (column k groups).flatten) (b : Array ℤ) :
      p.fill rate stereo size 0 b = .ok (put (p.writes rate stereo size 0) b) := by
    obtain ⟨g, there, here⟩ := List.mem_flatten.mp member
    obtain ⟨g', there, here⟩ := mem_column there here
    exact (sounds g' there p (List.mem_of_getElem? here)).fill (other g' there p (List.mem_of_getElem? here)) stereo 0 b
  rw [singleBuffer, foldlM_put each, column, ← flatMap_def, flatMap_assoc]

lemma multiBuffer_of_sounds (other : ∀ g ∈ groups, ∀ p ∈ g, p.shape ≠ .sech)
    (sounds : ∀ g ∈ groups, ∀ p ∈ g, p.Sounds rate size) : multiBuffer rate stereo size segments groups =
      .ok (put (groups.flatMap fun g => g.zipIdx.flatMap fun e => e.1.writes rate stereo size e.2)
        (silence stereo (size * segments))) := by
  rw [multiBuffer]
  refine foldlM_put (fun g there b => ?_) _
  refine foldlM_put (fun e here b => ?_) b
  have member : e.1 ∈ g := fst_mem_of_mem_zipIdx here
  exact (sounds g there e.1 member).fill (other g there e.1 member) stereo e.2 b

lemma sounds_of_multiBuffer (other : ∀ g ∈ groups, ∀ p ∈ g, p.shape ≠ .sech)
    (done : multiBuffer rate stereo size segments groups = .ok b) : ∀ g ∈ groups, ∀ p ∈ g, p.Sounds rate size := by
  refine forall_of_foldlM (fun g there b b' step => ?_) done
  have all := forall_of_foldlM (P := fun e : Tone α × ℕ => e.1.Sounds rate size) (fun e here b b' step => ?_) step
  · intro p member
    obtain ⟨i, here⟩ := List.mem_iff_getElem?.mp member
    exact all (p, i) (List.mem_zipIdx_iff_getElem?.mpr here)
  · exact Tone.Sounds.of_fill (other g there e.1 (fst_mem_of_mem_zipIdx here)) step

lemma sounds_of_singleBuffer (other : ∀ g ∈ groups, ∀ p ∈ g, p.shape ≠ .sech)
    (done : singleBuffer rate stereo size (column k groups) = .ok b) :
    ∀ g ∈ groups, ∀ p, g[k]? = some p → p.Sounds rate size := by
  intro g there p here
  have member : p ∈ (column k groups).flatten :=
    List.mem_flatten.mpr ⟨_, mem_map.mpr ⟨g, there, rfl⟩, by simpa using here⟩
  refine forall_of_foldlM (fun p member b b' step => ?_) done p member
  obtain ⟨g, there, here⟩ := List.mem_flatten.mp member
  obtain ⟨g', there, here⟩ := mem_column there here
  exact Tone.Sounds.of_fill (other g' there p (List.mem_of_getElem? here)) step

lemma Segmented.columns (layout : Segmented segments groups) (rate : ℤ) (stereo : Bool) (size : ℕ) :
    ((multiBuffer rate stereo size segments groups).isOk = true ↔
        ∀ k < segments, (singleBuffer rate stereo size (column k groups)).isOk = true) ∧
      ∀ b, multiBuffer rate stereo size segments groups = .ok b → ∀ k < segments, ∀ alone ≤ size,
        singleBuffer rate stereo alone (column k groups) =
          .ok (b.extract (width stereo size * k) (width stereo size * k + width stereo alone)) := by
  refine ⟨⟨fun done k _ => ?_, fun each => ?_⟩, fun b done k inside alone less => ?_⟩
  · obtain ⟨b, done⟩ := exists_of_isOk done
    rw [singleBuffer_column layout.other (sounds_of_multiBuffer layout.other done)]
    rfl
  · rw [multiBuffer_of_sounds layout.other fun g there p member => ?_]
    · rfl
    · obtain ⟨k, here⟩ := List.mem_iff_getElem?.mp member
      have inside : k < g.length := (List.getElem?_eq_some_iff.mp here).1
      obtain ⟨s, done⟩ := exists_of_isOk (each k (inside.trans_le (layout.few g there)))
      exact sounds_of_singleBuffer layout.other done g there p here
  · have sounds := sounds_of_multiBuffer layout.other done
    rw [multiBuffer_of_sounds layout.other sounds] at done
    obtain rfl := Except.ok.inj done
    have room : width stereo size * k + width stereo alone ≤ width stereo (size * segments) := by
      have := Nat.mul_le_mul_left (width stereo size) inside
      have := width_mono stereo less
      rw [Nat.mul_succ] at *
      rw [width_mul]
      omega
    rw [singleBuffer_column layout.other fun g there p member => (sounds g there p member).shorter less, silence_eq, silence_eq,
      extract_put room]
    congr 2
    simp only [filterMap_flatMap]
    refine flatMap_congr fun g there => ?_
    rw [← zipIdx_flatMap]
    refine flatMap_congr fun e here => ?_
    exact (writes_inWindow (layout.known g there e.1 (fst_mem_of_mem_zipIdx here)) stereo less e.2 k).symm

variable {tones : List (Tone α)} {draws : ℕ → α} {turn : α}

/-! ### Moving a tone -/

namespace Tone

/-- A tone that starts so many samples later. -/
def moved (d : ℤ) (p : Tone α) : Tone α := { p with start := p.start + d }

variable {p : Tone α} {d : ℤ}

omit [Scalar α] in
lemma distance_moved (inside : p.Inside n) (room : (p.moved d).Inside k) (t : ℤ) :
    (p.moved d).start + t - (p.moved d).centre = p.start + t - p.centre := by
  have before := inside.start
  have after := room.start
  have length := inside.length
  simp only [moved, centre] at after ⊢
  rw [Int.tdiv_eq_ediv_of_nonneg (by omega), Int.tdiv_eq_ediv_of_nonneg (by omega)]
  omega

lemma angle_centre (other : p.shape ≠ .sech) (rate t d centre centre' : ℤ) :
    p.angle rate t d centre = p.angle rate t d centre' := by
  unfold angle
  cases shape : p.shape <;> first | rfl | exact absurd shape other

lemma joinedValue_moved (other : p.shape ≠ .sech) (inside : p.Inside n) (room : (p.moved d).Inside k) (rate : ℤ) (t : ℕ) :
    (p.moved d).joinedValue rate t = p.joinedValue rate t := by
  rw [joinedValue, distance_moved inside room, angle_centre (p := p.moved d) other rate _ _ _ p.centre,
    phases_clock (p := p.moved d) other rate _ (p.start + t)]
  rfl

lemma stereoValues_moved (other : p.shape ≠ .sech) (inside : p.Inside n) (room : (p.moved d).Inside k) (rate : ℤ)
    (draws : ℕ → α) (turn : α) (before : Option (List α)) :
    (p.moved d).stereoValues rate draws turn before = p.stereoValues rate draws turn before := by
  have distance := distance_moved inside room
  have steady (phases : List α) : (p.moved d).steadyValues rate phases = p.steadyValues rate phases := by
    refine map_congr_left fun t _ => ?_
    dsimp only
    rw [distance, angle_centre (p := p.moved d) other rate _ _ _ p.centre]
    rfl
  have sweep (phases : List α) : (p.moved d).sweepValues rate phases = p.sweepValues rate phases := by
    refine map_congr_left fun t _ => ?_
    dsimp only
    rw [distance]
    rfl
  have corrected (r : Response α) (phases : List α) :
      (p.moved d).correctedValues rate r phases = p.correctedValues rate r phases := by
    simp only [correctedValues, distance]
    rfl
  have shape : (p.moved d).shape = p.shape := rfl
  rw [stereoValues, stereoValues, shape]
  cases known : p.shape with
  | sine | gauss | sinc =>
    simp only [steady]
    rfl
  | wurst =>
    simp only [sweep, funext (corrected _)]
    rfl
  | sech => exact absurd known other
  | blank | ramp | chirp | notch => rfl

end Tone

section
variable {before after : List (Tone α)} {p : Tone α} {d : ℤ} {n' : ℕ}

omit [Scalar α] in
lemma forall_mem_moved (before after : List (Tone α)) (p : Tone α) (d : ℤ) {P : Tone α → Prop} (same : P (p.moved d) ↔ P p) :
    (∀ q ∈ before ++ p.moved d :: after, P q) ↔ ∀ q ∈ before ++ p :: after, P q := by
  simp only [forall_mem_append, forall_mem_cons, same]

lemma allAnswered_moved (known : Option (List α)) :
    AllAnswered known (before ++ p.moved d :: after) ↔ AllAnswered known (before ++ p :: after) := by
  induction before generalizing known with
  | nil => exact Iff.rfl
  | cons q before ih => exact exists_congr fun next => and_congr_right fun _ => ih next

lemma stereoSamples_moved (before after : List (Tone α))
    (same : ∀ known, (p.moved d).stereoValues rate draws turn known = p.stereoValues rate draws turn known)
    (known : Option (List α)) : stereoSamples rate draws turn known (before ++ p.moved d :: after) =
      stereoSamples rate draws turn known (before ++ p :: after) := by
  induction before generalizing known with
  | nil => simp only [nil_append, stereoSamples, same]
  | cons q before ih => simp only [cons_append, stereoSamples, ih]

lemma played_of_joined (joined : Joined rate draws turn n (before ++ p :: after) k b k') (sounds : p.shape ≠ .blank)
    {vs : List (Option (Channels α))}
    (samples : carry (stereoSamples rate draws turn none (before ++ p :: after)) k = (.ok vs, k')) :
    ∃ c, vs[before.length]? = some (some c) ∧ Laid n b p c := by
  obtain ⟨ws, samples', played⟩ := joined.played
  obtain rfl : ws = vs := by simpa [samples] using congrArg Prod.fst samples'.symm
  obtain ⟨v, here, ⟨-, blank⟩ | ⟨-, c, rfl, laid⟩⟩ := Outcome.exists_of_getElem? played (i := before.length) (x := p) (by simp)
  · exact absurd blank sounds
  · exact ⟨c, here, laid⟩

lemma Joined.moved {b b' : Array ℤ} {k₁ k₂ : ℕ} (joined : Joined rate draws turn n (before ++ p :: after) k b k₁)
    (joined' : Joined rate draws turn n' (before ++ p.moved d :: after) k b' k₂) (sounds : p.shape ≠ .blank)
    (same : ∀ known, (p.moved d).stereoValues rate draws turn known = p.stereoValues rate draws turn known) {channel t : ℕ}
    (known : channel < 2) (during : t < p.length.toNat) : b'[(p.moved d).place channel t]? = b[p.place channel t]? := by
  obtain ⟨vs, made, _⟩ := joined.played
  have made' := made
  rw [← stereoSamples_moved before after same none] at made'
  obtain ⟨ws, also, _⟩ := joined'.played
  obtain rfl : k₁ = k₂ := congrArg Prod.snd (made'.symm.trans also)
  obtain ⟨c, at_, laid⟩ := played_of_joined joined sounds made
  obtain ⟨c', at_', laid'⟩ := played_of_joined joined' (p := p.moved d) sounds made'
  obtain rfl : c = c' := by simpa [at_] using at_'
  interval_cases channel
  · rw [(laid.samples t during).1, (laid'.samples t during).1]
  · rw [(laid.samples t during).2, (laid'.samples t during).2]

/-- **Samples go with their tone.** A segment of a buffer begins with what its tones would be alone. In a joined buffer a tone
that is moved takes its samples along, in both channels or in a single one. All this holds of tones that are no hyperbolic
sweeps. -/
theorem samples_go_with_tone {groups : List (List (Tone α))} {segments : ℕ} (layout : Segmented segments groups)
    (other : p.shape ≠ .sech) (played : p.isPlayed = true) (here : Placed n (before ++ p :: after))
    (there : Placed n' (before ++ p.moved d :: after)) (total : ∀ x : α, ∃ n, truncate x = .ok n)
    (rate : ℤ) (draws : ℕ → α) (turn : α) (missing : Fault) (k : ℕ) :
    (∀ stereo size, ((multiBuffer rate stereo size segments groups).isOk = true ↔
          ∀ i < segments, (singleBuffer rate stereo size (column i groups)).isOk = true) ∧
        ∀ b, multiBuffer rate stereo size segments groups = .ok b → ∀ i < segments, ∀ alone ≤ size,
          singleBuffer rate stereo alone (column i groups) =
            .ok (b.extract (width stereo size * i) (width stereo size * i + width stereo alone))) ∧
      ((carry (stereoBuffer rate draws turn n (before ++ p :: after)) k).1.isOk =
          (carry (stereoBuffer rate draws turn n' (before ++ p.moved d :: after)) k).1.isOk ∧
        ∀ b b', (carry (stereoBuffer rate draws turn n (before ++ p :: after)) k).1 = .ok b →
          (carry (stereoBuffer rate draws turn n' (before ++ p.moved d :: after)) k).1 = .ok b' →
          ∀ channel < 2, ∀ t < p.length.toNat, b'[(p.moved d).place channel t]? = b[p.place channel t]?) ∧
      ((∀ q ∈ before ++ p :: after, q.isRandom = false) →
        (carry (monoBuffer rate draws missing n (before ++ p :: after)) k).1.isOk =
            (carry (monoBuffer rate draws missing n' (before ++ p.moved d :: after)) k).1.isOk ∧
          ∀ m m', (carry (monoBuffer rate draws missing n (before ++ p :: after)) k).1 = .ok m →
            (carry (monoBuffer rate draws missing n' (before ++ p.moved d :: after)) k).1 = .ok m' →
            ∀ t < p.length.toNat, m'[(p.moved d).start.toNat + t]? = m[p.start.toNat + t]?) := by
  have inside := here.inside p (by simp)
  have inside' := there.inside (p.moved d) (by simp)
  have cuts (tones : List (Tone α)) : ∀ q ∈ tones, q.Cuts rate := fun q _ t _ => total _
  refine ⟨layout.columns rate, ⟨?_, fun b b' first second channel known t during => ?_⟩, fun fixed => ?_⟩
  · rw [Bool.eq_iff_iff, here.stereoBuffer_isOk, there.stereoBuffer_isOk, allAnswered_moved]
  · obtain ⟨_, _, joined⟩ := here.of_stereoBuffer first
    obtain ⟨_, _, joined'⟩ := there.of_stereoBuffer second
    exact joined.moved joined' ((here.plain p (by simp)).isPlayed.mp played)
      (Tone.stereoValues_moved other inside inside' rate draws turn) known during
  have fixed' := (forall_mem_moved before after p d (P := fun q => q.isRandom = false) Iff.rfl).mpr fixed
  refine ⟨?_, fun m m' first second t during => ?_⟩
  · rw [Bool.eq_iff_iff, here.monoBuffer_isOk fixed (cuts _), there.monoBuffer_isOk fixed' (cuts _),
      forall_mem_moved before after p d Iff.rfl]
  · have spread := (here.of_monoBuffer fixed (cuts _) first).2
    have spread' := (there.of_monoBuffer fixed' (cuts _) second).2
    rw [spread.samples p (by simp) played t during, spread'.samples (p.moved d) (by simp) played t during,
      Tone.joinedValue_moved other inside inside']

end

omit [Scalar α] in
lemma placed_single {p : Tone α} (inside : p.Inside n) (long : 0 < p.length) (plain : p.shape.Plain) : Placed n [p] :=
  ⟨pairwise_singleton _ _, by simpa using inside, by simpa using long, by simpa using plain⟩

theorem samples_go_with_burst : (Segmented 2 [[burst 0 5, burst 0 5]] ∧ Placed 32 [burst 0 5] ∧ Placed 32 [burst 27 5]) ∧
    ((carry (stereoBuffer 1250 0 0 32 [burst 0 5]) 0).1.isOk = (carry (stereoBuffer 1250 0 0 32 [burst 27 5]) 0).1.isOk) ∧
    ∀ b, multiBuffer 1250 true 64 2 [[burst 0 5, burst 0 5]] = .ok b →
      singleBuffer 1250 true 32 [[burst 0 5]] = .ok (b.extract 128 192) := by
  have layout : Segmented 2 [[burst 0 5, burst 0 5]] := ⟨by simp [burst], by simp [burst], by simp⟩
  have plain : (burst 0 5).shape.Plain := by simp [burst, Shape.Plain]
  have here : Placed 32 ([] ++ burst 0 5 :: []) := placed_single ⟨le_rfl, by decide, by decide⟩ (by decide) plain
  have there : Placed 32 ([] ++ (burst 0 5).moved 27 :: []) := placed_single ⟨by decide, by decide, by decide⟩ (by decide) plain
  have all := samples_go_with_tone layout (by simp [burst]) rfl here there (fun x => ⟨cut x, rfl⟩) 1250 0 0 .noName 0
  exact ⟨⟨layout, here, there⟩, all.2.1.1, fun b done => (all.1 true 64).2 b done 1 (by decide) 32 (by decide)⟩

/-- A hyperbolic sweep in the middle of which the clock is heard. -/
noncomputable def hyperbola : Tone ℝ where
  channel := 0
  shape := .sech
  frequency := .swept (625 / 32) (625 / 32)
  phase := Real.pi / Scalar.two - Real.pi / 32
  length := 2
  sigma := 1
  start := 0
  deltaStart := 0
  attenuation := 1
  steepness := 1
  truncation := 1

lemma joinedValue_hyperbola (d : ℕ) :
    (hyperbola.moved d).joinedValue 1250 1 = 32767 * Real.sin (Real.pi / 2 + d * (Real.pi / 32)) := by
  have centre : (hyperbola.moved d).centre = d + 1 := by
    rw [Tone.centre, show 2 * (hyperbola.moved d).start + (hyperbola.moved d).length = 2 * (d + 1 : ℤ) by
      simp [Tone.moved, hyperbola, mul_add], Int.mul_tdiv_cancel_left _ (by decide)]
  have middle : (hyperbola.moved d).start + (1 : ℕ) - (hyperbola.moved d).centre = 0 := by
    rw [centre]
    simp [Tone.moved, hyperbola]
  rw [Tone.joinedValue, middle]
  simp [Tone.gain, Tone.envelope, Tone.secant, Tone.angle, Tone.sechAngle, Tone.total, Tone.phases, Tone.carrier, Tone.ends,
    Tone.moved, hyperbola, maxCode]
  ring_nf

lemma placed_hyperbola {d : ℕ} (room : d + 2 ≤ n) : Placed n [hyperbola.moved d] := by
  refine placed_single ⟨?_, ?_, ?_⟩ (by simp [Tone.moved, hyperbola]) (by simp [Tone.moved, hyperbola, Shape.Plain])
  all_goals
    simp only [Tone.moved, hyperbola]
    omega

lemma mono_hyperbola {d : ℕ} (room : d + 2 ≤ n) : ∃ m, (carry (monoBuffer 1250 0 .noName n [hyperbola.moved d]) 0).1 = .ok m ∧
    m[d + 1]? = some (sampled (32767 * Real.sin (Real.pi / 2 + d * (Real.pi / 32)))) := by
  have fixed : Tone.isRandom (hyperbola.moved d) = false := by
    have := Real.pi_le_four
    have off : Real.pi / 2 - Real.pi / 32 - 1000 ≠ 0 := by linarith
    simpa [Tone.isRandom, Tone.moved, hyperbola] using off
  have cuts : (hyperbola.moved d).Cuts 1250 := fun t _ => ⟨_, truncate_eq _⟩
  obtain ⟨m, built, spread⟩ := (placed_hyperbola room).monoBuffer (by simpa using fixed) (by simp [Tone.moved, hyperbola])
    (by simpa using cuts) 0 .noName 0
  have sample := spread.samples (hyperbola.moved d) (by simp) rfl 1 (by simp [Tone.moved, hyperbola])
  rw [joinedValue_hyperbola] at sample
  refine ⟨m, by rw [built], ?_⟩
  rw [← sample]
  simp [Tone.moved, hyperbola]

/-- Moved by 32 samples, a hyperbolic sweep can change its sign. -/
theorem hyperbola_changes : ∃ m m', (carry (monoBuffer 1250 0 .noName 32 [hyperbola.moved 0]) 0).1 = .ok m ∧
    (carry (monoBuffer 1250 0 .noName 64 [hyperbola.moved 32]) 0).1 = .ok m' ∧
    m[1]? = some 32767 ∧ m'[32 + 1]? = some (-32767) := by
  obtain ⟨m, built, first⟩ := mono_hyperbola (n := 32) (d := 0) (by decide)
  obtain ⟨m', built', second⟩ := mono_hyperbola (n := 64) (d := 32) (by decide)
  have up : (32767 : ℝ) * Real.sin (Real.pi / 2 + (0 : ℕ) * (Real.pi / 32)) = ((32767 : ℤ) : ℝ) := by
    simp
  have down : (32767 : ℝ) * Real.sin (Real.pi / 2 + (32 : ℕ) * (Real.pi / 32)) = ((-32767 : ℤ) : ℝ) := by
    rw [show Real.pi / 2 + (32 : ℕ) * (Real.pi / 32) = Real.pi / 2 + Real.pi by push_cast; ring, Real.sin_add_pi,
      Real.sin_pi_div_two]
    norm_num
  rw [up, sampled, truncate_eq, cut_intCast] at first
  rw [down, sampled, truncate_eq, cut_intCast] at second
  exact ⟨m, m', built, built', first, second⟩

end EprBench.Waveform
