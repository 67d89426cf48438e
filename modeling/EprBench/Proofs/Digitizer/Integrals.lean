import EprBench.Proofs.Digitizer.Sessions
import EprBench.Proofs.Quantity

/-! Curves that are averaged over many shots, and their integrals. In exact numbers each integral is the area under
the curve that would have been shown, or under a window of it. -/
namespace EprBench.Digitizer

open Quantity List Outcome

variable {β γ : Type} {k m n : ℕ}

/-! ### Segments -/

lemma map_rows (g : β → γ) (m k : ℕ) (xs : List β) : (rows m k xs).map (List.map g) = rows m k (xs.map g) := by
  induction k generalizing xs with
  | zero => rfl
  | succ k ih => rw [rows, rows, map_cons, ih, map_take, map_drop]

lemma addRows_rows {first xs : List ℚ} (length : first.length = m) (size : xs.length = k * m) :
    addRows first (rows m k xs) =
      (List.range m).map fun i => first.getD i 0 + ∑ j ∈ Finset.range k, xs.getD (j * m + i) 0 := by
  induction k generalizing first xs with
  | zero =>
    refine ext_getElem (by simpa [rows, addRows] using length) fun i here _ => ?_
    have here : i < first.length := here
    simp [rows, addRows, here]
  | succ k ih =>
    have room : m ≤ xs.length := by rw [size]; exact Nat.le_mul_of_pos_left m k.succ_pos
    have step : (List.zipWith (· + ·) first (xs.take m)).length = m := by simp [length, room]
    have rest : (xs.drop m).length = k * m := by rw [length_drop, size, Nat.succ_mul, Nat.add_sub_cancel]
    refine (ih step rest).trans (map_congr_left fun i during => ?_)
    have small := mem_range.mp during
    have here : (List.zipWith (· + ·) first (xs.take m)).getD i 0 = first.getD i 0 + xs.getD i 0 := by
      simp [getD_eq_getElem?_getD, small, length, small.trans_le room]
    have there (j : ℕ) : (xs.drop m).getD (j * m + i) 0 = xs.getD ((j + 1) * m + i) 0 := by
      simp only [getD_eq_getElem?_getD, getElem?_drop]
      congr 2
      ring
    rw [here, Finset.sum_range_succ', add_assoc, add_comm (xs.getD i 0)]
    simp only [there, Nat.zero_mul, Nat.zero_add]

lemma length_rows (m k : ℕ) (xs : List β) : (rows m k xs).length = k := by
  induction k generalizing xs with
  | zero => rfl
  | succ k ih => rw [rows, length_cons, ih]

lemma meanOf_rows (some : 0 < m) (f : ℕ → ℤ) :
    meanOf m ((rows m k ((List.range (k * m)).map f)).map (List.map fun n => (ofInt n : ℚ))) =
      .ok ((List.range m).map fun i => (∑ j ∈ Finset.range k, (f (j * m + i) : ℚ)) / k) := by
  rw [meanOf, if_neg some.ne', mean, map_rows, length_rows, addRows_rows (by simp) (by simp), map_map]
  refine congrArg Except.ok (map_congr_left fun i during => ?_)
  have place (j : ℕ) (early : j ∈ Finset.range k) : j * m + i < k * m :=
    calc j * m + i < (j + 1) * m := by rw [Nat.succ_mul]; exact Nat.add_lt_add_left (mem_range.mp during) _
      _ ≤ k * m := Nat.mul_le_mul_right m (Finset.mem_range.mp early)
  have each : ∀ j ∈ Finset.range k,
      (((List.range (k * m)).map f).map fun n => (ofInt n : ℚ)).getD (j * m + i) 0 = f (j * m + i) :=
    fun j early => by simp [getElem?_range (place j early)]
  have none : (List.replicate m (zero : ℚ)).getD i 0 = 0 := by simp [mem_range.mp during]
  rw [Function.comp_apply, none, zero_add, Finset.sum_congr rfl each]
  rfl

lemma meanBoth_map_range {points shots : ℕ} (some : 0 < points) (f : ℕ → ℤ) :
    meanBoth shots points ((List.range (shots * (2 * points))).map f) =
      .ok ((List.range (2 * points)).map fun i => (∑ j ∈ Finset.range shots, (f (j * (2 * points) + i) : ℚ)) / shots) := by
  have parts : segments shots (2 * points) ((List.range (shots * (2 * points))).map f) =
      .ok (rows (2 * points) shots ((List.range (shots * (2 * points))).map f)) := if_pos (by simp)
  rw [meanBoth, parts]
  exact meanOf_rows (Nat.mul_pos two_pos some) f

lemma getElem?_everySecond : ∀ (xs : List β) (i : ℕ), (everySecond xs)[i]? = xs[2 * i]?
  | [], _ | [_], 0 | [_], _ + 1 => by simp [everySecond]
  | _ :: _ :: _, 0 => rfl
  | _ :: _ :: xs, i + 1 => by simpa [everySecond, Nat.mul_add] using getElem?_everySecond xs i

/-- Where the samples of a channel stand in turn. -/
def Channel.place : Channel → ℕ
  | .first => 0
  | .second => 1

lemma lane_map_range (c : Channel) (f : ℕ → β) (n : ℕ) :
    lane c ((List.range (2 * n)).map f) = (List.range n).map fun i => f (2 * i + c.place) := by
  refine List.ext_getElem? fun i => ?_
  by_cases inside : i < n
  · have even : 2 * i < 2 * n := by omega
    have odd : 2 * i + 1 < 2 * n := by omega
    cases c <;> simp [lane, getElem?_everySecond, Channel.place, inside, even, odd]
  · have odd : 2 * n ≤ 2 * i + 1 := by omega
    cases c <;> simp [lane, getElem?_everySecond, inside, odd]

/-! ### Recordings -/

namespace Recorder

variable {r : Recorder} {b : Bench}

/-- Sample number `i` of those that the card delivers. -/
def sample (r : Recorder) (b : Bench) (i : ℕ) : ℤ :=
  (b.samples.getD (i % b.samples.size) 0).bmod (twoTo (8 * r.model.sampleBytes))

structure Sized (r : Recorder) (points shots : ℕ) : Prop where
  averaging : r.averaging = true
  points_eq : r.points = points
  shots_eq : r.averages = shots
  points_pos : 0 < points
  shots_pos : 0 < shots
  wide : 0 < r.model.sampleBytes
  room : points * shots * (r.model.sampleBytes * r.inputs.count) < twoTo 64

variable {points shots : ℕ}

lemma Sized.delivered_eq (sized : r.Sized points shots) :
    r.delivered b r.bytes.toNat = (List.range (shots * (points * r.inputs.count))).map (r.sample b) := by
  have bytes : r.bytes = (points * shots * (r.model.sampleBytes * r.inputs.count) : ℕ) := by
    rw [bytes, memory, if_pos sized.averaging, sized.points_eq, sized.shots_eq]
    exact_mod_cast Nat.mod_eq_of_lt sized.room
  have count : points * shots * (r.model.sampleBytes * r.inputs.count) / r.model.sampleBytes =
      shots * (points * r.inputs.count) := by
    rw [show points * shots * (r.model.sampleBytes * r.inputs.count) =
      r.model.sampleBytes * (shots * (points * r.inputs.count)) by ring, Nat.mul_div_cancel_left _ sized.wide]
  rw [delivered, bytes, Int.toNat_natCast, count]
  rfl

lemma wanted_false : wanted (.bool false) = .ok .curve := by decide +kernel

/-- The curve of a channel in volts: each point is the mean over all shots. -/
def meanCurve (r : Recorder) (b : Bench) (points shots : ℕ) (amplitude fullScale : ℤ) (c : Channel) : List ℚ :=
  (List.range points).map fun k =>
    amplitude / (1000 * fullScale) * ((∑ j ∈ Finset.range shots, (r.sample b (2 * (j * points + k) + c.place) : ℚ)) / shots)

/-- **With both channels each point of a curve is the mean of its samples over all shots.** With one channel there is no curve,
whatever was recorded. -/
theorem evaluate_averaging (sized : r.Sized points shots) (b : Bench) (rate : ℚ) (fullScale : ℤ) :
    r.evaluate rate (.bool false) fullScale (r.delivered b r.bytes.toNat) = match r.inputs with
      | .both => .ok (.curves (Scale.times ⟨r.range0, r.range1, fullScale, rate⟩ points)
          (r.meanCurve b points shots r.range0 fullScale .first) (r.meanCurve b points shots r.range1 fullScale .second))
      | .one _ => .error .wrongValue := by
  rw [evaluate, sized.averaging, sized.points_eq, sized.shots_eq, wanted_false, sized.delivered_eq]
  cases r.inputs with
  | both =>
    have volts (c : Channel) (amplitude : ℤ) (known : Scale.range ⟨r.range0, r.range1, fullScale, rate⟩ c = amplitude) :
        (lane c ((List.range (2 * points)).map fun i =>
          (∑ j ∈ Finset.range shots, (r.sample b (j * (2 * points) + i) : ℚ)) / shots)).map
            (Scale.volts ⟨r.range0, r.range1, fullScale, rate⟩ c) = r.meanCurve b points shots amplitude fullScale c := by
      rw [lane_map_range, map_map, meanCurve]
      refine map_congr_left fun k _ => ?_
      have place (j : ℕ) : j * (2 * points) + (2 * k + c.place) = 2 * (j * points + k) + c.place := by ring
      simp only [Function.comp_apply, Scale.volts, Scale.fullRange, known, ofInt_eq, place]
      push_cast
      ring
    show (meanBoth shots points ((List.range (shots * (points * 2))).map (r.sample b)) >>= _) = _
    rw [Nat.mul_comm points, meanBoth_map_range sized.points_pos, ok_bind]
    simp only [volts .first _ rfl, volts .second _ rfl]
    rw [meanCurve, length_map, length_range]
    rfl
  | one c =>
    have less : shots * points / 2 < shots * points := Nat.div_lt_self (Nat.mul_pos sized.shots_pos sized.points_pos) one_lt_two
    have parts {codes : List ℤ} (size : codes.length = shots * points) :
        segments shots points (codes.take (codes.length / 2)) = .error .wrongValue :=
      if_neg (by simpa [size] using less)
    show ((segments shots points _ >>= _) >>= _) = _
    rw [parts (by simp [Inputs.count])]
    rfl

/-- Two shots of 128 points. -/
def averager (inputs : Inputs) : Recorder := { ofModel m4i4450 .live with averaging := true, inputs }

theorem evaluate_averager : (averager .both).Sized 128 2 ∧ ∀ b : Bench,
    (averager .both).evaluate (500 : ℚ) (.bool false) 8191 ((averager .both).delivered b (averager .both).bytes.toNat) =
      .ok (.curves (Scale.times ⟨500, 500, 8191, 500⟩ 128)
        ((averager .both).meanCurve b 128 2 500 8191 .first) ((averager .both).meanCurve b 128 2 500 8191 .second)) := by
  have sized : (averager .both).Sized 128 2 := ⟨rfl, rfl, rfl, by decide, by decide, by decide, by decide⟩
  exact ⟨sized, fun b => evaluate_averaging sized b 500 8191⟩

/-- Two shots of one point with one channel make no curve. -/
theorem evaluate_one_channel :
    evaluate { averager (.one .first) with points := 1 } (500 : ℚ) (.bool false) 8191 [3, 5] = .error .wrongValue := by
  rw [evaluate, wanted_false]
  rfl

end Recorder

end EprBench.Digitizer

namespace EprBench

open List Outcome

/-! ### Exact sums -/

namespace Quantity

variable {β : Type} {m k : ℕ}

lemma runningSum_eq (start : ℚ) (xs : List ℚ) : runningSum start xs = start + xs.sum := by
  induction xs generalizing start with
  | nil => simp [runningSum]
  | cons x xs ih =>
    have step : runningSum start (x :: xs) = runningSum (start + x) xs := rfl
    rw [step, ih, sum_cons, add_assoc]

lemma joinLanes_eq (xs : List ℚ) : joinLanes xs = xs.sum := by
  unfold joinLanes
  split
  · simp only [sum_cons, sum_nil]
    ring
  · simp [runningSum_eq]

lemma sum_addRows_rows {first xs : List ℚ} (length : first.length = m) (size : k * m ≤ xs.length) :
    (addRows first (rows m k xs)).sum = first.sum + (xs.take (k * m)).sum := by
  induction k generalizing first xs with
  | zero => simp [rows, addRows]
  | succ k ih =>
    rw [Nat.succ_mul, Nat.add_comm (k * m)] at size ⊢
    have same : first.length = (xs.take m).length := by simp [length]; omega
    have step : addRows first (rows m (k + 1) xs) = addRows (List.zipWith (· + ·) first (xs.take m)) (rows m k (xs.drop m)) := rfl
    rw [step, ih (by simp [length]; omega) (by simp; omega), ← sum_add_sum_eq_sum_zipWith_of_length_eq _ _ same,
      take_add, sum_append, add_assoc]

lemma laneSum_eq (xs : List ℚ) : laneSum xs = xs.sum := by
  have size : xs.length / 8 * 8 ≤ xs.length := Nat.div_mul_le_self _ _
  rw [laneSum]
  generalize xs.length / 8 = full at size
  cases full with
  | zero => simp [rows, runningSum_eq]
  | succ k =>
    rw [Nat.succ_mul, Nat.add_comm] at size
    dsimp only [rows]
    rw [runningSum_eq, joinLanes_eq, sum_addRows_rows (by simp; omega) (by simp; omega), ← sum_append, ← take_add,
      Nat.mul_comm 8, Nat.succ_mul, Nat.add_comm (k * 8), sum_take_add_sum_drop]

lemma sum_eq (xs : List ℚ) : sum xs = xs.sum := by
  induction xs using sum.induct with
  | case1 xs short => rw [sum, if_pos short, runningSum_eq, zero_eq, zero_add]
  | case2 xs long half ih₁ ih₂ => rw [sum, if_neg long, dif_pos half, ih₁, ih₂, sum_take_add_sum_drop]
  | case3 xs long whole => rw [sum, if_neg long, dif_neg whole, laneSum_eq]

end Quantity

namespace Digitizer

open Quantity

variable {β γ : Type}

lemma sum_range_mul (g : ℕ → ℚ) (shots points : ℕ) :
    ∑ n ∈ Finset.range (shots * points), g n = ∑ i ∈ Finset.range points, ∑ j ∈ Finset.range shots, g (j * points + i) := by
  induction shots with
  | zero => simp
  | succ shots ih => simp only [Nat.succ_mul, Finset.sum_range_add, Finset.sum_range_succ, Finset.sum_add_distrib, ih]

lemma sum_lane_means {points shots : ℕ} (c : Channel) (f : ℕ → ℤ) :
    (lane c ((List.range (2 * points)).map fun i => (∑ j ∈ Finset.range shots, (f (j * (2 * points) + i) : ℚ)) / shots)).sum =
      total (lane c ((List.range (shots * (2 * points))).map f)) / shots := by
  have place (i j : ℕ) : j * (2 * points) + (2 * i + c.place) = 2 * (j * points + i) + c.place := by ring
  have whole : ((total ((List.range (shots * points)).map fun n => f (2 * n + c.place)) : ℤ) : ℚ) =
      ∑ n ∈ Finset.range (shots * points), (f (2 * n + c.place) : ℚ) := by
    rw [total, ← sum_eq_foldl]
    exact map_sum (Int.castRingHom ℚ) (fun n => f (2 * n + c.place)) (Finset.range (shots * points))
  rw [Nat.mul_left_comm, lane_map_range, lane_map_range, whole, sum_range_mul, Finset.sum_div]
  simp only [place]
  rfl

/-- The area under a curve that was recorded at a rate in megahertz, in volt seconds. -/
def area (rate : ℚ) (values : List ℚ) : ℚ := values.sum * (10 ^ (-6 : ℤ) / rate)

lemma cut_map (w : Window) (g : β → γ) (xs : List β) : w.cut (xs.map g) = (w.cut xs).map g := by
  simp [Window.cut, Text.slice, map_take, map_drop]

namespace Scale

variable {s : Scale ℚ}

lemma sum_map_volts (c : Channel) (xs : List ℚ) : (xs.map (s.volts c)).sum = xs.sum * s.fullRange c / s.fullScale := by
  induction xs with
  | nil => simp
  | cons x xs ih =>
    rw [map_cons, sum_cons, ih, sum_cons, volts, ofInt_eq]
    ring

lemma integrate_eq (runs : s.rate ≠ 0) (c : Channel) (x : ℚ) (weight : ℤ) :
    s.integrate c x weight = .ok (x * (10 ^ (-6 : ℤ) / s.rate) * s.fullRange c / weight) := by
  have away : isZero s.rate = false := by
    rw [isZero, le_eq, le_eq, zero_eq, Bool.and_eq_false_iff, decide_eq_false_iff_not, decide_eq_false_iff_not, not_le, not_le]
    exact (lt_or_gt_of_ne runs).symm
  have step : s.step = .ok (10 ^ (-6 : ℤ) / s.rate) := by
    have millionth : (decimal 1 6 : ℚ) = 10 ^ (-6 : ℤ) := by
      show ((1 : ℕ) : ℚ) / 10 ^ 6 = 10 ^ (-6 : ℤ)
      norm_num
    rw [Scale.step, quotient, away, if_neg Bool.false_ne_true, millionth]
  rw [integrate, step]
  rfl

lemma integrate_cut (runs : s.rate ≠ 0) (c : Channel) (w : Window) (values : List ℚ) :
    s.integrate c (Quantity.sum (w.cut (lane c values))) s.fullScale =
      .ok (area s.rate (w.cut ((lane c values).map (s.volts c)))) := by
  rw [integrate_eq runs, sum_eq, cut_map, area, sum_map_volts]
  congr 1
  ring

def curveOf (s : Scale ℚ) (values : List ℚ) (c : Channel) : List ℚ := (lane c values).map (s.volts c)

variable {averages points : ℤ} {codes : List ℤ} {values : List ℚ} {read : Bool} {w : Window}

lemma averagedBoth_curve (means : meanBoth averages points codes = .ok values) :
    s.averagedBoth .curve read w averages points codes =
      .ok (.curves (s.times (s.curveOf values .first).length) (s.curveOf values .first) (s.curveOf values .second)) := by
  simp only [averagedBoth, means, ok_bind]
  rfl

lemma averagedBoth_window (runs : s.rate ≠ 0) (means : meanBoth averages points codes = .ok values) :
    s.averagedBoth .integral true w averages points codes =
      .ok (.integrals (area s.rate (w.cut (s.curveOf values .first))) (area s.rate (w.cut (s.curveOf values .second)))) := by
  simp only [averagedBoth, if_true, means, ok_bind, integrate_cut runs]
  rfl

lemma averagedBoth_whole (runs : s.rate ≠ 0) (sums : ∀ c, (lane c values).sum = total (lane c codes) / averages) :
    s.averagedBoth .integral false w averages points codes =
      .ok (.integrals (area s.rate (s.curveOf values .first)) (area s.rate (s.curveOf values .second))) := by
  have scaled (c : Channel) : (total (lane c codes) : ℚ) * (10 ^ (-6 : ℤ) / s.rate) * s.fullRange c /
      ((s.fullScale * averages : ℤ) : ℚ) = area s.rate (s.curveOf values c) := by
    rw [area, curveOf, sum_map_volts, sums, Int.cast_mul]
    ring
  simp only [averagedBoth, Bool.false_eq_true, if_false, integrate_eq runs, ofInt_eq, scaled, ok_bind]
  rfl

lemma averagedBoth_both (runs : s.rate ≠ 0) (means : meanBoth averages points codes = .ok values) :
    s.averagedBoth .curveAndIntegral read w averages points codes =
      .ok (.curvesAndIntegrals (s.times (s.curveOf values .first).length) (s.curveOf values .first) (s.curveOf values .second)
        (area s.rate (w.cut (s.curveOf values .first))) (area s.rate (w.cut (s.curveOf values .second)))) := by
  simp only [averagedBoth, means, ok_bind, integrate_cut runs]
  rfl

end Scale

namespace Recorder

variable {r : Recorder} {points shots : ℕ} {codes : List ℤ}

/-- What the integral of a curve is taken of. -/
def integrated (read : Bool) (w : Window) (values : List ℚ) : List ℚ := if read then w.cut values else values

/-- **Integrals are areas under the curves.** Whatever was asked of a digitizer before and whatever its card delivers for the
averaged curves of both channels, the integrals that come with the curves are the areas under their windows. So are the
integrals alone once the panel was read; before, they are the areas under the whole curves. -/
theorem integrals_are_areas (m : Model) (rs : List Request) (b : Bench) (made : after m rs b = r) (averaging : r.averaging = true)
    (both : r.inputs = .both) (length : r.points = points) (number : r.averages = shots) (some : 0 < points)
    (size : codes.length = shots * (2 * points)) {rate : ℚ} (runs : rate ≠ 0) (fullScale : ℤ) :
    ∃ times first second, r.evaluate rate (.bool false) fullScale codes = .ok (.curves times first second) ∧
      r.evaluate rate (.bool true) fullScale codes =
        .ok (.integrals (area rate (integrated (rs.any readsPanel) r.window first))
          (area rate (integrated (rs.any readsPanel) r.window second))) ∧ r.evaluate rate "Both" fullScale codes =
        .ok (.curvesAndIntegrals times first second (area rate (r.window.cut first)) (area rate (r.window.cut second))) := by
  have read : r.panelRead = rs.any readsPanel := by
    rw [← made, after, panelRead_session]
    exact Bool.false_or _
  have integral : wanted (.bool true) = .ok .integral := by decide +kernel
  have whole : wanted "Both" = .ok .curveAndIntegral := by decide +kernel
  obtain ⟨f, rfl⟩ : ∃ f, codes = (List.range (shots * (2 * points))).map f := by
    refine ⟨fun i => codes.getD i 0, ?_⟩
    rw [← size]
    exact ext_getElem (by simp) fun i inside _ => by simp [inside]
  have means := @meanBoth_map_range points shots some f
  rw [← read]
  simp only [evaluate, averaging, both, length, number, wanted_false, integral, whole, ok_bind, Bool.not_true,
    Bool.false_eq_true, if_false]
  refine ⟨_, _, _, Scale.averagedBoth_curve means, ?_, Scale.averagedBoth_both runs means⟩
  cases r.panelRead with
  | true => exact Scale.averagedBoth_window runs means
  | false => exact Scale.averagedBoth_whole runs fun c => sum_lane_means c f

/-- Two shots of 128 points, all samples alike, before the panel was read. -/
theorem integrals_of_level : ∃ times first second,
    (averager .both).evaluate (500 : ℚ) (.bool false) 8191 (List.replicate 512 7) = .ok (.curves times first second) ∧
      (averager .both).evaluate (500 : ℚ) (.bool true) 8191 (List.replicate 512 7) =
        .ok (.integrals (area 500 first) (area 500 second)) := by
  have length : (averager .both).points = (128 : ℕ) := rfl
  have number : (averager .both).averages = (2 : ℕ) := rfl
  have size : (List.replicate 512 (7 : ℤ)).length = 2 * (2 * 128) := length_replicate
  have runs : (500 : ℚ) ≠ 0 := by norm_num
  obtain ⟨times, first, second, curves, integrals, -⟩ := integrals_are_areas m4i4450 [⟨"digitizer_card_mode", ["Average"], []⟩]
    {} rfl rfl rfl length number (by decide) size runs 8191
  exact ⟨times, first, second, curves, integrals⟩

end Recorder

end Digitizer
end EprBench
