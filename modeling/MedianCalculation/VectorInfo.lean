import MedianCalculation.Basic

/-!
# The statistics of one trajectory

`vector_info` (`run_random_vector.cpp`) folds the samples a walk along a trajectory produces into
a signal-to-noise ratio, the total signal and the number of frames hit.  Samples whose pixel is
NaN are skipped.  Each other sample `(v, n, e)` — value, number of pixels, exposure time — adds
`v` to the signal, `(v / 3) * n` to the background term, `n * 7² / e` to the readout term and
`0.417 * n` to the dark term; at the end

```
SNR = total_signal * sqrt(total_time) / sqrt(total_signal + total_B + total_D + total_R).
```

Before the loop, an empty walk (`iterator_begin == iterator_end`) returns `(0, 0, 0)`.

## What is here

* `SnrInfo`, `Totals`, `accumulate` and `vectorInfo` — the loop as the source writes it, over
  exact numbers.  The source adds up `total_signal` in the iterator's `value_type`, the pixel
  type `float`, and the other sums in `double`; every statement here is about the exact sums,
  which those roundings approximate.  Division meets a zero divisor in two places, the readout
  term and the final ratio; `divide` makes that a failure (`none`), which then makes the SNR
  `none` while the total signal and the frame count are still returned, as the source returns
  them with a NaN SNR.
* `foldl_accumulate` — the loop invariant: after any prefix of the walk, every accumulator is
  the sum of its term over the data samples read so far, wherever the NaN samples sit.
* `vectorInfo_signal_frames` — the total signal and the frame count need no assumption on the
  exposure times: they are the sum and the number of the data samples, for every walk.
* `vectorInfo_eq_snrClosedForm` — so the result is the spec's closed form, `snrClosedForm`.
* `vectorInfo_of_noData` — a walk with no data sample.  Only the empty walk takes the early
  return; any other ends in the final division with the divisor `sqrt 0`.
-/

set_option autoImplicit false

namespace MedianCalculation

/-- What `iterator.snr_info()` gives `vector_info` for one frame: the pixel value (`none` where
it is NaN), the number of pixels the value stands for, and the exposure time. -/
structure SnrInfo (α : Type) where
  value : Option α
  numPixels : Int
  expTime : α
  deriving DecidableEq, Repr

/-- The accumulators of `vector_info`'s loop.  `total_exposure` is declared and never used, so it
is left out; `totalR` is `none` once a readout term has been divided by a zero exposure time.
`frame_num` is an `int` in the source and is counted exactly here. -/
structure Totals (α : Type) where
  totalSignal : α
  totalB : α
  totalR : Option α
  totalD : α
  totalTime : α
  frameNum : Nat
  deriving DecidableEq, Repr

variable {α : Type}

/-- The data samples of a walk, as `(v, n, e)`, in order. -/
def dataSamples (infos : List (SnrInfo α)) : List (α × Int × α) :=
  infos.filterMap fun s => s.value.map fun v => (v, s.numPixels, s.expTime)

@[simp] theorem dataSamples_nil : dataSamples ([] : List (SnrInfo α)) = [] := rfl

theorem dataSamples_cons_none {s : SnrInfo α} (h : s.value = none) (rest : List (SnrInfo α)) :
    dataSamples (s :: rest) = dataSamples rest := by
  simp [dataSamples, h]

theorem dataSamples_cons_some {s : SnrInfo α} {v : α} (h : s.value = some v)
    (rest : List (SnrInfo α)) :
    dataSamples (s :: rest) = (v, s.numPixels, s.expTime) :: dataSamples rest := by
  simp [dataSamples, h]

variable [Field α] [DecidableEq α]

/-- The accumulators before the loop: all zero. -/
def Totals.init : Totals α := ⟨0, 0, some 0, 0, 0, 0⟩

/-- Division as `vector_info` does it, where a zero divisor is the failure. -/
def divide (a b : α) : Option α := if b = 0 then none else some (a / b)

@[simp] theorem divide_zero (a : α) : divide a 0 = none := if_pos rfl

theorem divide_of_ne {a b : α} (h : b ≠ 0) : divide a b = some (a / b) := if_neg h

/-- `dark_noise`, in electrons per pixel per second. -/
def darkNoise : α := 0.417

/-- `readout_noise`, in electrons. -/
def readoutNoise : α := 7

/-- One pass of the loop body of `vector_info`. -/
def accumulate (t : Totals α) (info : SnrInfo α) : Totals α :=
  match info.value with
  | none => t
  | some value =>
    { totalSignal := t.totalSignal + value
      frameNum := t.frameNum + 1
      totalB := t.totalB + value / 3 * (info.numPixels : α)
      totalR := do
        let r ← t.totalR
        let q ← divide ((info.numPixels : α) * readoutNoise ^ 2) info.expTime
        pure (r + q)
      totalD := t.totalD + darkNoise * (info.numPixels : α)
      totalTime := t.totalTime + info.expTime }

/-- `vector_info(iterator_begin, iterator_end)`: the SNR (`none` where a division met a zero
divisor), the total signal and the number of frames hit. -/
def vectorInfo (sqrt : α → α) (infos : List (SnrInfo α)) : Option α × α × Nat :=
  if infos.isEmpty then (some 0, 0, 0) else
    let t := infos.foldl accumulate Totals.init
    (do
      let totalR ← t.totalR
      divide (t.totalSignal * sqrt t.totalTime)
        (sqrt (t.totalSignal + t.totalB + t.totalD + totalR)),
      t.totalSignal, t.frameNum)

/-! ## The loop invariant -/

/-- **The loop invariant.**  Starting from any totals, the loop adds to each accumulator the sum
of its term over the data samples, provided no data sample has a zero exposure time. -/
theorem foldl_accumulate (infos : List (SnrInfo α)) (t : Totals α)
    (he : ∀ d ∈ dataSamples infos, d.2.2 ≠ 0) :
    infos.foldl accumulate t =
      { totalSignal := t.totalSignal + ((dataSamples infos).map (·.1)).sum
        totalB := t.totalB + ((dataSamples infos).map fun d => d.1 / 3 * (d.2.1 : α)).sum
        totalR := t.totalR.map
          (· + ((dataSamples infos).map fun d => (d.2.1 : α) * readoutNoise ^ 2 / d.2.2).sum)
        totalD := t.totalD + ((dataSamples infos).map fun d => darkNoise * (d.2.1 : α)).sum
        totalTime := t.totalTime + ((dataSamples infos).map (·.2.2)).sum
        frameNum := t.frameNum + (dataSamples infos).length } := by
  induction infos generalizing t with
  | nil => cases t; simp
  | cons s rest ih =>
    rcases hv : s.value with _ | v
    · rw [dataSamples_cons_none hv] at he ⊢
      rw [List.foldl_cons, show accumulate t s = t by simp [accumulate, hv], ih t he]
    · rw [dataSamples_cons_some hv] at he ⊢
      have hs : s.expTime ≠ 0 := he _ (List.mem_cons_self _ _)
      rw [List.foldl_cons, ih _ (fun d hd => he d (List.mem_cons_of_mem _ hd))]
      cases hr : t.totalR <;>
        simp [accumulate, hv, hr, divide_of_ne hs, add_assoc, Nat.add_comm 1]

/-- The total signal and the frame count involve no division: whatever the exposure times, the
loop adds the data samples' values and counts them. -/
theorem foldl_accumulate_signal (infos : List (SnrInfo α)) (t : Totals α) :
    (infos.foldl accumulate t).totalSignal = t.totalSignal + ((dataSamples infos).map (·.1)).sum ∧
      (infos.foldl accumulate t).frameNum = t.frameNum + (dataSamples infos).length := by
  induction infos generalizing t with
  | nil => simp
  | cons s rest ih =>
    rcases hv : s.value with _ | v
    · rw [dataSamples_cons_none hv, List.foldl_cons, show accumulate t s = t by simp [accumulate, hv]]
      exact ih t
    · obtain ⟨h1, h2⟩ := ih (accumulate t s)
      rw [dataSamples_cons_some hv, List.foldl_cons, h1, h2]
      simp only [accumulate, hv, List.map_cons, List.sum_cons, List.length_cons]
      exact ⟨add_assoc _ _ _, by omega⟩

/-- **The `SUM` and frame-count columns.**  For every walk, with any exposure times, `vector_info`
computed exactly returns as total signal the sum of the values that are not NaN, and as frame
count their number; only the SNR divides. -/
theorem vectorInfo_signal_frames (sqrt : α → α) (infos : List (SnrInfo α)) :
    (vectorInfo sqrt infos).2 = (((dataSamples infos).map (·.1)).sum, (dataSamples infos).length) := by
  unfold vectorInfo
  split
  · rename_i h
    simp [List.isEmpty_iff.1 h]
  · obtain ⟨h1, h2⟩ := foldl_accumulate_signal infos Totals.init
    simp only [h1, h2]
    simp [Totals.init]

/-! ## The closed form -/

/-- The spec's closed form, over the data samples only:
`SNR = Σv * sqrt(Σe) / sqrt(Σv + Σ(v/3)·n + Σ0.417·n + Σ49·n/e)`, with the total signal `Σv` and
the number of data samples. -/
def snrClosedForm (sqrt : α → α) (infos : List (SnrInfo α)) : Option α × α × Nat :=
  let d := dataSamples infos
  let sumV := (d.map fun s => s.1).sum
  let sumE := (d.map fun s => s.2.2).sum
  let sumB := (d.map fun s => s.1 / 3 * (s.2.1 : α)).sum
  let sumD := (d.map fun s => 0.417 * (s.2.1 : α)).sum
  let sumR := (d.map fun s => 49 * (s.2.1 : α) / s.2.2).sum
  (divide (sumV * sqrt sumE) (sqrt (sumV + sumB + sumD + sumR)), sumV, d.length)

/-- **`vector_info` computes the closed form.**  On every walk with a data sample, and no data
sample with a zero exposure time, the frame count is the number of data samples, the total
signal is their sum, and the SNR is the spec's formula, the NaN samples wherever they sit; where
the formula's divisor is zero, both are `none`. -/
theorem vectorInfo_eq_snrClosedForm (infos : List (SnrInfo ℝ))
    (hdata : ∃ s ∈ infos, s.value.isSome) (he : ∀ s ∈ infos, s.value.isSome → s.expTime ≠ 0) :
    vectorInfo Real.sqrt infos = snrClosedForm Real.sqrt infos := by
  have hne : infos.isEmpty = false := by
    obtain ⟨s, hs, -⟩ := hdata
    cases infos with
    | nil => simp at hs
    | cons => rfl
  have he' : ∀ d ∈ dataSamples infos, d.2.2 ≠ 0 := by
    intro d hd
    obtain ⟨s, hs, hsd⟩ := List.mem_filterMap.1 hd
    obtain ⟨v, hv, rfl⟩ := Option.map_eq_some'.1 hsd
    exact he s hs (by simp [hv])
  have hR : ∀ d ∈ dataSamples infos,
      (d.2.1 : ℝ) * readoutNoise ^ 2 / d.2.2 = 49 * (d.2.1 : ℝ) / d.2.2 :=
    fun d _ => by norm_num [readoutNoise, mul_comm]
  have hD : ∀ d ∈ dataSamples infos, darkNoise * (d.2.1 : ℝ) = 0.417 * (d.2.1 : ℝ) :=
    fun _ _ => rfl
  rw [vectorInfo, hne, if_neg Bool.false_ne_true, foldl_accumulate infos _ he', snrClosedForm,
    List.map_congr_left hR, List.map_congr_left hD]
  simp [Totals.init]

/-- The spec's worked example, with a frame out of range in the middle: a pixel of value `10` in
three frames of exposure `40`. -/
theorem vectorInfo_constant_walk :
    vectorInfo Real.sqrt [⟨some 10, 1, 40⟩, ⟨none, 1, 40⟩, ⟨some 10, 1, 40⟩, ⟨some 10, 1, 40⟩] =
      snrClosedForm Real.sqrt
        [⟨some 10, 1, 40⟩, ⟨none, 1, 40⟩, ⟨some 10, 1, 40⟩, ⟨some 10, 1, 40⟩] :=
  vectorInfo_eq_snrClosedForm _ ⟨_, List.mem_cons_self _ _, rfl⟩ (by norm_num)

/-! ## Walks with no data -/

/-- Without a data sample the loop changes nothing. -/
theorem foldl_accumulate_of_noData {infos : List (SnrInfo α)}
    (h : ∀ s ∈ infos, s.value = none) (t : Totals α) : infos.foldl accumulate t = t := by
  induction infos generalizing t with
  | nil => rfl
  | cons s rest ih =>
    rw [List.foldl_cons, show accumulate t s = t by
      simp [accumulate, h s (List.mem_cons_self _ _)]]
    exact ih (fun s' hs' => h s' (List.mem_cons_of_mem _ hs')) _

/-- **A walk with no data.**  Only the empty walk returns `(0, 0, 0)`.  Any other walk whose
samples are all NaN leaves every accumulator at zero and then evaluates the final division with
the divisor `sqrt 0`: its SNR is the zero-divisor failure, with signal `0` and no frames hit. -/
theorem vectorInfo_of_noData (infos : List (SnrInfo ℝ)) (h : ∀ s ∈ infos, s.value = none) :
    vectorInfo Real.sqrt infos = if infos = [] then (some 0, 0, 0) else (none, 0, 0) := by
  cases infos with
  | nil => rfl
  | cons s rest =>
    rw [vectorInfo, if_neg (by simp), if_neg (List.cons_ne_nil _ _),
      foldl_accumulate_of_noData h]
    simp [Totals.init]

theorem vectorInfo_of_noData_three :
    vectorInfo Real.sqrt [⟨none, 1, 40⟩, ⟨none, 1, 40⟩, ⟨none, 1, 40⟩] = (none, 0, 0) := by
  simpa using vectorInfo_of_noData [⟨none, 1, 40⟩, ⟨none, 1, 40⟩, ⟨none, 1, 40⟩] (by simp)

/-- A single frame out of range: the SNR is not `0` but the division by `sqrt 0`. -/
theorem vectorInfo_single_noData :
    vectorInfo Real.sqrt [⟨none, 1, 40⟩] = (none, 0, 0) := by
  simp [vectorInfo, accumulate, Totals.init]

end MedianCalculation
