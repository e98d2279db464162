import MedianCalculation.Shoot

/-!
# The catalog file

`write_tocsv` (`run_random_vector.cpp`) writes `result` to `vector_output.csv`: a header line,
then one line per element of `result`, in order, with `id` counting from `0`.  A line holds the
id, the vector's intercepts and slopes, the SNR, the total signal and the frame count, each
followed by a comma, so every line ends in `",\n"`.

The file is modelled as what the loop inserts into the stream, line by line, before the stream
formats it: a `CsvItem` is a string, a character, an integer or a `double`.  How `std::ofstream`
prints a `double` (six significant digits by default) is one function applied to every such
item, and is not modelled.

## What is here

* `csvRow`, `csvRows`, `writeTocsv` — the loop as the source writes it.
* `writeTocsv_rows` — for any `result`, the file has the header and then one line per entry,
  line `i + 1` being entry `i` with the id `i`.
* `shootVector_catalog` — with `shootVector_result`: the file of a finished run of
  `shoot_vector` has the header and then `N` lines, one per index below `N`, and the line for
  index `i` carries the vector drawn for `i` and `vector_info` of its walk.
-/

set_option autoImplicit false

namespace MedianCalculation

/-- What `write_tocsv` inserts into the stream: a string, a character, an integer, or a `double`
(`none` for NaN). -/
inductive CsvItem (α : Type)
  | str (s : String)
  | char (c : Char)
  | int (n : Int)
  | real (x : Option α)
  deriving DecidableEq, Repr

/-- The header line. -/
def csvHeader : String :=
  "ID,X_INTERCEPT,Y_INTERCEPT,X_SLOPE,Y_SLOPE,SNR,SUM,NUMBER_OF_FRAMES_HIT\n"

variable {α : Type}

/-- One pass of `for (auto& row : result)`: the id and the seven fields of `row`, each followed by
a comma, then the end of the line. -/
def csvRow (id : Nat) (row : Entry α) : List (CsvItem α) :=
  [.int id, .char ',', .real (some row.1.xIntercept), .char ',', .real (some row.1.yIntercept),
    .char ',', .real (some row.1.xSlope), .char ',', .real (some row.1.ySlope), .char ',',
    .real row.2.1, .char ',', .real (some row.2.2.1), .char ',', .int row.2.2.2, .char ',',
    .char '\n']

/-- The loop of `write_tocsv`, with `id` starting at the given value. -/
def csvRows : Nat → List (Entry α) → List (List (CsvItem α))
  | _, [] => []
  | id, row :: rest => csvRow id row :: csvRows (id + 1) rest

/-- `write_tocsv(result)`: the lines of `vector_output.csv`. -/
def writeTocsv (result : List (Entry α)) : List (List (CsvItem α)) :=
  [.str csvHeader] :: csvRows 0 result

@[simp] theorem length_csvRows (id : Nat) (result : List (Entry α)) :
    (csvRows id result).length = result.length := by
  induction result generalizing id with
  | nil => rfl
  | cons row rest ih => simp [csvRows, ih]

theorem csvRows_getElem? (id : Nat) (result : List (Entry α)) (i : Nat) :
    (csvRows id result)[i]? = result[i]?.map (csvRow (id + i)) := by
  induction result generalizing id i with
  | nil => rfl
  | cons row rest ih =>
    cases i with
    | zero => simp [csvRows]
    | succ i =>
      rw [csvRows, List.getElem?_cons_succ, ih, List.getElem?_cons_succ, Nat.add_right_comm]
      rfl

/-- **The lines of the file.**  The header, then one line per entry of `result`: line `i + 1`
is entry `i`, with the id `i`. -/
theorem writeTocsv_rows (result : List (Entry α)) :
    (writeTocsv result).length = result.length + 1 ∧
      (writeTocsv result)[0]? = some [.str csvHeader] ∧
      ∀ i, (writeTocsv result)[i + 1]? = result[i]?.map (csvRow i) := by
  refine ⟨by simp [writeTocsv], by simp [writeTocsv], fun i => ?_⟩
  rw [writeTocsv, List.getElem?_cons_succ, csvRows_getElem?, Nat.zero_add]

/-! ## The catalog of a run -/

section Catalog

variable {σ : Type} [LinearOrderedField α] [FloorRing α] {smp : Sampler σ α} {c : Cube α}
  {sqrt : α → α} {env : Env} {loadSlopePdf : String → Except String Unit} {n : Nat}
  {shares : List (List Nat)} {schedule : List Nat} {s : ShootState σ α}

/-- **The catalog of a run.**  At the end of any run of `shoot_vector` with `N ≤ INT_MAX`
vectors — the indices split among any number of threads in any way, their actions interleaved
in any order — the file `write_tocsv` writes has the header and then `N` lines, the indices
drawn are `0 … N-1`, each exactly once, and the line for index `i` has the id `i` and carries
the vector drawn for `i` and `vector_info` of its walk. -/
theorem shootVector_catalog (hrun : ShootRun smp c sqrt env loadSlopePdf n shares schedule s)
    (hfin : s.pending = []) :
    (writeTocsv s.result).length = n + 1 ∧ (writeTocsv s.result)[0]? = some [.str csvHeader] ∧
      s.drawn.Perm (List.range n) ∧
      ∀ d ∈ s.draws, (writeTocsv s.result)[d.1 + 1]? = some (csvRow d.1 (entryOf c sqrt d.2.2)) := by
  obtain ⟨hlen, hperm, hstored⟩ := shootVector_result hrun hfin
  obtain ⟨hl, hhead, hrow⟩ := writeTocsv_rows s.result
  refine ⟨by rw [hl, hlen], hhead, hperm, fun d hd => ?_⟩
  rw [hrow, hstored d hd]
  rfl

/-- The catalog of the two-thread run. -/
theorem shootVector_catalog_twoThreads :
    ∃ s, ShootRun constSampler framelessCube id (fun _ => none) (fun _ => .ok ()) 2 [[1], [0]]
        [1, 0, 1, 0] s ∧ s.pending = [] ∧
      ((writeTocsv s.result).length = 2 + 1 ∧ (writeTocsv s.result)[0]? = some [.str csvHeader] ∧
        s.drawn.Perm (List.range 2) ∧
        ∀ d ∈ s.draws, (writeTocsv s.result)[d.1 + 1]? =
          some (csvRow d.1 (entryOf framelessCube id d.2.2))) := by
  obtain ⟨s, h, hfin, -⟩ := twoThreadStart_racing
  have hrun := twoThreadStart_run (fun _ => none) _ h
  exact ⟨s, hrun, hfin, shootVector_catalog hrun hfin⟩

end Catalog

end MedianCalculation
