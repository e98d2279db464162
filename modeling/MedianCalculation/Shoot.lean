import MedianCalculation.Cube
import MedianCalculation.VectorInfo
import MedianCalculation.Config

/-!
# Shooting the vectors

`shoot_vector` (`run_random_vector.cpp`) draws `num_random_vector` trajectories in an
`omp parallel` region.  Each thread seeds its own `std::mt19937` with `123 + thread`, sets up its
slope distribution and its two start distributions, and then takes part in the work-sharing loop
`for (int i = 0; i < num_random_vector; ++i)`.  How the iterations are split among the threads is
left to the OpenMP runtime; each iteration draws a vector, walks it through the cube with
`vector_info`, and stores the outcome in `result[i]`.

The model is a state machine.  A thread is a `Worker`: its generator state, its slope
distribution, the indices the loop gave it, in the order it runs them, and the update of
`total_execution_time` it has computed and not yet stored.  `step` runs one action of one thread
and `runSchedule` runs actions in the order a list of thread ids says, so that every split of
the indices among any number of threads, together with every interleaving of their actions, is
one run.  The threads share `result`, each writing its own indices, and `total_execution_time`,
which every iteration updates with `+=` and no synchronisation.  The C++ standard leaves such a
data race undefined; the model gives it what the hardware does with the `double`: the iteration
loads the counter and adds its time, and stores the sum in a later action of its thread, so an
update stored in between is lost.  So an iteration is two actions: the body with the load, then
the store.  The ghost log `draws` records what each iteration did, and the theorems are stated
with it.

## What is here

* `drawIndices` — the values the counter takes.  It is an `int`, so for `num_random_vector`
  above `INT_MAX` the loop reaches `++i` at `INT_MAX`, a signed overflow (`drawIndices_zero`,
  and `shootVector_int_overflow` for `NUM_VECTORS=2147483649`).
* `threadSlopeDistribution` — the `if` meant to switch to a `custom_distribution` declares one
  in its own scope, so every thread draws its slopes from `beta_distribution(3, 2)`
  (`shootVector_slopes_beta`).
* `ShootInv`, with `shootInv_init`, `shootInv_step` and `shootInv_run` — under any schedule the
  indices drawn and the indices pending are together a permutation of `0 … N-1`, every drawn
  index holds its own draw's outcome, and every pending one still holds the default.
* `shootVector_result` — so a finished run has drawn each index below `N` exactly once, and
  `result[i]` is what the draw for `i` computed.

What `total_execution_time` ends as, and what `result` is as a whole, is in `Serial`.
-/

set_option autoImplicit false

namespace MedianCalculation

/-! ## The loop counter -/

/-- The values the `int` counter of `for (int i = 0; i < num_random_vector; ++i)` takes from `i`
on, or `none` when the loop reaches `++i` at `INT_MAX`, which is undefined. -/
def drawIndices (n i : Nat) : Option (List Nat) :=
  if i < n then
    if i = intMax then none else (drawIndices n (i + 1)).map (i :: ·)
  else some []
termination_by n - i

theorem drawIndices_of_le {n : Nat} (hn : n ≤ intMax) (i : Nat) :
    drawIndices n i = some (List.range' i (n - i)) := by
  induction i using drawIndices.induct n with
  | case1 h => omega
  | case2 i hi hne ih =>
    rw [drawIndices, if_pos hi, if_neg hne, ih, show n - i = n - (i + 1) + 1 by omega,
      List.range'_succ]
    rfl
  | case3 i hi => rw [drawIndices, if_neg hi, show n - i = 0 by omega]; rfl

theorem drawIndices_of_lt {n : Nat} (hn : intMax < n) (i : Nat) (hi : i ≤ intMax) :
    drawIndices n i = none := by
  induction i using drawIndices.induct n with
  | case1 => rw [drawIndices, if_pos hn, if_pos rfl]
  | case2 i hi' hne ih => rw [drawIndices, if_pos hi', if_neg hne, ih (by omega)]; rfl
  | case3 i hi' => omega

/-- The loop runs over `0 … N-1` when `N ≤ INT_MAX`, and overflows its counter otherwise. -/
theorem drawIndices_zero (n : Nat) :
    drawIndices n 0 = if n ≤ intMax then some (List.range n) else none := by
  split_ifs with hn
  · rw [drawIndices_of_le hn, List.range_eq_range']; rfl
  · exact drawIndices_of_lt (by omega) 0 (Nat.zero_le _)

/-! ## The threads -/

/-- The slope distributions of the source. -/
inductive SlopeDistribution
  /-- `beta_distribution(a, b)`. -/
  | beta (a b : Nat)
  /-- `custom_distribution(file_name)`, the distribution tabulated in a file. -/
  | custom (fileName : String)
  deriving DecidableEq, Repr

/-- The slope distribution a thread of `shoot_vector` draws from.  The `if` declares a
`custom_distribution` of its own: it is constructed, reading the file and aborting if it cannot,
and destroyed at the end of the `if`.  The loop's `slope_distribution` is the
`beta_distribution` declared before the `if`.  `loadSlopePdf` is the constructor of
`custom_distribution`, whose header is not among the sources. -/
def threadSlopeDistribution (env : Env) (loadSlopePdf : String → Except String Unit) :
    Except String SlopeDistribution :=
  let slopeDistribution := SlopeDistribution.beta 3 2
  match env "SLOPE_PDF_FILE" with
  | some slopeFilename => (loadSlopePdf slopeFilename).map fun _ => slopeDistribution
  | none => .ok slopeDistribution

/-- Whatever the environment, a thread that sets up draws from `beta_distribution(3, 2)`. -/
theorem threadSlopeDistribution_eq_ok {env : Env} {loadSlopePdf : String → Except String Unit}
    {dist : SlopeDistribution} (h : threadSlopeDistribution env loadSlopePdf = .ok dist) :
    dist = .beta 3 2 := by
  unfold threadSlopeDistribution at h
  split at h
  · cases hl : loadSlopePdf _ <;> rw [hl] at h <;> cases h; rfl
  · cases h; rfl

/-- What `shoot_vector` takes from outside the sources, whose headers are not among them: the
random sources, and the clock.  A thread's state `σ` holds its `std::mt19937` and whatever its
slope distribution draws with. -/
structure Sampler (σ α : Type) where
  /-- The state of a thread whose `std::mt19937 rnd_engine` is seeded with `seed`. -/
  seed : Nat → σ
  /-- `slope_distribution()`: the two slopes. -/
  slopes : SlopeDistribution → σ → (α × α) × σ
  /-- `std::uniform_int_distribution<int>(0, size - 1)` applied to `rnd_engine`. -/
  start : Nat → σ → Int × σ
  /-- `utility::elapsed_time_sec(start)` at the end of iteration `i`: the seconds it took. -/
  elapsedTimeSec : Nat → α

/-- A thread inside the `omp for`. -/
structure Worker (σ α : Type) where
  rnd : σ
  slopeDistribution : SlopeDistribution
  /-- The indices the work-sharing loop gave this thread and it has not run yet, in order. -/
  todo : List Nat
  /-- The sum `total_execution_time + elapsed` this thread's `+=` has computed and not stored. -/
  update : Option α

/-- An element of `result`: the vector, and the SNR, total signal and frame count `vector_info`
gave for it. -/
abbrev Entry (α : Type) := VectorXY α × Option α × α × Nat

/-- An element of `result` as `result(num_random_vector)` value-initializes it. -/
def entryDefault {α : Type} [Zero α] : Entry α := (⟨0, 0, 0, 0⟩, some 0, 0, 0)

/-- The state of the parallel region. -/
structure ShootState (σ α : Type) where
  result : List (Entry α)
  workers : List (Worker σ α)
  /-- Every iteration run so far, in order: its index, the distribution its slopes came from,
  and its vector.  The source keeps no such record. -/
  draws : List (Nat × SlopeDistribution × VectorXY α)
  totalExecutionTime : α

namespace ShootState

variable {σ α : Type}

/-- The indices not drawn yet, over all threads. -/
def pending (s : ShootState σ α) : List Nat := (s.workers.map Worker.todo).flatten

/-- The indices drawn so far, in the order drawn. -/
def drawn (s : ShootState σ α) : List Nat := s.draws.map Prod.fst

/-- Every thread has stored its last update of `total_execution_time`. -/
def Stored (s : ShootState σ α) : Prop := ∀ w ∈ s.workers, w.update = none

/-- Thread `t`, which is `w`, stores `v` into `total_execution_time`: the store of its `+=`. -/
def store (s : ShootState σ α) (t : Nat) (w : Worker σ α) (v : α) : ShootState σ α :=
  { s with workers := s.workers.set t { w with update := none }, totalExecutionTime := v }

/-- A store leaves every thread's share as it was. -/
theorem pending_store {s : ShootState σ α} {t : Nat} {w : Worker σ α} (hw : s.workers[t]? = some w)
    (v : α) : (s.store t w v).pending = s.pending :=
  congrArg List.flatten (map_set_of_eq Worker.todo hw rfl)

end ShootState

/-! ## One iteration -/

section Iteration

variable {σ α : Type} [LinearOrderedField α] [FloorRing α]

/-- Modelled from the spec: the walk `vector_info` is given, `cube_iterator_with_vector` from
`Δt = 0` to its end (its header is not among the sources).  Frame `k` gives the pixel at
`position(Δt(k))`, no data where that is out of range or NaN, one pixel, and the frame's
exposure time. -/
def walk (c : Cube α) (v : VectorXY α) : List (SnrInfo α) :=
  (List.range c.sizeK).map fun k =>
    let p := v.position ((c.timeOffset k).getD 0)
    ⟨if c.outOfRange p.1 p.2 k then none else c.getPixelValue p.1 p.2 k, 1,
      (c.exposuretime k).getD 0⟩

/-- The vector an iteration draws, in the source's order: the slopes, then `x`, then `y`. -/
def drawVector (smp : Sampler σ α) (c : Cube α) (w : Worker σ α) : VectorXY α × σ :=
  let slopes := smp.slopes w.slopeDistribution w.rnd
  let x := smp.start c.sizeX slopes.2
  let y := smp.start c.sizeY x.2
  (⟨slopes.1.1, x.1, slopes.1.2, y.1⟩, y.2)

/-- What an iteration stores for its vector: the vector and `vector_info` of its walk. -/
def entryOf (c : Cube α) (sqrt : α → α) (v : VectorXY α) : Entry α :=
  (v, vectorInfo sqrt (walk c v))

/-- Thread `t` takes its next action.  With an update of `total_execution_time` computed, it
stores it.  Otherwise it runs its next iteration: it draws a vector, walks it, stores the
outcome at the index at the head of its share, and loads the counter and adds the iteration's
time.  `none` when the thread has nothing left to do. -/
def step (smp : Sampler σ α) (c : Cube α) (sqrt : α → α) (s : ShootState σ α) (t : Nat) :
    Option (ShootState σ α) :=
  match s.workers[t]? with
  | none => none
  | some w =>
    match w.update, w.todo with
    | some v, _ => some (s.store t w v)
    | none, [] => none
    | none, i :: rest =>
      let d := drawVector smp c w
      some ⟨s.result.set i (entryOf c sqrt d.1),
        s.workers.set t ⟨d.2, w.slopeDistribution, rest,
          some (roundDouble (s.totalExecutionTime + smp.elapsedTimeSec i))⟩,
        s.draws ++ [(i, w.slopeDistribution, d.1)], s.totalExecutionTime⟩

/-- The actions run in the order `schedule` names the threads. -/
def runSchedule (smp : Sampler σ α) (c : Cube α) (sqrt : α → α) :
    ShootState σ α → List Nat → Option (ShootState σ α)
  | s, [] => some s
  | s, t :: schedule => (step smp c sqrt s t).bind fun s' => runSchedule smp c sqrt s' schedule

/-- The state at the start of the `omp for`: `result` value-initialized,
`total_execution_time` zero, and thread `t` seeded with `123 + t` and holding `shares[t]`. -/
def shootInit (smp : Sampler σ α) (env : Env) (loadSlopePdf : String → Except String Unit)
    (n : Nat) (shares : List (List Nat)) : Except String (ShootState σ α) :=
  (threadSlopeDistribution env loadSlopePdf).map fun dist =>
    ⟨List.replicate n entryDefault,
      shares.enum.map fun p => ⟨smp.seed (123 + p.1), dist, p.2, none⟩, [], 0⟩

/-- A run of `shoot_vector` with `num_random_vector = n`: the indices the loop runs over are split
into the threads' `shares` in any way, the threads' actions interleave as `schedule` says, and
`s` is the state reached. -/
def ShootRun (smp : Sampler σ α) (c : Cube α) (sqrt : α → α) (env : Env)
    (loadSlopePdf : String → Except String Unit) (n : Nat) (shares : List (List Nat))
    (schedule : List Nat) (s : ShootState σ α) : Prop :=
  ∃ space s₀, drawIndices n 0 = some space ∧ shares.flatten.Perm space ∧
    shootInit smp env loadSlopePdf n shares = .ok s₀ ∧ runSchedule smp c sqrt s₀ schedule = some s

variable {smp : Sampler σ α} {c : Cube α} {sqrt : α → α}

/-- Everything one action can do: store the thread's update, or run its next iteration. -/
theorem step_eq_some {s s' : ShootState σ α} {t : Nat} (h : step smp c sqrt s t = some s') :
    (∃ w v, s.workers[t]? = some w ∧ w.update = some v ∧ s' = s.store t w v) ∨
    (∃ w i rest, s.workers[t]? = some w ∧ w.update = none ∧ w.todo = i :: rest ∧
      s' = ⟨s.result.set i (entryOf c sqrt (drawVector smp c w).1),
        s.workers.set t ⟨(drawVector smp c w).2, w.slopeDistribution, rest,
          some (roundDouble (s.totalExecutionTime + smp.elapsedTimeSec i))⟩,
        s.draws ++ [(i, w.slopeDistribution, (drawVector smp c w).1)], s.totalExecutionTime⟩) := by
  unfold step at h
  split at h
  · cases h
  · rename_i w hw
    split at h
    · rename_i v hv
      exact .inl ⟨w, v, hw, hv, (Option.some.inj h).symm⟩
    · cases h
    · rename_i i rest hv hrest
      exact .inr ⟨w, i, rest, hw, hv, hrest, (Option.some.inj h).symm⟩

theorem runSchedule_cons (s : ShootState σ α) (t : Nat) (schedule : List Nat) :
    runSchedule smp c sqrt s (t :: schedule) =
      (step smp c sqrt s t).bind fun s' => runSchedule smp c sqrt s' schedule := rfl

theorem runSchedule_append (s : ShootState σ α) (a b : List Nat) :
    runSchedule smp c sqrt s (a ++ b) =
      (runSchedule smp c sqrt s a).bind fun s' => runSchedule smp c sqrt s' b := by
  induction a generalizing s with
  | nil => rfl
  | cons t a ih =>
    simp only [List.cons_append, runSchedule_cons, ih, Option.bind_assoc]

end Iteration

/-! ## The invariant -/

section Invariant

variable {σ α : Type} [LinearOrderedField α] [FloorRing α] {smp : Sampler σ α} {c : Cube α}
  {sqrt : α → α} {n : Nat}

/-- **The invariant of the loop**, for a run over `0 … N-1`. -/
structure ShootInv (c : Cube α) (sqrt : α → α) (n : Nat) (s : ShootState σ α) : Prop where
  /-- `result` keeps its `N` entries. -/
  length : s.result.length = n
  /-- Every index below `N` is drawn or pending, once, and no other index is. -/
  perm : (s.drawn ++ s.pending).Perm (List.range n)
  /-- A drawn index holds the outcome of its draw. -/
  stored : ∀ d ∈ s.draws, s.result[d.1]? = some (entryOf c sqrt d.2.2)
  /-- A pending index still holds the default. -/
  fresh : ∀ j ∈ s.pending, s.result[j]? = some entryDefault

omit [FloorRing α] in
/-- The set-up, when it does not abort, is the one `shootInit` builds from the distribution. -/
theorem shootInit_eq {env : Env} {loadSlopePdf : String → Except String Unit}
    {shares : List (List Nat)} {s : ShootState σ α}
    (h : shootInit smp env loadSlopePdf n shares = .ok s) :
    ∃ dist, threadSlopeDistribution env loadSlopePdf = .ok dist ∧
      s = ⟨List.replicate n entryDefault,
        shares.enum.map fun p => ⟨smp.seed (123 + p.1), dist, p.2, none⟩, [], 0⟩ := by
  unfold shootInit at h
  cases hd : threadSlopeDistribution env loadSlopePdf with
  | error e => rw [hd] at h; cases h
  | ok dist => rw [hd] at h; cases h; exact ⟨dist, rfl, rfl⟩

omit [FloorRing α] in
/-- The starting state:`result` all default, every index of the shares pending, nothing drawn,
and every thread with the distribution `threadSlopeDistribution` gave. -/
theorem shootInit_eq_ok {env : Env} {loadSlopePdf : String → Except String Unit}
    {shares : List (List Nat)} {s : ShootState σ α}
    (h : shootInit smp env loadSlopePdf n shares = .ok s) :
    ∃ dist, threadSlopeDistribution env loadSlopePdf = .ok dist ∧
      s.result = List.replicate n entryDefault ∧ s.pending = shares.flatten ∧ s.draws = [] ∧
      ∀ w ∈ s.workers, w.slopeDistribution = dist := by
  obtain ⟨dist, hd, rfl⟩ := shootInit_eq h
  refine ⟨dist, hd, rfl, by simp [ShootState.pending, Function.comp_def], rfl, fun w hw => ?_⟩
  obtain ⟨p, -, rfl⟩ := List.mem_map.1 hw
  rfl

theorem shootInv_init {env : Env} {loadSlopePdf : String → Except String Unit}
    {shares : List (List Nat)} {space : List Nat} {s : ShootState σ α}
    (hspace : drawIndices n 0 = some space) (hshares : shares.flatten.Perm space)
    (h : shootInit smp env loadSlopePdf n shares = .ok s) : ShootInv c sqrt n s := by
  obtain ⟨-, -, hres, hpend, hdraws, -⟩ := shootInit_eq_ok h
  have hsp : space = List.range n := by
    rw [drawIndices_zero] at hspace
    split_ifs at hspace
    exact (Option.some.inj hspace).symm
  subst hsp
  refine ⟨by simp [hres], ?_, by simp [hdraws], fun j hj => ?_⟩
  · rwa [ShootState.drawn, hdraws, hpend]
  · rw [hpend] at hj
    rw [hres, List.getElem?_replicate, if_pos (List.mem_range.1 (hshares.subset hj))]

/-- **Every action keeps the invariant.**  A store touches neither `result` nor the shares.
The index an iteration draws was pending, so it is below `N`, it is not drawn yet, and no other
thread holds it: the write to it disturbs no other entry. -/
theorem shootInv_step {s s' : ShootState σ α} {t : Nat} (hinv : ShootInv c sqrt n s)
    (h : step smp c sqrt s t = some s') : ShootInv c sqrt n s' := by
  rcases step_eq_some h with ⟨w, v, hw, -, rfl⟩ | ⟨w, i, rest, hw, -, hrest, hs'⟩
  · have hp := ShootState.pending_store hw v
    exact ⟨hinv.length, by rw [hp]; exact hinv.perm, hinv.stored, by rw [hp]; exact hinv.fresh⟩
  obtain ⟨A, B, hpend, hpend'⟩ := flatten_map_set_cons Worker.todo hw
    ⟨(drawVector smp c w).2, w.slopeDistribution, rest,
      some (roundDouble (s.totalExecutionTime + smp.elapsedTimeSec i))⟩ hrest
  have hp : s.pending = A ++ i :: B := hpend
  have hp' : s'.pending = A ++ B := by rw [hs']; exact hpend'
  have hperm : (s.drawn ++ i :: (A ++ B)).Perm (List.range n) :=
    (List.perm_middle.append_left _).symm.trans (hp ▸ hinv.perm)
  obtain ⟨-, hnd, hdisj⟩ := List.nodup_append.1 (hperm.nodup_iff.2 (List.nodup_range n))
  have hi_drawn : i ∉ s.drawn := fun hm => hdisj hm (List.mem_cons_self _ _)
  have hi_pend : i ∉ A ++ B := (List.nodup_cons.1 hnd).1
  have hi_lt : i < s.result.length := by
    rw [hinv.length, ← List.mem_range]
    exact hperm.subset (List.mem_append_right _ (List.mem_cons_self _ _))
  subst hs'
  refine ⟨by simp [hinv.length], ?_, fun d hd => ?_, fun j hj => ?_⟩
  · rw [hp']
    simpa [ShootState.drawn] using hperm
  · rcases List.mem_append.1 hd with hd | hd
    · have hne : i ≠ d.1 := fun he => hi_drawn (he ▸ List.mem_map_of_mem Prod.fst hd)
      simpa [List.getElem?_set_ne hne] using hinv.stored d hd
    · rw [List.mem_singleton.1 hd]
      exact List.getElem?_set_self hi_lt
  · rw [hp'] at hj
    have hne : i ≠ j := fun he => hi_pend (he ▸ hj)
    have hj' : j ∈ s.pending := hp ▸ List.perm_middle.symm.subset (List.mem_cons_of_mem i hj)
    simpa [List.getElem?_set_ne hne] using hinv.fresh j hj'

/-- A property every iteration keeps holds after any schedule. -/
theorem runSchedule_preserves (P : ShootState σ α → Prop)
    (hstep : ∀ {s s' : ShootState σ α} {t : Nat}, P s → step smp c sqrt s t = some s' → P s')
    {s s' : ShootState σ α} {schedule : List Nat} (hs : P s)
    (h : runSchedule smp c sqrt s schedule = some s') : P s' := by
  induction schedule generalizing s with
  | nil => cases h; exact hs
  | cons t schedule ih =>
    obtain ⟨s₁, h₁, h₂⟩ := Option.bind_eq_some.1 h
    exact ih (hstep hs h₁) h₂

theorem shootInv_run {s s' : ShootState σ α} {schedule : List Nat} (hinv : ShootInv c sqrt n s)
    (h : runSchedule smp c sqrt s schedule = some s') : ShootInv c sqrt n s' :=
  runSchedule_preserves _ shootInv_step hinv h

theorem ShootRun.inv {env : Env} {loadSlopePdf : String → Except String Unit}
    {shares : List (List Nat)} {schedule : List Nat} {s : ShootState σ α}
    (hrun : ShootRun smp c sqrt env loadSlopePdf n shares schedule s) : ShootInv c sqrt n s := by
  obtain ⟨space, s₀, hspace, hshares, h₀, hrun⟩ := hrun
  exact shootInv_run (shootInv_init hspace hshares h₀) hrun

/-- Every thread, and every draw so far, uses the distribution `dist`. -/
structure UsesDistribution (dist : SlopeDistribution) (s : ShootState σ α) : Prop where
  workers : ∀ w ∈ s.workers, w.slopeDistribution = dist
  draws : ∀ d ∈ s.draws, d.2.1 = dist

/-- An iteration draws with its own thread's distribution, and no action changes a thread's
distribution. -/
theorem usesDistribution_step {dist : SlopeDistribution} {s s' : ShootState σ α} {t : Nat}
    (hu : UsesDistribution dist s) (h : step smp c sqrt s t = some s') :
    UsesDistribution dist s' := by
  have hset : ∀ {w w' : Worker σ α}, s.workers[t]? = some w →
      w'.slopeDistribution = w.slopeDistribution → ∀ w'' ∈ s.workers.set t w',
        w''.slopeDistribution = dist := fun hw hw' w'' hw'' => by
    rcases List.mem_or_eq_of_mem_set hw'' with hw'' | rfl
    · exact hu.workers w'' hw''
    · exact hw'.trans (hu.workers _ (List.mem_iff_getElem?.2 ⟨t, hw⟩))
  rcases step_eq_some h with ⟨w, v, hw, -, rfl⟩ | ⟨w, i, rest, hw, -, -, rfl⟩
  · exact ⟨hset hw rfl, hu.draws⟩
  · refine ⟨hset hw rfl, fun d hd => ?_⟩
    rcases List.mem_append.1 hd with hd | hd
    · exact hu.draws d hd
    · rw [List.mem_singleton.1 hd]
      exact hu.workers w (List.mem_iff_getElem?.2 ⟨t, hw⟩)

end Invariant

/-! ## Runs of `shoot_vector` -/

/-- A sampler that draws the slopes `(1, 0)` and the start `(0, 0)` every time, each iteration
taking a second. -/
def constSampler : Sampler Unit ℚ :=
  ⟨fun _ => (), fun _ r => ((1, 0), r), fun _ r => (0, r), fun _ => 1⟩

/-- A cube with no frames. -/
def framelessCube : Cube ℚ where
  sizeX := 1
  sizeY := 1
  sizeK := 0
  uCube := ⟨fun _ _ _ => -1, fun _ _ _ => none, fun _ => (0, 0, 0)⟩
  timestampList := []
  exposuretimeList := []
  timestamp_length := le_rfl
  exposuretime_length := le_rfl
  timestamp_lt := by simp

/-- Two threads at the start, thread `0` holding index `1` and thread `1` index `0`. -/
def twoThreadStart : ShootState Unit ℚ :=
  ⟨List.replicate 2 entryDefault, [⟨(), .beta 3 2, [1], none⟩, ⟨(), .beta 3 2, [0], none⟩], [], 0⟩

/-- The runs from `twoThreadStart`, whatever the environment. -/
theorem twoThreadStart_run (env : Env) (schedule : List Nat) {s : ShootState Unit ℚ}
    (h : runSchedule constSampler framelessCube id twoThreadStart schedule = some s) :
    ShootRun constSampler framelessCube id env (fun _ => .ok ()) 2 [[1], [0]] schedule s := by
  have hdist : threadSlopeDistribution env (fun _ => .ok ()) = .ok (.beta 3 2) := by
    unfold threadSlopeDistribution
    split <;> rfl
  refine ⟨[0, 1], twoThreadStart, ?_, by decide, by rw [shootInit, hdist]; rfl, h⟩
  rw [drawIndices_zero, if_pos (by decide)]
  rfl

/-- The two threads run both iterations, both loading `total_execution_time` before either
stores. -/
theorem twoThreadStart_racing : ∃ s, runSchedule constSampler framelessCube id twoThreadStart
    [1, 0, 1, 0] = some s ∧ s.pending = [] ∧ s.draws ≠ [] :=
  ⟨_, rfl, rfl, List.cons_ne_nil _ _⟩

section Runs

variable {σ α : Type} [LinearOrderedField α] [FloorRing α] {smp : Sampler σ α} {c : Cube α}
  {sqrt : α → α} {env : Env} {loadSlopePdf : String → Except String Unit} {n : Nat}
  {shares : List (List Nat)} {schedule : List Nat} {s : ShootState σ α}

/-- A run exists only for `N ≤ INT_MAX`. -/
theorem ShootRun.le_intMax (hrun : ShootRun smp c sqrt env loadSlopePdf n shares schedule s) :
    n ≤ intMax := by
  obtain ⟨space, -, hspace, -⟩ := hrun
  rw [drawIndices_zero] at hspace
  split_ifs at hspace with hn
  exact hn

/-- `NUM_VECTORS=2147483649` is a count `get_num_vectors` returns, and the loop over it would take
its `int` counter past `INT_MAX`. -/
theorem shootVector_int_overflow :
    getNumVectors (envWith "NUM_VECTORS" "2147483649") = .ok (2 ^ 31 + 1) ∧
      drawIndices (2 ^ 31 + 1) 0 = none := by
  refine ⟨rfl, ?_⟩
  rw [drawIndices_zero, if_neg (by decide)]

/-- **Each index exactly once.**  At the end of any run — the indices split among any number of
threads in any way, and the threads' actions interleaved in any order — the indices drawn are
`0 … N-1`, each exactly once, `result` has `N` entries, and the entry at each drawn index is the
vector drawn for it with `vector_info` of its walk. -/
theorem shootVector_result (hrun : ShootRun smp c sqrt env loadSlopePdf n shares schedule s)
    (hfin : s.pending = []) :
    s.result.length = n ∧ s.drawn.Perm (List.range n) ∧
      ∀ d ∈ s.draws, s.result[d.1]? = some (entryOf c sqrt d.2.2) := by
  have hinv := hrun.inv
  exact ⟨hinv.length, by simpa [hfin] using hinv.perm, hinv.stored⟩

/-- **Every draw is from `beta_distribution(3, 2)`.**  Whatever `SLOPE_PDF_FILE` names, every
iteration of every run draws its slopes from the beta distribution: the slope file is read, and
its `custom_distribution` destroyed, before the loop starts. -/
theorem shootVector_slopes_beta (hrun : ShootRun smp c sqrt env loadSlopePdf n shares schedule s) :
    ∀ d ∈ s.draws, d.2.1 = .beta 3 2 := by
  obtain ⟨-, s₀, -, -, h₀, hrun⟩ := hrun
  obtain ⟨dist, hdist, -, -, hdraws, hworkers⟩ := shootInit_eq_ok h₀
  rw [← threadSlopeDistribution_eq_ok hdist]
  exact (runSchedule_preserves _ usesDistribution_step ⟨hworkers, by simp [hdraws]⟩ hrun).draws

/-- With `SLOPE_PDF_FILE` set and its file loading, both draws of a two-thread run use the beta
distribution. -/
theorem shootVector_slopes_beta_slopeFile :
    ∃ s, ShootRun constSampler framelessCube id (envWith "SLOPE_PDF_FILE" "slopes.txt")
        (fun _ => .ok ()) 2 [[1], [0]] [1, 0, 1, 0] s ∧ s.draws ≠ [] ∧
      ∀ d ∈ s.draws, d.2.1 = .beta 3 2 := by
  obtain ⟨s, h, -, hd⟩ := twoThreadStart_racing
  have hrun := twoThreadStart_run (envWith "SLOPE_PDF_FILE" "slopes.txt") _ h
  exact ⟨s, hrun, hd, shootVector_slopes_beta hrun⟩

end Runs

end MedianCalculation
