import MedianCalculation.Shoot

/-!
# The parallel loop against a serial one

The threads of `shoot_vector` share `result` and `total_execution_time`; everything else they
use — the generator `rnd_engine`, the two start distributions and the slope distribution — is
declared inside the `omp parallel` region, so every thread has its own.  Each thread writes only
its own indices of `result`, so the interleaving of the threads' iterations cannot change it:
`result` is what the threads' loops compute when they run one after another, thread `0` first.
`total_execution_time` is another matter: its `+=` races, and an update can be lost.  What is
sure is that it is the running sum, in `double`, of the times of some of the iterations, each
counted once at most, in the order they were drawn.  With a single thread nothing races, and the
OpenMP build computes what the build without OpenMP computes, counter included.

The argument for `result` is an invariant over runs.  `threadDraws` is what a thread draws on its
own, from its generator's state, over the indices it still holds; `owedDraws` gathers that over
all threads.  An iteration makes the first draw its thread owes, and a store makes none, so

* the draws made and the draws owed are together a permutation of the serial loop's draws
  (`logged_owed_step`), and
* making the owed draws on `result` gives the same list after an action as before
  (`storeDraws_owed_step`): the owed indices are distinct, and writes to distinct indices
  commute.

## What is here

* `threadDraws`, `serialDraws`, `storeDraws` — one thread's loop on its own, the threads' loops
  one after another, and `result` after a list of draws.
* `ShootRun.serial` — the invariant along every run.
* `CounterInv` and `counterInv_step` — what `total_execution_time` can hold.
* `shootVectorSequential` — `shoot_vector` as built without OpenMP, and `SoloCounter`, the
  counter of a run on one thread.
* `shootVector_serial` — every run that has run every iteration, under any interleaving, made
  exactly the serial loop's draws and ends with the serial loop's `result`, and with a counter
  that has missed any number of the iterations' times.
* `shootVector_one_thread` — on one thread, the OpenMP build computes what the build without
  OpenMP computes.
-/

set_option autoImplicit false

namespace MedianCalculation

variable {σ α : Type}

/-! ## One thread on its own -/

section Draws

variable [LinearOrderedField α] (smp : Sampler σ α) (c : Cube α)

/-- What a thread with generator state `rnd` and slope distribution `dist` draws on its own over
the indices `todo`: each index, with the vector drawn from the state the earlier draws left. -/
def threadDraws (dist : SlopeDistribution) : σ → List Nat → List (Nat × VectorXY α)
  | _, [] => []
  | rnd, i :: todo =>
    let d := drawVector smp c ⟨rnd, dist, i :: todo, none⟩
    (i, d.1) :: threadDraws dist d.2 todo

/-- The threads' loops run one after another, thread `t` with its generator seeded with `123 + t`
over its share `shares[t]`. -/
def serialDraws (dist : SlopeDistribution) (shares : List (List Nat)) : List (Nat × VectorXY α) :=
  (shares.enum.map fun p => threadDraws smp c dist (smp.seed (123 + p.1)) p.2).flatten

/-- The draws every thread still owes: the rest of its share, with the vectors its generator will
give. -/
def owedDraws (s : ShootState σ α) : List (Nat × VectorXY α) :=
  (s.workers.map fun w => threadDraws smp c w.slopeDistribution w.rnd w.todo).flatten

/-- The draws made so far, as index and vector. -/
def loggedDraws (s : ShootState σ α) : List (Nat × VectorXY α) :=
  s.draws.map fun d => (d.1, d.2.2)

theorem threadDraws_map_fst (dist : SlopeDistribution) (rnd : σ) (todo : List Nat) :
    (threadDraws smp c dist rnd todo).map Prod.fst = todo := by
  induction todo generalizing rnd with
  | nil => rfl
  | cons i todo ih => simp [threadDraws, ih]

/-- The indices owed are the pending ones. -/
theorem owedDraws_map_fst (s : ShootState σ α) : (owedDraws smp c s).map Prod.fst = s.pending := by
  simp [owedDraws, ShootState.pending, List.map_flatten, Function.comp_def, threadDraws_map_fst]

end Draws

/-! ## Storing draws -/

section Store

variable [LinearOrderedField α] [FloorRing α] (c : Cube α) (sqrt : α → α)

/-- `result` after the draws `ds` have stored their outcomes, one after another. -/
def storeDraws : List (Entry α) → List (Nat × VectorXY α) → List (Entry α)
  | result, [] => result
  | result, d :: ds => storeDraws (result.set d.1 (entryOf c sqrt d.2)) ds

theorem storeDraws_append (result : List (Entry α)) (ds ds' : List (Nat × VectorXY α)) :
    storeDraws c sqrt result (ds ++ ds') = storeDraws c sqrt (storeDraws c sqrt result ds) ds' := by
  induction ds generalizing result with
  | nil => rfl
  | cons d ds ih => exact ih _

/-- A write to an index no draw of `ds` touches commutes with the draws. -/
theorem storeDraws_set_comm (result : List (Entry α)) {i : Nat} (e : Entry α)
    {ds : List (Nat × VectorXY α)} (h : i ∉ ds.map Prod.fst) :
    storeDraws c sqrt (result.set i e) ds = (storeDraws c sqrt result ds).set i e := by
  induction ds generalizing result with
  | nil => rfl
  | cons d ds ih =>
    simp only [List.map_cons, List.mem_cons, not_or] at h
    simp only [storeDraws]
    rw [List.set_comm _ _ _ h.1, ih _ h.2]

/-- `total_execution_time` after `+=` of each of `times` in turn, from `0.0`, in `double`. -/
def sumDoubles (times : List α) : α := times.foldl (fun total t => roundDouble (total + t)) 0

omit c sqrt in
theorem sumDoubles_concat (times : List α) (t : α) :
    sumDoubles (times ++ [t]) = roundDouble (sumDoubles times + t) := by
  simp [sumDoubles]

/-- `shoot_vector` as built without OpenMP: the same slope set-up, one generator seeded with
`123`, and the same `int` loop, over `0 … N-1` in order, adding each iteration's time to
`total_execution_time` with nothing to race it.  The pair `shoot_vector` returns; `none` where
the counter would overflow; the abort of the slope set-up. -/
def shootVectorSequential (smp : Sampler σ α) (env : Env)
    (loadSlopePdf : String → Except String Unit) (n : Nat) :
    Except String (Option (α × List (Entry α))) :=
  (threadSlopeDistribution env loadSlopePdf).map fun dist =>
    (drawIndices n 0).map fun space =>
      (sumDoubles (space.map smp.elapsedTimeSec),
        storeDraws c sqrt (List.replicate n entryDefault)
          (threadDraws smp c dist (smp.seed 123) space))

end Store

/-! ## The invariant -/

section Invariant

variable [LinearOrderedField α] [FloorRing α] {smp : Sampler σ α} {c : Cube α} {sqrt : α → α}
  {n : Nat}

/-- What an action does to the draws: a store makes none, and an iteration makes the first
draw its thread owes. -/
theorem step_owed {s s' : ShootState σ α} {t : Nat} (h : step smp c sqrt s t = some s') :
    (owedDraws smp c s' = owedDraws smp c s ∧ loggedDraws s' = loggedDraws s ∧
      s'.result = s.result) ∨
    ∃ i v A B, owedDraws smp c s = A ++ (i, v) :: B ∧ owedDraws smp c s' = A ++ B ∧
      loggedDraws s' = loggedDraws s ++ [(i, v)] ∧
      s'.result = s.result.set i (entryOf c sqrt v) := by
  rcases step_eq_some h with ⟨w, v, hw, -, rfl⟩ | ⟨w, i, rest, hw, -, hrest, rfl⟩
  · exact .inl ⟨congrArg List.flatten (map_set_of_eq _ hw rfl), rfl, rfl⟩
  have hd : threadDraws smp c w.slopeDistribution w.rnd w.todo =
      (i, (drawVector smp c w).1) ::
        threadDraws smp c w.slopeDistribution (drawVector smp c w).2 rest := by
    obtain ⟨rnd, dist, todo, update⟩ := w
    cases hrest
    rfl
  obtain ⟨A, B, h1, h2⟩ := flatten_map_set_cons
    (fun w : Worker σ α => threadDraws smp c w.slopeDistribution w.rnd w.todo) hw
    ⟨(drawVector smp c w).2, w.slopeDistribution, rest,
      some (roundDouble (s.totalExecutionTime + smp.elapsedTimeSec i))⟩ hd
  exact .inr ⟨i, _, A, B, h1, h2, by simp [loggedDraws], rfl⟩

/-- The draws made and the draws owed stay a permutation of each other's starting value. -/
theorem logged_owed_step {s s' : ShootState σ α} {t : Nat} (h : step smp c sqrt s t = some s') :
    (loggedDraws s' ++ owedDraws smp c s').Perm (loggedDraws s ++ owedDraws smp c s) := by
  rcases step_owed h with ⟨h1, h2, -⟩ | ⟨i, v, A, B, h1, h2, h3, -⟩
  · rw [h1, h2]
  · rw [h1, h2, h3, List.append_assoc, List.singleton_append]
    exact (List.perm_middle.append_left _).symm

/-- **Making the owed draws gives the same `result` after an action as before.** -/
theorem storeDraws_owed_step {s s' : ShootState σ α} {t : Nat} (hinv : ShootInv c sqrt n s)
    (h : step smp c sqrt s t = some s') :
    storeDraws c sqrt s'.result (owedDraws smp c s') =
      storeDraws c sqrt s.result (owedDraws smp c s) := by
  rcases step_owed h with ⟨h1, -, h3⟩ | ⟨i, v, A, B, h1, h2, -, h4⟩
  · rw [h1, h3]
  have hnd : ((owedDraws smp c s).map Prod.fst).Nodup := by
    rw [owedDraws_map_fst]
    exact (hinv.perm.nodup_iff.2 (List.nodup_range n)).of_append_right
  rw [h1, List.map_append, List.map_cons] at hnd
  have hi : i ∉ A.map Prod.fst := fun hA =>
    (List.nodup_append.1 hnd).2.2 hA (List.mem_cons_self _ _)
  rw [h4, h2, h1, storeDraws_append, storeDraws_append, storeDraws_set_comm _ _ _ _ hi]
  rfl

omit [FloorRing α] in
/-- The starting state owes the serial loop's draws. -/
theorem owedDraws_shootInit {env : Env} {loadSlopePdf : String → Except String Unit}
    {shares : List (List Nat)} {s : ShootState σ α} {dist : SlopeDistribution}
    (hdist : threadSlopeDistribution env loadSlopePdf = .ok dist)
    (h : shootInit smp env loadSlopePdf n shares = .ok s) :
    owedDraws smp c s = serialDraws smp c dist shares := by
  unfold shootInit at h
  rw [hdist] at h
  cases h
  simp [owedDraws, serialDraws, Function.comp_def]

end Invariant

/-! ## The counter -/

section Counter

variable [LinearOrderedField α] [FloorRing α] {smp : Sampler σ α} {c : Cube α} {sqrt : α → α}

/-- What `total_execution_time` can hold along a run, and what a thread can be about to store
in it: the running sum, in `double`, of the times of some of the iterations drawn so far, in
the order they were drawn. -/
structure CounterInv (smp : Sampler σ α) (s : ShootState σ α) : Prop where
  total : ∃ l : List Nat, l.Sublist s.drawn ∧
    s.totalExecutionTime = sumDoubles (l.map smp.elapsedTimeSec)
  update : ∀ w ∈ s.workers, ∀ v, w.update = some v →
    ∃ l : List Nat, l.Sublist s.drawn ∧ v = sumDoubles (l.map smp.elapsedTimeSec)

/-- **Every action keeps `CounterInv`.**  A store writes what its thread loaded and added to; an
iteration loads the counter and adds its own time, after every index drawn before it. -/
theorem counterInv_step {s s' : ShootState σ α} {t : Nat} (hinv : CounterInv smp s)
    (h : step smp c sqrt s t = some s') : CounterInv smp s' := by
  rcases step_eq_some h with ⟨w, v, hw, hv, rfl⟩ | ⟨w, i, rest, hw, -, -, rfl⟩
  · refine ⟨hinv.update w (List.mem_iff_getElem?.2 ⟨t, hw⟩) v hv, fun w' hw' v' hv' => ?_⟩
    rcases List.mem_or_eq_of_mem_set hw' with hw' | rfl
    · exact hinv.update w' hw' v' hv'
    · cases hv'
  have hdrawn : ∀ {l : List Nat}, l.Sublist s.drawn →
      l.Sublist (s.drawn ++ [i]) := fun hl => hl.trans (List.sublist_append_left _ _)
  obtain ⟨l, hl, htotal⟩ := hinv.total
  refine ⟨⟨l, by simpa [ShootState.drawn] using hdrawn hl, htotal⟩, fun w' hw' v' hv' => ?_⟩
  rcases List.mem_or_eq_of_mem_set hw' with hw' | rfl
  · obtain ⟨l', hl', hv''⟩ := hinv.update w' hw' v' hv'
    exact ⟨l', by simpa [ShootState.drawn] using hdrawn hl', hv''⟩
  · cases hv'
    refine ⟨l ++ [i], by simpa [ShootState.drawn] using hl.append_right [i], ?_⟩
    rw [List.map_append, List.map_singleton, sumDoubles_concat, ← htotal]

theorem counterInv_init {env : Env} {loadSlopePdf : String → Except String Unit} {n : Nat}
    {shares : List (List Nat)} {s : ShootState σ α}
    (h : shootInit smp env loadSlopePdf n shares = .ok s) : CounterInv smp s := by
  obtain ⟨dist, -, rfl⟩ := shootInit_eq h
  refine ⟨⟨[], List.nil_sublist _, rfl⟩, fun w hw v hv => ?_⟩
  obtain ⟨p, -, rfl⟩ := List.mem_map.1 hw
  cases hv

/-- A run on one thread, over the indices `space`: the thread has drawn `s.drawn` and has
`todo` left, in order, and the counter holds, or the thread is about to store, the running sum
of the times of the iterations drawn. -/
def SoloCounter (smp : Sampler σ α) (space : List Nat) (s : ShootState σ α) : Prop :=
  ∃ w, s.workers = [w] ∧ s.drawn ++ w.todo = space ∧
    w.update.getD s.totalExecutionTime = sumDoubles (s.drawn.map smp.elapsedTimeSec)

theorem soloCounter_init {env : Env} {loadSlopePdf : String → Except String Unit} {n : Nat}
    {space : List Nat} {s : ShootState σ α}
    (h : shootInit smp env loadSlopePdf n [space] = .ok s) : SoloCounter smp space s := by
  obtain ⟨dist, -, rfl⟩ := shootInit_eq h
  exact ⟨_, rfl, rfl, rfl⟩

/-- **With one thread nothing races**: every action keeps `SoloCounter`. -/
theorem soloCounter_step {space : List Nat} {s s' : ShootState σ α} {t : Nat}
    (hinv : SoloCounter smp space s) (h : step smp c sqrt s t = some s') :
    SoloCounter smp space s' := by
  obtain ⟨w, hws, hspace, hsum⟩ := hinv
  have hone : ∀ {w'}, s.workers[t]? = some w' → t = 0 ∧ w' = w := fun hw => by
    rw [hws] at hw
    cases t with
    | zero => exact ⟨rfl, (Option.some.inj hw).symm⟩
    | succ t => simp at hw
  rcases step_eq_some h with ⟨w', v, hw, hv, rfl⟩ | ⟨w', i, rest, hw, hu, hrest, rfl⟩
  · obtain ⟨rfl, rfl⟩ := hone hw
    refine ⟨{ w' with update := none }, by simp [ShootState.store, hws], hspace, ?_⟩
    simpa [hv] using hsum
  · obtain ⟨rfl, rfl⟩ := hone hw
    refine ⟨⟨(drawVector smp c w').2, w'.slopeDistribution, rest,
      some (roundDouble (s.totalExecutionTime + smp.elapsedTimeSec i))⟩, by simp [hws], ?_, ?_⟩
    · rw [← hspace, hrest]
      simp [ShootState.drawn]
    · simp only [ShootState.drawn, hu, Option.getD_none] at hsum
      simp [ShootState.drawn, hsum, sumDoubles_concat]

end Counter

/-! ## Runs -/

section Runs

variable [LinearOrderedField α] [FloorRing α] {smp : Sampler σ α} {c : Cube α} {sqrt : α → α}
  {env : Env} {loadSlopePdf : String → Except String Unit} {n : Nat}
  {shares : List (List Nat)} {schedule : List Nat} {s : ShootState σ α}

/-- **The serial argument along a run.**  At every state of a run, making the draws still owed
on `result` gives what the serial loop's draws give on the default `result`, and the draws made
and the draws owed are together the serial loop's. -/
theorem ShootRun.serial (hrun : ShootRun smp c sqrt env loadSlopePdf n shares schedule s) :
    storeDraws c sqrt s.result (owedDraws smp c s) =
        storeDraws c sqrt (List.replicate n entryDefault) (serialDraws smp c (.beta 3 2) shares) ∧
      (loggedDraws s ++ owedDraws smp c s).Perm (serialDraws smp c (.beta 3 2) shares) := by
  obtain ⟨space, s₀, hspace, hshares, h₀, hrun⟩ := hrun
  obtain ⟨dist, hdist, hres, -, hdraws, -⟩ := shootInit_eq_ok h₀
  have hserial := owedDraws_shootInit (c := c) hdist h₀
  rw [threadSlopeDistribution_eq_ok hdist] at hserial
  obtain ⟨-, hR, hL⟩ := runSchedule_preserves
    (fun s => ShootInv c sqrt n s ∧
      storeDraws c sqrt s.result (owedDraws smp c s) =
        storeDraws c sqrt s₀.result (owedDraws smp c s₀) ∧
      (loggedDraws s ++ owedDraws smp c s).Perm (loggedDraws s₀ ++ owedDraws smp c s₀))
    (fun ⟨hi, hR, hL⟩ h =>
      ⟨shootInv_step hi h, (storeDraws_owed_step hi h).trans hR, (logged_owed_step h).trans hL⟩)
    ⟨shootInv_init hspace hshares h₀, rfl, List.Perm.refl _⟩ hrun
  have hlog : loggedDraws s₀ = [] := by rw [loggedDraws, hdraws, List.map_nil]
  rw [hserial, hres] at hR
  rw [hserial, hlog, List.nil_append] at hL
  exact ⟨hR, hL⟩

omit [FloorRing α] in
theorem owedDraws_eq_nil {s : ShootState σ α} (hfin : s.pending = []) : owedDraws smp c s = [] := by
  rw [← List.map_eq_nil_iff, owedDraws_map_fst, hfin]

/-- **The parallel loop against the serial one.**  For every split of the indices among any
number of threads and every interleaving of their actions, a run that has run every iteration
made exactly the draws of the threads' loops run one after another, thread `t` seeded with
`123 + t`, and ends with the `result` those draws store: two runs over the same split end with
the same `result`, whatever their interleavings.  `total_execution_time` is the running sum, in
`double`, of the times of some of the iterations, in the order drawn: the racing `+=` may have
lost any of them, and counted none twice. -/
theorem shootVector_serial (hrun : ShootRun smp c sqrt env loadSlopePdf n shares schedule s)
    (hfin : s.pending = []) :
    s.result = storeDraws c sqrt (List.replicate n entryDefault)
        (serialDraws smp c (.beta 3 2) shares) ∧
      (loggedDraws s).Perm (serialDraws smp c (.beta 3 2) shares) ∧
      ∃ l : List Nat, l.Sublist s.drawn ∧
        s.totalExecutionTime = sumDoubles (l.map smp.elapsedTimeSec) := by
  obtain ⟨hR, hL⟩ := hrun.serial
  rw [owedDraws_eq_nil hfin] at hR hL
  obtain ⟨-, s₀, -, -, h₀, hrun'⟩ := hrun
  exact ⟨hR, by rwa [List.append_nil] at hL,
    (runSchedule_preserves _ counterInv_step (counterInv_init h₀) hrun').total⟩

/-- Two threads that both load `total_execution_time` before either stores: the run ends with
the serial `result`, and with a counter of one second for two iterations of a second each. -/
theorem shootVector_serial_twoThreads :
    ∃ s, ShootRun constSampler framelessCube id (fun _ => none) (fun _ => .ok ()) 2 [[1], [0]]
        [1, 0, 1, 0] s ∧ s.pending = [] ∧
      (s.result = storeDraws framelessCube id (List.replicate 2 entryDefault)
          (serialDraws constSampler framelessCube (.beta 3 2) [[1], [0]]) ∧
        (loggedDraws s).Perm (serialDraws constSampler framelessCube (.beta 3 2) [[1], [0]]) ∧
        ∃ l : List Nat, l.Sublist s.drawn ∧
          s.totalExecutionTime = sumDoubles (l.map constSampler.elapsedTimeSec)) ∧
      s.drawn = [0, 1] ∧ s.totalExecutionTime = 1 := by
  obtain ⟨s, h, hfin, hdrawn, htotal⟩ : ∃ s, runSchedule constSampler framelessCube id
      twoThreadStart [1, 0, 1, 0] = some s ∧ s.pending = [] ∧ s.drawn = [0, 1] ∧
      s.totalExecutionTime = roundDouble (0 + 1) := ⟨_, rfl, rfl, rfl, rfl⟩
  have hrun := twoThreadStart_run (fun _ => none) _ h
  refine ⟨s, hrun, hfin, shootVector_serial hrun hfin, hdrawn, ?_⟩
  simpa [htotal] using isDouble_natCast (α := ℚ) (n := 1) (by norm_num)

/-- **One thread, or no OpenMP.**  A run on a single thread, which the work-sharing loop gives
every index in order, ends with the `result` of `shoot_vector` built without OpenMP, and, once
the thread has stored its last update, with its `total_execution_time`. -/
theorem shootVector_one_thread
    (hrun : ShootRun smp c sqrt env loadSlopePdf n [List.range n] schedule s)
    (hfin : s.pending = []) :
    ∃ total, shootVectorSequential c sqrt smp env loadSlopePdf n = .ok (some (total, s.result)) ∧
      (s.Stored → s.totalExecutionTime = total) := by
  have hR := hrun.serial.1
  rw [owedDraws_eq_nil hfin] at hR
  have hspace : drawIndices n 0 = some (List.range n) := by
    rw [drawIndices_zero, if_pos hrun.le_intMax]
  obtain ⟨-, s₀, -, -, h₀, hrun'⟩ := hrun
  obtain ⟨dist, hdist, -⟩ := shootInit_eq h₀
  obtain rfl := threadSlopeDistribution_eq_ok hdist
  obtain ⟨w, hws, hdrawn, hsum⟩ :=
    runSchedule_preserves _ soloCounter_step (soloCounter_init h₀) hrun'
  have htodo : w.todo = [] := by simpa [ShootState.pending, hws] using hfin
  rw [htodo, List.append_nil] at hdrawn
  refine ⟨sumDoubles ((List.range n).map smp.elapsedTimeSec), ?_, fun hst => ?_⟩
  · have hR' : s.result = storeDraws c sqrt (List.replicate n entryDefault)
        (threadDraws smp c (.beta 3 2) (smp.seed 123) (List.range n)) := by
      simpa [storeDraws, serialDraws] using hR
    simp only [shootVectorSequential, hdist, Except.map, hspace, Option.map_some', hR']
  · rw [hst w (by simp [hws]), Option.getD_none, hdrawn] at hsum
    exact hsum

/-- One thread draws both indices, in order, storing its update after each. -/
theorem shootVector_one_thread_two :
    ∃ s, ShootRun constSampler framelessCube id (fun _ => none) (fun _ => .ok ()) 2
        [List.range 2] [0, 0, 0, 0] s ∧ s.pending = [] ∧
      ∃ total, shootVectorSequential framelessCube id constSampler (fun _ => none)
          (fun _ => .ok ()) 2 = .ok (some (total, s.result)) ∧
        (s.Stored → s.totalExecutionTime = total) := by
  let s₀ : ShootState Unit ℚ :=
    ⟨List.replicate 2 entryDefault, [⟨(), .beta 3 2, [0, 1], none⟩], [], 0⟩
  obtain ⟨s, h, hfin⟩ : ∃ s, runSchedule constSampler framelessCube id s₀ [0, 0, 0, 0] = some s ∧
      s.pending = [] := ⟨_, rfl, rfl⟩
  have hrun : ShootRun constSampler framelessCube id (fun _ => none) (fun _ => .ok ()) 2
      [List.range 2] [0, 0, 0, 0] s :=
    ⟨[0, 1], s₀, by rw [drawIndices_zero, if_pos (by decide)]; rfl, by decide, rfl, h⟩
  exact ⟨s, hrun, hfin, shootVector_one_thread hrun hfin⟩

end Runs

end MedianCalculation
