import MedianCalculation.Basic

/-!
# The page benchmark: the program

`nvmebenchmark.cpp` (`pfbenchmark/`) times page-sized `pwrite`s and `pread`s against one file.
Run as `nvmebenchmark-write`, it creates the file anew, gives it `numpages * pagesize` bytes with
`posix_fallocate`, and runs `do_write_pages`: the threads of an OpenMP team share out the pages,
and for page `i` a thread stores the marker `i * pagesize / 8` in the first eight bytes of its
own page buffer, then `pwrite`s the buffer to offset `i * pagesize`.  Run as
`nvmebenchmark-read`, `do_read_pages` `pread`s each page into the thread's buffer and exits,
printing the page, when the buffer's first `uint64_t` is not the page's marker.

The model keeps the bytes.  The file is its size and its bytes; `pwrite` and `pread` copy a
byte range, a read stopping at the end of the file as the system call does; a buffer is the
bytes of `tmppagebuf[t]`, and the marker is stored and loaded as a little-endian `uint64_t`.  An
iteration of the loop is two actions of its thread: one on its own buffer (storing the marker,
checking the word) and one on the file.  A phase runs the threads' actions in any order, with
the pages split among the threads in any way; the first failing call ends the process with an
`Exit`.

What the machine decides is a `Host`: the file is opened with `O_DIRECT`, so a `pwrite` or
`pread` fails unless its offset, its length and its buffer's address are multiples of the
device's logical block size; and `posix_fallocate` fails when the file system has no room for
the length asked.

## What is here

* `Host`, with `Host.Direct` and `Host.Aligned` — the alignment `O_DIRECT` asks for, which
  `posix_memalign`'s `512` gives whenever the block size divides `512` and the page size.
* `writeStep`, `readStep`, `runPhase`, `fallocate`, `writePages`, `readPages` — the program.
* `runPhase_preserves`, `runPhase_ok` — a property of single actions holds along whole runs.
* `pending_start`, `perm_finish` — what an iteration's two ends do to the pages finished and the
  pages still to do, the same in both loops.

The write phase is in `NvmeBenchmark.Write`, the read phase and the round trip in
`NvmeBenchmark.Read`, and what it takes for a phase to get to its end in
`NvmeBenchmark.Progress`.
-/

set_option autoImplicit false

namespace MedianCalculation

namespace NvmeBenchmark

/-! ## Words in memory

The marker is a `uint64_t` stored through `(uint64_t *)tmppagebuf[t]`: eight bytes, least
significant first, as on the little-endian machines the benchmark runs on. -/

/-- Byte `k` of the number `x` in memory, least significant first. -/
def wordByte (x k : Nat) : UInt8 := (x / 256 ^ k % 256).toUInt8

/-- The number in the first `n` bytes of `b`, least significant first. -/
def loadLE : Nat → (Nat → UInt8) → Nat
  | 0, _ => 0
  | n + 1, b => (b 0).toNat + 256 * loadLE n fun k => b (k + 1)

/-- `*ptr` for `ptr` the buffer as a `uint64_t *`. -/
def loadWord (b : Nat → UInt8) : Nat := loadLE 8 b

theorem loadLE_congr {n : Nat} {b b' : Nat → UInt8} (h : ∀ k < n, b k = b' k) :
    loadLE n b = loadLE n b' := by
  induction n generalizing b b' with
  | zero => rfl
  | succ n ih => rw [loadLE, loadLE, h 0 n.succ_pos, ih fun k hk => h (k + 1) (by omega)]

theorem wordByte_succ (x k : Nat) : wordByte x (k + 1) = wordByte (x / 256) k := by
  rw [wordByte, wordByte, pow_succ', Nat.div_div_eq_div_mul]

theorem toNat_wordByte_zero (x : Nat) : (wordByte x 0).toNat = x % 256 := by
  simp [wordByte, Nat.toUInt8, UInt8.toNat, UInt8.ofNat]

/-- Loading the bytes of `x` gives `x` back, cut to the width. -/
theorem loadLE_wordByte (n x : Nat) : loadLE n (wordByte x) = x % 256 ^ n := by
  induction n generalizing x with
  | zero => rw [loadLE, pow_zero, Nat.mod_one]
  | succ n ih =>
    rw [loadLE, toNat_wordByte_zero, funext (wordByte_succ x), ih, pow_succ', Nat.mod_mul]

theorem loadWord_congr {b b' : Nat → UInt8} (h : ∀ k < 8, b k = b' k) : loadWord b = loadWord b' :=
  loadLE_congr h

/-- A buffer whose first eight bytes are those of `x < 2^64` holds `x`. -/
theorem loadWord_of_bytes {x : Nat} (hx : x < 2 ^ 64) {b : Nat → UInt8}
    (h : ∀ k < 8, b k = wordByte x k) : loadWord b = x := by
  rw [loadWord_congr h, loadWord, loadLE_wordByte, Nat.mod_eq_of_lt (by simpa using hx)]

/-! ## Pages -/

/-- `i*pagesize`, in `uint64_t`: the offset of page `i`. -/
def pageOffset (pagesize i : Nat) : Nat := i * pagesize % 2 ^ 64

/-- `i * pagesize/sizeof(uint64_t)`, in `uint64_t`: the marker of page `i`. -/
def pageMarker (pagesize i : Nat) : Nat := i * pagesize % 2 ^ 64 / 8

section Pages

variable {pagesize numpages i : Nat}

theorem pageOffset_of_lt (hi : i < numpages) (hsize : numpages * pagesize < 2 ^ 63) :
    pageOffset pagesize i = i * pagesize ∧ i * pagesize + pagesize ≤ numpages * pagesize := by
  have h : (i + 1) * pagesize ≤ numpages * pagesize := Nat.mul_le_mul_right pagesize hi
  rw [Nat.succ_mul] at h
  exact ⟨Nat.mod_eq_of_lt (by omega), h⟩

theorem pageMarker_of_lt (hi : i < numpages) (hsize : numpages * pagesize < 2 ^ 63) :
    pageMarker pagesize i < 2 ^ 64 := by
  have := (pageOffset_of_lt hi hsize).2
  rw [pageMarker, Nat.mod_eq_of_lt (by omega)]
  omega

end Pages

/-! ## The file -/

/-- The file the benchmark writes and reads: its size, and its bytes by offset. -/
structure File where
  size : Nat
  byte : Nat → UInt8

/-- `pwrite(fd, buf, count, off)` that succeeds: the first `count` bytes of the buffer land at
`off`, and the file grows to hold them. -/
def File.pwrite (f : File) (buf : Nat → UInt8) (count off : Nat) : File :=
  ⟨max f.size (off + count), fun o => if off ≤ o ∧ o < off + count then buf (o - off) else f.byte o⟩

/-- `pread(fd, buf, count, off)` that succeeds: the bytes of the file from `off` go to the
buffer, `count` of them or as many as there are before the end of the file; the rest of the
buffer is left as it was. -/
def File.pread (f : File) (buf : Nat → UInt8) (count off : Nat) : Nat → UInt8 :=
  fun k => if k < count ∧ off + k < f.size then f.byte (off + k) else buf k

/-- `posix_fallocate(fd, 0, len)` on a file system with room for a file of `room` bytes: the file
has at least `len` bytes, those past its old end zero.  The call fails on a length that is not
positive as an `off_t` (`EINVAL`, `EFBIG`) and on one past the room (`ENOSPC`, `EFBIG`). -/
def File.fallocate (f : File) (len room : Nat) : Option File :=
  if 0 < len ∧ len < 2 ^ 63 ∧ len ≤ room then
    some ⟨max f.size len, fun o => if o < f.size then f.byte o else 0⟩
  else none

/-- The empty file that `open` with `O_CREAT` makes where there was none. -/
def File.empty : File := ⟨0, fun _ => 0⟩

/-- The `uint64_t` at the start of page `i` of the file. -/
def File.pageWord (f : File) (pagesize i : Nat) : Nat := loadWord fun k => f.byte (i * pagesize + k)

/-! ## The machine -/

/-- What the machine under the benchmark decides, and the program does not.  `O_DIRECT`
transfers fail with `EINVAL` unless their offset, their length and their buffer's address are
multiples of the device's logical block size `blockSize`; `bufAddr t` is where `posix_memalign`
put thread `t`'s page buffer, on a multiple of `512`.  `room` is the size of the largest file
the file system can allocate. -/
structure Host where
  blockSize : Nat
  room : Nat
  bufAddr : Nat → Nat
  bufAddr_aligned : ∀ t, 512 ∣ bufAddr t

/-- An `O_DIRECT` transfer of `count` bytes at `off` through thread `t`'s buffer is aligned to the
device's blocks. -/
def Host.Direct (host : Host) (t count off : Nat) : Prop :=
  host.blockSize ∣ count ∧ host.blockSize ∣ off ∧ host.blockSize ∣ host.bufAddr t

instance (host : Host) (t count off : Nat) : Decidable (host.Direct t count off) :=
  inferInstanceAs (Decidable (_ ∧ _ ∧ _))

/-- A thread of the team: its page buffer `tmppagebuf[t]`, the page of the iteration it is in
(`none` between iterations), and the pages of the loop still to come for it. -/
structure Lane where
  buf : Nat → UInt8
  page : Option Nat
  todo : List Nat

/-- The pages a thread has not finished. -/
def Lane.pages (l : Lane) : List Nat := l.page.toList ++ l.todo

/-- A phase of the benchmark: the file, the threads, and the pages whose iteration is over (a
ghost: the program keeps no such list). -/
structure Bench where
  file : File
  lanes : List Lane
  done : List Nat

/-- The pages no thread has finished. -/
def Bench.pending (s : Bench) : List Nat := (s.lanes.map Lane.pages).flatten

/-- How the process ends early. -/
inductive Exit
  /-- `perror("pwrite"); exit(1)`. -/
  | pwrite
  /-- `perror("pread"); exit(1)`. -/
  | pread
  /-- `cout << i << " " << *ptr << " != " << marker << "\n"; exit(1)`. -/
  | mismatch (page word marker : Nat)
  /-- `perror` with the message built in `write_pages`, then `exit(1)`. -/
  | fallocate (message : String)
  deriving DecidableEq, Repr

/-- One action of thread `t` in `do_read_pages`.  Between iterations it takes its next page `i`
and `pread`s it into its buffer, which fails when the offset is negative as an `off_t` or the
transfer is not aligned for `O_DIRECT`; inside one it compares the buffer's first word with the
marker of `i`. -/
def readStep (host : Host) (pagesize : Nat) (s : Bench) (t : Nat) : Except Exit Bench :=
  match s.lanes[t]? with
  | none => .ok s
  | some l =>
    match l.page, l.todo with
    | none, [] => .ok s
    | none, i :: todo =>
      if pageOffset pagesize i < 2 ^ 63 ∧ host.Direct t pagesize (pageOffset pagesize i) then
        let buf := s.file.pread l.buf pagesize (pageOffset pagesize i)
        .ok { s with lanes := s.lanes.set t ⟨buf, some i, todo⟩ }
      else .error .pread
    | some i, _ =>
      if loadWord l.buf = pageMarker pagesize i then
        .ok { s with lanes := s.lanes.set t { l with page := none }, done := s.done ++ [i] }
      else .error (.mismatch i (loadWord l.buf) (pageMarker pagesize i))

/-- The threads' actions in the order of `schedule`; the first exit ends the process. -/
def runPhase (step : Bench → Nat → Except Exit Bench) (s : Bench) (schedule : List Nat) :
    Except Exit Bench :=
  schedule.foldlM step s

/-- The start of a phase: thread `t` has the buffer `bufs t` and the pages `shares[t]` of the
loop, in order. -/
def phaseInit (file : File) (bufs : Nat → Nat → UInt8) (shares : List (List Nat)) : Bench :=
  ⟨file, shares.enum.map fun p => ⟨bufs p.1, none, p.2⟩, []⟩

/-- The file `write_pages` has removed and created again, after
`posix_fallocate(fd, 0, options.numpages * pagesize)`; or the exit with the message it hands to
`perror` when that fails. -/
def fallocate (host : Host) (filename : String) (numpages pagesize : Nat) : Except Exit File :=
  let len := numpages * pagesize % 2 ^ 64
  match File.empty.fallocate len host.room with
  | some f => .ok f
  | none =>
    .error (.fallocate
      ("Failed to pre-allocate " ++ toString len ++ " bytes in " ++ filename ++ ": "))

/-- `read_pages` on the file `file`: `do_read_pages` with the pages split among the threads as
`shares` and their actions in the order `schedule`. -/
def readPages (host : Host) (file : File) (pagesize : Nat) (bufs : Nat → Nat → UInt8)
    (shares : List (List Nat)) (schedule : List Nat) : Except Exit Bench :=
  runPhase (readStep host pagesize) (phaseInit file bufs shares) schedule

/-! ## Runs

`runPhase` is `List.foldlM`, so a property of whole runs follows from one of single actions. -/

section Runs

variable {step : Bench → Nat → Except Exit Bench} {P : Bench → Prop}

/-- A property that every action keeps holds at the end of every run that does not exit. -/
theorem runPhase_preserves (hstep : ∀ s s' t, P s → step s t = .ok s' → P s') :
    ∀ {schedule : List Nat} {s s' : Bench}, P s → runPhase step s schedule = .ok s' → P s'
  | [], _, _, hs, h => by cases h; exact hs
  | t :: ts, s, s', hs, h => by
    rw [runPhase, List.foldlM_cons] at h
    cases hst : step s t with
    | error e => rw [hst] at h; cases h
    | ok s₁ =>
      rw [hst] at h
      exact runPhase_preserves hstep (hstep s s₁ t hs hst) h

end Runs

/-! ## Pages finished and pages still to do

Both loops move a page the same way: an iteration starts by taking the thread's next page as
its current one, and ends by marking the current page finished.  Across the two, every page of
the loop is finished or still some thread's, exactly once. -/

section Pending

variable {s : Bench} {t i : Nat} {l : Lane} {todo : List Nat}

/-- Starting an iteration leaves the pages still to do as they were. -/
theorem pending_start (hl : s.lanes[t]? = some l) (hp : l.page = none) (ht : l.todo = i :: todo)
    (buf : Nat → UInt8) :
    ((s.lanes.set t ⟨buf, some i, todo⟩).map Lane.pages).flatten = s.pending :=
  congrArg List.flatten (map_set_of_eq Lane.pages hl (by simp [Lane.pages, hp, ht]))

/-- Ending an iteration moves its page from the pages to do to the finished ones. -/
theorem perm_finish {n : Nat} (hl : s.lanes[t]? = some l) (hp : l.page = some i)
    (hperm : (s.done ++ s.pending).Perm (List.range n)) :
    ((s.done ++ [i]) ++ ((s.lanes.set t { l with page := none }).map Lane.pages).flatten).Perm
      (List.range n) := by
  obtain ⟨A, B, hAB, hAB'⟩ :=
    flatten_map_set_cons Lane.pages hl { l with page := none }
      (show l.pages = i :: ({ l with page := none } : Lane).pages by simp [Lane.pages, hp])
  rw [Bench.pending, hAB] at hperm
  rw [hAB', List.append_assoc, List.singleton_append]
  exact (List.perm_middle.symm.append_left s.done).trans hperm

/-- A page a thread has not finished is a page of the loop. -/
theorem lt_of_mem_pages {n : Nat} (hperm : (s.done ++ s.pending).Perm (List.range n))
    (hl : s.lanes[t]? = some l) (hi : i ∈ l.pages) : i < n := by
  refine List.mem_range.1 (hperm.subset (List.mem_append_right _ ?_))
  simp only [Bench.pending, List.mem_flatten, List.mem_map]
  exact ⟨l.pages, ⟨l, List.getElem?_mem hl, rfl⟩, hi⟩

/-- Once no thread has a page left, every page of the loop is finished, once. -/
theorem done_perm {n : Nat} (hperm : (s.done ++ s.pending).Perm (List.range n))
    (hfin : s.pending = []) : s.done.Perm (List.range n) := by
  rwa [hfin, List.append_nil] at hperm

theorem phaseInit_pending (file : File) (bufs : Nat → Nat → UInt8) (shares : List (List Nat)) :
    (phaseInit file bufs shares).pending = shares.flatten := by
  simp [phaseInit, Bench.pending, Lane.pages, Function.comp_def, List.enum_map_snd]

theorem page_of_mem_phaseInit {file : File} {bufs : Nat → Nat → UInt8} {shares : List (List Nat)}
    (hl : l ∈ (phaseInit file bufs shares).lanes) : l.page = none := by
  simp only [phaseInit, List.mem_map] at hl
  obtain ⟨_, _, rfl⟩ := hl
  rfl

end Pending

end NvmeBenchmark

end MedianCalculation
