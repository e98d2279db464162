import MedianCalculation.NvmeBenchmark.Program

/-!
# Opening and mapping a test file

`umt_openandmap` (`libumaptest/mmap.cpp`) is how the umap test programs get at their data file.
It opens the file, creating it unless the options say the file is not to be initialised; checks
that a file it is not to initialise is already large enough; makes sure with `posix_fallocate`
that the file has `numbytes` bytes; and maps `numbytes` bytes, over the file when the options ask
for `mmap` and as private anonymous memory otherwise.  Each failing call ends the process after
`perror`, or after a message on `std::cerr` for a file that is too small.

The file is the page benchmark's `File`, and `posix_fallocate` is `File.fallocate`, the model
`write_pages` uses too, with the room the file system has for the file.  The flags handed to
`open` and `mmap` are kept as data; what the operating system does with `O_DIRECT` or the
protection bits is not modelled, since `umt_openandmap` makes no transfer itself.

## What is here

* `TestOptions`, `OpenFlags`, `openOptions`, `Mapping`, `mapping`, `umtOpenandmap` — the
  function.
* `umtOpenandmap_ok` — whenever it returns, the file has at least `numbytes` bytes, so the whole
  of a shared region is backed by it; the bytes the file had are unchanged; a file the options
  say not to initialise keeps its size; and the region is shared over the file exactly when the
  options ask for `mmap`.
-/

set_option autoImplicit false

namespace MedianCalculation

namespace UmapTest

open NvmeBenchmark

/-- The fields of `umt_optstruct_t` that `umt_openandmap` reads (its header is not among the
sources). -/
structure TestOptions where
  iodirect : Bool
  noinit : Bool
  usemmap : Bool
  fn : String

/-- The flags `open` is given besides `O_RDWR` and `O_LARGEFILE`, which are always there. -/
structure OpenFlags where
  direct : Bool
  creat : Bool
  deriving DecidableEq, Repr

/-- `open_options`: `O_DIRECT` for `iodirect`, `O_CREAT` unless `noinit`. -/
def openOptions (ops : TestOptions) : OpenFlags := ⟨ops.iodirect, !ops.noinit⟩

/-- `open(testops.fn, open_options, S_IRUSR|S_IWUSR)` on a file that exists or not: with
`O_CREAT` a missing file is created empty, without it the call fails. -/
def openFile (flags : OpenFlags) : Option File → Option File
  | some f => some f
  | none => if flags.creat then some File.empty else none

/-- The region `mmap` is asked for, readable and writable either way: `MAP_SHARED` over the file,
or `MAP_PRIVATE | MAP_ANONYMOUS | MAP_NORESERVE` with no file. -/
inductive Mapping
  | shared
  | anonymous
  deriving DecidableEq, Repr

/-- `flags` and `my_fd`, as `umt_openandmap` picks them. -/
def mapping (ops : TestOptions) : Mapping := if !ops.usemmap then .anonymous else .shared

/-- `umt_openandmap(testops, numbytes, fd, region)` on the file `file` (`none` if there is no
such file), on a file system with room for a file of `room` bytes: the file as it is left, the
flags it was opened with and the region, or the text printed before `exit(-1)`. -/
def umtOpenandmap (ops : TestOptions) (numbytes room : Nat) (file : Option File) :
    Except String (File × OpenFlags × Mapping) :=
  match openFile (openOptions ops) file with
  | none => .error "open"
  | some f =>
    if ops.noinit ∧ f.size < numbytes then
      .error (ops.fn ++ " file is not large enough.  " ++ toString f.size ++ " < size requested " ++
        toString numbytes)
    else
      match f.fallocate numbytes room with
      | none => .error "posix_fallocate"
      | some f' => .ok (f', openOptions ops, mapping ops)

theorem fallocate_eq_some {f f' : File} {len room : Nat} (h : f.fallocate len room = some f') :
    f'.size = max f.size len ∧ ∀ o < f.size, f'.byte o = f.byte o := by
  unfold File.fallocate at h
  split at h
  · cases h
    exact ⟨rfl, fun o ho => if_pos ho⟩
  · cases h

/-- **What a return of `umt_openandmap` guarantees.**  The file has at least `numbytes` bytes,
so every byte of a shared region is backed by it; the bytes a file already had are unchanged;
a file that is not to be initialised keeps its size; and the region is shared over the file
exactly when the options ask for `mmap`. -/
theorem umtOpenandmap_ok {ops : TestOptions} {numbytes room : Nat} {file : Option File} {f : File}
    {flags : OpenFlags} {m : Mapping} (h : umtOpenandmap ops numbytes room file = .ok (f, flags, m)) :
    numbytes ≤ f.size ∧ (∀ g, file = some g → g.size ≤ f.size ∧ ∀ o < g.size, f.byte o = g.byte o) ∧
      (ops.noinit = true → ∃ g, file = some g ∧ f.size = g.size) ∧
      (m = .shared ↔ ops.usemmap = true) := by
  unfold umtOpenandmap at h
  split at h
  · cases h
  · rename_i g₀ hopen
    split at h
    · cases h
    · rename_i hbig
      split at h
      · cases h
      · rename_i f' hf
        cases h
        obtain ⟨hsize, hbytes⟩ := fallocate_eq_some hf
        refine ⟨by omega, fun g hg => ?_, fun hn => ?_, ?_⟩
        · cases file with
          | none => cases hg
          | some g' =>
            cases hg
            cases hopen
            exact ⟨by omega, hbytes⟩
        · cases file with
          | none => simp [openFile, openOptions, hn] at hopen
          | some g =>
            cases hopen
            exact ⟨_, rfl, by simp only [hn, true_and, not_lt] at hbig; omega⟩
        · cases hu : ops.usemmap <;> simp [mapping, hu]

end UmapTest

end MedianCalculation
