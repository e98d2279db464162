import MedianCalculation.Extract

/-!
# The configuration: per-frame metadata and the number of vectors

`read_timestamp`, `read_exposuretime` and `read_psf` fill in one value per frame: from the file
named by `TIMESTAMP_FILE`, `EXPOSURETIME_FILE` or `PSF_FILE` when the variable is set, and from
a default (`k * 1.0`, `40`, `1.0`) when it is not.  The three are the same code with a different
variable and default, so they are one definition, `readList`, applied three times.
`get_num_vectors` reads `NUM_VECTORS` with `std::stoll`.

The file branch reads with the `>>` loop of `Extract`, and the only check made afterwards is on
the number of values read.  So the line structure of a file plays no part, though the message on
failure speaks of lines ("#of lines in ..."): a file is accepted exactly when the loop reads
`size_k` values before it stops, whatever follows them.

## What is here

* `readList_of_file`, `readList_of_missing`, `readList_of_unset` — one lemma per branch, and
  `readList_length`: every list a reader returns, default or read, covers the `size_k` frames.
* `metadataReaders_accept` — what the three readers accept: exactly the contents on which the
  loop reads `size_k` values, and, on a text of whitespace-separated numerals laid out over
  lines in any way, exactly those with `size_k` numerals before the end, a non-number or a
  numeral out of range.
* `getNumVectors` and `getNumVectors_numeral` — the count is the numeral's value, and after a
  minus sign that value's negation taken modulo `2^64`.
-/

set_option autoImplicit false

namespace MedianCalculation

/-- What a reader writes to `std::cerr` before aborting on a file with the wrong count. -/
def lineCountError (fileName : String) : String :=
  "#of lines in " ++ fileName ++ " is not the same as #of fits files"

/-- `read_timestamp`, `read_exposuretime` and `read_psf`: the values in the file named by `var`,
which must be `size_k` of them, or `default k` for each frame `k` when `var` is unset. -/
def readList (var : String) (default : Nat → ℚ) (env : Env) (files : Files) (sizeK : Nat) :
    Except String (List ℚ) :=
  match env var with
  | some fileName =>
    match files fileName with
    | none => .error ("Cannot open " ++ fileName)
    | some content =>
      let list := readDoubles content.toList
      if list.length ≠ sizeK then .error (lineCountError fileName) else .ok list
  | none => .ok ((List.range sizeK).map default)

/-- `read_timestamp(size_k)`: by default the frames are `1.0` apart. -/
def readTimestamp : Env → Files → Nat → Except String (List ℚ) :=
  readList "TIMESTAMP_FILE" fun i => i * 1.0

/-- `read_exposuretime(size_k)`: by default every exposure is `40` s. -/
def readExposuretime : Env → Files → Nat → Except String (List ℚ) :=
  readList "EXPOSURETIME_FILE" fun _ => 40

/-- `read_psf(size_k)`: by default every PSF width is `1.0`. -/
def readPsf : Env → Files → Nat → Except String (List ℚ) :=
  readList "PSF_FILE" fun _ => 1.0

section ReadList

variable {var : String} {default : Nat → ℚ} {env : Env} {files : Files}

theorem readList_of_file {name content : String} (henv : env var = some name)
    (hfile : files name = some content) (sizeK : Nat) :
    readList var default env files sizeK =
      if (readDoubles content.toList).length = sizeK then .ok (readDoubles content.toList)
      else .error (lineCountError name) := by
  simp only [readList, henv, hfile]
  split_ifs <;> simp_all

theorem readList_of_missing {name : String} (henv : env var = some name)
    (hfile : files name = none) (sizeK : Nat) :
    readList var default env files sizeK = .error ("Cannot open " ++ name) := by
  simp [readList, henv, hfile]

theorem readList_of_unset (henv : env var = none) (sizeK : Nat) :
    readList var default env files sizeK = .ok ((List.range sizeK).map default) := by
  simp [readList, henv]

/-- Whatever a reader returns covers exactly the `size_k` frames. -/
theorem readList_length {sizeK : Nat} {vs : List ℚ}
    (h : readList var default env files sizeK = .ok vs) : vs.length = sizeK := by
  rcases henv : env var with _ | name
  · rw [readList_of_unset henv] at h
    cases h; simp
  · rcases hfile : files name with _ | content
    · rw [readList_of_missing henv hfile] at h; cases h
    · rw [readList_of_file henv hfile] at h
      split_ifs at h with hlen
      cases h; exact hlen

end ReadList

/-- The three readers, with the variable each one reads. -/
def metadataReaders : List ((Env → Files → Nat → Except String (List ℚ)) × String) :=
  [(readTimestamp, "TIMESTAMP_FILE"), (readExposuretime, "EXPOSURETIME_FILE"),
    (readPsf, "PSF_FILE")]

theorem metadataReaders_readList {read : Env → Files → Nat → Except String (List ℚ)}
    {var : String} (hr : (read, var) ∈ metadataReaders) :
    ∃ default, read = readList var default := by
  simp only [metadataReaders, List.mem_cons, Prod.mk.injEq, List.mem_singleton,
    List.not_mem_nil, or_false] at hr
  rcases hr with ⟨rfl, rfl⟩ | ⟨rfl, rfl⟩ | ⟨rfl, rfl⟩ <;> exact ⟨_, rfl⟩

/-- **What the metadata readers accept.**  With the reader's variable naming a file that opens,
the reader returns normally exactly when the `>>` loop reads `size_k` values before it stops —
at the end of the file, at the first text that is not a number, or at a number past `DBL_MAX` —
and then returns them in order; otherwise it aborts.  In particular a text of numerals separated
by any whitespace, so several on a line or spread over any number of lines, is accepted exactly
when it holds `size_k` numerals before its end, before a text that does not begin a number, or
before a numeral out of range; whatever follows is not read. -/
theorem metadataReaders_accept {read : Env → Files → Nat → Except String (List ℚ)}
    {var : String} (hr : (read, var) ∈ metadataReaders) {env : Env} {files : Files}
    {name content : String} (henv : env var = some name) (hfile : files name = some content)
    (sizeK : Nat) :
    (∀ vs, read env files sizeK = .ok vs ↔ readDoubles content.toList = vs ∧ vs.length = sizeK) ∧
      ∀ vs, ReadsAs content.toList vs →
        read env files sizeK = if vs.length = sizeK then .ok vs else .error (lineCountError name) := by
  obtain ⟨default, rfl⟩ := metadataReaders_readList hr
  rw [readList_of_file henv hfile]
  refine ⟨fun vs => ?_, fun vs h => by rw [readDoubles_of_readsAs h]⟩
  split_ifs with hlen
  · constructor
    · rintro ⟨⟩; exact ⟨rfl, hlen⟩
    · rintro ⟨rfl, -⟩; rfl
  · constructor
    · rintro ⟨⟩
    · rintro ⟨rfl, h⟩; exact absurd h hlen

/-- A digit as a numeral of its own. -/
def digitNumeral (d : Char) (hd : d.isDigit) : Numeral := ⟨false, [d], [], by simp, by simpa, by simp⟩

/-- Files that are not `size_k` lines of one number each, which load: the one line `0 1` for two
frames, and the three lines `0`, `x`, `1` for one frame, as the single value `0`. -/
theorem metadataReaders_accept_notLines :
    readTimestamp (envWith "TIMESTAMP_FILE" "t.txt") (filesWith "t.txt" "0 1\n") 2 =
      .ok [0, 1] ∧
    readTimestamp (envWith "TIMESTAMP_FILE" "t.txt") (filesWith "t.txt" "0\nx\n1\n") 1 =
      .ok [0] := by
  have h0 : strtod (digitNumeral '0' rfl).value = some 0 := by
    rw [show (digitNumeral '0' rfl).value = ((0 : Nat) : ℚ) by
      norm_num [Numeral.value, digitNumeral, digitsValue], strtod_natCast (by norm_num)]; rfl
  have h1 : strtod (digitNumeral '1' rfl).value = some 1 := by
    rw [show (digitNumeral '1' rfl).value = ((1 : Nat) : ℚ) by
      norm_num [Numeral.value, digitNumeral, digitsValue]; rfl, strtod_natCast (by norm_num)]; rfl
  have hr1 : ReadsAs "0 1\n".toList [0, 1] :=
    @ReadsAs.num [] [' ', '1', '\n'] _ _ (digitNumeral '0' rfl) (by simp) rfl h0
      (@ReadsAs.num [' '] ['\n'] _ _ (digitNumeral '1' rfl) (by decide) rfl h1
        (ReadsAs.eof (by decide)))
  have hr2 : ReadsAs "0\nx\n1\n".toList [0] :=
    @ReadsAs.num [] ['\n', 'x', '\n', '1', '\n'] _ _ (digitNumeral '0' rfl) (by simp) rfl h0
      (@ReadsAs.stop ['\n'] ['\n', '1', '\n'] 'x' (by decide) rfl rfl)
  exact ⟨((metadataReaders_accept (List.mem_cons_self _ _) (envWith_self _ _)
      (filesWith_self _ _) 2).2 [0, 1] hr1).trans rfl,
    ((metadataReaders_accept (List.mem_cons_self _ _) (envWith_self _ _)
      (filesWith_self _ _) 1).2 [0] hr2).trans rfl⟩

/-! ## The number of vectors -/

/-- `default_num_random_vector`. -/
def defaultNumRandomVector : Nat := 100000

/-- `get_num_vectors()`: `NUM_VECTORS` through `std::stoll`, kept in a `std::size_t`, so modulo
`2^64`; an exception from `std::stoll` is not caught. -/
def getNumVectors (env : Env) : Except String Nat :=
  match env "NUM_VECTORS" with
  | none => .ok defaultNumRandomVector
  | some buf => (stoll buf.toList).map fun v => (v % 2 ^ 64).toNat

/-- **The number of vectors.**  With `NUM_VECTORS` a numeral without a point whose value `v` fits
in `long long`, `get_num_vectors` returns `v`; with a minus sign before it, the `long long` `-v`
converted to `std::size_t`, that is `2^64 - v`. -/
theorem getNumVectors_numeral {env : Env} (n : Numeral) (henv : env "NUM_VECTORS" = some ⟨n.text⟩)
    (hf : n.frac = []) (hlt : digitsValue n.whole < 2 ^ 63) :
    getNumVectors env = .ok (if n.neg ∧ 0 < digitsValue n.whole then 2 ^ 64 - digitsValue n.whole
      else digitsValue n.whole) := by
  simp only [getNumVectors, henv, String.toList, stoll_numeral n hf hlt, Except.map,
    Except.ok.injEq]
  cases n.neg
  · simp only [Bool.false_eq_true, if_false, false_and]
    omega
  · simp only [if_true, true_and]
    split_ifs <;> omega

/-- `NUM_VECTORS=-1` asks for `2^64 - 1` vectors. -/
example : getNumVectors (envWith "NUM_VECTORS" "-1") = .ok (2 ^ 64 - 1) := rfl

end MedianCalculation
