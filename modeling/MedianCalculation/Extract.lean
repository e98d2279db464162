import MedianCalculation.Double

/-!
# Reading numbers off a text stream

The configuration of the sampler is read with two library routines, whose behaviour on every
input the rest of the development depends on:

* `ifs >> x` for a `double`, in the loop `for (double x; ifs >> x;)` of `read_timestamp`,
  `read_exposuretime` and `read_psf`;
* `std::stoll`, in `get_num_vectors`.

Both are modelled here in the "C" locale, as maximal-munch scanners over the characters of the
text.  `extractDouble` skips whitespace (newlines are whitespace), then reads the longest text of
the form `[+-] digits [. digits] [(e|E) [+-] digits]` and converts it as `strtod` does, to the
nearest `double`.  It fails — the stream's `failbit` — when there is no digit before the
exponent, when an `e` has no digit after it, and, as libstdc++ does, when the value is beyond the
range of `double` (`strtod` returns an infinity).  `readDoubles` is the whole loop: it reads
values until an extraction fails.

## What is here

* `extractDouble_numeral` — the round trip: a numeral followed by whitespace or the end of the
  text is read back as the `double` nearest its value, whatever whitespace came before it, and
  a numeral beyond `DBL_MAX` is not read at all (`extractDouble_numeral_overflow`).
* `ReadsAs` — the texts of numerals separated by whitespace, ending in whitespace, in a
  character that cannot start a number or in a numeral out of range, and
  `readDoubles_of_readsAs`: on those the loop reads exactly the numerals before the end, in
  order.  Nothing in `ReadsAs` mentions lines.
* `stoll` and `stoll_numeral`: a numeral without a point, with or without a minus sign, is read
  back as its value when that fits in `long long`.
-/

set_option autoImplicit false

namespace MedianCalculation

/-- `std::isspace` in the "C" locale. -/
def isSpace (c : Char) : Bool :=
  c == ' ' || c == '\t' || c == '\n' || c == '\x0b' || c == '\x0c' || c == '\r'

/-- The characters that can begin a number for `>>`. -/
def startsNumber (c : Char) : Bool := c.isDigit || c == '+' || c == '-' || c == '.'

/-- The value of a run of decimal digits. -/
def digitsValue (ds : List Char) : Nat := ds.foldl (fun n c => 10 * n + (c.toNat - '0'.toNat)) 0

/-- An optional sign: `true` for `-`. -/
def scanSign : List Char → Bool × List Char
  | '-' :: t => (true, t)
  | '+' :: t => (false, t)
  | s => (false, s)

/-- An optional point and the digits after it. -/
def scanFrac : List Char → List Char × List Char
  | '.' :: t => (t.takeWhile Char.isDigit, t.dropWhile Char.isDigit)
  | s => ([], s)

/-- An optional exponent `(e|E) [+-] digits`; an `e` with no digit after it fails. -/
def scanExp : List Char → Option (Int × List Char)
  | c :: t =>
    if c = 'e' ∨ c = 'E' then
      let sign := scanSign t
      let ds := sign.2.takeWhile Char.isDigit
      if ds = [] then none
      else some (if sign.1 then -(digitsValue ds : Int) else digitsValue ds,
        sign.2.dropWhile Char.isDigit)
    else some (0, c :: t)
  | [] => some (0, [])

/-- `strtod` on what `>>` has gathered: the `double` nearest the value, or `none` where it is
past `DBL_MAX` and `strtod` returns an infinity, on which libstdc++ sets `failbit`. -/
def strtod (v : ℚ) : Option ℚ := if dblMax < |roundDouble v| then none else some (roundDouble v)

/-- `ifs >> x` for a `double`: the value read and the rest of the stream, or `none` where the
extraction sets `failbit`. -/
def extractDouble (s : List Char) : Option (ℚ × List Char) :=
  let sign := scanSign (s.dropWhile isSpace)
  let whole := sign.2.takeWhile Char.isDigit
  let frac := scanFrac (sign.2.dropWhile Char.isDigit)
  if whole = [] ∧ frac.1 = [] then none
  else (scanExp frac.2).bind fun p =>
    (strtod ((if sign.1 then -1 else 1) * digitsValue (whole ++ frac.1) / 10 ^ frac.1.length *
      10 ^ p.1)).map (·, p.2)

/-! ## Each extraction consumes something -/

theorem scanSign_length (s : List Char) : (scanSign s).2.length ≤ s.length := by
  unfold scanSign; split <;> simp

theorem scanFrac_length (s : List Char) :
    (scanFrac s).1.length + (scanFrac s).2.length ≤ s.length := by
  unfold scanFrac
  split
  · rename_i t
    have := congrArg List.length (List.takeWhile_append_dropWhile Char.isDigit t)
    simp only [List.length_append, List.length_cons] at this ⊢
    omega
  · simp

theorem scanExp_length {s r : List Char} {e : Int} (h : scanExp s = some (e, r)) :
    r.length ≤ s.length := by
  unfold scanExp at h
  split at h
  · rename_i c t
    by_cases hc : c = 'e' ∨ c = 'E'
    · rw [if_pos hc] at h
      by_cases hds : (scanSign t).2.takeWhile Char.isDigit = []
      · rw [if_pos hds] at h; cases h
      · rw [if_neg hds, Option.some.injEq, Prod.mk.injEq] at h
        obtain ⟨-, rfl⟩ := h
        have := (List.dropWhile_suffix Char.isDigit (l := (scanSign t).2)).length_le
        have := scanSign_length t
        simp only [List.length_cons]
        omega
    · rw [if_neg hc] at h; cases h; rfl
  · cases h; rfl

theorem extractDouble_length {s r : List Char} {v : ℚ} (h : extractDouble s = some (v, r)) :
    r.length < s.length := by
  simp only [extractDouble] at h
  split at h
  · cases h
  rename_i hne
  obtain ⟨⟨e, r'⟩, he, hv⟩ := Option.bind_eq_some.1 h
  obtain ⟨_, -, hv⟩ := Option.map_eq_some'.1 hv
  simp only [Prod.mk.injEq] at hv
  obtain ⟨-, rfl⟩ := hv
  set s1 := (scanSign (s.dropWhile isSpace)).2
  have h1 : s1.length ≤ s.length :=
    (scanSign_length _).trans (List.dropWhile_suffix isSpace).length_le
  have h2 := congrArg List.length (List.takeWhile_append_dropWhile Char.isDigit s1)
  have h3 := scanFrac_length (s1.dropWhile Char.isDigit)
  have h4 := scanExp_length he
  simp only [List.length_append] at h2
  simp only [not_and_or, ← ne_eq, ← List.length_pos] at hne
  omega

/-- `for (double x; ifs >> x;) list.emplace_back(x);`: the values read, until an extraction
fails. -/
def readDoubles (s : List Char) : List ℚ :=
  match h : extractDouble s with
  | none => []
  | some (v, rest) =>
    have : rest.length < s.length := extractDouble_length h
    v :: readDoubles rest
termination_by s.length

theorem readDoubles_of_none {s : List Char} (h : extractDouble s = none) : readDoubles s = [] := by
  rw [readDoubles]; split <;> simp_all

theorem readDoubles_of_some {s rest : List Char} {v : ℚ} (h : extractDouble s = some (v, rest)) :
    readDoubles s = v :: readDoubles rest := by
  rw [readDoubles]; split <;> simp_all

/-! ## Scanning stops where it should -/

theorem isDigit_of_isSpace {c : Char} (h : isSpace c) : c.isDigit = false := by
  simp only [isSpace, Bool.or_eq_true, beq_iff_eq] at h
  rcases h with (((((rfl | rfl) | rfl) | rfl) | rfl) | rfl) <;> rfl

theorem isSpace_of_isDigit {c : Char} (h : c.isDigit) : isSpace c = false := by
  cases hs : isSpace c
  · rfl
  · simp [isDigit_of_isSpace hs] at h

/-- Whitespace, or the end: no digit to go on with. -/
theorem head_not_digit {rest : List Char} (h : rest.head?.all isSpace) :
    rest.head?.all (fun c => !c.isDigit) := by
  match rest, h with
  | [], _ => rfl
  | c :: t, h =>
    simp only [List.head?_cons, Option.all_some] at h ⊢
    simp [isDigit_of_isSpace h]

/-- Maximal munch: a scan over `xs` that cannot go on into `ys` takes exactly `xs`. -/
theorem takeWhile_append_stop {p : Char → Bool} {xs ys : List Char} (hx : ∀ c ∈ xs, p c)
    (hy : ys.head?.all (fun c => !p c)) : (xs ++ ys).takeWhile p = xs := by
  rw [List.takeWhile_append_of_pos hx]
  cases ys with
  | nil => simp
  | cons y t => simp only [List.head?_cons, Option.all_some, Bool.not_eq_true'] at hy; simp [hy]

theorem dropWhile_append_stop {p : Char → Bool} {xs ys : List Char} (hx : ∀ c ∈ xs, p c)
    (hy : ys.head?.all (fun c => !p c)) : (xs ++ ys).dropWhile p = ys := by
  rw [List.dropWhile_append_of_pos hx]
  cases ys with
  | nil => simp
  | cons y t => simp only [List.head?_cons, Option.all_some, Bool.not_eq_true'] at hy; simp [hy]

theorem scanSign_of_not_sign {c : Char} (t : List Char) (hm : c ≠ '-') (hp : c ≠ '+') :
    scanSign (c :: t) = (false, c :: t) := by
  unfold scanSign; split <;> simp_all

/-- Whitespace, or the end, after a number: no point, no exponent. -/
theorem scanFrac_of_space {rest : List Char} (h : rest.head?.all isSpace) :
    scanFrac rest = ([], rest) := by
  match rest, h with
  | [], _ => rfl
  | c :: t, h =>
    have : c ≠ '.' := by rintro rfl; simp [isSpace] at h
    unfold scanFrac; split <;> simp_all

theorem scanExp_of_space {rest : List Char} (h : rest.head?.all isSpace) :
    scanExp rest = some (0, rest) := by
  match rest, h with
  | [], _ => rfl
  | c :: t, h =>
    have : ¬(c = 'e' ∨ c = 'E') := by rintro (rfl | rfl) <;> simp [isSpace] at h
    simp [scanExp, this]

/-! ## Numerals are read back -/

/-- A decimal numeral as a metadata file holds it: an optional minus sign, at least one digit,
and digits after a point if there is a point. -/
structure Numeral where
  neg : Bool
  whole : List Char
  frac : List Char
  whole_ne : whole ≠ []
  whole_digits : ∀ c ∈ whole, c.isDigit
  frac_digits : ∀ c ∈ frac, c.isDigit

namespace Numeral

/-- The point and the digits after it, if there are any. -/
def fracText (n : Numeral) : List Char := if n.frac = [] then [] else '.' :: n.frac

/-- How the numeral is written. -/
def text (n : Numeral) : List Char := (if n.neg then ['-'] else []) ++ n.whole ++ n.fracText

/-- The number it stands for. -/
def value (n : Numeral) : ℚ :=
  (if n.neg then -1 else 1) * digitsValue (n.whole ++ n.frac) / 10 ^ n.frac.length

/-- A numeral begins with a minus sign or a digit. -/
theorem text_eq_cons (n : Numeral) :
    ∃ c t, n.text = c :: t ∧ isSpace c = false ∧ scanSign n.text = (n.neg, n.whole ++ n.fracText) := by
  obtain ⟨d, ds, hw⟩ := List.exists_cons_of_ne_nil n.whole_ne
  have hd : d.isDigit := n.whole_digits d (by simp [hw])
  have hdm : d ≠ '-' := by rintro rfl; simp at hd
  have hdp : d ≠ '+' := by rintro rfl; simp at hd
  cases hn : n.neg
  · refine ⟨d, ds ++ n.fracText, by simp [text, hn, hw], ?_, ?_⟩
    · exact isSpace_of_isDigit hd
    · simp only [text, hn, hw, if_false, List.nil_append, List.cons_append]
      exact scanSign_of_not_sign _ hdm hdp
  · exact ⟨'-', n.whole ++ n.fracText, by simp [text, hn], by decide, by simp [text, hn, scanSign]⟩

end Numeral

/-- **The round trip.**  A numeral, after any whitespace and followed by whitespace or the end,
is read as `strtod` converts its value, and the stream is left just after it. -/
theorem extractDouble_numeral (n : Numeral) {ws rest : List Char} (hws : ∀ c ∈ ws, isSpace c)
    (hrest : rest.head?.all isSpace) :
    extractDouble (ws ++ n.text ++ rest) = (strtod n.value).map (·, rest) := by
  obtain ⟨c, t, htext, hc, hsign⟩ := n.text_eq_cons
  have hdrop : (ws ++ n.text ++ rest).dropWhile isSpace = n.text ++ rest := by
    rw [List.append_assoc, dropWhile_append_stop hws (by simp [htext, hc])]
  have hsign' : scanSign (n.text ++ rest) = (n.neg, n.whole ++ (n.fracText ++ rest)) := by
    rw [htext] at hsign ⊢
    unfold scanSign at hsign ⊢
    split <;> simp_all
  have hstop : (n.fracText ++ rest).head?.all (fun c => !c.isDigit) := by
    unfold Numeral.fracText
    split
    · simpa using head_not_digit hrest
    · rfl
  have hfrac : scanFrac (n.fracText ++ rest) = (n.frac, rest) := by
    unfold Numeral.fracText
    split
    · rename_i h; rw [h, List.nil_append, scanFrac_of_space hrest]
    · simp only [List.cons_append, scanFrac, takeWhile_append_stop n.frac_digits
        (head_not_digit hrest), dropWhile_append_stop n.frac_digits (head_not_digit hrest)]
  simp only [extractDouble, hdrop, hsign', takeWhile_append_stop n.whole_digits hstop,
    dropWhile_append_stop n.whole_digits hstop, hfrac, n.whole_ne, false_and, if_false,
    scanExp_of_space hrest, Option.some_bind, zpow_zero, mul_one]
  rfl

/-! ## The whole loop -/

/-- Nothing but whitespace left: the extraction fails at the end of the stream. -/
theorem extractDouble_of_space {ws : List Char} (hws : ∀ c ∈ ws, isSpace c) :
    extractDouble ws = none := by
  simp [extractDouble, List.dropWhile_eq_nil_iff.2 hws, scanSign, scanFrac]

/-- After whitespace, a character that cannot start a number: the extraction fails there. -/
theorem extractDouble_of_stop {ws t : List Char} {c : Char} (hws : ∀ c ∈ ws, isSpace c)
    (hc : isSpace c = false) (hn : startsNumber c = false) :
    extractDouble (ws ++ c :: t) = none := by
  simp only [startsNumber, Bool.or_eq_false_iff, beq_eq_false_iff_ne] at hn
  obtain ⟨⟨⟨hd, hp⟩, hm⟩, hpt⟩ := hn
  have hdrop : (ws ++ c :: t).dropWhile isSpace = c :: t :=
    dropWhile_append_stop hws (by simp [hc])
  simp [extractDouble, hdrop, scanSign_of_not_sign t hm hp, List.takeWhile_cons_of_neg, hd,
    List.dropWhile_cons_of_neg, scanFrac, hpt]

/-- The texts the `>>` loop reads `vs` off, by their shape: numerals separated by whitespace —
blanks and line breaks alike — each followed by whitespace or the end, and each read as the
`double` `strtod` makes of it; then only whitespace, a character that cannot start a number, or
a numeral past `DBL_MAX`, after which anything may follow. -/
inductive ReadsAs : List Char → List ℚ → Prop
  | eof {ws : List Char} (hws : ∀ c ∈ ws, isSpace c) : ReadsAs ws []
  | stop {ws t : List Char} {c : Char} (hws : ∀ c ∈ ws, isSpace c) (hc : isSpace c = false)
      (hn : startsNumber c = false) : ReadsAs (ws ++ c :: t) []
  | overflow {ws rest : List Char} (n : Numeral) (hws : ∀ c ∈ ws, isSpace c)
      (hrest : rest.head?.all isSpace) (hv : strtod n.value = none) :
      ReadsAs (ws ++ n.text ++ rest) []
  | num {ws rest : List Char} {v : ℚ} {vs : List ℚ} (n : Numeral) (hws : ∀ c ∈ ws, isSpace c)
      (hrest : rest.head?.all isSpace) (hv : strtod n.value = some v) (h : ReadsAs rest vs) :
      ReadsAs (ws ++ n.text ++ rest) (v :: vs)

/-- **The loop reads the numerals.**  On a text of that shape, `readDoubles` is the list of the
`double`s of the numerals, in order, however they are spread over lines. -/
theorem readDoubles_of_readsAs {s : List Char} {vs : List ℚ} (h : ReadsAs s vs) :
    readDoubles s = vs := by
  induction h with
  | eof hws => exact readDoubles_of_none (extractDouble_of_space hws)
  | stop hws hc hn => exact readDoubles_of_none (extractDouble_of_stop hws hc hn)
  | overflow n hws hrest hv =>
    exact readDoubles_of_none (by rw [extractDouble_numeral n hws hrest, hv]; rfl)
  | num n hws hrest hv _ ih =>
    rw [readDoubles_of_some (by rw [extractDouble_numeral n hws hrest, hv]; rfl), ih]

/-- A whole number below `2^53` is read as itself. -/
theorem strtod_natCast {n : Nat} (h : n < 2 ^ 53) : strtod n = some (n : ℚ) := by
  have hd : roundDouble (n : ℚ) = n := isDouble_natCast h
  have hmax : |(n : ℚ)| ≤ dblMax := by
    rw [Nat.abs_cast, dblMax]
    have : (n : ℚ) < 2 ^ 53 := by exact_mod_cast h
    norm_num
    linarith
  rw [strtod, hd, if_neg (not_lt.2 hmax)]

/-! ## `std::stoll` -/

/-- `std::stoll(s)`, base 10: whitespace, an optional sign, then the longest run of digits,
whatever follows it ignored; `std::invalid_argument` without a digit, `std::out_of_range`
outside `long long`. -/
def stoll (s : List Char) : Except String Int :=
  let sign := scanSign (s.dropWhile isSpace)
  let ds := sign.2.takeWhile Char.isDigit
  if ds = [] then .error "std::invalid_argument"
  else
    let v : Int := if sign.1 then -(digitsValue ds : Int) else digitsValue ds
    if -2 ^ 63 ≤ v ∧ v < 2 ^ 63 then .ok v else .error "std::out_of_range"

/-- **`std::stoll` reads a numeral without a point**: a run of digits, with or without a minus
sign before it, whose value fits in `long long`, is read as that value. -/
theorem stoll_numeral (n : Numeral) (hf : n.frac = []) (hlt : digitsValue n.whole < 2 ^ 63) :
    stoll n.text = .ok (if n.neg then -(digitsValue n.whole : Int) else digitsValue n.whole) := by
  obtain ⟨c, t, htext, hc, hsign⟩ := n.text_eq_cons
  have hdrop : n.text.dropWhile isSpace = n.text := by
    rw [htext, List.dropWhile_cons_of_neg (by simp [hc])]
  have hfrac : n.fracText = [] := by simp [Numeral.fracText, hf]
  simp only [stoll, hdrop, hsign, hfrac, List.append_nil,
    List.takeWhile_eq_self_iff.2 n.whole_digits, n.whole_ne, if_false]
  rw [if_pos (by split <;> omega)]

end MedianCalculation
