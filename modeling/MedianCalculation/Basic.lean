import Mathlib

/-!
# The process the sampler runs in

`run_random_vector.cpp` reads its configuration from the environment and from text files, stops
with `std::abort` on a configuration it cannot use, and does its arithmetic in `int`, `size_t`,
`unsigned long` and `double`.  This file fixes how each of these is modelled; everything else
builds on it.

* `Env` and `Files` are `std::getenv` and the files an `std::ifstream` can open.  A run that ends
  in `std::abort` is an `Except.error` carrying what was written to `std::cerr` just before.
* `intMax` is the largest `int`.  `toSizeT` is the conversion of an integral `double` to
  `std::size_t`, which C++ leaves undefined outside `[0, 2^64)`; undefined is `none`.
* `stdRound` is `std::round`: to the nearest integer, halfway cases away from zero.  Mathlib's
  `round` sends every halfway case up, so the two agree on `0 ≤ x` only.

The model is generic over a linearly ordered field with a floor, and its theorems about numbers
are stated over `ℝ`, or `ℚ` for values read from text.  Arithmetic is exact unless the source's
behaviour turns on how a `double` rounds; `Double` says where it does.  The fact about
`std::round` the rest of the development needs is `stdRound_stdRound_sub_add`: rounding `c - a`
and then adding `a` back lands on the integer `c`, or on `c + 1` exactly when `a` is halfway
between two integers.

The work-sharing loops keep one list of indices per thread; `flatten_map_set_cons` is what one
iteration does to the flattened lists, `map_set_of_eq` what a step that leaves a thread's list
alone does, and every run invariant over them is built on the two.
-/

set_option autoImplicit false

namespace MedianCalculation

/-- The environment as `std::getenv` reads it: the value of a variable, if it is set. -/
abbrev Env := String → Option String

/-- The files an `std::ifstream` opens, with their contents; `none` is a file it cannot open. -/
abbrev Files := String → Option String

/-- The environment with only `var` set, to `value`. -/
def envWith (var value : String) : Env := fun v => if v = var then some value else none

/-- The files with only `name` opening, with `content`. -/
def filesWith (name content : String) : Files := fun f => if f = name then some content else none

@[simp] theorem envWith_self (var value : String) : envWith var value var = some value := by
  simp [envWith]

@[simp] theorem filesWith_self (name content : String) :
    filesWith name content name = some content := by
  simp [filesWith]

/-- The largest value of a C++ `int`. -/
def intMax : Nat := 2 ^ 31 - 1

/-- Converting an integral `double` to `std::size_t`: defined only when the value fits. -/
def toSizeT (r : Int) : Option Nat := if 0 ≤ r ∧ r < 2 ^ 64 then some r.toNat else none

section Round

variable {α : Type} [LinearOrderedField α] [FloorRing α]

/-- `std::round`: the nearest integer, halfway cases rounded away from zero. -/
def stdRound (x : α) : Int := if 0 ≤ x then round x else -round (-x)

end Round

/-! ## Lists of lists -/

/-- Replacing the element in place `t` by one whose image has lost its head `x` takes `x` out of
the flattened images, and changes nothing else there. -/
theorem flatten_map_set_cons {β γ : Type} (f : β → List γ) {l : List β} {t : Nat} {b : β}
    (hb : l[t]? = some b) (b' : β) {x : γ} (hf : f b = x :: f b') :
    ∃ A B, (l.map f).flatten = A ++ x :: B ∧ ((l.set t b').map f).flatten = A ++ B := by
  obtain ⟨ht, rfl⟩ := List.getElem?_eq_some_iff.1 hb
  refine ⟨((l.take t).map f).flatten, f b' ++ ((l.drop (t + 1)).map f).flatten, ?_, ?_⟩
  · have hl : l = l.take t ++ l[t] :: l.drop (t + 1) := by
      rw [← List.drop_eq_getElem_cons ht, List.take_append_drop]
    conv_lhs => rw [hl]
    simp only [List.map_append, List.map_cons, List.flatten_append, List.flatten_cons, hf,
      List.cons_append, List.append_assoc]
  · rw [List.set_eq_take_append_cons_drop, if_pos ht]
    simp

/-- Replacing the element in place `t` by one with the same image leaves the images as they
were. -/
theorem map_set_of_eq {β γ : Type} (f : β → γ) {l : List β} {t : Nat} {b : β}
    (hb : l[t]? = some b) {b' : β} (hf : f b' = f b) : (l.set t b').map f = l.map f := by
  obtain ⟨ht, rfl⟩ := List.getElem?_eq_some_iff.1 hb
  rw [List.map_set]
  refine List.ext_getElem? fun n => ?_
  rw [List.getElem?_set]
  split
  · subst n
    simp [hf, ht]
  · rfl

end MedianCalculation
