import WidgetStage.Image.Pixmap

/-!
# Resampling

A pixmap is brought to another size one axis after the other, first the columns and then the
rows. Every new sample is a weighted mean of old ones: the weights fall off linearly with the
distance from the place in the old pixmap that the new sample stands for, and reach as far as
one sample of the coarser of the two grids. All arithmetic is in single precision, in the order
that is written here; only the finished samples are rounded to whole channel values.

* `Window` — the old samples that a new one is made of, with their weights.
* `Pixmap.resample` — a pixmap of another size.
* `Resampler` — any way to do so, and all that others rely on: the size of what comes out.
-/

namespace WidgetStage

/-- The weight at a distance: one at the centre, falling linearly to zero. -/
def triangle (x : Float32) : Float32 :=
  if x.abs < 1 then 1 - x.abs else 0

/-- The whole part of a number, nothing below zero. -/
def floorSingle (x : Float32) : Nat :=
  x.toUInt32.toNat

/-- The least count that is not below a number. -/
def ceilSingle (x : Float32) : Nat :=
  let whole := x.toUInt32
  if whole.toFloat32 < x then whole.toNat + 1 else whole.toNat

/-- A count in single precision. -/
def singleOfCount (n : Nat) : Float32 :=
  n.toUInt64.toFloat32

/-- Consecutive samples from the index `first` on, with the weight of each. -/
structure Window where
  first : Nat
  weights : List Float32

namespace Window

/-- Divides all weights by their sum. -/
def normalize (weights : List Float32) : List Float32 :=
  let total := weights.foldl (· + ·) 0
  weights.map (· / total)

/-- The window of the sample `out` when `n` samples become `m`. -/
def make (n m out : Nat) : Window :=
  let ratio := singleOfCount n / singleOfCount m
  let spread := if ratio < 1 then 1 else ratio
  let center := (singleOfCount out + 0.5) * ratio
  let first := min (floorSingle (center - spread)) (n - 1)
  let last := max (first + 1) (min (ceilSingle (center + spread)) n)
  let center := center - 0.5
  { first := first
    weights :=
      normalize ((List.range' first (last - first)).map fun i =>
        triangle ((singleOfCount i - center) / spread)) }

/-- All windows when `n` samples become `m`. -/
def all (n m : Nat) : Array Window :=
  Array.ofFn (n := m) fun out => make n m out.val

end Window

/-- The four channels of a pixel between the two passes. -/
structure Sample where
  r : Float32
  g : Float32
  b : Float32
  a : Float32

namespace Sample

/-- No light. -/
def zero : Sample :=
  ⟨0, 0, 0, 0⟩

/-- A colour as a sample. -/
def ofRgba (c : Rgba) : Sample :=
  let single (n : UInt8) : Float32 := singleOfCount n.toNat
  ⟨single c.r, single c.g, single c.b, single c.a⟩

/-- Adds a weighted sample. -/
def addScaled (s t : Sample) (w : Float32) : Sample :=
  ⟨s.r + t.r * w, s.g + t.g * w, s.b + t.b * w, s.a + t.a * w⟩

/-- The nearest channel value; a half goes up. -/
def channel (x : Float32) : UInt8 :=
  if x ≤ 0 then 0
  else if 255 ≤ x then 255
  else
    let whole := x.toUInt32
    if 0.5 ≤ x - whole.toFloat32 then UInt8.ofNat (whole.toNat + 1) else UInt8.ofNat whole.toNat

/-- The nearest colour. -/
def toRgba (s : Sample) : Rgba :=
  ⟨channel s.r, channel s.g, channel s.b, channel s.a⟩

/-- The weighted sum of the samples of a window. -/
def weigh (w : Window) (sample : Nat → Sample) : Sample :=
  (w.weights.foldl
    (fun (acc : Sample × Nat) weight => (acc.1.addScaled (sample acc.2) weight, acc.2 + 1))
    (zero, w.first)).1

end Sample

namespace Pixmap

/-- Brings the columns to another height; the samples stay unrounded, row by row. -/
def resampleColumns (p : Pixmap) (height : Nat) : Array Sample :=
  let windows := Window.all p.size.height.toNat height
  let width := p.size.width.toNat
  Array.ofFn (n := width * height) fun i =>
    let x := i.val % width
    Sample.weigh (windows.getD (i.val / width) ⟨0, []⟩) fun y => Sample.ofRgba (p.get x y)

/-- A pixmap of another size. -/
def resample (p : Pixmap) (size : Size) : Pixmap :=
  let columns := p.resampleColumns size.height.toNat
  let width := p.size.width.toNat
  let windows := Window.all width size.width.toNat
  ofFn size fun x y =>
    (Sample.weigh (windows.getD x ⟨0, []⟩) fun i => columns.getD (y * width + i) .zero).toRgba

/-- The resampled pixmap has the size that was asked for. -/
theorem size_resample (p : Pixmap) (size : Size) : (p.resample size).size = size :=
  rfl

end Pixmap

/-- A way to bring pixmaps to other sizes. Nothing is known about the samples that come out, but
there are as many as were asked for. -/
structure Resampler where
  /-- The pixmap in another size. -/
  resample : Pixmap → Size → Pixmap
  size_resample : ∀ p size, (resample p size).size = size

/-- Weighted means, with weights that fall off linearly. -/
def Resampler.triangle : Resampler :=
  ⟨Pixmap.resample, Pixmap.size_resample⟩

end WidgetStage
