import WidgetStage.Toolkit.Basic

/-!
# Pixel buffers

A handle is rendered into a buffer of pixels. A buffer is acquired before it is written and
released afterwards; what it holds is published when it is released. A buffer can be told to be
busy.

* `PixelBuffer.acquire` — takes the pixels, unless the buffer is busy.
* `PixelBuffer.release` — publishes them.
-/

namespace WidgetStage

/-- A buffer with four bytes for every pixel of its size. -/
structure PixelBuffer where
  size : Size
  pixels : Array UInt8
  /-- What was held when the buffer was released last. -/
  published : Array UInt8
  held : Bool
  acquires : Nat
  releases : Nat
  /-- Whether the buffer cannot be acquired. -/
  busy : Bool
  deriving DecidableEq, Repr

namespace PixelBuffer

/-- The bytes of a black and transparent picture. -/
def blank (size : Size) : Array UInt8 :=
  Array.replicate (size.area * 4) 0

/-- A blank buffer that was never acquired. -/
def start (size : Size) : PixelBuffer :=
  ⟨size, blank size, #[], false, 0, 0, false⟩

/-- Changes the size; the new pixels are blank. -/
def resize (b : PixelBuffer) (size : Size) : PixelBuffer :=
  { b with size := size, pixels := blank size }

/-- Takes hold of the buffer. -/
def acquire (b : PixelBuffer) : Except ToolkitError PixelBuffer :=
  if b.busy then .error (.fault "buffer busy")
  else if b.held then .error (.fault "buffer acquired twice")
  else .ok { b with held := true, acquires := b.acquires + 1 }

/-- Lets go of the buffer and publishes its pixels. -/
def release (b : PixelBuffer) : PixelBuffer :=
  { b with held := false, releases := b.releases + 1, published := b.pixels }

/-- Tells whether the buffer cannot be acquired from now on. -/
def setBusy (b : PixelBuffer) (busy : Bool) : PixelBuffer :=
  { b with busy := busy }

/-- Sets every byte. -/
def fill (b : PixelBuffer) (byte : UInt8) : PixelBuffer :=
  { b with pixels := b.pixels.map fun _ => byte }

/-- Sets each byte to a linear function of its index. -/
def ramp (b : PixelBuffer) (factor offset : Nat) : PixelBuffer :=
  { b with pixels := b.pixels.mapIdx fun i _ => UInt8.ofNat ((i * factor + offset) % 256) }

/-- The diagnostic text of an acquired buffer. -/
def describeGuard (b : PixelBuffer) : String :=
  "BufferGuard \x7b size: " ++ b.size.describe ++ " \x7d"

end PixelBuffer

end WidgetStage
