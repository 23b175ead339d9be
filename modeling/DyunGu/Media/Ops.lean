import DyunGu.Media.Bridge

namespace DyunGu
namespace Media

open DyunGu.Core

/-!
# Media cores without a codec

Each of these cores makes one frame of each frame that is submitted and hands
them out in order.  They differ in what they make of a frame.
-/

inductive MediaPoll where
  | ready (frame : MediaFrame)
  | pending
  | endOfStream

/-- What a media element asks of its core. -/
structure MediaCore (C : Type) where
  canAcceptInput : C -> Bool
  hasInFlight : C -> Bool
  isFlushing : C -> Bool
  submit : C -> MediaFrame -> Except MediaError Unit × C
  submitEndOfStream : C -> C
  poll : C -> Except MediaError MediaPoll × C

structure OpsCore where
  ready : List MediaFrame
  eos : Bool

namespace OpsCore

def new : OpsCore := ⟨[], false⟩

/-- `late` is the message for a frame behind the end of the stream. -/
def submit (late : String) (process : MediaFrame -> Except MediaError MediaFrame)
    (core : OpsCore) (frame : MediaFrame) : Except MediaError Unit × OpsCore :=
  if core.eos then (.error (.media late), core)
  else if frame.isEndOfStream then (.ok (), { core with eos := true })
  else
    match process frame with
    | .error error => (.error error, core)
    | .ok made => (.ok (), { core with ready := core.ready ++ [made] })

def poll (core : OpsCore) : MediaPoll × OpsCore :=
  match core.ready with
  | frame :: rest => (.ready frame, { core with ready := rest })
  | [] => if core.eos then (.endOfStream, core) else (.pending, core)

end OpsCore

def opsCore (late : String) (process : MediaFrame -> Except MediaError MediaFrame) :
    MediaCore OpsCore where
  canAcceptInput _ := true
  hasInFlight _ := false
  isFlushing _ := false
  submit := OpsCore.submit late process
  submitEndOfStream core := { core with eos := true }
  poll core := (.ok core.poll.1, core.poll.2)

/-! ## What they make of a frame -/

def checkedPixelCount (height width channels : Nat) (element : String) : Except MediaError Nat :=
  match (checkedMul height width).bind (checkedMul · channels) with
  | some count => .ok count
  | none => .error (.media (element ++ ": image dimensions overflow"))

def imageGeometry (frame : MediaFrame) (element : String) : Except MediaError (Nat × Nat × Nat) :=
  match frame.shape with
  | [height, width, channels] => .ok (height, width, channels)
  | other => .error (.media (element ++ ": expected [height, width, channels] image shape, " ++
      s!"got {other}"))

/-- A recorded frame is only labelled as an image. -/
def decodeFrame (width height channels : Nat) (frame : MediaFrame) :
    Except MediaError MediaFrame := do
  let expected <- checkedPixelCount height width channels "media_decode"
  if frame.buffer.len ≠ expected then
    throw (.media (s!"media_decode: recorded frame has {frame.buffer.len} bytes, expected " ++
      s!"{expected} ({height}x{width}x{channels})"))
  return { frame with
    kind := .image, dtype := u8, format := .nhwc, shape := [height, width, channels] }

/-- An image is only labelled as a payload. -/
def encodeFrame (frame : MediaFrame) : MediaFrame :=
  { frame with kind := .tensor, dtype := u8, format := .n, shape := [frame.buffer.len] }

def readBytes (room : Nat -> Bool) (frame : MediaFrame) : Except MediaError (List UInt8) :=
  match frame.buffer.buffer.readBytes (room frame.buffer.len) with
  | .ok bytes => .ok bytes
  | .error (.buffer message) => .error (.other ("buffer error: " ++ message))
  | .error (.invalidArgument message) => .error (.other ("invalid argument: " ++ message))
  | .error (.resourceExhausted message) => .error (.other ("resource exhausted: " ++ message))

/-- An image of the given bytes in host memory. -/
def hostImage (frame : MediaFrame) (height width channels : Nat) (bytes : List UInt8) :
    MediaFrame where
  kind := .image
  dtype := u8
  format := .nhwc
  shape := [height, width, channels]
  device := frame.device
  domain := .host
  buffer := .ofHost frame.device ⟨bytes.length, 1⟩ bytes rfl
  metadata := frame.metadata

/-- What is left of a number in a machine word. -/
def wrapUsize (value : Nat) : Nat := value % (usizeMax + 1)

/-- The coordinate in the source; without overflow checks the product wraps
around. -/
def sourceCoordinate (srcSize dstSize coordinate : Nat) : Nat :=
  wrapUsize (coordinate * srcSize) / dstSize

/-- Of each pixel of the result, the bytes of the pixel at its coordinates in
the source. -/
def nearestBytes (src : List UInt8) (srcHeight srcWidth dstHeight dstWidth channels : Nat) :
    List UInt8 :=
  (List.range dstHeight).flatMap fun dstY =>
    (List.range dstWidth).flatMap fun dstX =>
      let srcY := sourceCoordinate srcHeight dstHeight dstY
      let srcX := sourceCoordinate srcWidth dstWidth dstX
      (src.drop ((srcY * srcWidth + srcX) * channels)).take channels

/-- `room` says whether there is memory for so many bytes. -/
def resizeFrame (room : Nat -> Bool) (dstWidth dstHeight : Nat) (frame : MediaFrame) :
    Except MediaError MediaFrame := do
  let (srcHeight, srcWidth, channels) <- imageGeometry frame "media_resize"
  if srcHeight = 0 ∨ srcWidth = 0 ∨ dstHeight = 0 ∨ dstWidth = 0 then
    throw (.media "media_resize: image dimensions must be non-zero")
  let expected <- checkedPixelCount srcHeight srcWidth channels "media_resize"
  let src <- readBytes room frame
  if src.length ≠ expected then
    throw (.media s!"media_resize: buffer has {src.length} bytes, expected {expected}")
  let outLen <- checkedPixelCount dstHeight dstWidth channels "media_resize"
  if room outLen = false then
    throw (.media s!"media_resize: allocation failed for {outLen} bytes")
  return hostImage frame dstHeight dstWidth channels
    (nearestBytes src srcHeight srcWidth dstHeight dstWidth channels)

structure OsdBox where
  x : Nat
  y : Nat
  width : Nat
  height : Nat
deriving DecidableEq, Repr

/-- Whether the pixel is on the border of the box, as far as the box lies in the
image. -/
def OsdBox.onBorder (box : OsdBox) (width height thickness x y : Nat) : Bool :=
  let xEnd := min (box.x + box.width) width
  let yEnd := min (box.y + box.height) height
  decide (box.x <= x ∧ x < xEnd ∧ box.y <= y ∧ y < yEnd) &&
    (decide (y < box.y + thickness) || decide (yEnd <= y + thickness) ||
      decide (x < box.x + thickness) || decide (xEnd <= x + thickness))

/-- A pixel that is on the border of a box has the color instead of its bytes. -/
def drawBoxes (boxes : List OsdBox) (color : List UInt8) (thickness height width channels : Nat)
    (bytes : List UInt8) : List UInt8 :=
  (List.range height).flatMap fun y =>
    (List.range width).flatMap fun x =>
      if boxes.any fun box => box.onBorder width height thickness x y then color
      else (bytes.drop ((y * width + x) * channels)).take channels

def osdFrame (room : Nat -> Bool) (boxes : List OsdBox) (color : List UInt8) (thickness : Nat)
    (frame : MediaFrame) : Except MediaError MediaFrame := do
  let (height, width, channels) <- imageGeometry frame "media_osd"
  if color.length ≠ channels then
    throw (.media (s!"media_osd: color has {color.length} components, image has {channels} " ++
      "channels"))
  if frame.buffer.buffer.isHostReadable = false then
    throw (.other ("unsupported: media_osd: frame buffer is not host-readable; staging " ++
      "required"))
  let expected <- checkedPixelCount height width channels "media_osd"
  let bytes <- readBytes room frame
  if bytes.length ≠ expected then
    throw (.media s!"media_osd: buffer has {bytes.length} bytes, expected {expected}")
  return hostImage frame height width channels
    (drawBoxes boxes color thickness height width channels bytes)

/-! ## The cores -/

def decodeOps (width height channels : Nat) : MediaCore OpsCore :=
  opsCore "media_decode: packet submitted after end of stream" (decodeFrame width height channels)

def encodeOps : MediaCore OpsCore :=
  opsCore "media_encode: frame submitted after end of stream" fun frame => .ok (encodeFrame frame)

def resizeOps (room : Nat -> Bool) (width height : Nat) : MediaCore OpsCore :=
  opsCore "media_resize: frame submitted after end of stream" (resizeFrame room width height)

def osdOps (room : Nat -> Bool) (boxes : List OsdBox) (color : List UInt8) (thickness : Nat) :
    MediaCore OpsCore :=
  opsCore "media_osd: frame submitted after end of stream" (osdFrame room boxes color thickness)

-- four pixels of two by two become one, the first of them
example : nearestBytes [1, 2, 3, 4] 2 2 1 1 1 = [1] := by
  decide

end Media
end DyunGu
