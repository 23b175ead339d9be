import DyunGu.Media.OsdParams
import DyunGu.Media.Resize

namespace DyunGu
namespace Media

open Core Outcome Raster Slices

/-!
# Drawing boxes

The loops visit the pixels of each box as far as it lies in the image, and write
the color over those on its border.  A build with overflow checks panics if a
coordinate of a border is no machine word.  The copy of an image that is drawn on
is a vector, so all coordinates are far below that.
-/

def isizeMax : Nat := usizeMax / 2

/-- A vector has at most `isize::MAX` bytes, however much memory there is. -/
def vecRoom (room : Nat -> Bool) (count : Nat) : Bool := decide (count <= isizeMax) && room count

structure OsdCore where
  boxes : List OsdBox
  color : List UInt8
  thickness : Nat
  ready : List MediaFrame
  eos : Bool

namespace OsdCore

def tryNew (boxes : List OsdBox) (color : List UInt8) (thickness : Nat) :
    Except MediaError OsdCore :=
  if boxes.length > maxOsdBoxes then
    .error (.media s!"media_osd: boxes count {boxes.length} exceeds limit {maxOsdBoxes}")
  else if color = [] ∨ color.length > maxOsdColorLen then
    .error (.media s!"media_osd: color components must be between 1 and {maxOsdColorLen}")
  else if thickness = 0 ∨ thickness > maxOsdThickness then
    .error (.media s!"media_osd: thickness must be between 1 and {maxOsdThickness}")
  else .ok ⟨boxes, color, thickness, [], false⟩

variable (core : OsdCore) (checked : Bool)

def params : OsdParams := ⟨core.boxes, core.color, core.thickness⟩

/-- What is read of a frame before the loops. -/
def source (room : Nat -> Bool) (frame : MediaFrame) : Except MediaError SourceImage := do
  let (height, width, channels) <- imageGeometry frame "media_osd"
  if core.color.length ≠ channels then
    .error (.media
      (s!"media_osd: color has {core.color.length} components, image has {channels} " ++
        "channels"))
  else if frame.buffer.buffer.isHostReadable = false then
    .error (.other ("unsupported: media_osd: frame buffer is not host-readable; staging " ++
      "required"))
  else do
    let expected <- checkedPixelCount height width channels "media_osd"
    let bytes <- readBytes (vecRoom room) frame
    if bytes.length ≠ expected then
      .error (.media s!"media_osd: buffer has {bytes.length} bytes, expected {expected}")
    else .ok ⟨height, width, channels, bytes⟩

/-- `on_border`, one comparison after the other. -/
def onBorder (box : OsdBox) (yEnd xEnd y x : Nat) : Option Bool := do
  let top <- addUsize checked box.y core.thickness
  if y < top then some true
  else do
    let below <- addUsize checked y core.thickness
    if below >= yEnd then some true
    else do
      let left <- addUsize checked box.x core.thickness
      if x < left then some true
      else do
        let after <- addUsize checked x core.thickness
        some (decide (after >= xEnd))

/-- `bytes[offset..offset + channels].copy_from_slice(&self.color)`. -/
def copyColor (channels offset : Nat) (bytes : List UInt8) : Option (List UInt8) := do
  let stop <- addUsize checked offset channels
  if stop < offset ∨ bytes.length < stop ∨ core.color.length ≠ stop - offset then none
  else splice bytes offset core.color

/-- A round of the inner loop. -/
def drawPixel (width channels : Nat) (box : OsdBox) (yEnd xEnd y : Nat) (bytes : List UInt8)
    (x : Nat) : Option (List UInt8) := do
  let onBorder <- core.onBorder checked box yEnd xEnd y x
  if onBorder then do
    let offset <- pixelOffset checked width channels y x
    core.copyColor checked channels offset bytes
  else some bytes

def drawBox (height width channels : Nat) (bytes : List UInt8) (box : OsdBox) :
    Option (List UInt8) := do
  let right <- addUsize checked box.x box.width
  let bottom <- addUsize checked box.y box.height
  let xEnd := min right width
  let yEnd := min bottom height
  if box.x >= xEnd ∨ box.y >= yEnd then some bytes
  else
    (List.range' box.y (yEnd - box.y)).foldlM (fun bytes y =>
      (List.range' box.x (xEnd - box.x)).foldlM
        (core.drawPixel checked width channels box yEnd xEnd y) bytes) bytes

def draw (room : Nat -> Bool) (frame : MediaFrame) : Except (Fault MediaError) MediaFrame := do
  let source <- orFail (core.source room frame)
  let bytes <- orPanic (core.boxes.foldlM
    (core.drawBox checked source.height source.width source.channels) source.bytes)
  return hostImage frame source.height source.width source.channels bytes

def submitImage (room : Nat -> Bool) (frame : MediaFrame) :
    Except (Fault MediaError) Unit × OsdCore :=
  if core.eos then
    (.error (.error (.media "media_osd: frame submitted after end of stream")), core)
  else if frame.isEndOfStream then (.ok (), { core with eos := true })
  else
    match core.draw checked room frame with
    | .error fault => (.error fault, core)
    | .ok drawn => (.ok (), { core with ready := core.ready ++ [drawn] })

end OsdCore

/-! ## The pixels of a border -/

/-- The part of a box that lies in an image. -/
def OsdBox.clip (box : OsdBox) (height width : Nat) : Area :=
  ⟨box.y, box.x, min (box.y + box.height) height - box.y, min (box.x + box.width) width - box.x⟩

theorem OsdBox.clip_contains {box : OsdBox} {height width y x : Nat} :
    (box.clip height width).Contains y x <->
      (box.y <= y ∧ y < min (box.y + box.height) height) ∧
        box.x <= x ∧ x < min (box.x + box.width) width := by
  simp only [Area.Contains, OsdBox.clip]
  omega

theorem OsdBox.border_iff {box : OsdBox} {height width y x : Nat}
    (inBox : (box.clip height width).Contains y x) (thickness : Nat) :
    (box.clip height width).Border thickness y x <->
      y < box.y + thickness ∨ min (box.y + box.height) height <= y + thickness ∨
        x < box.x + thickness ∨ min (box.x + box.width) width <= x + thickness := by
  have isInside := clip_contains.mp inBox
  rw [Area.Border, and_iff_right inBox]
  simp only [clip]
  omega

theorem OsdBox.onBorder_iff {box : OsdBox} {height width thickness x y : Nat} :
    box.onBorder width height thickness x y = true <->
      (box.clip height width).Border thickness y x := by
  rw [Area.Border, clip_contains, onBorder]
  simp only [clip, Bool.and_eq_true, Bool.or_eq_true, decide_eq_true_eq]
  omega

/-- What was read is a copy of the whole buffer, for which there was memory. -/
theorem readBytes_ok {room : Nat -> Bool} {frame : MediaFrame} {bytes : List UInt8}
    (read : readBytes room frame = .ok bytes) :
    bytes.length = frame.buffer.len ∧ room frame.buffer.len = true := by
  rw [readBytes] at read
  split at read
  · rename_i copied isCopied
    cases read
    rw [Buffer.readBytes, BufferStorage.tryReadBytes] at isCopied
    split at isCopied
    · cases isCopied
    · rename_i stored isStored
      split at isCopied
      · rename_i reserved
        cases isCopied
        exact ⟨frame.buffer.sized _ isStored, reserved⟩
      · cases isCopied
  · cases read
  · cases read
  · cases read

theorem length_of_readBytes {room : Nat -> Bool} {frame : MediaFrame} {bytes : List UInt8}
    (read : readBytes (vecRoom room) frame = .ok bytes) : bytes.length <= isizeMax := by
  rcases readBytes_ok read with ⟨length, hasRoom⟩
  rw [vecRoom, Bool.and_eq_true, decide_eq_true_iff] at hasRoom
  rw [length]
  exact hasRoom.1

/-- What is known of an image before the loops. -/
structure OsdCore.Accepts (core : OsdCore) (source : SourceImage) : Prop where
  color : core.color.length = source.channels
  length : source.bytes.length = source.height * source.width * source.channels
  pixels : source.height * source.width <= usizeMax
  vector : source.bytes.length <= isizeMax

namespace OsdCore

variable {core : OsdCore} {checked : Bool} {source : SourceImage}

theorem source_ok {room : Nat -> Bool} {frame : MediaFrame}
    (isSource : core.source room frame = .ok source) :
    frame.shape = [source.height, source.width, source.channels] ∧
      readBytes (vecRoom room) frame = .ok source.bytes ∧ core.Accepts source := by
  rcases bind_ok isSource with ⟨⟨height, width, channels⟩, isShape, isSource⟩
  dsimp only at isSource
  split at isSource
  · cases isSource
  · rename_i color
    split at isSource
    · cases isSource
    · rcases bind_ok isSource with ⟨expected, isExpected, isSource⟩
      rcases bind_ok isSource with ⟨bytes, read, isSource⟩
      split at isSource
      · cases isSource
      · rename_i length
        cases isSource
        rcases checkedPixelCount_ok isExpected with ⟨rfl, pixels, -⟩
        exact ⟨imageGeometry_ok isShape, read, not_not.mp color, not_not.mp length, pixels,
          length_of_readBytes read⟩

/-- Coordinates in an image that is held in a vector are far from the largest
machine word. -/
theorem Accepts.coordinates (accepts : core.Accepts source) (valid : core.params.Valid) {y x : Nat}
    (isRow : y < source.height) (isColumn : x < source.width) : y <= isizeMax ∧ x <= isizeMax := by
  have inside := offset_le core.color.length isRow isColumn
  rw [offset, ← Nat.succ_mul, accepts.color, ← accepts.length] at inside
  have small : y * source.width + x <= isizeMax :=
    (Nat.le_mul_of_pos_right _ (accepts.color ▸ valid.color.1)).trans
      ((Nat.mul_le_mul_right _ (Nat.le_succ _)).trans (inside.trans accepts.vector))
  exact ⟨(Nat.le_mul_of_pos_right y (Nat.zero_lt_of_lt isColumn)).trans
    ((Nat.le_add_right _ _).trans small), (Nat.le_add_left _ _).trans small⟩

theorem onBorder_eq {box : OsdBox} {height width y x : Nat}
    (thin : core.thickness <= maxOsdThickness) (inBox : (box.clip height width).Contains y x)
    (isSmall : y <= isizeMax ∧ x <= isizeMax) :
    core.onBorder checked box (min (box.y + box.height) height)
        (min (box.x + box.width) width) y x =
      some (decide ((box.clip height width).Border core.thickness y x)) := by
  have isInside := OsdBox.clip_contains.mp inBox
  have most : isizeMax + maxOsdThickness <= usizeMax := by decide
  have sums : box.y + core.thickness <= usizeMax ∧ y + core.thickness <= usizeMax ∧
      box.x + core.thickness <= usizeMax ∧ x + core.thickness <= usizeMax := by
    omega
  simp only [onBorder, addUsize_of_le checked, sums, Option.bind_eq_bind, Option.bind_some,
    OsdBox.border_iff inBox]
  split
  · rename_i top
    simp [top]
  · rename_i notTop
    split
    · rename_i below
      simp [below]
    · rename_i notBelow
      split
      · rename_i left
        simp [left]
      · rename_i notLeft
        rw [decide_eq_decide.mpr]
        simp [notTop, notBelow, notLeft]

/-! ## The loops -/

theorem Accepts.copyColor_eq (accepts : core.Accepts source) {y x : Nat}
    (isRow : y < source.height) (isColumn : x < source.width) {bytes : List UInt8}
    (isImage : bytes.length = source.bytes.length) :
    core.copyColor checked source.channels (offset source.width source.channels y x) bytes =
      Write.perform bytes ⟨offset source.width core.color.length y x, core.color⟩ := by
  have inside := offset_le source.channels isRow isColumn
  rw [← accepts.length] at inside
  have most : isizeMax <= usizeMax := by decide
  have fits := (inside.trans accepts.vector).trans most
  have fine : ¬ (offset source.width source.channels y x + source.channels <
      offset source.width source.channels y x ∨
      bytes.length < offset source.width source.channels y x + source.channels ∨
      core.color.length ≠ offset source.width source.channels y x + source.channels -
        offset source.width source.channels y x) := by
    rw [isImage, accepts.color]
    omega
  rw [copyColor, addUsize_of_le checked fits, Option.bind_eq_bind, Option.bind_some, if_neg fine,
    accepts.color]
  rfl

theorem Accepts.drawPixel_painted (accepts : core.Accepts source) (valid : core.params.Valid)
    {box : OsdBox} {y x : Nat} (inBox : (box.clip source.height source.width).Contains y x)
    {bytes : List UInt8} (isImage : bytes.length = source.bytes.length) :
    Exists fun result =>
      core.drawPixel checked source.width source.channels box
          (min (box.y + box.height) source.height) (min (box.x + box.width) source.width) y
          bytes x = some result ∧
      Painted source.height source.width core.color (fun otherY otherX =>
        (otherY = y ∧ otherX = x) ∧
          (box.clip source.height source.width).Border core.thickness y x) bytes result := by
  have isInside := OsdBox.clip_contains.mp inBox
  have isRow : y < source.height := by omega
  have isColumn : x < source.width := by omega
  have small := accepts.coordinates valid isRow isColumn
  have most : isizeMax <= usizeMax := by decide
  have fits := accepts.vector.trans most
  rw [accepts.length] at fits
  rw [drawPixel, onBorder_eq valid.thickness.2 inBox small, Option.bind_eq_bind, Option.bind_some]
  by_cases isBorder : (box.clip source.height source.width).Border core.thickness y x
  · rw [decide_eq_true isBorder, if_pos rfl,
      pixelOffset_eq checked isRow isColumn accepts.pixels fits, Option.bind_eq_bind, Option.bind_some, accepts.copyColor_eq isRow isColumn isImage]
    have isSize : bytes.length = source.height * source.width * core.color.length := by
      rw [isImage, accepts.length, accepts.color]
    rcases painted_pixel isSize isRow isColumn with ⟨result, performed, painted⟩
    exact ⟨result, performed, painted.congr (by simp [isBorder])⟩
  · rw [decide_eq_false isBorder, if_neg Bool.false_ne_true]
    exact ⟨bytes, rfl, (Painted.refl _ _ _ bytes).congr (by simp [isBorder])⟩

/-- A box paints the border of the part of it that lies in the image. -/
theorem Accepts.drawBox_painted (accepts : core.Accepts source) (valid : core.params.Valid)
    {box : OsdBox} (isBox : box.Valid) {bytes : List UInt8}
    (isImage : bytes.length = source.bytes.length) :
    Exists fun result =>
      core.drawBox checked source.height source.width source.channels bytes box = some result ∧
        Painted source.height source.width core.color
          ((box.clip source.height source.width).Border core.thickness) bytes result := by
  rw [drawBox, addUsize_of_le checked isBox.columns, addUsize_of_le checked isBox.rows,
    Option.bind_eq_bind, Option.bind_some, Option.bind_some]
  dsimp only
  split
  · rename_i isOutside
    refine ⟨bytes, rfl, (Painted.refl _ _ _ bytes).congr ?_⟩
    intro y x _ _
    rw [false_iff]
    intro isBorder
    have isInside := OsdBox.clip_contains.mp isBorder.1
    omega
  · have isPixel {y x : Nat}
        (isRow : y ∈ List.range' box.y (min (box.y + box.height) source.height - box.y))
        (isColumn : x ∈ List.range' box.x (min (box.x + box.width) source.width - box.x)) :
        (box.clip source.height source.width).Contains y x :=
      ⟨List.mem_range'_1.mp isRow, List.mem_range'_1.mp isColumn⟩
    rcases foldlM_painted (fun y isRow bytes isImage =>
      foldlM_painted (fun x isColumn bytes isImage =>
        accepts.drawPixel_painted valid (isPixel isRow isColumn) isImage) isImage) isImage
      with ⟨result, drawn, painted⟩
    refine ⟨result, drawn, painted.congr ?_⟩
    intro y x _ _
    constructor
    · rintro ⟨_, _, _, _, ⟨rfl, rfl⟩, isBorder⟩
      exact isBorder
    · intro isBorder
      exact ⟨y, List.mem_range'_1.mpr isBorder.1.1, x, List.mem_range'_1.mpr isBorder.1.2,
        ⟨rfl, rfl⟩, isBorder⟩

/-- The pixel is on the border of some box. -/
def Bordered (core : OsdCore) (height width y x : Nat) : Prop :=
  Exists fun box => box ∈ core.boxes ∧ (box.clip height width).Border core.thickness y x

theorem Accepts.drawn (accepts : core.Accepts source) (valid : core.params.Valid)
    (checked : Bool) :
    Exists fun result =>
      core.boxes.foldlM (core.drawBox checked source.height source.width source.channels)
          source.bytes = some result ∧
        Painted source.height source.width core.color (core.Bordered source.height source.width)
          source.bytes result :=
  foldlM_painted (fun box isBox _ isImage =>
    accepts.drawBox_painted valid (valid.boxes box isBox) isImage) rfl

theorem bordered_iff {height width y x : Nat} : core.Bordered height width y x <->
    (core.boxes.any fun box => box.onBorder width height core.thickness x y) = true := by
  simp only [Bordered, List.any_eq_true, OsdBox.onBorder_iff]

instance (height width y x : Nat) : Decidable (core.Bordered height width y x) :=
  decidable_of_iff _ bordered_iff.symm

/-- The loops give each pixel what it is to have. -/
theorem Accepts.drawn_eq (accepts : core.Accepts source) (valid : core.params.Valid) :
    core.boxes.foldlM (core.drawBox checked source.height source.width source.channels)
        source.bytes =
      some (drawBoxes core.boxes core.color core.thickness source.height source.width
        source.channels source.bytes) := by
  rcases accepts.drawn valid checked with ⟨result, drawn, painted⟩
  have isSize : source.bytes.length = source.height * source.width * core.color.length := by
    rw [accepts.color]
    exact accepts.length
  rw [drawn, painted.eq_flatMap isSize]
  simp only [drawBoxes, bordered_iff, offset, accepts.color]

theorem osdFrame_eq (room : Nat -> Bool) (frame : MediaFrame) :
    osdFrame (vecRoom room) core.boxes core.color core.thickness frame =
      core.source room frame >>= fun source =>
        .ok (hostImage frame source.height source.width source.channels
          (drawBoxes core.boxes core.color core.thickness source.height source.width
            source.channels source.bytes)) := by
  rw [osdFrame, source]
  cases imageGeometry frame "media_osd" with
  | error error => rfl
  | ok geometry =>
      rcases geometry with ⟨height, width, channels⟩
      simp only [bind, Except.bind, throw, throwThe, MonadExceptOf.throw]
      split
      · rfl
      · split
        · rfl
        · cases checkedPixelCount height width channels "media_osd" with
          | error error => rfl
          | ok expected =>
              cases readBytes (vecRoom room) frame with
              | error error => rfl
              | ok bytes =>
                  dsimp only
                  split
                  · rfl
                  · rfl

/-- What a frame becomes, in a build with or without overflow checks. -/
theorem draw_eq (valid : core.params.Valid) (checked : Bool) (room : Nat -> Bool)
    (frame : MediaFrame) : core.draw checked room frame =
      orFail (osdFrame (vecRoom room) core.boxes core.color core.thickness frame) := by
  rw [osdFrame_eq, draw]
  cases isSource : core.source room frame with
  | error error => rfl
  | ok source =>
      show (orPanic (core.boxes.foldlM (core.drawBox checked source.height source.width
        source.channels) source.bytes) >>= _) = _
      rw [(source_ok isSource).2.2.drawn_eq valid]
      rfl

/-- Parameters that the parser accepts are accepted by the core. -/
theorem tryNew_of_valid {params : OsdParams} (valid : params.Valid) :
    tryNew params.boxes params.color params.thickness =
      .ok ⟨params.boxes, params.color, params.thickness, [], false⟩ := by
  rw [tryNew, if_neg (Nat.not_lt.mpr valid.count), if_neg, if_neg]
  · rw [not_or]
    exact ⟨valid.thickness.1.ne', Nat.not_lt.mpr valid.thickness.2⟩
  · rw [not_or]
    exact ⟨List.ne_nil_of_length_pos valid.color.1, Nat.not_lt.mpr valid.color.2⟩

/-- The frame that was made last has the color on the borders of the boxes, and is
the image that was submitted everywhere else. -/
def Drawn (core : OsdCore) (room : Nat -> Bool) (frame : MediaFrame) (next : OsdCore) : Prop :=
  Exists fun source : SourceImage => Exists fun bytes =>
    frame.shape = [source.height, source.width, source.channels] ∧
      readBytes (vecRoom room) frame = .ok source.bytes ∧
      source.bytes.length = source.height * source.width * source.channels ∧
      core.color.length = source.channels ∧
      next = { core with
        ready := core.ready ++
          [hostImage frame source.height source.width source.channels bytes] } ∧
      Painted source.height source.width core.color (core.Bordered source.height source.width)
        source.bytes bytes

/-- With parameters from the parser nothing overflows and nothing is out of
bounds.  An image that is accepted is drawn on the borders of its boxes only. -/
theorem submitImage_drawn {node : Graph.NodeSpec} (core : OsdCore)
    (parsed : parseOsd node = .ok core.params) (checked : Bool) (room : Nat -> Bool)
    (frame : MediaFrame) :
    Safe (core.submitImage checked room frame).1 ∧
      forall next, frame.isEndOfStream = false ->
        core.submitImage checked room frame = (.ok (), next) -> core.Drawn room frame next := by
  have valid := parseOsd_valid parsed
  rw [submitImage]
  split
  · exact ⟨safe_error _, fun next _ accepted => by cases accepted⟩
  · split
    · rename_i isEnd
      refine ⟨safe_ok (), fun next notEnd _ => ?_⟩
      rw [isEnd] at notEnd
      cases notEnd
    · rw [draw_eq valid, osdFrame_eq]
      cases isSource : core.source room frame with
      | error error => exact ⟨safe_error error, fun next _ accepted => by cases accepted⟩
      | ok source =>
          refine ⟨safe_ok (), fun next _ accepted => ?_⟩
          cases accepted
          rcases source_ok isSource with ⟨shape, read, accepts⟩
          rcases accepts.drawn valid checked with ⟨bytes, drawn, painted⟩
          rw [accepts.drawn_eq valid] at drawn
          cases drawn
          exact ⟨source, _, shape, read, accepts.length, accepts.color, rfl, painted⟩

/-- A box around nine pixels, and one that reaches as far as coordinates go. -/
def boxesNode : Graph.NodeSpec where
  name := "osd"
  kind := "media_osd"
  threads := none
  sink := false
  backend := none
  device := none
  precision := none
  template := none
  params := .object
    [("boxes", .array
      [.object [("height", .number (.posInt 3)), ("width", .number (.posInt 3)),
        ("x", .number (.posInt 0)), ("y", .number (.posInt 0))],
      .object [("height", .number (.posInt 1)), ("width", .number (.posInt (usizeMax - 2))),
        ("x", .number (.posInt 2)), ("y", .number (.posInt 0))]]),
    ("color", .array [.number (.posInt 0)])]

def boxesCore (ready : List MediaFrame) : OsdCore :=
  ⟨[⟨0, 0, 3, 3⟩, ⟨2, 0, usizeMax - 2, 1⟩], [0], 1, ready, false⟩

def ninePixels : MediaFrame := ResizeCore.image 3 3 1 [1, 2, 3, 4, 5, 6, 7, 8, 9]

/-- The pixel in the middle stays. -/
theorem ninePixels_drawn : (boxesCore []).Drawn ResizeCore.enough ninePixels
    (boxesCore [hostImage ninePixels 3 3 1 [0, 0, 0, 0, 5, 0, 0, 0, 0]]) := by
  have parsed : parseOsd boxesNode = .ok (boxesCore []).params := by decide +kernel
  exact (submitImage_drawn (boxesCore []) parsed true ResizeCore.enough ninePixels).2 _ rfl rfl

end OsdCore

end Media
end DyunGu
