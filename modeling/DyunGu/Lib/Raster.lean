import DyunGu.Lib.Slices

namespace DyunGu
namespace Raster

open Slices

/-!
# Images in a buffer

The samples of a pixel lie next to each other, the pixels of a row too, and the
rows follow one another.  A rectangle of pixels that is written pixel by pixel
holds those pixels afterwards, and around it nothing has changed.
-/

/-- Where the samples of a pixel begin. -/
def offset (width channels y x : Nat) : Nat := (y * width + x) * channels

variable {height width channels y x : Nat}

theorem pixel_lt (isRow : y < height) (isColumn : x < width) : y * width + x < height * width := by
  have rows : y * width + width <= height * width := by
    rw [← Nat.succ_mul]
    exact Nat.mul_le_mul_right width isRow
  omega

/-- All samples of a pixel lie in the image. -/
theorem offset_le (channels : Nat) (isRow : y < height) (isColumn : x < width) :
    offset width channels y x + channels <= height * width * channels := by
  rw [offset, ← Nat.succ_mul]
  exact Nat.mul_le_mul_right channels (pixel_lt isRow isColumn)

theorem place_inj {base first second low high : Nat} (isLow : low < base) (isHigh : high < base)
    (same : first * base + low = second * base + high) : first = second := by
  have divided := congrArg (· / base) same
  simp only [Nat.mul_comm _ base, Nat.mul_add_div (Nat.zero_lt_of_lt isLow),
    Nat.div_eq_of_lt isLow, Nat.div_eq_of_lt isHigh] at divided
  exact divided

/-- A sample belongs to one pixel only. -/
theorem offset_inj {otherY otherX sample otherSample : Nat} (isColumn : x < width)
    (isOther : otherX < width) (isSample : sample < channels) (isOtherSample : otherSample < channels)
    (same : offset width channels y x + sample =
      offset width channels otherY otherX + otherSample) : y = otherY ∧ x = otherX := by
  have pixel : y * width + x = otherY * width + otherX := place_inj isSample isOtherSample same
  have row : y = otherY := place_inj isColumn isOther pixel
  subst row
  exact ⟨rfl, Nat.add_left_cancel pixel⟩

/-- Each position in an image is that of a sample. -/
theorem exists_offset {position : Nat} (inside : position < height * width * channels) :
    Exists fun y => Exists fun x => Exists fun sample =>
      y < height ∧ x < width ∧ sample < channels ∧
        position = offset width channels y x + sample := by
  have hasChannels : 0 < channels := Nat.pos_of_lt_mul_left inside
  have isPixel : position / channels < height * width := Nat.div_lt_of_lt_mul
    (inside.trans_eq (Nat.mul_comm _ _))
  have hasColumns : 0 < width := Nat.pos_of_lt_mul_left isPixel
  refine ⟨position / channels / width, position / channels % width, position % channels,
    ?_, Nat.mod_lt _ hasColumns, Nat.mod_lt _ hasChannels, ?_⟩
  · exact Nat.div_lt_of_lt_mul (isPixel.trans_eq (Nat.mul_comm _ _))
  · rw [offset, Nat.div_add_mod', Nat.div_add_mod']

/-- Images of one size with the same samples are equal. -/
theorem image_ext {Item : Type} {first second : List Item}
    (isFirst : first.length = height * width * channels)
    (isSecond : second.length = height * width * channels)
    (same : forall y x sample, y < height -> x < width -> sample < channels ->
      first[offset width channels y x + sample]? = second[offset width channels y x + sample]?) :
    first = second := by
  apply List.ext_getElem?
  intro position
  by_cases inside : position < height * width * channels
  · rcases exists_offset inside with ⟨y, x, sample, isRow, isColumn, isSample, rfl⟩
    exact same y x sample isRow isColumn isSample
  · rw [List.getElem?_eq_none (isFirst ▸ Nat.le_of_not_lt inside),
      List.getElem?_eq_none (isSecond ▸ Nat.le_of_not_lt inside)]

/-! ## Writing a rectangle -/

/-- A rectangle of an image. -/
structure Area where
  top : Nat
  left : Nat
  rows : Nat
  columns : Nat
deriving DecidableEq, Repr

namespace Area

def Contains (area : Area) (y x : Nat) : Prop :=
  (area.top <= y ∧ y < area.top + area.rows) ∧ area.left <= x ∧ x < area.left + area.columns

instance (area : Area) (y x : Nat) : Decidable (area.Contains y x) :=
  inferInstanceAs (Decidable (_ ∧ _))

/-- The rectangle lies in an image of the given height and width. -/
def Within (area : Area) (height width : Nat) : Prop :=
  area.top + area.rows <= height ∧ area.left + area.columns <= width

end Area

variable {Item : Type}

/-- The pixels of a rectangle in the order in which they are written. -/
def tiles (area : Area) (width channels : Nat) (pixel : Nat -> Nat -> List Item) :
    List (Write Item) :=
  (List.range area.rows).flatMap fun y => (List.range area.columns).map fun x =>
    ⟨offset width channels (area.top + y) (area.left + x), pixel y x⟩

/-- Each pixel of the rectangle has as many samples as the image has channels. -/
def Sized (area : Area) (channels : Nat) (pixel : Nat -> Nat -> List Item) : Prop :=
  forall y x, y < area.rows -> x < area.columns -> (pixel y x).length = channels

variable {area : Area} {pixel : Nat -> Nat -> List Item}

theorem mem_tiles {write : Write Item} : write ∈ tiles area width channels pixel <->
    Exists fun y => Exists fun x => y < area.rows ∧ x < area.columns ∧
      write = ⟨offset width channels (area.top + y) (area.left + x), pixel y x⟩ := by
  simp only [tiles, List.mem_flatMap, List.mem_map, List.mem_range]
  constructor
  · rintro ⟨y, isRow, x, isColumn, rfl⟩
    exact ⟨y, x, isRow, isColumn, rfl⟩
  · rintro ⟨y, x, isRow, isColumn, rfl⟩
    exact ⟨y, isRow, x, isColumn, rfl⟩

theorem tile_mem (width channels : Nat) (pixel : Nat -> Nat -> List Item) (isRow : y < area.rows)
    (isColumn : x < area.columns) :
    ⟨offset width channels (area.top + y) (area.left + x), pixel y x⟩ ∈
      tiles area width channels pixel :=
  mem_tiles.mpr ⟨y, x, isRow, isColumn, rfl⟩

/-- The writes as a loop over the rows with a loop over the columns in it. -/
theorem performAll_tiles_eq (items : List Item) (area : Area) (width channels : Nat)
    (pixel : Nat -> Nat -> List Item) :
    performAll items (tiles area width channels pixel) =
      (List.range area.rows).foldlM (fun items y =>
        (List.range area.columns).foldlM (fun items x =>
          Write.perform items ⟨offset width channels (area.top + y) (area.left + x), pixel y x⟩)
          items) items := by
  rw [performAll, tiles, foldlM_flatMap]
  simp only [List.foldlM_map]

/-- The samples of a written pixel. -/
theorem covered_of_tile (width : Nat) (sized : Sized area channels pixel) (isRow : y < area.rows)
    (isColumn : x < area.columns) {position : Nat} :
    Write.Covers ⟨offset width channels (area.top + y) (area.left + x), pixel y x⟩ position <->
      Exists fun sample => sample < channels ∧
        position = offset width channels (area.top + y) (area.left + x) + sample := by
  rw [Write.Covers, Write.stop, sized y x isRow isColumn]
  constructor
  · rintro ⟨after, before⟩
    dsimp only at after before
    exact ⟨position - offset width channels (area.top + y) (area.left + x), by omega, by omega⟩
  · rintro ⟨sample, isSample, rfl⟩
    exact ⟨Nat.le_add_right _ _, Nat.add_lt_add_left isSample _⟩

/-- Different pixels do not touch each other. -/
theorem tiles_apart (within : area.left + area.columns <= width)
    (sized : Sized area channels pixel) :
    (tiles area width channels pixel).Pairwise Write.Apart := by
  have apart {y x otherY otherX : Nat} (isRow : y < area.rows) (isOtherRow : otherY < area.rows)
      (isColumn : x < area.columns) (isOther : otherX < area.columns)
      (different : ¬ (y = otherY ∧ x = otherX)) :
      Write.Apart ⟨offset width channels (area.top + y) (area.left + x), pixel y x⟩
        ⟨offset width channels (area.top + otherY) (area.left + otherX), pixel otherY otherX⟩ := by
    intro position covers otherCovers
    rcases (covered_of_tile width sized isRow isColumn).mp covers with ⟨sample, isSample, isAt⟩
    rcases (covered_of_tile width sized isOtherRow isOther).mp otherCovers
      with ⟨otherSample, isOtherSample, isOtherAt⟩
    rcases offset_inj (by omega) (by omega) isSample isOtherSample (isAt.symm.trans isOtherAt)
      with ⟨sameRow, sameColumn⟩
    exact different ⟨Nat.add_left_cancel sameRow, Nat.add_left_cancel sameColumn⟩
  rw [tiles, List.pairwise_flatMap]
  constructor
  · intro y isRow
    rw [List.pairwise_map]
    refine List.Pairwise.imp_of_mem ?_ List.pairwise_lt_range
    intro x otherX isColumn isOther before
    exact apart (List.mem_range.mp isRow) (List.mem_range.mp isRow) (List.mem_range.mp isColumn)
      (List.mem_range.mp isOther) (by omega)
  · refine List.Pairwise.imp_of_mem ?_ List.pairwise_lt_range
    intro y otherY isRow isOtherRow before first isFirst second isSecond
    rcases List.mem_map.mp isFirst with ⟨x, isColumn, rfl⟩
    rcases List.mem_map.mp isSecond with ⟨otherX, isOther, rfl⟩
    exact apart (List.mem_range.mp isRow) (List.mem_range.mp isOtherRow)
      (List.mem_range.mp isColumn) (List.mem_range.mp isOther) (by omega)

/-- The pixels of the rectangle are written, and the others stay. -/
theorem performAll_tiles {items : List Item} (isImage : items.length = height * width * channels)
    (within : area.Within height width) (sized : Sized area channels pixel) :
    Exists fun result => performAll items (tiles area width channels pixel) = some result ∧
      result.length = items.length ∧
      forall y x sample, y < height -> x < width -> sample < channels ->
        result[offset width channels y x + sample]? =
          if area.Contains y x then (pixel (y - area.top) (x - area.left))[sample]?
          else items[offset width channels y x + sample]? := by
  rcases within with ⟨rowsFit, columnsFit⟩
  have fits : forall write, write ∈ tiles area width channels pixel ->
      write.stop <= items.length := by
    intro write member
    rcases mem_tiles.mp member with ⟨y, x, isRow, isColumn, rfl⟩
    rw [isImage, Write.stop, sized y x isRow isColumn]
    exact offset_le channels (by omega) (by omega)
  rcases performAll_written fits with ⟨result, performed, written⟩
  refine ⟨result, performed, written.length, ?_⟩
  intro y x sample isRow isColumn isSample
  by_cases inside : area.Contains y x
  · rw [if_pos inside]
    rcases inside with ⟨⟨below, above⟩, after, before⟩
    have isTileRow : y - area.top < area.rows := by omega
    have isTileColumn : x - area.left < area.columns := by omega
    have isTile := tile_mem width channels pixel isTileRow isTileColumn
    have covers := (covered_of_tile width sized isTileRow isTileColumn).mpr
      ⟨sample, isSample, rfl⟩
    have value := written.apart (tiles_apart columnsFit sized) isTile covers
    rw [Nat.add_sub_cancel_left, Nat.add_sub_cancel' below, Nat.add_sub_cancel' after] at value
    exact value
  · rw [if_neg inside]
    apply written.uncovered
    intro write member covers
    rcases mem_tiles.mp member with ⟨tileY, tileX, isTileRow, isTileColumn, rfl⟩
    rcases (covered_of_tile width sized isTileRow isTileColumn).mp covers
      with ⟨tileSample, isTileSample, isAt⟩
    rcases offset_inj isColumn (by omega) isSample isTileSample isAt with ⟨rfl, rfl⟩
    exact inside ⟨⟨Nat.le_add_right _ _, by omega⟩, Nat.le_add_right _ _, by omega⟩

/-! ## Writing a whole image -/

/-- The pixels of an image follow one another. -/
theorem image_adjacent (height width channels : Nat) (pixel : Nat -> Nat -> List Item)
    (sized : forall y x, y < height -> x < width -> (pixel y x).length = channels) :
    adjacent 0 ((List.range height).flatMap fun y => (List.range width).map (pixel y)) =
        tiles ⟨0, 0, height, width⟩ width channels pixel ∧
      ((List.range height).flatMap fun y => (List.range width).map (pixel y)).flatten.length =
        height * width * channels := by
  let places := (List.range height).flatMap fun y => (List.range width).map fun x => (y, x)
  have inOrder : places.map (fun place => place.1 * width + place.2) = List.range (height * width) := by
    rw [List.map_flatMap, ← range_mul]
    simp only [List.map_map]
    rfl
  have count : places.length = height * width := by
    rw [← List.length_range (n := height * width), ← inOrder, List.length_map]
  have eachSized : forall place, place ∈ places -> (pixel place.1 place.2).length = channels := by
    intro place member
    rcases List.mem_flatMap.mp member with ⟨y, isRow, isPlace⟩
    rcases List.mem_map.mp isPlace with ⟨x, isColumn, rfl⟩
    exact sized y x (List.mem_range.mp isRow) (List.mem_range.mp isColumn)
  have pieces : places.map (fun place => pixel place.1 place.2) =
      (List.range height).flatMap fun y => (List.range width).map (pixel y) := by
    rw [List.map_flatMap]
    simp only [List.map_map]
    rfl
  have writes : places.map (fun place => (⟨(place.1 * width + place.2) * channels,
      pixel place.1 place.2⟩ : Write Item)) = tiles ⟨0, 0, height, width⟩ width channels pixel := by
    rw [List.map_flatMap, tiles]
    simp only [List.map_map, Nat.zero_add]
    rfl
  rw [List.range_eq_range', ← count] at inOrder
  rcases adjacent_map inOrder eachSized with ⟨isAdjacent, isLength⟩
  rw [Nat.zero_mul, pieces, writes] at isAdjacent
  rw [pieces, count] at isLength
  exact ⟨isAdjacent, isLength⟩

/-- When all pixels of an image are written, nothing else is left of it. -/
theorem performAll_image {items : List Item} (isImage : items.length = height * width * channels)
    (sized : forall y x, y < height -> x < width -> (pixel y x).length = channels) :
    performAll items (tiles ⟨0, 0, height, width⟩ width channels pixel) =
      some ((List.range height).flatMap fun y => (List.range width).flatMap (pixel y)) := by
  rcases image_adjacent height width channels pixel sized with ⟨isAdjacent, isLength⟩
  have filled := performAll_adjacent [] (Nat.le_of_eq (isLength.trans isImage.symm))
  rw [List.length_nil, isAdjacent, isLength, ← isImage, List.drop_length, List.append_nil,
    List.nil_append, List.nil_append] at filled
  rw [filled]
  simp only [List.flatMap, List.flatten_flatten, List.map_map]
  rfl

/-! ## Painting pixels -/

/-- The pixels of a rectangle that are within `thickness` of one of its edges. -/
def Area.Border (area : Area) (thickness y x : Nat) : Prop :=
  area.Contains y x ∧
    (y < area.top + thickness ∨ area.top + area.rows <= y + thickness ∨
      x < area.left + thickness ∨ area.left + area.columns <= x + thickness)

instance (area : Area) (thickness y x : Nat) : Decidable (area.Border thickness y x) :=
  inferInstanceAs (Decidable (_ ∧ _))

/-- The chosen pixels have one color, and all others are what they were. -/
structure Painted (height width : Nat) (color : List Item) (chosen : Nat -> Nat -> Prop)
    (items result : List Item) : Prop where
  length : result.length = items.length
  painted : forall y x sample, y < height -> x < width -> sample < color.length -> chosen y x ->
    result[offset width color.length y x + sample]? = color[sample]?
  kept : forall y x sample, y < height -> x < width -> sample < color.length -> ¬ chosen y x ->
    result[offset width color.length y x + sample]? =
      items[offset width color.length y x + sample]?

section Painting

variable {color items middle result : List Item} {chosen other : Nat -> Nat -> Prop}

theorem Painted.refl (height width : Nat) (color items : List Item) :
    Painted height width color (fun _ _ => False) items items where
  length := rfl
  painted _ _ _ _ _ _ isChosen := isChosen.elim
  kept _ _ _ _ _ _ _ := rfl

theorem Painted.trans (first : Painted height width color chosen items middle)
    (second : Painted height width color other middle result) :
    Painted height width color (fun y x => chosen y x ∨ other y x) items result where
  length := second.length.trans first.length
  painted y x sample isRow isColumn isSample isChosen := by
    by_cases later : other y x
    · exact second.painted y x sample isRow isColumn isSample later
    · rw [second.kept y x sample isRow isColumn isSample later]
      exact first.painted y x sample isRow isColumn isSample (isChosen.resolve_right later)
  kept y x sample isRow isColumn isSample notChosen := by
    rw [not_or] at notChosen
    rw [second.kept y x sample isRow isColumn isSample notChosen.2]
    exact first.kept y x sample isRow isColumn isSample notChosen.1

theorem Painted.congr (same : forall y x, y < height -> x < width -> (chosen y x <-> other y x))
    (painted : Painted height width color chosen items result) :
    Painted height width color other items result where
  length := painted.length
  painted y x sample isRow isColumn isSample isOther :=
    painted.painted y x sample isRow isColumn isSample ((same y x isRow isColumn).mpr isOther)
  kept y x sample isRow isColumn isSample notOther :=
    painted.kept y x sample isRow isColumn isSample
      fun isChosen => notOther ((same y x isRow isColumn).mp isChosen)

/-- A color that is written over a pixel paints this pixel only. -/
theorem painted_pixel (isImage : items.length = height * width * color.length) (isRow : y < height)
    (isColumn : x < width) :
    Exists fun result => Write.perform items ⟨offset width color.length y x, color⟩ = some result ∧
      Painted height width color (fun otherY otherX => otherY = y ∧ otherX = x) items result := by
  have fits : (⟨offset width color.length y x, color⟩ : Write Item).stop <= items.length := by
    rw [isImage]
    exact offset_le color.length isRow isColumn
  refine ⟨_, Write.perform_of_le fits, Write.result_length fits, ?_, ?_⟩
  · rintro _ _ sample - - isSample ⟨rfl, rfl⟩
    rw [Write.result_covered fits ⟨Nat.le_add_right _ _, Nat.add_lt_add_left isSample _⟩,
      Nat.add_sub_cancel_left]
  · intro otherY otherX sample _ isOther isSample different
    apply Write.result_uncovered fits
    rintro ⟨after, before⟩
    rw [Write.stop] at before
    dsimp only at after before
    have same : offset width color.length otherY otherX + sample = offset width color.length y x +
        (offset width color.length otherY otherX + sample - offset width color.length y x) := by
      omega
    exact different (offset_inj isOther isColumn isSample (by omega) same)

/-- A loop whose rounds paint pixels paints the pixels of all rounds, in whatever
order they come and however often. -/
theorem foldlM_painted {Round : Type} {step : List Item -> Round -> Option (List Item)}
    {pixels : Round -> Nat -> Nat -> Prop} {rounds : List Round} {size : Nat}
    (each : forall round, round ∈ rounds -> forall items : List Item, items.length = size ->
      Exists fun result => step items round = some result ∧
        Painted height width color (pixels round) items result)
    (isImage : items.length = size) :
    Exists fun result => rounds.foldlM step items = some result ∧
      Painted height width color (fun y x => Exists fun round => round ∈ rounds ∧ pixels round y x)
        items result := by
  induction rounds generalizing items with
  | nil => exact ⟨items, rfl, (Painted.refl height width color items).congr (by simp)⟩
  | cons round rounds ih =>
      rcases List.forall_mem_cons.mp each with ⟨first, others⟩
      rcases first items isImage with ⟨middle, stepped, firstPainted⟩
      rcases ih others (firstPainted.length.trans isImage) with ⟨result, run, restPainted⟩
      refine ⟨result, ?_, (firstPainted.trans restPainted).congr (by simp)⟩
      rw [List.foldlM_cons, stepped]
      exact run

/-- The painted image pixel by pixel. -/
theorem Painted.eq_flatMap [forall y x, Decidable (chosen y x)]
    (isImage : items.length = height * width * color.length)
    (painted : Painted height width color chosen items result) :
    result = (List.range height).flatMap fun y => (List.range width).flatMap fun x =>
      if chosen y x then color
      else (items.drop (offset width color.length y x)).take color.length := by
  let pixel (y x : Nat) : List Item :=
    if chosen y x then color else (items.drop (offset width color.length y x)).take color.length
  have sized : forall y x, y < height -> x < width -> (pixel y x).length = color.length := by
    intro y x isRow isColumn
    dsimp only [pixel]
    split
    · rfl
    · exact slice_length (isImage ▸ offset_le color.length isRow isColumn)
  have isResult : result.length = height * width * color.length := painted.length.trans isImage
  have within : Area.Within ⟨0, 0, height, width⟩ height width :=
    ⟨Nat.le_of_eq (Nat.zero_add height), Nat.le_of_eq (Nat.zero_add width)⟩
  rcases performAll_tiles isResult within sized with ⟨final, performed, finalLength, samples⟩
  have whole := Option.some.inj (performed.symm.trans (performAll_image isResult sized))
  rw [← whole]
  apply image_ext isResult (finalLength.trans isResult)
  intro y x sample isRow isColumn isSample
  have contained : Area.Contains ⟨0, 0, height, width⟩ y x :=
    ⟨⟨Nat.zero_le y, isRow.trans_eq (Nat.zero_add height).symm⟩, Nat.zero_le x,
      isColumn.trans_eq (Nat.zero_add width).symm⟩
  rw [samples y x sample isRow isColumn isSample, if_pos contained, Nat.sub_zero, Nat.sub_zero]
  dsimp only [pixel]
  split
  · rename_i isChosen
    exact painted.painted y x sample isRow isColumn isSample isChosen
  · rename_i notChosen
    rw [slice_getElem? _ _ isSample]
    exact painted.kept y x sample isRow isColumn isSample notChosen

end Painting

end Raster
end DyunGu
