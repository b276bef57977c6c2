import VkTurn.Order.Boundaries
import VkTurn.Transition.Loop
import Mathlib.Data.Set.Lattice

/-! # The slider captcha's tiles

The image is cut into `g * g` tiles, a mapping says which tile of the image stands at each place,
and a candidate is scored by the seams between the places: `rankSliderCandidates` draws the
rearranged image first, the second solver samples the image through the mapping.

A mapping lists its `g * g` entries and an image has its pixels in memory, so that no product below
leaves the range of the machine's integers.
-/

namespace VkTurn.Client

open VkTurn.Order VkTurn.Transition

/-! ## Go's `image` package -/

/-- `image.Rectangle`, well-formed as those of images are. -/
structure Rectangle where
  minX : Int
  minY : Int
  maxX : Int
  maxY : Int
  orderedX : minX ≤ maxX
  orderedY : minY ≤ maxY
  deriving DecidableEq

/-- `image.Rect`, which swaps the coordinates that are out of order. -/
def Rectangle.rect (x0 y0 x1 y1 : Int) : Rectangle where
  minX := min x0 x1
  minY := min y0 y1
  maxX := max x0 x1
  maxY := max y0 y1
  orderedX := Int.le_trans (Int.min_le_left x0 x1) (Int.le_max_left x0 x1)
  orderedY := Int.le_trans (Int.min_le_left y0 y1) (Int.le_max_left y0 y1)

namespace Rectangle

def dx (r : Rectangle) : Int := r.maxX - r.minX

def dy (r : Rectangle) : Int := r.maxY - r.minY

def empty (r : Rectangle) : Bool := r.minX ≥ r.maxX || r.minY ≥ r.maxY

/-- `Point.In`. -/
def contains (r : Rectangle) (x y : Int) : Bool :=
  r.minX ≤ x && x < r.maxX && r.minY ≤ y && y < r.maxY

def points (r : Rectangle) : Set (Int × Int) := {p | r.contains p.1 p.2}

variable {r : Rectangle} {x y : Int}

theorem dx_nonneg : 0 ≤ r.dx := by
  have := r.orderedX
  unfold dx
  omega

theorem dy_nonneg : 0 ≤ r.dy := by
  have := r.orderedY
  unfold dy
  omega

theorem contains_iff :
    r.contains x y ↔ (r.minX ≤ x ∧ x < r.maxX) ∧ r.minY ≤ y ∧ y < r.maxY := by
  simp [contains, and_assoc]

theorem mem_points : (x, y) ∈ r.points ↔ r.contains x y := Iff.rfl

end Rectangle

/-- `color.RGBA`. -/
structure RGBA where
  r : UInt8
  g : UInt8
  b : UInt8
  a : UInt8
  deriving DecidableEq

/-- A `color.Color` is what its method `RGBA` answers: the channels in 16 bits. -/
structure Color where
  r : Nat
  g : Nat
  b : Nat
  a : Nat
  deriving DecidableEq

/-- The byte twice. -/
def widen (channel : UInt8) : Nat := channel.toNat ||| channel.toNat <<< 8

def RGBA.color (c : RGBA) : Color := ⟨widen c.r, widen c.g, widen c.b, widen c.a⟩

/-- `color.RGBAModel`. -/
def rgbaModel (c : Color) : RGBA :=
  ⟨UInt8.ofNat (c.r >>> 8), UInt8.ofNat (c.g >>> 8), UInt8.ofNat (c.b >>> 8),
    UInt8.ofNat (c.a >>> 8)⟩

/-- `image.Image`. -/
structure Image where
  bounds : Rectangle
  colorAt : Int → Int → Color

/-- `image.RGBA`. -/
structure RGBAImage where
  rect : Rectangle
  pix : Int → Int → RGBA

namespace RGBAImage

/-- `image.NewRGBA`. -/
def new (bounds : Rectangle) : RGBAImage := ⟨bounds, fun _ _ => ⟨0, 0, 0, 0⟩⟩

def set (image : RGBAImage) (x y : Int) (c : Color) : RGBAImage :=
  if image.rect.contains x y then
    { image with pix := fun x' y' => if x' = x ∧ y' = y then rgbaModel c else image.pix x' y' }
  else image

def colorAt (image : RGBAImage) (x y : Int) : Color :=
  if image.rect.contains x y then (image.pix x y).color else RGBA.color ⟨0, 0, 0, 0⟩

def toImage (image : RGBAImage) : Image := ⟨image.rect, image.colorAt⟩

end RGBAImage

/-- Every pixel within the bounds is opaque and has 8 bits for each channel. -/
def Image.Opaque8 (img : Image) : Prop :=
  ∀ x y, img.bounds.contains x y → ∃ r g b : UInt8, img.colorAt x y = RGBA.color ⟨r, g, b, 255⟩

/-! ## The tiles -/

def sliderTileRect (bounds : Rectangle) (gridSize index : Int) : Rectangle :=
  let row := index.tdiv gridSize
  let col := index.tmod gridSize
  let x0 := bounds.minX + (col * bounds.dx).tdiv gridSize
  let x1 := bounds.minX + ((col + 1) * bounds.dx).tdiv gridSize
  let y0 := bounds.minY + (row * bounds.dy).tdiv gridSize
  let y1 := bounds.minY + ((row + 1) * bounds.dy).tdiv gridSize
  Rectangle.rect x0 y0 x1 y1

/-- The steps are pairs of tiles to swap. -/
def swapTiles (tileCount : Int) : List Int → Array Int → Except String (Array Int)
  | left :: right :: rest, mapping =>
    if left < 0 || right < 0 || left ≥ tileCount || right ≥ tileCount then
      .error s!"slider step out of range: {left},{right}"
    else swapTiles tileCount rest (mapping.swapIfInBounds left.toNat right.toNat)
  | _, mapping => .ok mapping

/-- Every tile in its own place. -/
def identityMapping (tileCount : Int) : Array Int :=
  Array.ofFn fun i : Fin tileCount.toNat => (i : Int)

def buildSliderTileMapping (gridSize : Int) (activeSteps : List Int) :
    Except String (Array Int) :=
  let tileCount := gridSize * gridSize
  if tileCount ≤ 0 then .error s!"invalid slider tile count: {tileCount}"
  else if activeSteps.length % 2 ≠ 0 then
    .error s!"invalid active steps length: {activeSteps.length}"
  else swapTiles tileCount activeSteps (identityMapping tileCount)

/-- The colour of the source tile at the place that scaling gives for a pixel of the other. -/
def sampleColorMappedV2 (img : Image) (dstRect srcRect : Rectangle) (dstX dstY : Int) : Color :=
  let dx := if dstRect.dx < 1 then 1 else dstRect.dx
  let dy := if dstRect.dy < 1 then 1 else dstRect.dy
  let sx := srcRect.minX + ((dstX - dstRect.minX) * srcRect.dx).tdiv dx
  let sy := srcRect.minY + ((dstY - dstRect.minY) * srcRect.dy).tdiv dy
  img.colorAt sx sy

/-! ## Drawing a candidate -/

def copyScaledTile (dst : RGBAImage) (dstRect : Rectangle) (src : Image) (srcRect : Rectangle) :
    RGBAImage :=
  if dstRect.empty || srcRect.empty then dst
  else
    forRange dstRect.dy dst fun dst y =>
      let sy := srcRect.minY + (y * srcRect.dy).tdiv dstRect.dy
      forRange dstRect.dx dst fun dst x =>
        let sx := srcRect.minX + (x * srcRect.dx).tdiv dstRect.dx
        dst.set (dstRect.minX + x) (dstRect.minY + y) (src.colorAt sx sy)

/-- `for dstIndex, srcIndex := range mapping`. -/
def copyTiles (img : Image) (gridSize : Int) (mapping : Array Int) (rendered : RGBAImage) :
    RGBAImage :=
  forRange mapping.size rendered fun rendered dstIndex =>
    copyScaledTile rendered (sliderTileRect img.bounds gridSize dstIndex) img
      (sliderTileRect img.bounds gridSize (mapping.getD dstIndex.toNat 0))

def renderSliderCandidate (img : Image) (gridSize : Int) (mapping : Array Int) :
    Except String RGBAImage :=
  let tileCount := gridSize * gridSize
  if gridSize ≤ 0 then .error s!"invalid grid size: {gridSize}"
  else if (mapping.size : Int) ≠ tileCount then
    .error s!"unexpected tile mapping length: {mapping.size}"
  else .ok (copyTiles img gridSize mapping (RGBAImage.new img.bounds))

/-! ## Scoring a candidate -/

def absDiff (left right : Nat) : Int :=
  if left > right then (left - right : Nat) else (right - left : Nat)

def pixelDiff (left right : Color) : Int :=
  absDiff left.r right.r + absDiff left.g right.g + absDiff left.b right.b

def scoreRenderedSliderImage (img : Image) (gridSize : Int) : Int :=
  let bounds := img.bounds
  let beside := forRange gridSize 0 fun score row =>
    forRange (gridSize - 1) score fun score col =>
      let leftRect := sliderTileRect bounds gridSize (row * gridSize + col)
      let rightRect := sliderTileRect bounds gridSize (row * gridSize + col + 1)
      forRange (min leftRect.dy rightRect.dy) score fun score offset =>
        score + pixelDiff (img.colorAt (leftRect.maxX - 1) (leftRect.minY + offset))
          (img.colorAt rightRect.minX (rightRect.minY + offset))
  forRange (gridSize - 1) beside fun score row =>
    forRange gridSize score fun score col =>
      let topRect := sliderTileRect bounds gridSize (row * gridSize + col)
      let bottomRect := sliderTileRect bounds gridSize ((row + 1) * gridSize + col)
      forRange (min topRect.dx bottomRect.dx) score fun score offset =>
        score + pixelDiff (img.colorAt (topRect.minX + offset) (topRect.maxY - 1))
          (img.colorAt (bottomRect.minX + offset) bottomRect.minY)

def scoreSliderCandidate (img : Image) (gridSize : Int) (mapping : Array Int) :
    Except String Int := do
  let rendered ← renderSliderCandidate img gridSize mapping
  return scoreRenderedSliderImage rendered.toImage gridSize

/-! ## Where the tiles lie -/

variable {bounds dstRect srcRect : Rectangle} {gridSize index other x y : Int}

theorem Rectangle.rect_of_le {x0 y0 x1 y1 : Int} (inX : x0 ≤ x1) (inY : y0 ≤ y1) :
    Rectangle.rect x0 y0 x1 y1 = ⟨x0, y0, x1, y1, inX, inY⟩ := by
  simp [Rectangle.rect, inX, inY]

/-- A tile's sides are boundaries of the image's parts. -/
theorem sliderTileRect_eq (positive : 0 < gridSize) (inGrid : 0 ≤ index) :
    let tile := sliderTileRect bounds gridSize index
    (tile.minX = boundary bounds.minX bounds.dx gridSize (index % gridSize) ∧
      tile.maxX = boundary bounds.minX bounds.dx gridSize (index % gridSize + 1)) ∧
    tile.minY = boundary bounds.minY bounds.dy gridSize (index / gridSize) ∧
      tile.maxY = boundary bounds.minY bounds.dy gridSize (index / gridSize + 1) := by
  have row : 0 ≤ index / gridSize := Int.ediv_nonneg inGrid (by omega)
  have col : 0 ≤ index % gridSize := Int.emod_nonneg index (by omega)
  have inX : boundary bounds.minX bounds.dx gridSize (index % gridSize) ≤
      boundary bounds.minX bounds.dx gridSize (index % gridSize + 1) :=
    boundary_mono Rectangle.dx_nonneg positive col (by omega)
  have inY : boundary bounds.minY bounds.dy gridSize (index / gridSize) ≤
      boundary bounds.minY bounds.dy gridSize (index / gridSize + 1) :=
    boundary_mono Rectangle.dy_nonneg positive row (by omega)
  unfold sliderTileRect
  rw [Int.tdiv_eq_ediv_of_nonneg inGrid, Int.tmod_eq_emod_of_nonneg inGrid]
  unfold boundary at inX inY ⊢
  rw [Rectangle.rect_of_le inX inY]
  exact ⟨⟨rfl, rfl⟩, rfl, rfl⟩

theorem tile_contains_iff (positive : 0 < gridSize) (inGrid : 0 ≤ index) :
    (sliderTileRect bounds gridSize index).contains x y ↔
      (boundary bounds.minX bounds.dx gridSize (index % gridSize) ≤ x ∧
        x < boundary bounds.minX bounds.dx gridSize (index % gridSize + 1)) ∧
      boundary bounds.minY bounds.dy gridSize (index / gridSize) ≤ y ∧
        y < boundary bounds.minY bounds.dy gridSize (index / gridSize + 1) := by
  have sides := @sliderTileRect_eq bounds gridSize index positive inGrid
  rw [Rectangle.contains_iff, sides.1.1, sides.1.2, sides.2.1, sides.2.2]

/-- The row and the column of a place of the grid. -/
theorem place_in_grid (positive : 0 < gridSize) (inGrid : 0 ≤ index)
    (below : index < gridSize * gridSize) :
    (0 ≤ index / gridSize ∧ index / gridSize < gridSize) ∧
      0 ≤ index % gridSize ∧ index % gridSize < gridSize :=
  ⟨⟨Int.ediv_nonneg inGrid (by omega), Int.ediv_lt_of_lt_mul positive below⟩,
    Int.emod_nonneg index (by omega), Int.emod_lt_of_pos index positive⟩

theorem place_of_row_col (row col : Int) (positive : 0 < gridSize) (left : 0 ≤ col)
    (right : col < gridSize) :
    (row * gridSize + col) / gridSize = row ∧ (row * gridSize + col) % gridSize = col := by
  rw [Int.ediv_emod_unique positive]
  exact ⟨by rw [Int.mul_comm, Int.add_comm], left, right⟩

/-- A place below the last row and column is one of the grid. -/
theorem place_lt {row col : Int} (top : 0 ≤ row) (bottom : row < gridSize) (left : 0 ≤ col)
    (right : col < gridSize) :
    0 ≤ row * gridSize + col ∧ row * gridSize + col < gridSize * gridSize := by
  have rows : (row + 1) * gridSize ≤ gridSize * gridSize :=
    Int.mul_le_mul_of_nonneg_right (by omega) (by omega)
  have start : 0 ≤ row * gridSize := Int.mul_nonneg top (by omega)
  rw [Int.add_mul, Int.one_mul] at rows
  omega

theorem exists_tile (positive : 0 < gridSize) (inside : bounds.contains x y) :
    ∃ index, (0 ≤ index ∧ index < gridSize * gridSize) ∧
      (sliderTileRect bounds gridSize index).contains x y := by
  obtain ⟨inX, inY⟩ := Rectangle.contains_iff.mp inside
  obtain ⟨col, left, right, partX⟩ : ∃ k, 0 ≤ k ∧ k < gridSize ∧
      boundary bounds.minX bounds.dx gridSize k ≤ x ∧
        x < boundary bounds.minX bounds.dx gridSize (k + 1) :=
    exists_part positive inX.1 (by unfold Rectangle.dx; omega)
  obtain ⟨row, top, bottom, partY⟩ : ∃ k, 0 ≤ k ∧ k < gridSize ∧
      boundary bounds.minY bounds.dy gridSize k ≤ y ∧
        y < boundary bounds.minY bounds.dy gridSize (k + 1) :=
    exists_part positive inY.1 (by unfold Rectangle.dy; omega)
  have place := place_lt top bottom left right
  obtain ⟨sameRow, sameCol⟩ := place_of_row_col row col positive left right
  refine ⟨row * gridSize + col, place, ?_⟩
  rw [tile_contains_iff positive place.1, sameRow, sameCol]
  exact ⟨partX, partY⟩

theorem tile_unique (positive : 0 < gridSize) (first : 0 ≤ index) (second : 0 ≤ other)
    (inFirst : (sliderTileRect bounds gridSize index).contains x y)
    (inSecond : (sliderTileRect bounds gridSize other).contains x y) : index = other := by
  rw [tile_contains_iff positive first] at inFirst
  rw [tile_contains_iff positive second] at inSecond
  have row : index / gridSize = other / gridSize :=
    part_unique Rectangle.dy_nonneg positive (Int.ediv_nonneg first (by omega))
      (Int.ediv_nonneg second (by omega)) inFirst.2 inSecond.2
  have col : index % gridSize = other % gridSize :=
    part_unique Rectangle.dx_nonneg positive (Int.emod_nonneg index (by omega))
      (Int.emod_nonneg other (by omega)) inFirst.1 inSecond.1
  rw [← Int.mul_ediv_add_emod index gridSize, row, col, Int.mul_ediv_add_emod]

theorem tile_within (positive : 0 < gridSize) (inGrid : 0 ≤ index ∧ index < gridSize * gridSize)
    (inTile : (sliderTileRect bounds gridSize index).contains x y) : bounds.contains x y := by
  rw [tile_contains_iff positive inGrid.1] at inTile
  obtain ⟨row, col⟩ := place_in_grid positive inGrid.1 inGrid.2
  have fromX := (@boundary_within bounds.minX bounds.dx gridSize (index % gridSize)
    bounds.dx_nonneg positive (by omega) (by omega)).1
  have toX := (@boundary_within bounds.minX bounds.dx gridSize (index % gridSize + 1)
    bounds.dx_nonneg positive (by omega) (by omega)).2
  have fromY := (@boundary_within bounds.minY bounds.dy gridSize (index / gridSize)
    bounds.dy_nonneg positive (by omega) (by omega)).1
  have toY := (@boundary_within bounds.minY bounds.dy gridSize (index / gridSize + 1)
    bounds.dy_nonneg positive (by omega) (by omega)).2
  rw [Rectangle.contains_iff]
  have width : bounds.minX + bounds.dx = bounds.maxX := by unfold Rectangle.dx; omega
  have height : bounds.minY + bounds.dy = bounds.maxY := by unfold Rectangle.dy; omega
  omega

end VkTurn.Client
