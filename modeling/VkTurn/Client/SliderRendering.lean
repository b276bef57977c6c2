import VkTurn.Client.SliderTiles
import Mathlib

/-! # What a drawn candidate shows

Every pixel is written once, by the tile it lies in.  From that the tiles are a partition of the
image, the steps permute them, and drawing with a permutation is undone by drawing with its inverse.
-/

namespace VkTurn.Client

open VkTurn.Order VkTurn.Transition

variable {bounds dstRect srcRect : Rectangle} {gridSize index x y : Int} {img src : Image}
  {dst image : RGBAImage} {mapping : Array Int}

/-! ## Colours -/

theorem widen_shift (channel : UInt8) : UInt8.ofNat (widen channel >>> 8) = channel := by
  have small : channel.toNat < 2 ^ 8 := channel.toNat_lt
  have apart : widen channel = channel.toNat <<< 8 + channel.toNat := by
    unfold widen
    rw [Nat.or_comm, Nat.shiftLeft_add_eq_or_of_lt small]
  rw [apart, Nat.shiftLeft_eq, Nat.shiftRight_eq_div_pow, Nat.mul_comm,
    Nat.mul_add_div (by omega), Nat.div_eq_of_lt small, Nat.add_zero]
  exact UInt8.ofNat_toNat

/-- What a pixel of an `image.RGBA` shows is stored as it is. -/
theorem rgbaModel_color (c : RGBA) : rgbaModel c.color = c := by
  simp only [rgbaModel, RGBA.color, widen_shift]

/-! ## Copying one tile -/

/-- An image that shows the given colours in a region and is as another one elsewhere. -/
structure Painted (before after : RGBAImage) (region : Int → Int → Prop)
    (paint : Int → Int → Color) : Prop where
  rect : after.rect = before.rect
  inside : ∀ x y, region x y → after.colorAt x y = (rgbaModel (paint x y)).color
  outside : ∀ x y, ¬ region x y → after.colorAt x y = before.colorAt x y

theorem RGBAImage.set_rect (c : Color) : (image.set x y c).rect = image.rect := by
  unfold RGBAImage.set
  split <;> rfl

theorem RGBAImage.set_colorAt {c : Color} (x' y' : Int) (inside : image.rect.contains x y) :
    (image.set x y c).colorAt x' y' =
      if x' = x ∧ y' = y then (rgbaModel c).color else image.colorAt x' y' := by
  unfold RGBAImage.colorAt
  rw [RGBAImage.set_rect]
  by_cases same : x' = x ∧ y' = y
  · obtain ⟨rfl, rfl⟩ := same
    simp [RGBAImage.set, inside]
  · simp [RGBAImage.set, inside, same]

variable {region : Int → Int → Prop} {paint : Int → Int → Color}

theorem Painted.nothing (empty : ∀ x y, ¬ region x y) : Painted image image region paint where
  rect := rfl
  inside x y covered := absurd covered (empty x y)
  outside _ _ _ := rfl

/-- One more pixel. -/
theorem Painted.set (painted : Painted dst image region paint) {region' : Int → Int → Prop}
    (inside : dst.rect.contains x y)
    (more : ∀ x' y', region' x' y' ↔ region x' y' ∨ x' = x ∧ y' = y) :
    Painted dst (image.set x y (paint x y)) region' paint := by
  have within : image.rect.contains x y := by rw [painted.rect, inside]
  constructor
  · rw [RGBAImage.set_rect, painted.rect]
  · intro x' y' covered
    rw [RGBAImage.set_colorAt x' y' within]
    by_cases same : x' = x ∧ y' = y
    · rw [if_pos same, same.1, same.2]
    · rw [if_neg same]
      exact painted.inside x' y' (((more x' y').mp covered).resolve_right same)
  · intro x' y' uncovered
    rw [more] at uncovered
    rw [RGBAImage.set_colorAt x' y' within, if_neg (fun same => uncovered (.inr same))]
    exact painted.outside x' y' (fun covered => uncovered (.inl covered))

theorem copyScaledTile_painted
    (within : ∀ x y, dstRect.contains x y → dst.rect.contains x y) (full : srcRect.empty = false) :
    Painted dst (copyScaledTile dst dstRect src srcRect) (fun x y => dstRect.contains x y)
      (sampleColorMappedV2 src dstRect srcRect) := by
  unfold copyScaledTile
  by_cases empty : dstRect.empty
  · rw [if_pos (by simp [empty])]
    refine Painted.nothing fun x y covered => ?_
    rw [Rectangle.contains_iff] at covered
    simp only [Rectangle.empty, ge_iff_le, Bool.or_eq_true, decide_eq_true_eq] at empty
    omega
  rw [if_neg (by simp [empty, full])]
  have wide : 0 < dstRect.dx ∧ 0 < dstRect.dy := by
    simp only [Rectangle.empty, ge_iff_le, Bool.or_eq_true, decide_eq_true_eq] at empty
    unfold Rectangle.dx Rectangle.dy
    omega
  have toX : dstRect.minX + dstRect.dx = dstRect.maxX := by unfold Rectangle.dx; omega
  have toY : dstRect.minY + dstRect.dy = dstRect.maxY := by unfold Rectangle.dy; omega
  -- the rows above the current one are done
  have rows := @forRange_induction _ dstRect.dy
    (fun row image => Painted dst image
      (fun x y => (dstRect.minX ≤ x ∧ x < dstRect.maxX) ∧
        dstRect.minY ≤ y ∧ y < dstRect.minY + row)
      (sampleColorMappedV2 src dstRect srcRect)) dst
    (fun dst y => forRange dstRect.dx dst fun dst x =>
      dst.set (dstRect.minX + x) (dstRect.minY + y)
        (src.colorAt (srcRect.minX + (x * srcRect.dx).tdiv dstRect.dx)
          (srcRect.minY + (y * srcRect.dy).tdiv dstRect.dy)))
    (by omega) (Painted.nothing (by intro x y; omega)) ?_
  · rw [toY] at rows
    refine ⟨rows.rect, fun x y covered => ?_, fun x y uncovered => ?_⟩
    · exact rows.inside x y (Rectangle.contains_iff.mp covered)
    · exact rows.outside x y fun covered => uncovered (Rectangle.contains_iff.mpr covered)
  · intro row image top bottom painted
    have columns := @forRange_induction _ dstRect.dx
      (fun col image => Painted dst image
        (fun x y => ((dstRect.minX ≤ x ∧ x < dstRect.maxX) ∧
            dstRect.minY ≤ y ∧ y < dstRect.minY + row) ∨
          (dstRect.minX ≤ x ∧ x < dstRect.minX + col) ∧ y = dstRect.minY + row)
        (sampleColorMappedV2 src dstRect srcRect)) image
      (fun dst x => dst.set (dstRect.minX + x) (dstRect.minY + row)
        (src.colorAt (srcRect.minX + (x * srcRect.dx).tdiv dstRect.dx)
          (srcRect.minY + (row * srcRect.dy).tdiv dstRect.dy)))
      (by omega) ?_ ?_
    · refine ⟨columns.rect, fun x y covered => ?_, fun x y uncovered => ?_⟩
      · exact columns.inside x y (by omega)
      · exact columns.outside x y (by omega)
    · refine ⟨painted.rect, fun x y covered => ?_, fun x y uncovered => ?_⟩
      · exact painted.inside x y (by omega)
      · exact painted.outside x y (by omega)
    · intro col image left right painted
      -- the pixel is drawn in the colour that the sample of its place has
      have sampled : src.colorAt (srcRect.minX + (col * srcRect.dx).tdiv dstRect.dx)
            (srcRect.minY + (row * srcRect.dy).tdiv dstRect.dy) =
          sampleColorMappedV2 src dstRect srcRect (dstRect.minX + col) (dstRect.minY + row) := by
        unfold sampleColorMappedV2
        rw [if_neg (by omega), if_neg (by omega), add_sub_cancel_left, add_sub_cancel_left]
      rw [sampled]
      refine painted.set (within _ _ (Rectangle.contains_iff.mpr (by omega))) ?_
      intro x y
      omega

theorem copyScaledTile_rect : (copyScaledTile dst dstRect src srcRect).rect = dst.rect := by
  unfold copyScaledTile
  split
  · rfl
  · refine @forRange_induction _ dstRect.dy (fun _ (image : RGBAImage) => image.rect = dst.rect) _ _
      Rectangle.dy_nonneg rfl fun row image _ _ rect => ?_
    refine @forRange_induction _ dstRect.dx (fun _ (image : RGBAImage) => image.rect = dst.rect) _ _
      Rectangle.dx_nonneg rect fun col image _ _ rect => ?_
    rw [RGBAImage.set_rect, rect]

/-! ## Drawing all tiles -/

theorem copyTiles_rect :
    (copyTiles img gridSize mapping (RGBAImage.new img.bounds)).rect = img.bounds := by
  unfold copyTiles
  refine @forRange_induction _ mapping.size (fun _ (image : RGBAImage) => image.rect = img.bounds)
    (RGBAImage.new img.bounds) _ (by omega) rfl fun place image _ _ rect => ?_
  rw [copyScaledTile_rect, rect]

theorem tile_full (positive : 0 < gridSize) (inGrid : 0 ≤ index)
    (enough : gridSize ≤ bounds.dx ∧ gridSize ≤ bounds.dy) :
    (sliderTileRect bounds gridSize index).empty = false := by
  have sides := @sliderTileRect_eq bounds gridSize index positive inGrid
  have wide : boundary bounds.minX bounds.dx gridSize (index % gridSize) <
      boundary bounds.minX bounds.dx gridSize (index % gridSize + 1) :=
    boundary_lt enough.1 positive (Int.emod_nonneg index (by omega))
  have high : boundary bounds.minY bounds.dy gridSize (index / gridSize) <
      boundary bounds.minY bounds.dy gridSize (index / gridSize + 1) :=
    boundary_lt enough.2 positive (Int.ediv_nonneg inGrid (by omega))
  unfold Rectangle.empty
  rw [sides.1.1, sides.1.2, sides.2.1, sides.2.2]
  simp only [ge_iff_le, Bool.or_eq_false_iff, decide_eq_false_iff_not]
  omega

/-- The tile of the image that stands at a place. -/
def tileAt (mapping : Array Int) (index : Int) : Int := mapping.getD index.toNat 0

/-- A mapping of the grid's places to its tiles. -/
def InGrid (gridSize : Int) (mapping : Array Int) : Prop :=
  (mapping.size : Int) = gridSize * gridSize ∧
    ∀ index, 0 ≤ index → index < gridSize * gridSize →
      0 ≤ tileAt mapping index ∧ tileAt mapping index < gridSize * gridSize

theorem copyTiles_colorAt (positive : 0 < gridSize) (grid : InGrid gridSize mapping)
    (enough : gridSize ≤ img.bounds.dx ∧ gridSize ≤ img.bounds.dy) :
    (copyTiles img gridSize mapping (RGBAImage.new img.bounds)).rect = img.bounds ∧
      ∀ index : Int, 0 ≤ index → index < mapping.size → ∀ x y,
        (sliderTileRect img.bounds gridSize index).contains x y →
        (copyTiles img gridSize mapping (RGBAImage.new img.bounds)).colorAt x y =
          (rgbaModel (sampleColorMappedV2 img (sliderTileRect img.bounds gridSize index)
            (sliderTileRect img.bounds gridSize (tileAt mapping index)) x y)).color := by
  unfold copyTiles
  refine @forRange_induction _ mapping.size (fun count (image : RGBAImage) =>
    image.rect = img.bounds ∧ ∀ index : Int, 0 ≤ index → index < count → ∀ x y,
      (sliderTileRect img.bounds gridSize index).contains x y → image.colorAt x y =
        (rgbaModel (sampleColorMappedV2 img (sliderTileRect img.bounds gridSize index)
          (sliderTileRect img.bounds gridSize (tileAt mapping index)) x y)).color)
    (RGBAImage.new img.bounds) _ (by omega) ⟨rfl, by intros; omega⟩ ?_
  intro place image first last ⟨rect, drawn⟩
  have size : place < gridSize * gridSize := by rw [← grid.1]; exact last
  have source := grid.2 place first size
  have painted : Painted image _ (fun x y =>
        (sliderTileRect img.bounds gridSize place).contains x y)
      (sampleColorMappedV2 img (sliderTileRect img.bounds gridSize place)
        (sliderTileRect img.bounds gridSize (tileAt mapping place))) :=
    copyScaledTile_painted
      (fun x y inTile => by rw [rect]; exact tile_within positive ⟨first, size⟩ inTile)
      (tile_full positive source.1 enough)
  refine ⟨painted.rect.trans rect, fun index inGrid below x y inTile => ?_⟩
  by_cases same : index = place
  · subst same
    exact painted.inside x y inTile
  · -- the tiles are disjoint, so that an earlier one keeps its pixels
    have elsewhere : ¬ (sliderTileRect img.bounds gridSize place).contains x y :=
      fun covered => same (tile_unique positive inGrid first inTile covered)
    rw [← drawn index inGrid (by omega) x y inTile]
    exact painted.outside x y elsewhere

theorem render_ok (positive : 0 < gridSize) (grid : InGrid gridSize mapping) :
    renderSliderCandidate img gridSize mapping =
      .ok (copyTiles img gridSize mapping (RGBAImage.new img.bounds)) := by
  unfold renderSliderCandidate
  rw [if_neg (by omega), if_neg (by simp [grid.1])]

/-- The sample of a pixel lies in the source tile. -/
theorem sample_inside (inTile : dstRect.contains x y) (full : srcRect.empty = false) :
    ∃ sx sy, srcRect.contains sx sy ∧
      sampleColorMappedV2 src dstRect srcRect x y = src.colorAt sx sy := by
  rw [Rectangle.contains_iff] at inTile
  simp only [Rectangle.empty, ge_iff_le, Bool.or_eq_false_iff, decide_eq_false_iff_not] at full
  have wide : 0 < srcRect.dx ∧ 0 < srcRect.dy := by unfold Rectangle.dx Rectangle.dy; omega
  have target : 0 < dstRect.dx ∧ 0 < dstRect.dy := by unfold Rectangle.dx Rectangle.dy; omega
  have toX : srcRect.minX + srcRect.dx = srcRect.maxX := by unfold Rectangle.dx; omega
  have toY : srcRect.minY + srcRect.dy = srcRect.maxY := by unfold Rectangle.dy; omega
  -- an offset below the one length is scaled to one below the other
  have scaled : ∀ offset size length : Int, 0 ≤ offset → offset < length → 0 < size →
      0 ≤ (offset * size).tdiv length ∧ (offset * size).tdiv length < size := by
    intro offset size length from_zero below positive
    have product : 0 ≤ offset * size := Int.mul_nonneg from_zero (by omega)
    rw [Int.tdiv_eq_ediv_of_nonneg product]
    refine ⟨Int.ediv_nonneg product (by omega), Int.ediv_lt_of_lt_mul (by omega) ?_⟩
    rw [Int.mul_comm size]
    exact Int.mul_lt_mul_of_pos_right below positive
  unfold sampleColorMappedV2
  rw [if_neg (by omega), if_neg (by omega)]
  have inX := scaled (x - dstRect.minX) srcRect.dx dstRect.dx (by omega)
    (by unfold Rectangle.dx; omega) wide.1
  have inY := scaled (y - dstRect.minY) srcRect.dy dstRect.dy (by omega)
    (by unfold Rectangle.dy; omega) wide.2
  exact ⟨_, _, Rectangle.contains_iff.mpr (by omega), rfl⟩

/-- On an opaque image with 8 bits for each channel every pixel shows the sample of its place. -/
theorem rendered_colorAt (positive : 0 < gridSize) (grid : InGrid gridSize mapping)
    (enough : gridSize ≤ img.bounds.dx ∧ gridSize ≤ img.bounds.dy) (opaque8 : img.Opaque8)
    (inGrid : 0 ≤ index ∧ index < gridSize * gridSize)
    (inTile : (sliderTileRect img.bounds gridSize index).contains x y) :
    (copyTiles img gridSize mapping (RGBAImage.new img.bounds)).colorAt x y =
      sampleColorMappedV2 img (sliderTileRect img.bounds gridSize index)
        (sliderTileRect img.bounds gridSize (tileAt mapping index)) x y := by
  have source := grid.2 index inGrid.1 inGrid.2
  have drawn := (copyTiles_colorAt positive grid enough).2 index inGrid.1
    (by rw [grid.1]; exact inGrid.2) x y inTile
  obtain ⟨sx, sy, inSource, sampled⟩ :=
    @sample_inside _ (sliderTileRect img.bounds gridSize (tileAt mapping index)) x y img inTile
      (tile_full positive source.1 enough)
  obtain ⟨r, g, b, color⟩ := opaque8 sx sy (tile_within positive source inSource)
  rw [drawn, sampled, color, rgbaModel_color]

/-! ## The steps permute the tiles -/

/-- Every tile of the grid stands at one place. -/
def IsPermutation (gridSize : Int) (mapping : Array Int) : Prop :=
  mapping.Perm (identityMapping (gridSize * gridSize))

theorem swapTiles_perm {tileCount : Int} {steps : List Int}
    (inRange : ∀ step ∈ steps, 0 ≤ step ∧ step < tileCount) (size : mapping.size = tileCount) :
    ∃ swapped, swapTiles tileCount steps mapping = .ok swapped ∧ swapped.Perm mapping := by
  fun_induction swapTiles tileCount steps mapping with
  | case1 left right rest mapping out =>
    -- no step is out of range
    have first := inRange left (by simp)
    have second := inRange right (by simp)
    simp only [Bool.or_eq_true, decide_eq_true_eq] at out
    omega
  | case2 left right rest mapping _ ih =>
    have first := inRange left (by simp)
    have second := inRange right (by simp)
    have rest_in : ∀ step ∈ rest, 0 ≤ step ∧ step < tileCount :=
      fun step member => inRange step (by simp [member])
    obtain ⟨swapped, done, perm⟩ := ih rest_in (by rw [Array.size_swapIfInBounds, size])
    refine ⟨swapped, done, perm.trans ?_⟩
    rw [Array.swapIfInBounds_def, dif_pos (show left.toNat < mapping.size by omega),
      dif_pos (show right.toNat < mapping.size by omega)]
    exact Array.swap_perm _ _
  | case3 steps mapping => exact ⟨mapping, rfl, Array.Perm.refl mapping⟩

theorem buildSliderTileMapping_perm (positive : 0 < gridSize) {steps : List Int}
    (even : steps.length % 2 = 0)
    (inRange : ∀ step ∈ steps, 0 ≤ step ∧ step < gridSize * gridSize) :
    ∃ mapping, buildSliderTileMapping gridSize steps = .ok mapping ∧
      IsPermutation gridSize mapping := by
  have tiles : 0 < gridSize * gridSize := Int.mul_pos positive positive
  unfold buildSliderTileMapping
  rw [if_neg (by omega), if_neg (by omega)]
  exact swapTiles_perm inRange (by rw [identityMapping, Array.size_ofFn]; omega)

theorem mem_identityMapping {tileCount tile : Int} :
    tile ∈ identityMapping tileCount ↔ 0 ≤ tile ∧ tile < tileCount := by
  unfold identityMapping
  rw [Array.mem_ofFn]
  constructor
  · rintro ⟨i, rfl⟩
    have := i.isLt
    omega
  · intro ⟨first, below⟩
    exact ⟨⟨tile.toNat, by omega⟩, Int.toNat_of_nonneg first⟩

theorem IsPermutation.size (permutes : IsPermutation gridSize mapping)
    (positive : 0 < gridSize) : (mapping.size : Int) = gridSize * gridSize := by
  have tiles : 0 < gridSize * gridSize := Int.mul_pos positive positive
  have same := permutes.size_eq
  unfold identityMapping at same
  rw [Array.size_ofFn] at same
  omega

theorem tileAt_mem (inMapping : 0 ≤ index ∧ index < mapping.size) :
    tileAt mapping index ∈ mapping := by
  have small : index.toNat < mapping.size := by omega
  unfold tileAt
  rw [Array.getD_eq_getD_getElem?, Array.getElem?_eq_getElem small, Option.getD_some]
  exact Array.getElem_mem small

theorem IsPermutation.inGrid (permutes : IsPermutation gridSize mapping)
    (positive : 0 < gridSize) : InGrid gridSize mapping := by
  have size := permutes.size positive
  refine ⟨size, fun index first below => ?_⟩
  exact mem_identityMapping.mp (permutes.mem_iff.mp (tileAt_mem ⟨first, by omega⟩))

/-- Every tile comes up. -/
theorem IsPermutation.exists_tileAt (permutes : IsPermutation gridSize mapping)
    (positive : 0 < gridSize) (inGrid : 0 ≤ index ∧ index < gridSize * gridSize) :
    ∃ place, (0 ≤ place ∧ place < gridSize * gridSize) ∧ tileAt mapping place = index := by
  have size := permutes.size positive
  obtain ⟨place, small, there⟩ :=
    Array.mem_iff_getElem.mp (permutes.mem_iff.mpr (mem_identityMapping.mpr inGrid))
  refine ⟨place, ⟨by omega, by omega⟩, ?_⟩
  unfold tileAt
  rw [Int.toNat_natCast, Array.getD_eq_getD_getElem?, Array.getElem?_eq_getElem small,
    Option.getD_some, there]

/-- The mapping that says where each tile of the other one stands. -/
def IsInverse (gridSize : Int) (mapping inverse : Array Int) : Prop :=
  (inverse.size : Int) = gridSize * gridSize ∧
    ∀ index, 0 ≤ index → index < gridSize * gridSize →
      tileAt inverse (tileAt mapping index) = index

theorem IsInverse.inGrid {inverse : Array Int} (undoes : IsInverse gridSize mapping inverse)
    (permutes : IsPermutation gridSize mapping) (positive : 0 < gridSize) :
    InGrid gridSize inverse ∧ ∀ index, 0 ≤ index → index < gridSize * gridSize →
      tileAt mapping (tileAt inverse index) = index := by
  refine ⟨⟨undoes.1, fun index first below => ?_⟩, fun index first below => ?_⟩
  · obtain ⟨place, inGrid, rfl⟩ := permutes.exists_tileAt positive ⟨first, below⟩
    rw [undoes.2 place inGrid.1 inGrid.2]
    exact inGrid
  · obtain ⟨place, inGrid, rfl⟩ := permutes.exists_tileAt positive ⟨first, below⟩
    rw [undoes.2 place inGrid.1 inGrid.2]

/-! ## Drawing and drawing back -/

theorem tile_size (positive : 0 < gridSize) (inGrid : 0 ≤ index)
    (whole : gridSize ∣ bounds.dx ∧ gridSize ∣ bounds.dy) :
    (sliderTileRect bounds gridSize index).dx = bounds.dx.tdiv gridSize ∧
      (sliderTileRect bounds gridSize index).dy = bounds.dy.tdiv gridSize := by
  have sides := @sliderTileRect_eq bounds gridSize index positive inGrid
  unfold Rectangle.dx Rectangle.dy
  rw [sides.1.1, sides.1.2, sides.2.1, sides.2.2, boundary_of_dvd whole.1, boundary_of_dvd whole.1,
    boundary_of_dvd whole.2, boundary_of_dvd whole.2]
  constructor
  · unfold Rectangle.dx
    ring
  · unfold Rectangle.dy
    ring

/-- Between tiles of one size a pixel keeps its offset. -/
theorem sample_of_same_size (inTile : dstRect.contains x y)
    (same : dstRect.dx = srcRect.dx ∧ dstRect.dy = srcRect.dy) :
    sampleColorMappedV2 src dstRect srcRect x y =
      src.colorAt (srcRect.minX + (x - dstRect.minX)) (srcRect.minY + (y - dstRect.minY)) := by
  rw [Rectangle.contains_iff] at inTile
  have target : 0 < dstRect.dx ∧ 0 < dstRect.dy := by unfold Rectangle.dx Rectangle.dy; omega
  have scaledX : ((x - dstRect.minX) * dstRect.dx).tdiv dstRect.dx = x - dstRect.minX :=
    Int.mul_tdiv_cancel _ (by omega)
  have scaledY : ((y - dstRect.minY) * dstRect.dy).tdiv dstRect.dy = y - dstRect.minY :=
    Int.mul_tdiv_cancel _ (by omega)
  unfold sampleColorMappedV2
  rw [if_neg (by omega), if_neg (by omega), ← same.1, ← same.2]
  simp only [scaledX, scaledY]

theorem grid_fits (inside : bounds.contains x y)
    (whole : gridSize ∣ bounds.dx ∧ gridSize ∣ bounds.dy) :
    gridSize ≤ bounds.dx ∧ gridSize ≤ bounds.dy := by
  rw [Rectangle.contains_iff] at inside
  constructor
  · exact Int.le_of_dvd (by unfold Rectangle.dx; omega) whole.1
  · exact Int.le_of_dvd (by unfold Rectangle.dy; omega) whole.2

/-- A pixel of a candidate is the pixel at the same offset of the tile that the mapping names. -/
theorem rendered_offset (positive : 0 < gridSize) (grid : InGrid gridSize mapping)
    (whole : gridSize ∣ img.bounds.dx ∧ gridSize ∣ img.bounds.dy) (opaque8 : img.Opaque8)
    (inGrid : 0 ≤ index ∧ index < gridSize * gridSize)
    (inTile : (sliderTileRect img.bounds gridSize index).contains x y) :
    let tile := sliderTileRect img.bounds gridSize index
    let source := sliderTileRect img.bounds gridSize (tileAt mapping index)
    let sx := source.minX + (x - tile.minX)
    let sy := source.minY + (y - tile.minY)
    source.contains sx sy ∧
      (copyTiles img gridSize mapping (RGBAImage.new img.bounds)).colorAt x y =
        img.colorAt sx sy := by
  intro tile source sx sy
  have enough := grid_fits (tile_within positive inGrid inTile) whole
  have inSource := grid.2 index inGrid.1 inGrid.2
  have size := @tile_size img.bounds gridSize index positive inGrid.1 whole
  have sourceSize := @tile_size img.bounds gridSize (tileAt mapping index) positive inSource.1 whole
  have sameX : tile.dx = source.dx := size.1.trans sourceSize.1.symm
  have sameY : tile.dy = source.dy := size.2.trans sourceSize.2.symm
  constructor
  · have covered : tile.contains x y := inTile
    have atX : sx = source.minX + (x - tile.minX) := rfl
    have atY : sy = source.minY + (y - tile.minY) := rfl
    unfold Rectangle.dx at sameX
    unfold Rectangle.dy at sameY
    rw [Rectangle.contains_iff] at covered ⊢
    omega
  · rw [rendered_colorAt positive grid enough opaque8 inGrid inTile]
    exact sample_of_same_size inTile ⟨sameX, sameY⟩

/-- A candidate shows colours of the image. -/
theorem rendered_opaque8 (positive : 0 < gridSize) (grid : InGrid gridSize mapping)
    (whole : gridSize ∣ img.bounds.dx ∧ gridSize ∣ img.bounds.dy) (opaque8 : img.Opaque8) :
    (copyTiles img gridSize mapping (RGBAImage.new img.bounds)).toImage.Opaque8 := by
  intro x y within
  have inside : img.bounds.contains x y := by
    rw [← @copyTiles_rect gridSize img mapping]
    exact within
  obtain ⟨index, inGrid, inTile⟩ := exists_tile positive inside
  obtain ⟨inSource, shown⟩ := rendered_offset positive grid whole opaque8 inGrid inTile
  have within := tile_within positive (grid.2 index inGrid.1 inGrid.2) inSource
  obtain ⟨r, g, b, color⟩ := opaque8 _ _ within
  exact ⟨r, g, b, shown.trans color⟩

/-- Drawing a candidate of a candidate with the inverse mapping. -/
theorem render_inverse {inverse : Array Int} (positive : 0 < gridSize)
    (whole : gridSize ∣ img.bounds.dx ∧ gridSize ∣ img.bounds.dy) (opaque8 : img.Opaque8)
    (permutes : IsPermutation gridSize mapping) (undoes : IsInverse gridSize mapping inverse) :
    ∃ drawn restored, renderSliderCandidate img gridSize mapping = .ok drawn ∧
      renderSliderCandidate drawn.toImage gridSize inverse = .ok restored ∧
      restored.rect = img.bounds ∧
      ∀ x y, img.bounds.contains x y → restored.colorAt x y = img.colorAt x y := by
  have grid := permutes.inGrid positive
  obtain ⟨back, forth⟩ := undoes.inGrid permutes positive
  let drawn := copyTiles img gridSize mapping (RGBAImage.new img.bounds)
  let restored := copyTiles drawn.toImage gridSize inverse (RGBAImage.new drawn.toImage.bounds)
  have rect : drawn.toImage.bounds = img.bounds := copyTiles_rect
  have wholeToo : gridSize ∣ drawn.toImage.bounds.dx ∧ gridSize ∣ drawn.toImage.bounds.dy := by
    rw [rect]
    exact whole
  have shows := rendered_opaque8 positive grid whole opaque8
  refine ⟨drawn, restored, render_ok positive grid, render_ok positive back,
    copyTiles_rect.trans rect, fun x y inside => ?_⟩
  obtain ⟨index, inGrid, inTile⟩ := exists_tile positive inside
  -- from the place to the tile that was moved there, and from that tile's place back
  obtain ⟨between, second⟩ : _ ∧ restored.colorAt x y = _ :=
    @rendered_offset gridSize index x y drawn.toImage inverse positive back wholeToo shows inGrid
      (by rw [rect]; exact inTile)
  rw [rect] at between second
  obtain ⟨-, first⟩ := rendered_offset positive grid whole opaque8
    (back.2 index inGrid.1 inGrid.2) between
  rw [forth index inGrid.1 inGrid.2] at first
  calc restored.colorAt x y = drawn.colorAt _ _ := second
    _ = img.colorAt _ _ := first
    _ = img.colorAt x y := by congr 1 <;> omega

theorem tiles_disjoint {other : Int} (positive : 0 < gridSize) (first : 0 ≤ index)
    (second : 0 ≤ other) (different : index ≠ other) :
    Disjoint (sliderTileRect bounds gridSize index).points
      (sliderTileRect bounds gridSize other).points := by
  rw [Set.disjoint_left]
  rintro ⟨x, y⟩ inFirst inSecond
  exact different (tile_unique positive first second inFirst inSecond)

theorem tiles_cover (positive : 0 < gridSize) :
    ⋃ index ∈ Set.Ico 0 (gridSize * gridSize), (sliderTileRect bounds gridSize index).points =
      bounds.points := by
  ext ⟨x, y⟩
  simp only [Set.mem_iUnion, Set.mem_Ico, exists_prop, Rectangle.mem_points]
  constructor
  · rintro ⟨index, inGrid, inTile⟩
    exact tile_within positive inGrid inTile
  · exact exists_tile positive

end VkTurn.Client
