import VkTurn.Client.SliderRendering

/-! # The second solver's score of a candidate

It samples the image through the mapping where the first solver draws the candidate.  Both add up
the same differences along the same seams.
-/

namespace VkTurn.Client

open VkTurn.Order VkTurn.Transition

/-- How near a row is to the middle of one of the three lines of text. -/
def textWeight (bounds : Rectangle) (y : Int) : Float :=
  let height := Float.ofInt bounds.dy
  let textCenters := [0.2, 0.5, 0.8].map fun share => Float.ofInt bounds.minY + share * height
  let sigma := if height * 0.14 < 1.0 then 1.0 else height * 0.14
  let distances := textCenters.map fun center => (Float.ofInt y - center).abs
  let best := distances.tail.foldl (fun best d => if d < best then d else best)
    (distances.headD 0)
  1 + 3 * Float.exp (-(best * best) / (2 * sigma * sigma))

/-- The difference of two blue channels in 8 bits. -/
def blueDiff (left right : Color) : Float :=
  Float.ofInt (((left.b >>> 8 : Nat) : Int) - ((right.b >>> 8 : Nat) : Int)).natAbs

def seamScoreRGBTextV2 (img : Image) (gridSize : Int) (mapping : Array Int) : Int × Float :=
  let bounds := img.bounds
  let beside := forRange gridSize ((0, 0) : Int × Float) fun scores row =>
    forRange (gridSize - 1) scores fun scores col =>
      let leftIdx := row * gridSize + col
      let rightIdx := leftIdx + 1
      let leftDst := sliderTileRect bounds gridSize leftIdx
      let rightDst := sliderTileRect bounds gridSize rightIdx
      let leftSrc := sliderTileRect bounds gridSize (tileAt mapping leftIdx)
      let rightSrc := sliderTileRect bounds gridSize (tileAt mapping rightIdx)
      let h := if rightDst.dy < leftDst.dy then rightDst.dy else leftDst.dy
      forRange h scores fun (rgbScore, textScore) y =>
        let yy := leftDst.minY + y
        let l := sampleColorMappedV2 img leftDst leftSrc (leftDst.maxX - 1) yy
        let r := sampleColorMappedV2 img rightDst rightSrc rightDst.minX yy
        (rgbScore + pixelDiff l r, textScore + textWeight bounds yy * blueDiff l r)
  forRange (gridSize - 1) beside fun scores row =>
    forRange gridSize scores fun scores col =>
      let topIdx := row * gridSize + col
      let bottomIdx := (row + 1) * gridSize + col
      let topDst := sliderTileRect bounds gridSize topIdx
      let bottomDst := sliderTileRect bounds gridSize bottomIdx
      let topSrc := sliderTileRect bounds gridSize (tileAt mapping topIdx)
      let bottomSrc := sliderTileRect bounds gridSize (tileAt mapping bottomIdx)
      let w := if bottomDst.dx < topDst.dx then bottomDst.dx else topDst.dx
      forRange w scores fun (rgbScore, textScore) x =>
        let xx := topDst.minX + x
        let t := sampleColorMappedV2 img topDst topSrc xx (topDst.maxY - 1)
        let b := sampleColorMappedV2 img bottomDst bottomSrc xx bottomDst.minY
        (rgbScore + pixelDiff t b, textScore + 0.65 * blueDiff t b)

variable {bounds left right : Rectangle} {gridSize row col offset : Int} {img : Image}
  {mapping : Array Int}

/-- The pixels that face each other at an upright seam. -/
theorem seam_beside (inside : 0 ≤ offset ∧ offset < min left.dy right.dy)
    (wide : left.empty = false ∧ right.empty = false) (level : left.minY = right.minY) :
    left.contains (left.maxX - 1) (left.minY + offset) ∧
      right.contains right.minX (right.minY + offset) := by
  simp only [Rectangle.empty, ge_iff_le, Bool.or_eq_false_iff, decide_eq_false_iff_not] at wide
  unfold Rectangle.dy at inside
  rw [Rectangle.contains_iff, Rectangle.contains_iff]
  omega

/-- The pixels that face each other at a level seam. -/
theorem seam_below (inside : 0 ≤ offset ∧ offset < min left.dx right.dx)
    (wide : left.empty = false ∧ right.empty = false) (upright : left.minX = right.minX) :
    left.contains (left.minX + offset) (left.maxY - 1) ∧
      right.contains (right.minX + offset) right.minY := by
  simp only [Rectangle.empty, ge_iff_le, Bool.or_eq_false_iff, decide_eq_false_iff_not] at wide
  unfold Rectangle.dx at inside
  rw [Rectangle.contains_iff, Rectangle.contains_iff]
  omega

theorem row_level (positive : 0 < gridSize) (inRow : 0 ≤ row) (inCol : 0 ≤ col)
    (last : col < gridSize - 1) :
    (sliderTileRect bounds gridSize (row * gridSize + col)).minY =
      (sliderTileRect bounds gridSize (row * gridSize + col + 1)).minY := by
  have start : 0 ≤ row * gridSize := Int.mul_nonneg inRow (by omega)
  have here := place_of_row_col row col positive inCol (by omega)
  have next := place_of_row_col row (col + 1) positive (by omega) (by omega)
  rw [(sliderTileRect_eq positive (by omega)).2.1, (sliderTileRect_eq positive (by omega)).2.1,
    Int.add_assoc, here.1, next.1]

theorem col_upright (positive : 0 < gridSize) (inRow : 0 ≤ row) (inCol : 0 ≤ col)
    (last : col < gridSize) :
    (sliderTileRect bounds gridSize (row * gridSize + col)).minX =
      (sliderTileRect bounds gridSize ((row + 1) * gridSize + col)).minX := by
  have start : 0 ≤ row * gridSize := Int.mul_nonneg inRow (by omega)
  have nextStart : 0 ≤ (row + 1) * gridSize := Int.mul_nonneg (by omega) (by omega)
  have here := place_of_row_col row col positive inCol last
  have below := place_of_row_col (row + 1) col positive inCol last
  rw [(sliderTileRect_eq positive (by omega)).1.1, (sliderTileRect_eq positive (by omega)).1.1,
    here.2, below.2]

theorem min_of_if (a b : Int) : (if b < a then b else a) = min a b := by
  split <;> omega

/-- A loop over the score alone beside one over both scores. -/
theorem forRange_score {n score : Int} {scores : Int × Float} {body : Int → Int → Int}
    {bothBody : Int × Float → Int → Int × Float} (start : score = scores.1)
    (round : ∀ i score scores, 0 ≤ i → i < n → score = scores.1 →
      body score i = (bothBody scores i).1) :
    forRange n score body = (forRange n scores bothBody).1 :=
  @forRange_related Int (Int × Float) n (fun score scores => score = scores.1) _ _ _ _ start round

/-- Sampling through the mapping gives the score of the drawn candidate. -/
theorem seamScoreRGBTextV2_eq (positive : 0 < gridSize) (wide : gridSize ≤ img.bounds.dx)
    (high : gridSize ≤ img.bounds.dy) (opaque8 : img.Opaque8) (grid : InGrid gridSize mapping) :
    scoreSliderCandidate img gridSize mapping =
      .ok (seamScoreRGBTextV2 img gridSize mapping).1 := by
  have shows := fun index x y => @rendered_colorAt gridSize index x y img mapping positive grid
    ⟨wide, high⟩ opaque8
  have full := fun index inGrid => @tile_full img.bounds gridSize index positive inGrid ⟨wide, high⟩
  unfold scoreSliderCandidate
  rw [render_ok positive grid]
  refine congrArg Except.ok ?_
  unfold scoreRenderedSliderImage seamScoreRGBTextV2 RGBAImage.toImage
  rw [copyTiles_rect]
  refine forRange_score ?_ ?_
  · refine forRange_score rfl ?_
    intro row score scores inRow lastRow same
    refine forRange_score same ?_
    intro col score scores inCol lastCol same
    have here := place_lt inRow lastRow inCol (by omega)
    have next : 0 ≤ row * gridSize + col + 1 ∧ row * gridSize + col + 1 < gridSize * gridSize := by
      have := place_lt inRow lastRow (show 0 ≤ col + 1 by omega) (by omega)
      omega
    have level := @row_level img.bounds gridSize row col positive inRow inCol lastCol
    simp only [min_of_if]
    refine forRange_score same ?_
    intro offset score scores first last same
    have seam := seam_beside ⟨first, last⟩ ⟨full _ here.1, full _ next.1⟩ level
    rw [shows _ _ _ here seam.1, shows _ _ _ next seam.2, same, level]
  · intro row score scores inRow lastRow same
    refine forRange_score same ?_
    intro col score scores inCol lastCol same
    have here := place_lt inRow (show row < gridSize by omega) inCol lastCol
    have below := place_lt (show 0 ≤ row + 1 by omega) (by omega) inCol lastCol
    have upright := @col_upright img.bounds gridSize row col positive inRow inCol lastCol
    simp only [min_of_if]
    refine forRange_score same ?_
    intro offset score scores first last same
    have seam := seam_below ⟨first, last⟩ ⟨full _ here.1, full _ below.1⟩ upright
    rw [shows _ _ _ here seam.1, shows _ _ _ below seam.2, same, upright]

/-- Three by five pixels in four tiles, no two of one size. -/
theorem seamScoreRGBTextV2_eq_unequal :
    let img : Image := ⟨Rectangle.rect 0 0 3 5, fun x y =>
      RGBA.color ⟨UInt8.ofNat x.toNat, UInt8.ofNat (x * y).toNat, UInt8.ofNat y.toNat, 255⟩⟩
    scoreSliderCandidate img 2 #[3, 0, 0, 2] =
      .ok (seamScoreRGBTextV2 img 2 #[3, 0, 0, 2]).1 := by
  intro img
  have opaque8 : img.Opaque8 := fun x y _ => ⟨_, _, _, rfl⟩
  refine seamScoreRGBTextV2_eq (by decide) (by decide) (by decide) opaque8 ⟨by decide, ?_⟩
  intro index first below
  have place : index = 0 ∨ index = 1 ∨ index = 2 ∨ index = 3 := by omega
  rcases place with rfl | rfl | rfl | rfl <;> decide

end VkTurn.Client
