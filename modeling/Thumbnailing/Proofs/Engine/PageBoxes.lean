import Thumbnailing.Proofs.Engine.Pages

set_option autoImplicit false

namespace Thumbnailing

structure Box where
  left : Int
  top : Int
  width : Int
  height : Int

namespace Box

def cut (box : Box) : Transformation := .cut box.left box.top box.width box.height

def Covers (box : Box) (x y : Int) : Prop :=
  box.left ≤ x ∧ x < box.left + box.width ∧ box.top ≤ y ∧ y < box.top + box.height

structure IsInside (box : Box) (raster : Raster) : Prop where
  left : 0 ≤ box.left
  top : 0 ≤ box.top
  width : 0 < box.width
  height : 0 < box.height
  right : box.left + box.width ≤ raster.width
  bottom : box.top + box.height ≤ raster.height

def IsApart (first second : Box) : Prop := ∀ x y, ¬ (first.Covers x y ∧ second.Covers x y)

theorem cut_result {box : Box} {raster : Raster} (inside : box.IsInside raster) :
    box.cut.result raster = .ok (raster.resized box.width box.height) := by
  have within : Transformation.isInside raster box.left box.top box.width box.height = true := by
    simp [Transformation.isInside, inside.width, inside.height, inside.right, inside.bottom]
  simp [cut, Transformation.result, within]

end Box

/-- One box for every page of a picture, in the order of the pages. -/
structure CutsPages (raster : Raster) (page width height : Int) (boxes : List Box) : Prop where
  perPage : boxes.length * page = raster.height
  inside : ∀ box ∈ boxes, box.IsInside raster
  alike : ∀ box ∈ boxes, box.width = min width raster.width ∧ box.height = min height page
  inOrder : ∀ (index : Nat) (within : index < boxes.length),
    index * page ≤ boxes[index].top ∧ boxes[index].top + boxes[index].height ≤ (index + 1) * page
  apart : boxes.Pairwise Box.IsApart

theorem CutsPages.filled {raster : Raster} {page width height : Int} {boxes : List Box}
    (proper : CutsPages raster page width height boxes) (upright : 0 < raster.height) :
    boxes ≠ [] := by
  rintro rfl
  rw [← proper.perPage] at upright
  simp at upright

namespace Vips

def pageBox (raster : Raster) (page width height : Int) (index : Nat) : Box where
  left := max 0 ((raster.width - width).fdiv 2)
  top := index * page + max 0 ((page - height).fdiv 2)
  width := min width raster.width
  height := min height page

def pageBoxes (raster : Raster) (page width height : Int) : List Box :=
  (List.range (raster.height.fdiv page).toNat).map (pageBox raster page width height)

theorem pageCuts_eq (picture : Picture) (page width height : Int) :
    pageCuts picture page width height =
      (pageBoxes picture.raster page width height).map Box.cut := by
  simp only [pageCuts, pageBoxes, List.map_map]
  rfl

theorem middle_within (side part : Int) :
    max 0 ((side - part).fdiv 2) + min part side ≤ side := by
  rw [Int.fdiv_eq_ediv_of_nonneg _ (by decide)]
  omega

section

variable {raster : Raster} {page width height : Int} (wide : 1 ≤ width) (high : 1 ≤ height)
  (across : 0 < raster.width) (upright : 0 < raster.height)
  (measured : pageHeightOf raster = .ok page)

include upright measured in
theorem pages_fill : 0 < page ∧ (raster.height.fdiv page).toNat * page = raster.height := by
  have parts : 0 < page ∧ page ∣ raster.height := by
    rcases pageHeightOf_cases measured with rfl | ⟨filled, -, whole⟩
    · exact ⟨upright, Int.dvd_refl _⟩
    · exact ⟨filled, Int.dvd_of_emod_eq_zero whole⟩
  obtain ⟨filled, divides⟩ := parts
  have natural : 0 ≤ raster.height / page :=
    Int.ediv_nonneg (Int.le_of_lt upright) (Int.le_of_lt filled)
  rw [Int.fdiv_eq_ediv_of_nonneg _ (Int.le_of_lt filled), Int.toNat_of_nonneg natural]
  exact ⟨filled, Int.ediv_mul_cancel divides⟩

theorem pageBox_inPage (raster : Raster) (page width height : Int) (index : Nat) :
    index * page ≤ (pageBox raster page width height index).top ∧
      (pageBox raster page width height index).top + (pageBox raster page width height index).height ≤
        (index + 1) * page := by
  have within := middle_within page height
  simp only [pageBox, Int.add_mul, Int.one_mul]
  omega

include wide high across upright measured in
theorem pageBoxes_cutsPages :
    CutsPages raster page width height (pageBoxes raster page width height) := by
  obtain ⟨filled, whole⟩ := pages_fill upright measured
  refine ⟨by simpa [pageBoxes] using whole, ?_, ?_, ?_, ?_⟩
  next =>
    intro box member
    obtain ⟨index, below, rfl⟩ := List.mem_map.mp member
    have last : ((index : Int) + 1) * page ≤ raster.height := by
      rw [← whole]
      have := List.mem_range.mp below
      exact Int.mul_le_mul_of_nonneg_right (by omega) (Int.le_of_lt filled)
    have first : 0 ≤ (index : Int) * page := Int.mul_nonneg (by omega) (Int.le_of_lt filled)
    have own := pageBox_inPage raster page width height index
    have beside := middle_within raster.width width
    constructor
    · exact Int.le_max_left _ _
    · omega
    · simp only [pageBox]
      omega
    · simp only [pageBox]
      omega
    · exact beside
    · omega
  next =>
    intro box member
    obtain ⟨index, -, rfl⟩ := List.mem_map.mp member
    exact ⟨rfl, rfl⟩
  next =>
    intro index within
    simpa [pageBoxes] using pageBox_inPage raster page width height index
  next =>
    refine List.pairwise_map.mpr (List.pairwise_lt_range.imp fun {first second} before x y => ?_)
    rintro ⟨⟨-, -, -, above⟩, -, -, below, -⟩
    have one := pageBox_inPage raster page width height first
    have other := pageBox_inPage raster page width height second
    have apart : ((first : Int) + 1) * page ≤ second * page :=
      Int.mul_le_mul_of_nonneg_right (by omega) (Int.le_of_lt filled)
    omega

end

end Vips

end Thumbnailing
