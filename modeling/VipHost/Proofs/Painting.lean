import VipHost.Display.Screen
import VipHost.Proofs.ExactDoubles

/-!
# The screen shows the last picture

From the bytes of a picture to the cells of the terminal.  The coordinates of the pixels are
whole numbers that doubles hold exactly, and so are all numbers they are scaled by; so where a
canvas has a cell for each pixel, each pixel is painted in its own cell (`Canvas.place?_pixel`)
and the canvas has the colours of the picture (`Canvas.cell_picture`).

What is painted on a page depends on the picture alone, and the cells in which a page differs
from the last one turn that one into it (`Raster.paintAll_diff`).  So if the terminal shows the
last page before a draw, it does so again after it, and after any draws the screen is as the
last picture of the right length left it (`Screen.Room.drawAll_lastShown`).
-/

namespace VipHost

/-! ## Rasters -/

namespace Raster

variable {a : Area}

theorem cell_outside (r : Raster a) {x y : Nat} (outside : ¬ (x < a.columns ∧ y < a.rows)) :
    r.cell x y = .blank := by
  rw [cell]
  split
  next inside =>
    have below : a.rows ≤ y := Nat.not_lt.mp fun inside' => outside ⟨inside, inside'⟩
    have past : a.rows * a.columns ≤ y * a.columns + x :=
      Nat.le_trans (Nat.mul_le_mul_right _ below) (Nat.le_add_right _ _)
    rw [Vector.getElem?_eq_none past]
    rfl
  next => rfl

/-- A cell of an area has its place in the row of all cells. -/
theorem index_lt {x y : Nat} (column : x < a.columns) (row : y < a.rows) :
    y * a.columns + x < a.rows * a.columns :=
  calc y * a.columns + x < y * a.columns + a.columns := Nat.add_lt_add_left column _
    _ = (y + 1) * a.columns := (Nat.succ_mul _ _).symm
    _ ≤ a.rows * a.columns := Nat.mul_le_mul_right _ row

theorem place_of_index {i : Nat} (inside : i < a.rows * a.columns) :
    i % a.columns < a.columns ∧ i / a.columns < a.rows := by
  have positive : 0 < a.columns := Nat.pos_of_ne_zero fun none => by simp [none] at inside
  exact ⟨Nat.mod_lt _ positive, Nat.div_lt_of_lt_mul (Nat.mul_comm _ _ ▸ inside)⟩

theorem index_mod {x y : Nat} (column : x < a.columns) : (y * a.columns + x) % a.columns = x := by
  rw [Nat.add_comm, Nat.add_mul_mod_self_right, Nat.mod_eq_of_lt column]

theorem index_div {x y : Nat} (column : x < a.columns) : (y * a.columns + x) / a.columns = y := by
  rw [Nat.add_comm, Nat.add_mul_div_right _ _ (Nat.zero_lt_of_lt column),
    Nat.div_eq_of_lt column, Nat.zero_add]

theorem cell_eq (r : Raster a) {x y : Nat} (column : x < a.columns)
    (inside : y * a.columns + x < a.rows * a.columns) :
    r.cell x y = r.cells[y * a.columns + x] := by
  rw [cell, if_pos column, Vector.getElem?_eq_getElem inside, Option.getD_some]

theorem cell_filled (c : Cell) {x y : Nat} (column : x < a.columns) (row : y < a.rows) :
    (filled a c).cell x y = c := by
  rw [cell_eq _ column (index_lt column row)]
  exact Vector.getElem_replicate _

theorem cell_blank (x y : Nat) : (filled a .blank).cell x y = .blank := by
  by_cases inside : x < a.columns ∧ y < a.rows
  · exact cell_filled .blank inside.1 inside.2
  · exact cell_outside _ inside

theorem cell_ofFn (f : Nat → Nat → Cell) {x y : Nat} (column : x < a.columns) (row : y < a.rows) :
    (ofFn a f).cell x y = f x y := by
  rw [cell_eq _ column (index_lt column row)]
  simp only [ofFn, Vector.getElem_ofFn, index_mod column, index_div column]

/-- Rasters with the same cells are the same. -/
theorem ext_cell {r r' : Raster a}
    (same : ∀ x y, x < a.columns → y < a.rows → r.cell x y = r'.cell x y) : r = r' := by
  obtain ⟨cells⟩ := r
  obtain ⟨cells'⟩ := r'
  congr 1
  apply Vector.ext
  intro i inside
  obtain ⟨column, row⟩ := place_of_index inside
  have equal := same _ _ column row
  rw [cell_eq _ column (index_lt column row), cell_eq _ column (index_lt column row)] at equal
  simpa only [Nat.div_add_mod'] using equal

theorem cell_paint (r : Raster a) {s : Stroke} (column : s.x < a.columns) (row : s.y < a.rows)
    (x y : Nat) :
    (r.paint s).cell x y = if s.x = x ∧ s.y = y then s.cell else r.cell x y := by
  by_cases inside : x < a.columns ∧ y < a.rows
  · obtain ⟨column', row'⟩ := inside
    have same : s.y * a.columns + s.x = y * a.columns + x ↔ s.x = x ∧ s.y = y := by
      constructor
      · intro index
        have columns := congrArg (· % a.columns) index
        have rows := congrArg (· / a.columns) index
        simp only [index_mod column, index_mod column', index_div column, index_div column']
          at columns rows
        exact ⟨columns, rows⟩
      · rintro ⟨rfl, rfl⟩
        rfl
    rw [cell_eq _ column' (index_lt column' row'), cell_eq _ column' (index_lt column' row')]
    simp only [paint, Vector.getElem_setIfInBounds, same]
  · have elsewhere : ¬ (s.x = x ∧ s.y = y) := by
      rintro ⟨rfl, rfl⟩
      exact inside ⟨column, row⟩
    rw [if_neg elsewhere, cell_outside _ inside, cell_outside _ inside]

/-- After strokes that paint each cell in a colour of its own, the cells that were painted have
their colours. -/
theorem cell_paintAll (colour : Nat → Nat → Cell) {strokes : List Stroke}
    (own : ∀ s ∈ strokes, s.x < a.columns ∧ s.y < a.rows ∧ s.cell = colour s.x s.y)
    (r : Raster a) (x y : Nat) :
    (r.paintAll strokes).cell x y =
      if ∃ s ∈ strokes, s.x = x ∧ s.y = y then colour x y else r.cell x y := by
  induction strokes generalizing r with
  | nil => simp [paintAll]
  | cons s strokes ih =>
    obtain ⟨column, row, painted⟩ := own s (.head _)
    rw [paintAll, ih (fun t later => own t (.tail _ later)), cell_paint r column row]
    by_cases again : ∃ t ∈ strokes, t.x = x ∧ t.y = y
    · rw [if_pos again, if_pos (by simpa using .inr again)]
    · by_cases here : s.x = x ∧ s.y = y
      · rw [if_neg again, if_pos here, if_pos ⟨s, .head _, here⟩, painted, here.1, here.2]
      · rw [if_neg again, if_neg here, if_neg (by simpa [here] using again)]

/-- The strokes of a difference are where the rasters differ, and paint the new cells. -/
theorem mem_diff {old new : Raster a} {s : Stroke} :
    s ∈ old.diff new ↔ s.x < a.columns ∧ s.y < a.rows ∧ s.cell = new.cell s.x s.y ∧
      old.cell s.x s.y ≠ new.cell s.x s.y := by
  obtain ⟨x, y, c⟩ := s
  simp only [diff, List.mem_filterMap, List.mem_finRange, true_and]
  constructor
  · rintro ⟨⟨i, inside⟩, stroke⟩
    obtain ⟨column, row⟩ := place_of_index inside
    split at stroke
    · cases stroke
    next differ =>
      cases stroke
      refine ⟨column, row, ?_⟩
      rw [cell_eq _ column (index_lt column row), cell_eq _ column (index_lt column row)]
      simpa only [Nat.div_add_mod', Fin.getElem_fin, ne_eq, true_and] using differ
  · rintro ⟨column, row, rfl, differ⟩
    refine ⟨⟨y * a.columns + x, index_lt column row⟩, ?_⟩
    rw [cell_eq _ column (index_lt column row), cell_eq _ column (index_lt column row)] at differ
    simp only [Fin.getElem_fin, if_neg differ, index_mod column, index_div column,
      cell_eq _ column (index_lt column row)]

/-- The strokes of a difference turn the old raster into the new one. -/
theorem paintAll_diff (old new : Raster a) : old.paintAll (old.diff new) = new := by
  have own : ∀ s ∈ old.diff new, s.x < a.columns ∧ s.y < a.rows ∧ s.cell = new.cell s.x s.y := by
    intro s inside
    obtain ⟨column, row, painted, _⟩ := mem_diff.mp inside
    exact ⟨column, row, painted⟩
  refine ext_cell fun x y column row => ?_
  rw [cell_paintAll new.cell own]
  by_cases same : old.cell x y = new.cell x y
  · rw [same, ite_self]
  · rw [if_pos ⟨⟨x, y, new.cell x y⟩, mem_diff.mpr ⟨column, row, rfl, same⟩, rfl, rfl⟩]

end Raster

/-! ## Scales -/

/-- A distance whose extent is the last cell is that cell. -/
theorem Scale.cellOf_eq {distance last extent : Binary64} {d n : Nat} (hd : distance.IsWhole d)
    (hl : last.IsWhole n) (he : extent.IsWhole n) (positive : 0 < n) (short : d < 65536)
    (few : n < 65536) : cellOf distance last extent = d := by
  have small : d * n ≤ 65535 * 65535 := Nat.mul_le_mul (by omega) (by omega)
  have product := hd.mul hl (by rw [← Int.natCast_mul, Int.natAbs_natCast]; omega)
  have quotient := product.div he (by omega) (by omega)
  exact quotient.toNat_toUInt64 (by omega)

namespace Canvas

theorem isWhole_down {n : Nat} (small : n < 65536) : (down n).IsWhole (-(n : Int)) := by
  have product := Binary64.IsWhole.mul (.ofInt (n := -1) (by decide))
    (.ofNat (n := n) (by omega)) (by omega)
  rwa [Int.neg_one_mul] at product

section Bounds

variable {w h : Nat} (narrow : w < 65536) (low : h < 65536)

include narrow in
theorem isWhole_width : (bounds w h).width.IsWhole (w - 1 : Nat) := by
  have right : (Binary64.ofNat (w - 1)).IsWhole (w - 1 : Nat) := .ofNat (by omega)
  have extent := (right.sub (.zero false) (by omega)).abs
  rw [Int.sub_zero, Nat.abs_cast] at extent
  simpa only [Bounds.width, bounds] using extent

include low in
theorem isWhole_height : (bounds w h).height.IsWhole (h - 1 : Nat) := by
  have bottom := isWhole_down (n := h - 1) (by omega)
  have extent := ((Binary64.IsWhole.zero false).sub bottom (by omega)).abs
  rw [Int.sub_neg, Int.zero_add, Nat.abs_cast] at extent
  simpa only [Bounds.height, bounds] using extent

include narrow low in
/-- The bounds of a picture exclude none of its pixels. -/
theorem excludes_pixel {column row : Nat} (inRow : column < w) (inColumn : row < h) :
    (bounds w h).excludes ⟨.ofNat column, down row⟩ = false := by
  have zero := Binary64.IsWhole.zero false
  have right : (Binary64.ofNat (w - 1)).IsWhole (w - 1 : Nat) := .ofNat (by omega)
  have bottom := isWhole_down (n := h - 1) (by omega)
  have x : (Binary64.ofNat column).IsWhole column := .ofNat (by omega)
  have y := isWhole_down (n := row) (by omega)
  simp only [Bounds.excludes, bounds, x.lt_eq_false zero (by omega),
    right.lt_eq_false x (by omega), y.lt_eq_false bottom (by omega),
    zero.lt_eq_false y (by omega), Bool.or_self]

include narrow low in
/-- On a canvas with a cell for each pixel, each pixel is painted in its own cell. -/
theorem place?_pixel (wide : 2 ≤ w) (high : 2 ≤ h) {column row : Nat} (inRow : column < w)
    (inColumn : row < h) :
    (Scale.between (bounds w h) ⟨w, h⟩).place? ⟨.ofNat column, down row⟩ =
      some (column, row) := by
  have zero := Binary64.IsWhole.zero false
  have width := isWhole_width (h := h) narrow
  have height := isWhole_height (w := w) low
  have x : (Binary64.ofNat column).IsWhole column := .ofNat (by omega)
  have toLeft := x.sub zero (by omega)
  have toTop := zero.sub (isWhole_down (n := row) (by omega)) (by omega)
  rw [Int.sub_zero] at toLeft
  rw [Int.sub_neg, Int.zero_add] at toTop
  have last {cells : Nat} (some : 1 ≤ cells) (few : cells < 65536) :
      ((Binary64.ofNat cells).sub (.ofNat 1)).IsWhole (cells - 1 : Nat) := by
    rw [Int.ofNat_sub some]
    exact Binary64.IsWhole.sub (.ofNat (by omega)) (.ofNat (by decide)) (by omega)
  have hasWidth := width.sameNumber_eq_false zero (by omega)
  have hasHeight := height.sameNumber_eq_false zero (by omega)
  have left : (bounds w h).left = .zero false := rfl
  have top : (bounds w h).top = .zero false := rfl
  simp only [Scale.place?, Scale.between, excludes_pixel narrow low inRow inColumn, hasWidth,
    hasHeight, left, top, Bool.or_self, Bool.false_eq_true, if_false]
  rw [Scale.cellOf_eq toLeft (last (by omega) narrow) width (by omega) (by omega) (by omega),
    Scale.cellOf_eq toTop (last (by omega) low) height (by omega) (by omega) (by omega)]

end Bounds

/-! ## Pictures on a canvas -/

theorem mem_points {width : Nat} {pixels : Bytes} {lit : Bool} {p : Point} :
    p ∈ points width pixels lit ↔
      ∃ i pixel, pixels[i]? = some pixel ∧ (pixel != 0) = lit ∧
        p = ⟨.ofNat (i % width), down (i / width)⟩ := by
  simp only [points, List.mem_map, List.mem_filter, Prod.exists, List.mem_zipIdx_iff_getElem?,
    Array.getElem?_toList, beq_iff_eq]
  constructor
  · rintro ⟨pixel, i, ⟨here, colour⟩, rfl⟩
    exact ⟨i, pixel, here, colour, rfl⟩
  · rintro ⟨i, pixel, here, colour, rfl⟩
    exact ⟨pixel, i, ⟨here, colour⟩, rfl⟩

section Pictures

variable {w h : Nat} (wide : 2 ≤ w) (high : 2 ≤ h) (narrow : w < 65536) (low : h < 65536)
  {pixels : Bytes} (complete : pixels.size = w * h)

include wide high narrow low complete

/-- The strokes of a picture are its pixels, each in a cell of its own. -/
theorem mem_strokes {lit : Bool} {colour : Cell} {s : Stroke} :
    s ∈ strokes (Scale.between (bounds w h) ⟨w, h⟩) (points w pixels lit) colour ↔
      s.x < w ∧ s.y < h ∧ s.cell = colour ∧ (pixels[s.y * w + s.x]?.getD 0 != 0) = lit := by
  simp only [strokes, List.mem_filterMap, mem_points]
  constructor
  · rintro ⟨p, ⟨i, pixel, here, shade, rfl⟩, stroke⟩
    have inside : i < h * w := by
      rw [Nat.mul_comm, ← complete]
      exact (Array.getElem?_eq_some_iff.mp here).1
    obtain ⟨column, row⟩ := Raster.place_of_index (a := ⟨w, h⟩) inside
    rw [place?_pixel narrow low wide high column row, Option.map_some, Option.some.injEq] at stroke
    subst stroke
    refine ⟨column, row, rfl, ?_⟩
    rw [Nat.div_add_mod', here]
    exact shade
  · obtain ⟨x, y, cell⟩ := s
    rintro ⟨column, row, rfl, shade⟩
    have inside : y * w + x < pixels.size := by
      rw [complete, Nat.mul_comm w]
      exact Raster.index_lt (a := ⟨w, h⟩) column row
    rw [Array.getElem?_eq_getElem inside, Option.getD_some] at shade
    refine ⟨_, ⟨y * w + x, _, Array.getElem?_eq_getElem inside, shade, rfl⟩, ?_⟩
    rw [Raster.index_mod (a := ⟨w, h⟩) column, Raster.index_div (a := ⟨w, h⟩) column,
      place?_pixel narrow low wide high column row]
    rfl

/-- Each cell of the canvas is lit exactly if its pixel is. -/
theorem cell_picture {x y : Nat} (column : x < w) (row : y < h) :
    (picture w h ⟨w, h⟩ pixels).cell x y =
      if pixels[y * w + x]?.getD 0 = 0 then .dark else .lit := by
  have painted {lit : Bool} {colour : Cell} (r : Raster ⟨w, h⟩) :
      (r.paintAll (strokes (Scale.between (bounds w h) ⟨w, h⟩) (points w pixels lit) colour)).cell
          x y =
        if (pixels[y * w + x]?.getD 0 != 0) = lit then colour else r.cell x y := by
    rw [Raster.cell_paintAll fun _ _ => colour]
    · congr 1
      rw [eq_iff_iff]
      constructor
      · rintro ⟨s, inside, rfl, rfl⟩
        exact ((mem_strokes wide high narrow low complete).mp inside).2.2.2
      · intro shade
        exact ⟨⟨x, y, colour⟩,
          (mem_strokes wide high narrow low complete).mpr ⟨column, row, rfl, shade⟩, rfl, rfl⟩
    · intro s inside
      obtain ⟨column, row, colour, _⟩ := (mem_strokes wide high narrow low complete).mp inside
      exact ⟨column, row, colour⟩
  rw [picture, painted, painted]
  by_cases dark : pixels[y * w + x]?.getD 0 = 0
  · simp [dark]
  · simp [dark]

end Pictures

end Canvas

/-! ## Boxes -/

namespace Box

section Edge

variable {w h : Nat} (inside : Raster (Area.inner ⟨w + 2, h + 2⟩)) {x y : Nat}

theorem cell_inside (column : x < w) (row : y < h) :
    cell ⟨w + 2, h + 2⟩ inside (x + 1) (y + 1) = inside.cell x y := by
  unfold cell
  rw [if_neg (by omega), if_neg (by simp; omega), if_neg (by simp; omega)]
  rfl

theorem cell_topLeft : cell ⟨w + 2, h + 2⟩ inside 0 0 = .letter '┌' := rfl

theorem cell_topRight : cell ⟨w + 2, h + 2⟩ inside (w + 1) 0 = .letter '┐' := by
  simp [cell]

/-- The upper edge with the title, as far as there is room for it. -/
theorem cell_top (column : x < w) :
    cell ⟨w + 2, h + 2⟩ inside (x + 1) 0 = .letter (title[x]?.getD '─') := by
  unfold cell
  rw [if_pos rfl, if_neg (by omega), if_neg (by simp; omega), Nat.add_sub_cancel,
    Nat.add_sub_cancel, List.getElem?_take_of_lt column]

theorem cell_bottomLeft : cell ⟨w + 2, h + 2⟩ inside 0 (h + 1) = .letter '└' := by
  simp [cell]

theorem cell_bottomRight : cell ⟨w + 2, h + 2⟩ inside (w + 1) (h + 1) = .letter '┘' := by
  simp [cell]

theorem cell_bottom (column : x < w) :
    cell ⟨w + 2, h + 2⟩ inside (x + 1) (h + 1) = .letter '─' := by
  simp [cell]
  omega

theorem cell_left (row : y < h) : cell ⟨w + 2, h + 2⟩ inside 0 (y + 1) = .letter '│' := by
  simp [cell]
  omega

theorem cell_right (row : y < h) :
    cell ⟨w + 2, h + 2⟩ inside (w + 1) (y + 1) = .letter '│' := by
  simp [cell]
  omega

end Edge

end Box

/-! ## Screens -/

namespace Screen

/-- The screen after some draws. -/
def drawAll : Screen → List Bytes → Screen
  | s, [] => s
  | s, pixels :: draws => (s.draw pixels).2.drawAll draws

/-- A screen shows a picture: each pixel in the cell one column and one row further, around them
a box with its title, and nothing else. -/
structure Shows (s : Screen) (w h : Nat) (pixels : Bytes) : Prop where
  pixel : ∀ x < w, ∀ y < h,
    s.cell (x + 1) (y + 1) = if pixels[y * w + x]?.getD 0 = 0 then .dark else .lit
  top : s.cell 0 0 = .letter '┌' ∧ s.cell (w + 1) 0 = .letter '┐' ∧
    ∀ x < w, s.cell (x + 1) 0 = .letter ("CHIP-8".toList[x]?.getD '─')
  bottom : s.cell 0 (h + 1) = .letter '└' ∧ s.cell (w + 1) (h + 1) = .letter '┘' ∧
    ∀ x < w, s.cell (x + 1) (h + 1) = .letter '─'
  sides : ∀ y < h, s.cell 0 (y + 1) = .letter '│' ∧ s.cell (w + 1) (y + 1) = .letter '│'
  outside : ∀ x y, w + 2 ≤ x ∨ h + 2 ≤ y → s.cell x y = .blank

/-- A terminal has room for a picture in its box, and all of it is used. -/
structure Room (w h columns rows : Nat) : Prop where
  wide : 2 ≤ w
  high : 2 ≤ h
  across : w + 2 ≤ columns
  down : h + 2 ≤ rows
  small : columns * rows ≤ 65535

theorem draw_incomplete {s : Screen} {pixels : Bytes}
    (incomplete : pixels.size ≠ s.width * s.height) :
    s.draw pixels = (.failed (lengthMismatch pixels.size (s.width * s.height)), s) :=
  if_pos incomplete

theorem draw_of_fits {s : Screen} {pixels : Bytes} (complete : pixels.size = s.width * s.height)
    {area : Area} (box : s.boxArea? = some area) (fits : area.fits s.paper = true) :
    s.draw pixels = (.shown, s.turn (Box.page s.paper area
      (Canvas.picture s.width s.height area.inner pixels))) := by
  rw [draw, if_neg (not_not.mpr complete), box]
  exact if_pos fits

/-- The page with a picture, or without any. -/
def lastPage (w h : Nat) (paper : Area) : Option Bytes → Raster paper
  | none => .filled paper .blank
  | some pixels => Box.page paper ⟨w + 2, h + 2⟩ (Canvas.picture w h ⟨w, h⟩ pixels)

/-- The screen with a picture, or without any. -/
def lastShown (w h columns rows : Nat) (o : Option Bytes) : Screen :=
  { start w h columns rows with cells := lastPage w h _ o, page := lastPage w h _ o }

namespace Room

variable {w h columns rows : Nat} (room : Room w h columns rows)

include room

theorem box_small : (w + 2) * (h + 2) ≤ 65535 :=
  (Nat.mul_le_mul room.across room.down).trans room.small

theorem narrow : w < 65534 := by
  have box := room.box_small
  have side : w + 2 ≤ (w + 2) * (h + 2) := Nat.le_mul_of_pos_right _ (by omega)
  omega

theorem low : h < 65534 := by
  have box := room.box_small
  have side : h + 2 ≤ (w + 2) * (h + 2) := Nat.le_mul_of_pos_left _ (by omega)
  omega

theorem paper : Area.ofSize columns rows = ⟨columns, rows⟩ := Area.ofSize_of_le room.small

theorem boxArea? {s : Screen} (width : s.width = w) (height : s.height = h) :
    s.boxArea? = some ⟨w + 2, h + 2⟩ := by
  have wide := room.wide
  have high := room.high
  have narrow := room.narrow
  have low := room.low
  have side {n : Nat} (short : n < 65534) : Box.side? n = some (n + 2) := by
    rw [Box.side?, Nat.mod_eq_of_lt (by omega), if_pos (by omega), Nat.add_comm]
  rw [Screen.boxArea?, width, height, if_neg (by simp; omega), side narrow, side low]
  dsimp only
  rw [Area.ofSize_of_le room.box_small]

/-- A picture of the right length is shown, whatever was shown before. -/
theorem draw_complete (o : Option Bytes) {pixels : Bytes} (complete : pixels.size = w * h) :
    (lastShown w h columns rows o).draw pixels =
      (.shown, lastShown w h columns rows (some pixels)) := by
  have paper := room.paper
  have across := room.across
  have down := room.down
  have fits : Area.fits ⟨w + 2, h + 2⟩ (Area.ofSize columns rows) = true := by
    rw [paper]
    simp [Area.fits, across, down]
  have turned {paper : Area} (whole : paper = ⟨columns, rows⟩) :
      (lastPage w h ⟨columns, rows⟩ o).paintAll
          ((lastPage w h paper o).diff (lastPage w h paper (some pixels))) =
        lastPage w h ⟨columns, rows⟩ (some pixels) := by
    subst whole
    exact Raster.paintAll_diff _ _
  have drawn := draw_of_fits (s := lastShown w h columns rows o) complete
    (room.boxArea? rfl rfl) fits
  refine drawn.trans (congrArg (Prod.mk Drawn.shown) ?_)
  exact congrArg (fun cells : Raster ⟨columns, rows⟩ =>
    { start w h columns rows with cells, page := lastPage w h _ (some pixels) }) (turned room.paper)

/-- After any draws the screen is as the last picture of the right length left it. -/
theorem drawAll_lastShown (o : Option Bytes) (draws : List Bytes) :
    (lastShown w h columns rows o).drawAll draws =
      lastShown w h columns rows
        (((draws.filter fun pixels => pixels.size = w * h).getLast?).or o) := by
  induction draws generalizing o with
  | nil => rfl
  | cons pixels draws ih =>
    by_cases complete : pixels.size = w * h
    · rw [drawAll, room.draw_complete o complete, ih,
        List.filter_cons_of_pos (by simpa using complete), List.getLast?_cons]
      cases (draws.filter fun pixels => pixels.size = w * h).getLast? with
      | none => rfl
      | some last => rfl
    · have refused :
          ((lastShown w h columns rows o).draw pixels).2 = lastShown w h columns rows o :=
        congrArg Prod.snd (draw_incomplete complete)
      rw [drawAll, refused, ih, List.filter_cons_of_neg (by simpa using complete)]

/-- A screen with a picture shows it. -/
theorem shows_lastShown {pixels : Bytes} (complete : pixels.size = w * h) :
    (lastShown w h columns rows (some pixels)).Shows w h pixels := by
  have wide := room.wide
  have high := room.high
  have narrow := room.narrow
  have low := room.low
  have across := room.across
  have down := room.down
  -- the cells of the box
  have box {x y : Nat} (column : x < w + 2) (row : y < h + 2) :
      (lastShown w h columns rows (some pixels)).cell x y =
        Box.cell ⟨w + 2, h + 2⟩ (Canvas.picture w h ⟨w, h⟩ pixels) x y := by
    have drawn := Raster.cell_ofFn (a := ⟨columns, rows⟩)
      (fun x y => if x < w + 2 ∧ y < h + 2 then
        Box.cell ⟨w + 2, h + 2⟩ (Canvas.picture w h ⟨w, h⟩ pixels) x y else .blank)
      (Nat.lt_of_lt_of_le column across) (Nat.lt_of_lt_of_le row down)
    exact drawn.trans (if_pos ⟨column, row⟩)
  constructor
  case pixel =>
    intro x column y row
    rw [box (by omega) (by omega)]
    exact (Box.cell_inside _ column row).trans
      (Canvas.cell_picture wide high (by omega) (by omega) complete column row)
  case top =>
    rw [box (by omega) (by omega), box (by omega) (by omega)]
    refine ⟨Box.cell_topLeft _, Box.cell_topRight _, fun x column => ?_⟩
    rw [box (by omega) (by omega)]
    exact Box.cell_top _ column
  case bottom =>
    rw [box (by omega) (by omega), box (by omega) (by omega)]
    refine ⟨Box.cell_bottomLeft _, Box.cell_bottomRight _, fun x column => ?_⟩
    rw [box (by omega) (by omega)]
    exact Box.cell_bottom _ column
  case sides =>
    intro y row
    rw [box (by omega) (by omega), box (by omega) (by omega)]
    exact ⟨Box.cell_left _ row, Box.cell_right _ row⟩
  case outside =>
    intro x y outside
    by_cases inside : x < columns ∧ y < rows
    · exact (Raster.cell_ofFn (a := ⟨columns, rows⟩) _ inside.1 inside.2).trans
        (if_neg (by simp; omega))
    · exact Raster.cell_outside _ inside

end Room

/-- The screen shows the last picture of the right length.  A display has at least two pixels in
each direction, and the terminal has room for it in its box and no more cells than can be used.
After any draws of any bytes, a draw of a byte for each pixel succeeds and then the screen shows
just that picture, pixel by pixel in a titled box, and a draw of any other length is refused as
invalid input and leaves the screen as it was.  So the screen is as the last draw of the right
length alone would have left it, or still blank if there was none. -/
theorem last_picture_shown (w h columns rows : Nat) (wide : 2 ≤ w) (high : 2 ≤ h)
    (across : w + 2 ≤ columns) (down : h + 2 ≤ rows) (small : columns * rows ≤ 65535)
    (draws : List Bytes) :
    let blank := start w h columns rows
    let s := blank.drawAll draws
    let accepted := draws.filter fun pixels => pixels.size = w * h
    (∀ pixels : Bytes, pixels.size = w * h →
        (s.draw pixels).1 = .shown ∧ (s.draw pixels).2.Shows w h pixels) ∧
      (∀ pixels : Bytes, pixels.size ≠ w * h →
        ∃ message, s.draw pixels = (.failed (.custom .invalidInput message), s)) ∧
      (∀ last, accepted.getLast? = some last → s = (blank.draw last).2 ∧ s.Shows w h last) ∧
      (accepted = [] → s = blank ∧ ∀ x y, s.cell x y = .blank) := by
  intro blank s accepted
  have room : Room w h columns rows := ⟨wide, high, across, down, small⟩
  have shown : s = lastShown w h columns rows (accepted.getLast?.or none) :=
    room.drawAll_lastShown none draws
  refine ⟨fun pixels complete => ?_, fun pixels incomplete => ?_, fun last accepted' => ?_,
    fun none => ?_⟩
  · rw [shown, room.draw_complete _ complete]
    exact ⟨rfl, room.shows_lastShown complete⟩
  · rw [shown]
    exact ⟨_, draw_incomplete incomplete⟩
  · have complete : last.size = w * h := by
      simpa using (List.mem_filter.mp (List.mem_of_getLast? accepted')).2
    have only : (blank.draw last).2 = lastShown w h columns rows (some last) :=
      congrArg Prod.snd (room.draw_complete none complete)
    rw [shown, accepted', only]
    exact ⟨rfl, room.shows_lastShown complete⟩
  · rw [shown, none]
    exact ⟨rfl, fun x y => Raster.cell_blank x y⟩

/-- A picture takes the place of an earlier one, and one that is too short is refused. -/
theorem last_picture_shown_of_three_draws :
    let s := (start 3 2 6 5).drawAll [#[1, 0, 0, 0, 0, 2], #[1], #[0, 0, 0, 0, 9, 0]]
    s.cell 1 1 = .dark ∧ s.cell 2 2 = .lit ∧ s.cell 5 0 = .blank ∧ s.cell 3 0 = .letter 'I' ∧
      ((∃ message, s.draw #[1] = (.failed (.custom .invalidInput message), s)) ∧
        (s.draw #[0, 0, 7, 0, 0, 0]).2.cell 3 1 = .lit) ∧
      ∀ x y, ((start 3 2 6 5).drawAll [#[1]]).cell x y = .blank := by
  intro s
  have shown := last_picture_shown 3 2 6 5 (by decide) (by decide) (by decide) (by decide)
    (by decide)
  obtain ⟨succeeds, refuses, lasts, _⟩ :=
    shown [#[1, 0, 0, 0, 0, 2], #[1], #[0, 0, 0, 0, 9, 0]]
  obtain ⟨_, _, _, blank⟩ := shown [#[1]]
  obtain ⟨_, shows⟩ := lasts #[0, 0, 0, 0, 9, 0] rfl
  obtain ⟨_, next⟩ := succeeds #[0, 0, 7, 0, 0, 0] rfl
  exact ⟨shows.pixel 0 (by decide) 0 (by decide), shows.pixel 1 (by decide) 1 (by decide),
    shows.outside 5 0 (by decide), shows.top.2.2 2 (by decide),
    ⟨refuses #[1] (by decide), next.pixel 2 (by decide) 0 (by decide)⟩, (blank rfl).2⟩

end Screen

end VipHost
