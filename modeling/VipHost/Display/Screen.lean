import VipHost.Display.Canvas
import VipHost.Display.Recorder

/-!
# The terminal screen

A picture in a terminal: a box at the top left corner with a title in its upper
edge, and inside it a canvas with one cell for each pixel.  Every draw paints the
whole box on an empty page, and then writes to the terminal the cells in which
the page differs from the last one.  A picture of another length is refused and
the screen stays as it was.

A picture only one pixel wide or high has no extent to be scaled to, and its
pixels are not painted.  A picture without any pixels cannot be drawn.

Neither the terminal nor the box may have more cells than `Area.limit`.  Of a
larger terminal only a part is used, and a larger box is made smaller
(`Area.ofSize`); then several pixels share a cell, which is lit if one of them
is.  A box that does not fit into the used part of the terminal cannot be drawn.
-/

namespace VipHost

/-! ## Areas -/

namespace Area

/-- How many cells an area may have. -/
def limit : Nat := 65535

/-- The area of a size.  If it had too many cells, it is made smaller in both
directions alike until it has as many as allowed. -/
def ofSize (columns rows : Nat) : Area :=
  if columns * rows ≤ limit then ⟨columns, rows⟩
  else
    let shape := (Binary64.ofNat columns).div (Binary64.ofNat rows)
    let height := ((Binary64.ofNat limit).div shape).sqrt
    ⟨(height.mul shape).toUInt64.toNat, height.toUInt64.toNat⟩

/-- An area that is small enough has the size it was asked for. -/
theorem ofSize_of_le {columns rows : Nat} (h : columns * rows ≤ limit) :
    ofSize columns rows = ⟨columns, rows⟩ := by simp [ofSize, h]

/-- Whether an area is part of another one. -/
def fits (a b : Area) : Bool := a.columns ≤ b.columns && a.rows ≤ b.rows

/-- The area without its edge. -/
def inner (a : Area) : Area := ⟨a.columns - 2, a.rows - 2⟩

end Area

/-! ## Boxes -/

namespace Box

/-- The title. -/
def title : List Char := "CHIP-8".toList

/-- The cells of a side of a box around a number of pixels.  Both are counted in
16 bits: of the pixels the rest is dropped, and too many cells are an error. -/
def side? (pixels : Nat) : Option Nat :=
  let cells := 2 + pixels % 65536
  if cells < 65536 then some cells else none

/-- A box and what is in it, by column and row. -/
def cell (area : Area) (inside : Raster area.inner) (x y : Nat) : Cell :=
  if y = 0 then
    if x = 0 then .letter '┌'
    else if x = area.columns - 1 then .letter '┐'
    else .letter ((title.take (area.columns - 2))[x - 1]?.getD '─')
  else if y = area.rows - 1 then
    if x = 0 then .letter '└'
    else if x = area.columns - 1 then .letter '┘'
    else .letter '─'
  else if x = 0 ∨ x = area.columns - 1 then .letter '│'
  else inside.cell (x - 1) (y - 1)

/-- A page with nothing but a box at the top left corner. -/
def page (paper area : Area) (inside : Raster area.inner) : Raster paper :=
  .ofFn paper fun x y =>
    if x < area.columns ∧ y < area.rows then cell area inside x y else .blank

end Box

/-! ## Screens -/

/-- A terminal with the picture of a display. -/
structure Screen where
  /-- Pixels in a row. -/
  width : Nat
  /-- Rows of pixels. -/
  height : Nat
  /-- Cells in a row of the terminal. -/
  columns : Nat
  /-- Rows of the terminal. -/
  rows : Nat
  /-- The cells of the terminal. -/
  cells : Raster ⟨columns, rows⟩
  /-- The last page, as far as the terminal is used. -/
  page : Raster (.ofSize columns rows)
  /-- Whether the cursor is shown. -/
  cursor : Bool

namespace Screen

/-- A blank terminal with its cursor hidden. -/
def start (width height columns rows : Nat) : Screen where
  width := width
  height := height
  columns := columns
  rows := rows
  cells := .filled _ .blank
  page := .filled _ .blank
  cursor := false

/-- The cell in a column and a row. -/
def cell (s : Screen) (x y : Nat) : Cell := s.cells.cell x y

/-- The part of the terminal that is used. -/
def paper (s : Screen) : Area := .ofSize s.columns s.rows

/-- The cells of the box with its inside.  There is none without a pixel. -/
def boxArea? (s : Screen) : Option Area :=
  if s.width = 0 || s.height = 0 then none
  else
    match Box.side? s.width, Box.side? s.height with
    | some columns, some rows => some (.ofSize columns rows)
    | _, _ => none

/-- The failure of a picture that has not one byte for each pixel. -/
def lengthMismatch (given expected : Nat) : IoError :=
  .custom .invalidInput
    ("frame has " ++ toString given ++ " pixels, display expects " ++ toString expected)

/-- The screen with another page. -/
def turn (s : Screen) (page : Raster s.paper) : Screen :=
  { s with cells := s.cells.paintAll (s.page.diff page), page }

/-- Draw a picture. -/
def draw (s : Screen) (pixels : Bytes) : Drawn × Screen :=
  if pixels.size ≠ s.width * s.height then
    (.failed (lengthMismatch pixels.size (s.width * s.height)), s)
  else
    match s.boxArea? with
    | none => (.crashed, s)
    | some area =>
      if area.fits s.paper then
        let inside := Canvas.picture s.width s.height area.inner pixels
        (.shown, s.turn (Box.page s.paper area inside))
      else (.crashed, s)

/-- The screen when the display is given up: the cursor is shown again. -/
def close (s : Screen) : Screen := { s with cursor := true }

end Screen

end VipHost
