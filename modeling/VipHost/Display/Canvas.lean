import VipHost.Binary64.Arithmetic
import VipHost.Machine.Memory

/-!
# Canvases

A *raster* is a rectangle of cells.  It is painted stroke by stroke, a later stroke over the
earlier ones, and one raster is brought up to date with another by the strokes where they differ
(`Raster.diff`).

A *canvas* is a raster on which points are painted that are given by coordinates.  The bounds of
the canvas say which coordinates it shows; they are scaled to its cells, in doubles.  The pixels
of a picture are the points at whole numbers, with the rows going down from zero
(`Canvas.points`), so a canvas with a cell for each pixel shows each in its own cell.
-/

namespace VipHost

/-- One cell of the terminal. -/
inductive Cell where
  /-- Nothing was painted here. -/
  | blank
  /-- A part of the box or a letter of its title. -/
  | letter (c : Char)
  /-- The inside of the box without a pixel. -/
  | background
  /-- A lit pixel: a white half block. -/
  | lit
  /-- A dark pixel: a black half block. -/
  | dark
deriving DecidableEq, Repr, Inhabited

/-- A rectangle of cells at the top left corner. -/
structure Area where
  /-- Cells in a row. -/
  columns : Nat
  /-- Rows of cells. -/
  rows : Nat
deriving DecidableEq, Repr

/-! ## Rasters -/

/-- The cells of an area, row after row. -/
structure Raster (a : Area) where
  /-- The cells. -/
  cells : Vector Cell (a.rows * a.columns)

/-- A cell to be painted at a column and a row. -/
structure Stroke where
  /-- The column. -/
  x : Nat
  /-- The row. -/
  y : Nat
  /-- The cell. -/
  cell : Cell

namespace Raster

variable {a : Area}

/-- An area of equal cells. -/
def filled (a : Area) (c : Cell) : Raster a := ⟨Vector.replicate _ c⟩

/-- The raster with given cells, by column and row. -/
def ofFn (a : Area) (f : Nat → Nat → Cell) : Raster a :=
  ⟨Vector.ofFn fun i => f (i.val % a.columns) (i.val / a.columns)⟩

/-- The cell in a column and a row. -/
def cell (r : Raster a) (x y : Nat) : Cell :=
  if x < a.columns then r.cells[y * a.columns + x]?.getD .blank else .blank

/-- The raster after a stroke.  A stroke behind the last cell is lost. -/
def paint (r : Raster a) (s : Stroke) : Raster a :=
  ⟨r.cells.setIfInBounds (s.y * a.columns + s.x) s.cell⟩

/-- The raster after some strokes. -/
def paintAll : Raster a → List Stroke → Raster a
  | r, [] => r
  | r, s :: strokes => (r.paint s).paintAll strokes

/-- The strokes that turn one raster into another. -/
def diff (old new : Raster a) : List Stroke :=
  (List.finRange (a.rows * a.columns)).filterMap fun i =>
    if old.cells[i] = new.cells[i] then none
    else some ⟨i.val % a.columns, i.val / a.columns, new.cells[i]⟩

end Raster

/-! ## Coordinates -/

/-- The coordinates of a point. -/
structure Point where
  /-- To the right. -/
  x : Binary64
  /-- Upwards. -/
  y : Binary64

/-- The coordinates that a canvas shows. -/
structure Bounds where
  /-- The leftmost coordinate. -/
  left : Binary64
  /-- The rightmost coordinate. -/
  right : Binary64
  /-- The lowest coordinate. -/
  bottom : Binary64
  /-- The highest coordinate. -/
  top : Binary64

namespace Bounds

/-- Whether a point is beyond the bounds. -/
def excludes (b : Bounds) (p : Point) : Bool :=
  p.x.lt b.left || b.right.lt p.x || p.y.lt b.bottom || b.top.lt p.y

/-- From the left to the right. -/
def width (b : Bounds) : Binary64 := (b.right.sub b.left).abs

/-- From the bottom to the top. -/
def height (b : Bounds) : Binary64 := (b.top.sub b.bottom).abs

end Bounds

/-- What takes coordinates to cells. -/
structure Scale where
  /-- The coordinates that are shown. -/
  bounds : Bounds
  /-- From the left to the right. -/
  width : Binary64
  /-- From the bottom to the top. -/
  height : Binary64
  /-- The last column. -/
  lastColumn : Binary64
  /-- The last row. -/
  lastRow : Binary64

namespace Scale

/-- The scale that takes the corners of the bounds to the corners of an area. -/
def between (b : Bounds) (a : Area) : Scale where
  bounds := b
  width := b.width
  height := b.height
  lastColumn := (Binary64.ofNat a.columns).sub (.ofNat 1)
  lastRow := (Binary64.ofNat a.rows).sub (.ofNat 1)

/-- The cell of a distance, if the last cell has the distance of the extent. -/
def cellOf (distance last extent : Binary64) : Nat :=
  ((distance.mul last).div extent).toUInt64.toNat

/-- The column and the row where a point is painted.  Without an extent no point is. -/
def place? (s : Scale) (p : Point) : Option (Nat × Nat) :=
  if s.bounds.excludes p then none
  else if s.width.sameNumber (.zero false) || s.height.sameNumber (.zero false) then none
  else some (cellOf (p.x.sub s.bounds.left) s.lastColumn s.width,
    cellOf (s.bounds.top.sub p.y) s.lastRow s.height)

end Scale

/-! ## Pictures -/

namespace Canvas

/-- A whole number of pixels downwards. -/
def down (n : Nat) : Binary64 := (Binary64.ofInt (-1)).mul (.ofNat n)

/-- The bounds of a picture: from the first pixel of a row to the last, and from the last row up
to the first. -/
def bounds (width height : Nat) : Bounds where
  left := .zero false
  right := .ofNat (width - 1)
  bottom := down (height - 1)
  top := .zero false

/-- The points of the pixels that are lit, or of those that are not. -/
def points (width : Nat) (pixels : Bytes) (lit : Bool) : List Point :=
  (pixels.toList.zipIdx.filter fun (pixel, _) => (pixel != 0) == lit).map fun (_, i) =>
    ⟨.ofNat (i % width), down (i / width)⟩

/-- The strokes of some points in one colour. -/
def strokes (s : Scale) (points : List Point) (colour : Cell) : List Stroke :=
  points.filterMap fun p => (s.place? p).map fun (x, y) => ⟨x, y, colour⟩

/-- The canvas of a picture: the dark pixels, and over them the lit ones. -/
def picture (width height : Nat) (a : Area) (pixels : Bytes) : Raster a :=
  let scale := Scale.between (bounds width height) a
  let dark := strokes scale (points width pixels false) .dark
  let lit := strokes scale (points width pixels true) .lit
  ((Raster.filled a .background).paintAll dark).paintAll lit

end Canvas

end VipHost
