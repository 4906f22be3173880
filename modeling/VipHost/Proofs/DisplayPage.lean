import Mathlib.Algebra.Group.Nat.Defs
import VipHost.Machine.Basic

/-!
# The picture and the display page

A picture has a pixel for each bit of the display page, so one can be had from the other.
`Frame.ofPage` says what the picture of a page is, pixel by pixel.  Here are the two ways between
them that work byte by byte.

*Repainting* goes over an old picture: byte after byte of the page, and bit after bit of a byte,
one pixel is set, and a pixel outside the picture would end it.  After `n` steps the first `n`
pixels are new and the others old (`Frame.painted`).  All pixels are inside, and none of the old
ones is left at the end (`Frame.repaint?_painted`).

*Packing* gathers the pixels of a byte from the left.  After `n` of them it has the upper `n` bits
of the byte (`Frame.gather_ofPage`).  So a picture has the whole page in it, and two machines with
the same picture after an advance have the same page.
-/

namespace VipHost

namespace Frame

/-! ## Repainting -/

/-- The shade of a bit of a byte, counted from the most significant one. -/
def shade (b : UInt8) (bit : Nat) : UInt8 :=
  if (b >>> UInt8.ofNat (7 - bit)) &&& 1 = 1 then lit else dark

/-- The picture with one pixel set, if it is inside. -/
def setPixel? (f : Frame) (i : Nat) (pixel : UInt8) : Option Frame :=
  if h : i < 2048 then some (f.set i pixel) else none

/-- The picture with the eight pixels of a byte set. -/
def paintByte? (f : Frame) (k : Nat) (b : UInt8) : Option Frame :=
  (List.range 8).foldlM (fun f bit => f.setPixel? (k * 8 + bit) (shade b bit)) f

/-- The picture with the pixels of some bytes set, of which the first has number `k`. -/
def repaint? (f : Frame) (k : Nat) : List UInt8 → Option Frame
  | [] => some f
  | b :: page => (f.paintByte? k b).bind fun f => f.repaint? (k + 1) page

/-- A picture whose first `n` pixels are painted over. -/
def painted (old : Frame) (pixel : Nat → UInt8) (n : Nat) : Frame :=
  Vector.ofFn fun i => if i.val < n then pixel i.val else old[i]

theorem shade_eq (b : UInt8) {bit : Nat} (inByte : bit < 8) :
    shade b bit = if b.toNat.testBit (7 - bit) then lit else dark := by
  have place : (UInt8.ofNat (7 - bit)).toNat % 8 = 7 - bit := by
    rw [UInt8.toNat_ofNat']
    omega
  have read : ((b >>> UInt8.ofNat (7 - bit)) &&& 1).toNat = b.toNat / 2 ^ (7 - bit) % 2 := by
    rw [UInt8.toNat_and, UInt8.toNat_shiftRight, place, Nat.shiftRight_eq_div_pow]
    exact Nat.and_one_is_mod _
  have bitSet : (b >>> UInt8.ofNat (7 - bit)) &&& 1 = 1 ↔ b.toNat.testBit (7 - bit) = true := by
    rw [← UInt8.toNat_inj, read, Nat.testBit_eq_decide_div_mod_eq, decide_eq_true_eq]
    rfl
  simp only [shade, bitSet]

theorem painted_zero (old : Frame) (pixel : Nat → UInt8) : old.painted pixel 0 = old := by
  apply Vector.ext
  intro i _
  simp [painted]

/-- One more pixel is painted over. -/
theorem setPixel?_painted (old : Frame) (pixel : Nat → UInt8) {n : Nat} (inside : n < 2048) :
    (old.painted pixel n).setPixel? n (pixel n) = some (old.painted pixel (n + 1)) := by
  rw [setPixel?, dif_pos inside, Option.some.injEq]
  apply Vector.ext
  intro i small
  rw [Vector.getElem_set]
  by_cases here : n = i
  · subst here
    simp [painted]
  · have same : i < n + 1 ↔ i < n := by omega
    simp only [painted, Vector.getElem_ofFn, here, if_false, same]

theorem paintByte?_painted (old : Frame) {pixel : Nat → UInt8} {k : Nat} (inPage : k < 256)
    {b : UInt8} (pixels : ∀ bit < 8, pixel (k * 8 + bit) = shade b bit) :
    (old.painted pixel (k * 8)).paintByte? k b = some (old.painted pixel ((k + 1) * 8)) := by
  -- the loop over the bits, after any number of them
  have loop : ∀ n ≤ 8, (List.range n).foldlM
      (fun f bit => setPixel? f (k * 8 + bit) (shade b bit)) (old.painted pixel (k * 8)) =
        some (old.painted pixel (k * 8 + n)) := by
    intro n
    induction n with
    | zero => exact fun _ => rfl
    | succ n ih =>
      intro inByte
      rw [List.range_succ, List.foldlM_append, ih (by omega)]
      show (setPixel? _ (k * 8 + n) (shade b n)).bind some = _
      rw [← pixels n inByte, setPixel?_painted old pixel (by omega)]
      rfl
  rw [paintByte?, loop 8 (Nat.le_refl 8), Nat.succ_mul]

/-- The pixels of a whole page are painted over, and no other is. -/
theorem repaint?_painted (old : Frame) {pixel : Nat → UInt8} (bytes : List UInt8) {k : Nat}
    (inPage : k + bytes.length ≤ 256)
    (pixels : ∀ (j : Nat) (h : j < bytes.length), ∀ bit < 8,
      pixel ((k + j) * 8 + bit) = shade bytes[j] bit) :
    (old.painted pixel (k * 8)).repaint? k bytes =
      some (old.painted pixel ((k + bytes.length) * 8)) := by
  induction bytes generalizing k with
  | nil => rfl
  | cons b bytes ih =>
    rw [List.length_cons] at inPage
    have first := paintByte?_painted old (by omega : k < 256) (pixels 0 (Nat.zero_lt_succ _))
    have rest : ∀ (j : Nat) (h : j < bytes.length), ∀ bit < 8,
        pixel ((k + 1 + j) * 8 + bit) = shade bytes[j] bit := by
      intro j within bit inByte
      rw [Nat.add_right_comm k 1 j]
      exact pixels (j + 1) (Nat.succ_lt_succ within) bit inByte
    rw [List.getElem_cons_zero] at first
    rw [repaint?, first, Option.bind_some, ih (by omega) rest, List.length_cons,
      Nat.add_right_comm k 1, Nat.add_assoc k]

/-- Whatever the old picture is, repainting it gives the picture of the page. -/
theorem repaint?_eq_ofPage (old : Frame) (page : Vector UInt8 256) :
    old.repaint? 0 page.toList = some (ofPage page) := by
  let pixel (i : Nat) : UInt8 := shade (page[i / 8]?.getD 0) (i % 8)
  have pixels : ∀ (j : Nat) (h : j < page.toList.length), ∀ bit < 8,
      pixel ((0 + j) * 8 + bit) = shade page.toList[j] bit := by
    intro j within bit inByte
    have byte : ((0 + j) * 8 + bit) / 8 = j := by omega
    have place : ((0 + j) * 8 + bit) % 8 = bit := by omega
    have inPage : j < 256 := by simpa using within
    simp only [pixel, byte, place, Vector.getElem?_eq_getElem inPage, Option.getD_some,
      Vector.getElem_toList]
  have done := repaint?_painted old page.toList (k := 0) (by simp) pixels
  rw [Nat.zero_mul, painted_zero, Vector.length_toList] at done
  rw [done, Option.some.injEq]
  apply Vector.ext
  intro i small
  have inPage : i / 8 < 256 := by omega
  simp only [painted, ofPage, Vector.getElem_ofFn, Nat.zero_add, small, if_true, pixel,
    shade_eq _ (Nat.mod_lt i (by decide : 0 < 8)), Vector.getElem?_eq_getElem inPage,
    Option.getD_some]
  rfl

/-! ## Packing -/

/-- The first `n` pixels of byte `k` as a number, the leftmost counting most. -/
def gather (f : Frame) (k n : Nat) : Nat :=
  (List.range n).foldl (fun sum bit => 2 * sum + if f[k * 8 + bit]? = some lit then 1 else 0) 0

/-- The page that a picture shows, eight pixels to a byte. -/
def pack (f : Frame) : Vector UInt8 256 := Vector.ofFn fun k => UInt8.ofNat (f.gather k.val 8)

/-- The pixels of a byte are its bits from the most significant one on. -/
theorem getElem?_ofPage (page : Vector UInt8 256) {k bit : Nat} (inPage : k < 256)
    (inByte : bit < 8) :
    (ofPage page)[k * 8 + bit]? = some (if page[k].toNat.testBit (7 - bit) then lit else dark) := by
  have inside : k * 8 + bit < 2048 := by omega
  have byte : (k * 8 + bit) / 8 = k := by omega
  have place : (k * 8 + bit) % 8 = bit := by omega
  rw [Vector.getElem?_eq_getElem inside]
  simp only [ofPage, Vector.getElem_ofFn, byte, place]
  rfl

/-- Gathered pixels are the upper bits of the byte. -/
theorem gather_ofPage (page : Vector UInt8 256) {k : Nat} (inPage : k < 256) {n : Nat}
    (inByte : n ≤ 8) : (ofPage page).gather k n = page[k].toNat / 2 ^ (8 - n) := by
  induction n with
  | zero =>
    have small := page[k].toNat_lt
    exact (Nat.div_eq_of_lt (by omega)).symm
  | succ n ih =>
    have last : ((ofPage page)[k * 8 + n]? = some lit) ↔
        page[k].toNat / 2 ^ (7 - n) % 2 = 1 := by
      rw [getElem?_ofPage page inPage inByte, Nat.testBit_eq_decide_div_mod_eq]
      by_cases bitSet : page[k].toNat / 2 ^ (7 - n) % 2 = 1
      · simp [bitSet]
      · simp [bitSet, lit, dark]
    have halves : page[k].toNat / 2 ^ (8 - n) = page[k].toNat / 2 ^ (7 - n) / 2 := by
      rw [Nat.div_div_eq_div_mul, show 8 - n = 7 - n + 1 by omega, Nat.pow_succ]
    rw [gather, List.range_succ, List.foldl_append]
    show 2 * (ofPage page).gather k n + (if (ofPage page)[k * 8 + n]? = some lit then 1 else 0) = _
    rw [ih (by omega), halves, show 8 - (n + 1) = 7 - n by omega]
    simp only [last]
    split
    next one => omega
    next zero => omega

/-- Packing the picture of a page gives the page. -/
theorem pack_ofPage (page : Vector UInt8 256) : (ofPage page).pack = page := by
  apply Vector.ext
  intro k inPage
  simp only [pack, Vector.getElem_ofFn, gather_ofPage page inPage (Nat.le_refl 8),
    Nat.sub_self, Nat.pow_zero, Nat.div_one]
  exact UInt8.ofNat_toNat

/-- Different pages have different pictures. -/
theorem ofPage_inj {page page' : Vector UInt8 256} : ofPage page = ofPage page' ↔ page = page' := by
  constructor
  · intro same
    rw [← pack_ofPage page, same, pack_ofPage]
  · intro same
    rw [same]

end Frame

/-! ## The display page -/

namespace Memory

theorem getElem_displayPage (m : Memory) {k : Nat} (inPage : k < 256) :
    m.displayPage[k] = m.get (0xf00 + k) := by
  simp [displayPage, displayStart]

/-- The display page is inside the memory. -/
theorem read?_displayPage (m : Memory) : m.read? 0xf00 256 = some m.displayPage.toList := by
  have inside : Inside 0xf00 256 := by decide
  rw [read?, if_pos inside, Option.some.injEq]
  apply List.ext_getElem
  · simp
  · intro k small _
    have inPage : k < 256 := by simpa using small
    rw [List.getElem_map, List.getElem_range, Vector.getElem_toList, getElem_displayPage m inPage]

theorem displayPage_eq_iff {m m' : Memory} :
    m.displayPage = m'.displayPage ↔ ∀ k : Fin 256, m.get (0xf00 + k) = m'.get (0xf00 + k) := by
  constructor
  · intro same k
    rw [← getElem_displayPage m k.isLt, ← getElem_displayPage m' k.isLt, same]
  · intro same
    apply Vector.ext
    intro k inPage
    rw [getElem_displayPage m inPage, getElem_displayPage m' inPage]
    exact same ⟨k, inPage⟩

end Memory

namespace Machine

/-- After an advance the picture is the display page unpacked: each pixel is lit exactly if its bit
is set, row by row of eight bytes, the leftmost pixel in the most significant bit.  Repainting any
old picture with the bytes of the page gives this picture; so no pixel of the loops is outside, and
nothing old is left.  Packed again it is the page, so two machines have the same picture after an
advance exactly if they have the same page.  The memory is as before. -/
theorem picture_is_display_page_unpacked (m : Machine) (elapsed : UInt64) :
    let m' := m.advance elapsed
    m'.memory = m.memory ∧
    m'.frame.toList.length = 64 * 32 ∧
    (∀ (x : Fin 64) (y : Fin 32),
      m'.frame[y.val * 64 + x.val]? =
        some (if (m.memory.get (0xf00 + 8 * y + x / 8)).toNat.testBit (7 - x % 8) then 0xff
          else 0x00)) ∧
    (∀ old : Frame, (m.memory.read? 0xf00 256).bind (old.repaint? 0) = some m'.frame) ∧
    (∀ k : Fin 256, m'.frame.pack[k] = m.memory.get (0xf00 + k)) ∧
    ∀ (n : Machine) (elapsed' : UInt64),
      m'.frame = (n.advance elapsed').frame ↔
        ∀ k : Fin 256, m.memory.get (0xf00 + k) = n.memory.get (0xf00 + k) := by
  intro m'
  have picture : m'.frame = .ofPage m.memory.displayPage := rfl
  refine ⟨rfl, Vector.length_toList, fun x y => ?_, fun old => ?_, fun k => ?_,
    fun n elapsed' => ?_⟩
  · have inPage : 8 * y.val + x.val / 8 < 256 := by omega
    have pixel : y.val * 64 + x.val = (8 * y.val + x.val / 8) * 8 + x.val % 8 := by omega
    rw [picture, pixel, Frame.getElem?_ofPage _ inPage (Nat.mod_lt _ (by decide)),
      Memory.getElem_displayPage m.memory inPage, ← Nat.add_assoc]
    rfl
  · rw [Memory.read?_displayPage, Option.bind_some, picture]
    exact old.repaint?_eq_ofPage m.memory.displayPage
  · rw [picture, Frame.pack_ofPage]
    exact Memory.getElem_displayPage m.memory k.isLt
  · rw [picture, show (n.advance elapsed').frame = .ofPage n.memory.displayPage from rfl,
      Frame.ofPage_inj, Memory.displayPage_eq_iff]

end Machine

end VipHost
