import AstroPowerBox.Foundation.Decimal
import AstroPowerBox.Foundation.Layer
import Mathlib.Algebra.Order.Ring.Int

/-!
# The drawing library

What the display uses of `Adafruit_SSD1306`, which is a parameter: a `Gfx` is such a library, with
the effect that its drawing functions are documented to have on the pixels of its buffer, for the
arguments that the display gives them. Each is a layer, clipped to the screen of 128 by 32 pixels.
The glyphs are a part of the library. A character takes six columns and eight rows of pixels, times
the text size, since the display sets no font and no line is wrapped (`setTextWrap(false)` in
`statusDisplay::setup`). Without a background colour only the pixels of the glyph are drawn.
-/

namespace AstroPowerBox.Display
open Foundation Decimal

/-- The column and the row of a pixel. -/
abbrev Pixel := ℤ × ℤ

/-- Source `width()`. -/
def screenWidth : ℤ := 128

/-- Source `height()`. -/
def screenHeight : ℤ := 32

def onScreen (p : Pixel) : Bool :=
  0 ≤ p.1 && p.1 < screenWidth && 0 ≤ p.2 && p.2 < screenHeight

/-- The pixels of a rectangle. -/
def inRect (x y w h : ℤ) (p : Pixel) : Bool :=
  x ≤ p.1 && p.1 < x + w && y ≤ p.2 && p.2 < y + h

/-- How a text is printed (source `setTextSize`, `setTextColor`). -/
structure TextStyle where
  size : ℕ := 1
  color : Bool := true
  background : Option Bool := some false
deriving DecidableEq

/-- The text has a size, and stands out against its background. -/
def TextStyle.Legible (style : TextStyle) : Prop :=
  0 < style.size ∧ style.background ≠ some style.color

/-- The style that `statusDisplay::setup` sets. -/
lemma legible_default : ({} : TextStyle).Legible := ⟨by decide, by decide⟩

/-! ## Layers of a drawing -/

def filled (x y w h : ℤ) (color : Bool) : Layer Pixel :=
  Layer.clip (fun p => onScreen p && inRect x y w h p) fun _ => some color

def framed (x y w h : ℤ) (color : Bool) : Layer Pixel :=
  let inside := inRect (x + 1) (y + 1) (w - 2) (h - 2)
  Layer.clip (fun p => onScreen p && (inRect x y w h p && !inside p)) fun _ => some color

/-- The pixel belongs to a glyph of a text that is printed at `x`, `y`. -/
def inGlyphs (glyph : Char → ℤ → ℤ → Bool) (x y : ℤ) (size : ℕ) (text : List Char) (p : Pixel) :
    Bool :=
  text[((p.1 - x) / (6 * size)).toNat]?.any fun c =>
    glyph c ((p.1 - x) / size % 6) ((p.2 - y) / size)

def inked (glyph : Char → ℤ → ℤ → Bool) (x y : ℤ) (style : TextStyle) (text : List Char) :
    Layer Pixel :=
  Layer.clip (fun p => onScreen p && inRect x y (6 * style.size * text.length) (8 * style.size) p)
    fun p => if inGlyphs glyph x y style.size text p then some style.color else style.background

/-- The bit of a bitmap of at most eight columns: a byte for each row, the left most bit first. -/
def bitOf (bytes : List UInt8) (col row : ℤ) : Bool :=
  (bytes.getD row.toNat 0).toNat.testBit (7 - col).toNat

/-- Only the bits that are set are drawn. -/
def stamped (x y : ℤ) (bytes : List UInt8) (w h : ℤ) (color : Bool) : Layer Pixel :=
  Layer.clip (fun p => onScreen p && (inRect x y w h p && bitOf bytes (p.1 - x) (p.2 - y)))
    fun _ => some color

/-- A drawing library. -/
structure Gfx where
  Buffer : Type
  /-- The pixels that are on (source `getPixel`). -/
  picture : Buffer → Picture Pixel
  glyph : Char → ℤ → ℤ → Bool
  clearDisplay : Buffer → Buffer
  drawPixel : Buffer → Pixel → Bool → Buffer
  fillRect : Buffer → ℤ → ℤ → ℤ → ℤ → Bool → Buffer
  drawRect : Buffer → ℤ → ℤ → ℤ → ℤ → Bool → Buffer
  drawFastVLine : Buffer → ℤ → ℤ → ℤ → Bool → Buffer
  drawBitmap : Buffer → ℤ → ℤ → List UInt8 → ℤ → ℤ → Bool → Buffer
  /-- A text at a cursor, and the column of the cursor behind it. -/
  print : Buffer → ℤ → ℤ → TextStyle → List Char → Buffer × ℤ
  /-- The width that `getTextBounds` finds for a text of size one. -/
  textWidth : List Char → ℤ
  picture_clearDisplay : ∀ b, picture (clearDisplay b) = fun _ => false
  picture_drawPixel : ∀ b p color,
    picture (drawPixel b p color) = (filled p.1 p.2 1 1 color).onto (picture b)
  picture_fillRect : ∀ b x y w h color,
    picture (fillRect b x y w h color) = (filled x y w h color).onto (picture b)
  picture_drawRect : ∀ b x y w h color, 0 < w → 0 < h →
    picture (drawRect b x y w h color) = (framed x y w h color).onto (picture b)
  picture_drawFastVLine : ∀ b x y h color,
    picture (drawFastVLine b x y h color) = (filled x y 1 h color).onto (picture b)
  picture_drawBitmap : ∀ b x y bytes w h color, w ≤ 8 → h ≤ bytes.length →
    picture (drawBitmap b x y bytes w h color) = (stamped x y bytes w h color).onto (picture b)
  picture_print : ∀ b x y style text, style.Legible → Printable text →
    picture (print b x y style text).1 = (inked glyph x y style text).onto (picture b)
  cursor_print : ∀ b x y style text, style.Legible → Printable text →
    (print b x y style text).2 = x + 6 * style.size * text.length
  textWidth_eq : ∀ text, Printable text → textWidth text = 6 * text.length

/-- A library whose buffer is the picture itself. -/
def Gfx.plain (glyph : Char → ℤ → ℤ → Bool) : Gfx where
  Buffer := Picture Pixel
  picture b := b
  glyph := glyph
  clearDisplay _ _ := false
  drawPixel b p color := (filled p.1 p.2 1 1 color).onto b
  fillRect b x y w h color := (filled x y w h color).onto b
  drawRect b x y w h color := (framed x y w h color).onto b
  drawFastVLine b x y h color := (filled x y 1 h color).onto b
  drawBitmap b x y bytes w h color := (stamped x y bytes w h color).onto b
  print b x y style text :=
    ((inked glyph x y style text).onto b, x + 6 * style.size * text.length)
  textWidth text := 6 * text.length
  picture_clearDisplay _ := rfl
  picture_drawPixel _ _ _ := rfl
  picture_fillRect _ _ _ _ _ _ := rfl
  picture_drawRect _ _ _ _ _ _ _ _ := rfl
  picture_drawFastVLine _ _ _ _ _ := rfl
  picture_drawBitmap _ _ _ _ _ _ _ _ _ := rfl
  picture_print _ _ _ _ _ _ _ := rfl
  cursor_print _ _ _ _ _ _ _ := rfl
  textWidth_eq _ _ := rfl

/-- A library for concrete runs. Its glyphs are full blocks, not those of `Adafruit_SSD1306`. -/
def blockGfx : Gfx := .plain fun _ col row => col < 5 && row < 7

/-! ## Where something is painted -/

section
variable {x y w h : ℤ} {p : Pixel} {color : Bool} {glyph : Char → ℤ → ℤ → Bool} {style : TextStyle}
  {text : List Char}

/-- The range of the columns and of the rows. -/
lemma onScreen_iff :
    onScreen p = true ↔ (0 ≤ p.1 ∧ p.1 < screenWidth) ∧ (0 ≤ p.2 ∧ p.2 < screenHeight) := by
  simp [onScreen, and_assoc]

@[simp] lemma inRect_iff :
    inRect x y w h p = true ↔ (x ≤ p.1 ∧ p.1 < x + w) ∧ (y ≤ p.2 ∧ p.2 < y + h) := by
  simp [inRect, and_assoc]

/-- A filled rectangle paints all of its pixels. -/
@[simp] lemma isSome_filled :
    (filled x y w h color p).isSome ↔ onScreen p = true ∧ inRect x y w h p = true := by
  simp [filled, Layer.clip]

/-- A frame paints its edge only. -/
@[simp] lemma isSome_framed : (framed x y w h color p).isSome ↔ onScreen p = true ∧
    inRect x y w h p = true ∧ inRect (x + 1) (y + 1) (w - 2) (h - 2) p = false := by
  simp [framed, Layer.clip]

/-- A bitmap paints the pixels of the bits that are set. -/
@[simp] lemma isSome_stamped {bytes : List UInt8} : (stamped x y bytes w h color p).isSome ↔
    onScreen p = true ∧ inRect x y w h p = true ∧ bitOf bytes (p.1 - x) (p.2 - y) = true := by
  simp [stamped, Layer.clip]

/-- A text stays within the cells of its characters. -/
lemma inRect_of_isSome_inked (h : (inked glyph x y style text p).isSome) : onScreen p = true ∧
    inRect x y (6 * style.size * text.length) (8 * style.size) p = true := by
  simp only [inked, Layer.clip] at h
  split_ifs at h with hin
  all_goals first | exact Bool.and_eq_true_iff.mp hin | cases h

/-- A text with a background paints the whole cells of its characters. -/
lemma isSome_inked (hsome : style.background.isSome) : (inked glyph x y style text p).isSome ↔
    onScreen p = true ∧ inRect x y (6 * style.size * text.length) (8 * style.size) p = true := by
  obtain ⟨bg, hbg⟩ := Option.isSome_iff_exists.mp hsome
  simp only [inked, Layer.clip, hbg]
  split_ifs <;> simp_all

end

/-! ## Inverting pixels -/

/-- The pixels that a loop over some rows and the columns up to `xEnd` comes to; where it begins may
depend on the row. -/
def loopPixels (xStart : ℕ → ℤ) (xEnd y : ℤ) (rows : ℕ) : List Pixel :=
  (List.range rows).flatMap fun (row : ℕ) =>
    (List.range (xEnd - xStart row).toNat).map fun (col : ℕ) => (xStart row + col, y + row)

section
variable {xStart : ℕ → ℤ} {xEnd y : ℤ} {rows : ℕ} {p : Pixel}

/-- The pixels of the loop, row by row. -/
lemma mem_loopPixels : p ∈ loopPixels xStart xEnd y rows ↔
    (y ≤ p.2 ∧ p.2 < y + rows) ∧ (xStart (p.2 - y).toNat ≤ p.1 ∧ p.1 < xEnd) := by
  obtain ⟨px, py⟩ := p
  simp only [loopPixels, List.mem_flatMap, List.mem_map, List.mem_range, Prod.mk.injEq]
  constructor
  · rintro ⟨row, hrow, col, hcol, rfl, rfl⟩
    have hsame : (y + row - y).toNat = row := by omega
    rw [hsame]
    omega
  · rintro ⟨hy, hx⟩
    refine ⟨(py - y).toNat, by omega, (px - xStart (py - y).toNat).toNat, ?_⟩
    omega

/-- The loop comes to no pixel twice. -/
lemma nodup_loopPixels : (loopPixels xStart xEnd y rows).Nodup := by
  refine List.nodup_flatMap.mpr ⟨fun row _ => ?_, ?_⟩
  · refine List.nodup_range.map fun c c' h => ?_
    have hcol := congrArg Prod.fst h
    dsimp only at hcol
    omega
  · refine List.pairwise_lt_range.imp fun {row row'} hlt => ?_
    intro q hq hq'
    simp only [List.mem_map] at hq hq'
    obtain ⟨c, -, rfl⟩ := hq
    obtain ⟨c', -, h⟩ := hq'
    have hrow := congrArg Prod.snd h
    dsimp only at hrow
    omega

end

namespace Gfx
variable (g : Gfx)

/-- Source `drawPixel(x, y, !getPixel(x, y))`. -/
def invertPixel (b : g.Buffer) (p : Pixel) : g.Buffer := g.drawPixel b p (!g.picture b p)

variable {g} {b : g.Buffer} {p : Pixel} {ps : List Pixel}

/-- Inverting a pixel changes that one only, and none outside the screen. -/
lemma picture_invertPixel : g.picture (g.invertPixel b p)
    = if onScreen p then invertAt (g.picture b) p else g.picture b := by
  rw [invertPixel, g.picture_drawPixel]
  funext q
  have hone : inRect p.1 p.2 1 1 q = true ↔ q = p := by
    rw [inRect_iff, Prod.ext_iff]
    omega
  by_cases hq : q = p
  · subst hq
    cases honscreen : onScreen q <;> simp [Layer.onto, filled, Layer.clip, invertAt, honscreen]
  · have hnot : inRect p.1 p.2 1 1 q = false := Bool.eq_false_iff.mpr (mt hone.mp hq)
    split_ifs <;> simp [Layer.onto, filled, Layer.clip, invertAt, hnot, hq]

/-- A loop over pixels, none of them twice, inverts those that are on the screen. -/
lemma picture_invertPixels (nodup : ps.Nodup) :
    g.picture (run g.invertPixel b ps)
      = invert (fun p => onScreen p && decide (p ∈ ps)) (g.picture b) := by
  have hrun : g.picture (run g.invertPixel b ps)
      = run invertAt (g.picture b) (ps.filter fun p => onScreen p) := by
    clear nodup
    induction ps using List.reverseRecOn with
    | nil => rfl
    | append_singleton ps p ih =>
      rw [run_concat, picture_invertPixel, ih, List.filter_append]
      cases honscreen : onScreen p <;> simp [honscreen]
  rw [hrun, invert_of_loop (nodup.filter _) fun p => ?_]
  simp [and_comm]

end Gfx
end AstroPowerBox.Display
