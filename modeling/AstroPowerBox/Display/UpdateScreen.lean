import AstroPowerBox.Display.Gfx
import AstroPowerBox.Foundation.Binary
import AstroPowerBox.Foundation.Decimal

/-!
# The screen of an update

Source `statusDisplay::centerText` and `statusDisplay::printBarAt` of `src/oled/oled.cpp`, and the
callbacks `onStart` and `onProgress` of `src/ota/ota.cpp`. The bar is drawn over the last one:
nothing is cleared between two calls. Since neither the bar nor its text get shorter in the course
of an update, each drawing covers the one before it (`covers_barLayer`), and the panel never shows a
mixture (`progress_picture`).
-/

namespace AstroPowerBox.Display
open Foundation Decimal

section
variable {R : Rounding} (g : Gfx)

/-- Source `centerText`: the buffer, the column where the text begins, and the cursor behind it. -/
def centerText (b : g.Buffer) (y : ℤ) (text : List Char) : g.Buffer × ℤ × ℤ :=
  let xPos := (screenWidth - g.textWidth text).tdiv 2
  let xPos := if xPos < 0 then 0 else xPos
  let r := g.print b xPos y {} text
  (r.1, xPos, r.2)

/-- Source `barLength`. -/
def barLength (percent : Rounded R) : ℤ := (Rounded.ofInt (screenWidth - 4) * (percent / 100)).trunc

/-- Source `printBarAt`. -/
def printBarAt (b : g.Buffer) (y : ℤ) (percent : Rounded R) (text : Option (List Char))
    (height : ℤ) : g.Buffer :=
  let frameWidth := 2
  let barXEnd := frameWidth + barLength percent
  let textYPos := y + height - 2 * frameWidth - 8
  let b := g.drawRect b 0 y screenWidth height true
  let b := g.fillRect b 2 (y + frameWidth) (barLength percent) (height - 2 * frameWidth) true
  match text with
  | none => b
  | some text =>
    let (b, textXStart, textXEnd) := centerText g b textYPos text
    if textXStart < barXEnd then
      let endXPos := if textXEnd < barXEnd then textXEnd else barXEnd
      run g.invertPixel b (loopPixels (fun _ => textXStart) endXPos textYPos 8)
    else b

/-! ## The bar as a layer -/

/-- The column where a centred text of `n` characters begins. -/
def textStart (n : ℕ) : ℤ := max 0 ((screenWidth - 6 * n).tdiv 2)

/-- The frame and the filled part. -/
def emptyBarLayer (y : ℤ) (percent : Rounded R) (height : ℤ) : Layer Pixel :=
  (filled 2 (y + 2) (barLength percent) (height - 4) true).stack
    (framed 0 y screenWidth height true)

/-- The text, white on black, and black on white as far as the bar reaches. -/
def barTextLayer (y : ℤ) (percent : Rounded R) (text : List Char) (height : ℤ) : Layer Pixel :=
  let x := textStart text.length
  let endXPos := min (x + 6 * text.length) (2 + barLength percent)
  (inked g.glyph x (y + height - 12) {} text).inverted
    fun p => onScreen p && inRect x (y + height - 12) (endXPos - x) 8 p

def barLayer (y : ℤ) (percent : Rounded R) (text : List Char) (height : ℤ) : Layer Pixel :=
  (barTextLayer g y percent text height).stack (emptyBarLayer y percent height)

variable {g} {b : g.Buffer} {y height : ℤ} {percent percent' : Rounded R}
  {text text' : List Char} {p : Pixel}

/-- A printable text is centred by its number of characters. -/
lemma centerText_eq (printable : Printable text) : centerText g b y text =
    ((g.print b (textStart text.length) y {} text).1, textStart text.length,
      textStart text.length + 6 * text.length) := by
  have hstart : (if (screenWidth - g.textWidth text).tdiv 2 < 0 then 0
      else (screenWidth - g.textWidth text).tdiv 2) = textStart text.length := by
    rw [g.textWidth_eq text printable, textStart]
    split_ifs <;> omega
  simp only [centerText, hstart, g.cursor_print _ _ _ _ _ legible_default printable]
  simp

/-- A centred text is one layer. -/
lemma picture_centerText (printable : Printable text) : g.picture (centerText g b y text).1
    = (inked g.glyph (textStart text.length) y {} text).onto (g.picture b) := by
  rw [centerText_eq printable, g.picture_print _ _ _ _ _ legible_default printable]

/-- So are the frame and the filled part. -/
lemma picture_emptyBar (pos : 0 < height) :
    g.picture (g.fillRect (g.drawRect b 0 y screenWidth height true) 2 (y + 2) (barLength percent)
      (height - 4) true) = (emptyBarLayer y percent height).onto (g.picture b) := by
  rw [g.picture_fillRect, g.picture_drawRect _ _ _ _ _ _ (by decide) pos, Layer.onto_onto]
  rfl

/-- The loop of `printBarAt` inverts the text as far as the bar reaches. -/
lemma picture_loop (c : g.Buffer) {x xEnd : ℤ} (hEnd : xEnd ≤ x + 6 * text.length)
    (hc : g.picture c = (inked g.glyph x y {} text).onto (g.picture b)) :
    g.picture (run g.invertPixel c (loopPixels (fun _ => x) xEnd y 8))
      = ((inked g.glyph x y {} text).inverted fun p =>
          onScreen p && inRect x y (xEnd - x) 8 p).onto (g.picture b) := by
  have hset : (fun p => onScreen p && decide (p ∈ loopPixels (fun _ => x) xEnd y 8))
      = fun p => onScreen p && inRect x y (xEnd - x) 8 p := by
    funext p
    have hmem : decide (p ∈ loopPixels (fun _ => x) xEnd y 8) = inRect x y (xEnd - x) 8 p := by
      rw [Bool.eq_iff_iff, decide_eq_true_iff, mem_loopPixels, inRect_iff]
      omega
    rw [hmem]
  rw [Gfx.picture_invertPixels nodup_loopPixels, hset, hc, invert_onto]
  intro p hp
  rw [Bool.and_eq_true, inRect_iff] at hp
  refine (isSome_inked rfl).mpr ⟨hp.1, inRect_iff.mpr ?_⟩
  simp only [Nat.cast_one, mul_one]
  omega

/-- The bar with its text is one layer over what was there. -/
lemma picture_printBarAt (pos : 0 < height) (printable : Printable text) :
    g.picture (printBarAt g b y percent (some text) height)
      = (barLayer g y percent text height).onto (g.picture b) := by
  have hrow : y + height - 4 - 8 = y + height - 12 := by ring
  have hmin : ∀ a c : ℤ, (if a < c then a else c) = min a c := fun a c => by
    rw [min_def]
    split_ifs <;> omega
  rw [barLayer, ← Layer.onto_onto, ← picture_emptyBar pos]
  simp only [printBarAt, centerText_eq printable, show (2 : ℤ) * 2 = 4 from rfl, hrow, hmin]
  split_ifs with hreach
  · exact picture_loop _ (min_le_left _ _) (g.picture_print _ _ _ _ _ legible_default printable)
  · -- the bar does not reach the text: no pixel is inverted
    have hnone : ∀ p, inRect (textStart text.length) (y + height - 12)
        (min (textStart text.length + 6 * text.length) (2 + barLength percent)
          - textStart text.length) 8 p = false := by
      intro p
      rw [Bool.eq_false_iff, ne_eq, inRect_iff]
      omega
    have hsame : barTextLayer g y percent text height
        = inked g.glyph (textStart text.length) (y + height - 12) {} text := by
      simp only [barTextLayer, hnone, Bool.and_false, inverted_false]
    rw [g.picture_print _ _ _ _ _ legible_default printable, hsame]

/-! ## A longer bar with a longer text -/

/-- Half of the width, less three columns for each character. -/
lemma textStart_eq (n : ℕ) : textStart n = max 0 (64 - 3 * n) := by
  rw [textStart, screenWidth, Int.tdiv_eq_ediv]
  split_ifs <;> simp <;> omega

/-- A centred text with more characters begins no later and ends no earlier. -/
lemma textStart_mono {n n' : ℕ} (h : n ≤ n') :
    textStart n' ≤ textStart n ∧ textStart n + 6 * n ≤ textStart n' + 6 * n' := by
  rw [textStart_eq, textStart_eq]
  omega

/-- A longer bar covers a shorter one. -/
lemma covers_emptyBarLayer (h : barLength percent ≤ barLength percent') :
    (emptyBarLayer y percent' height).Covers (emptyBarLayer y percent height) := by
  refine Layer.Covers.stack (fun p hp => ?_) Layer.Covers.refl
  rw [isSome_filled, inRect_iff] at hp ⊢
  exact ⟨hp.1, by omega⟩

/-- A longer text covers a shorter one. -/
lemma covers_barTextLayer (h : text.length ≤ text'.length) :
    (barTextLayer g y percent' text' height).Covers (barTextLayer g y percent text height) := by
  obtain ⟨hstart, hend⟩ := textStart_mono h
  intro p hp
  simp only [barTextLayer, Layer.inverted, Option.isSome_map, isSome_inked, inRect_iff,
    Option.isSome_some] at hp ⊢
  exact ⟨hp.1, by omega⟩

/-- A bar that is no shorter, with a text that is no shorter, covers the other one. -/
lemma covers_barLayer (hbar : barLength percent ≤ barLength percent')
    (htext : text.length ≤ text'.length) :
    (barLayer g y percent' text' height).Covers (barLayer g y percent text height) :=
  (covers_barTextLayer htext).stack (covers_emptyBarLayer hbar)

end

/-! ## The callbacks -/

/-- What the callbacks work on: their count, the buffer of the display, and what the panel shows. -/
structure UpdateScreen (g : Gfx) where
  callCount : UInt32 := 0
  buffer : g.Buffer
  panel : Picture Pixel

/-- Source `progressPercent`. -/
def progressPercent (R : Rounding) (progress total : UInt32) : Rounded R :=
  100 * .ofInt progress.toNat / .ofInt total.toNat

/-- The text of the format `%d/%d (%u%%)`, in a buffer of 40 characters. -/
def progressText (R : Rounding) (progress total : UInt32) : List Char :=
  let percent : UInt8 := .ofInt (progressPercent R progress total).trunc
  (printInt 0 progress.toInt32.toInt ++ '/' :: printInt 0 total.toInt32.toInt ++ [' ', '(']
    ++ padded 0 percent.toNat ++ ['%', ')']).take 39

namespace UpdateScreen
variable {g : Gfx}

/-- Source `ArduinoOTA.onStart`, the part for the display. -/
def onStart (s : UpdateScreen g) (ready4Update : Bool) : UpdateScreen g :=
  if ready4Update then
    let buffer := (centerText g (g.clearDisplay s.buffer) 0 "Updating".toList).1
    { s with buffer, panel := g.picture buffer }
  else s

/-- The call draws. -/
def draws (s : UpdateScreen g) (progress total : UInt32) : Bool :=
  s.callCount % 10 = 0 || progress = total

/-- Source `ArduinoOTA.onProgress`. -/
def onProgress (R : Rounding) (total : UInt32) (s : UpdateScreen g) (progress : UInt32) :
    UpdateScreen g :=
  let s :=
    if s.draws progress total then
      let buffer := printBarAt g s.buffer 16 (progressPercent R progress total)
        (some (progressText R progress total)) 16
      { s with buffer, panel := g.picture buffer }
    else s
  { s with callCount := s.callCount + 1 }

/-- The calls that draw. -/
def drawn (total : UInt32) (s : UpdateScreen g) (progress : UInt32) : List UInt32 :=
  if s.draws progress total then [progress] else []

end UpdateScreen

section
variable {R : Rounding} {g : Gfx} {s : UpdateScreen g} {progress progress' total : UInt32}
  {calls : List UInt32}

/-- What the start of an update leaves on the empty screen. -/
def startLayer (g : Gfx) : Layer Pixel :=
  inked g.glyph (textStart "Updating".toList.length) 0 {} "Updating".toList

/-- What a call draws. -/
def progressLayer (R : Rounding) (g : Gfx) (total progress : UInt32) : Layer Pixel :=
  barLayer g 16 (progressPercent R progress total) (progressText R progress total) 16

/-! ## Progress -/

/-- The text of the bar is printable, however it is cut off. -/
lemma printable_progressText : Printable (progressText R progress total) := by
  refine Printable.take ?_ 39
  simp only [printable_append, printable_cons, printable_printInt, printable_padded,
    printable_nil]
  decide

/-- A larger number has no fewer digits. -/
lemma length_padded_mono {m n : ℕ} (h : m ≤ n) : (padded 0 m).length ≤ (padded 0 n).length := by
  have hlength : ∀ n, (padded 0 n).length = (Nat.toDigits 10 n).length := by simp [padded]
  rw [hlength, hlength]
  have hlt : n < 10 ^ (Nat.toDigits 10 n).length :=
    (Nat.length_toDigits_le_iff (by decide) Nat.length_toDigits_pos).mp le_rfl
  exact (Nat.length_toDigits_le_iff (by decide) Nat.length_toDigits_pos).mpr (h.trans_lt hlt)

/-- `%d` of an unsigned number that is not too large. -/
lemma printInt_toInt32 {n : UInt32} (h : n.toNat < 2 ^ 31) :
    printInt 0 n.toInt32.toInt = padded 0 n.toNat := by
  have hint : n.toInt32.toInt = n.toNat := by
    change n.toBitVec.toInt = _
    rw [BitVec.toInt_eq_toNat_bmod, UInt32.toNat_toBitVec, Int.bmod_def]
    split_ifs <;> omega
  rw [hint, printInt, if_neg (Int.natCast_nonneg _).not_gt, Int.natAbs_natCast]

/-- No percentage is negative. -/
lemma progressPercent_nonneg : 0 ≤ progressPercent R progress total := by
  have hhundred : (0 : Rounded R) ≤ 100 := Rounded.ofRat_nonneg (by norm_num)
  exact Rounded.div_nonneg (Rounded.mul_nonneg hhundred (Rounded.ofInt_nonneg (by omega)))
    (Rounded.ofInt_nonneg (by omega))

/-- More of the same total is no smaller percentage. -/
lemma progressPercent_mono (h : progress ≤ progress') :
    progressPercent R progress total ≤ progressPercent R progress' total := by
  have hhundred : (0 : Rounded R) ≤ 100 := Rounded.ofRat_nonneg (by norm_num)
  have hint : (progress.toNat : ℤ) ≤ progress'.toNat := by exact_mod_cast h
  have hmul := Rounded.mul_le_mul_left (R := R) (Rounded.ofInt_le_ofInt hint) hhundred
  exact Rounded.div_le_div_right hmul (Rounded.ofInt_nonneg (by omega))

/-- Both roundings together stay below the next power of two. -/
lemma progressPercent_le (hpos : 0 < total) (hsmall : total.toNat ≤ 2 ^ 24) (h : progress ≤ total) :
    (progressPercent R progress total).val ≤ 128 := by
  have hle : (progressPercent R progress total).val ≤ (progressPercent R total total).val :=
    progressPercent_mono h
  have htotal : (0 : ℚ) < total.toNat := by exact_mod_cast hpos
  have hexact : R.round (total.toNat : ℤ) = total.toNat := by
    have := R.round_intCast (n := total.toNat) (by rw [abs_of_nonneg] <;> omega)
    exact_mod_cast this
  have hscaled : R.round (total.toNat * 2 ^ (7 : ℤ)) = total.toNat * 2 ^ (7 : ℤ) := by
    have := R.fine total.toNat 7 (by rw [abs_of_nonneg] <;> omega) (by norm_num)
    exact_mod_cast this
  have hmul : R.round (100 * total.toNat) ≤ 128 * total.toNat := by
    have hle : (100 * total.toNat : ℚ) ≤ total.toNat * 2 ^ (7 : ℤ) := by
      norm_num
      linarith
    have hmono := R.mono hle
    rw [hscaled] at hmono
    norm_num at hmono
    linarith
  have hdiv : R.round (R.round (100 * total.toNat) / total.toNat) ≤ 128 := by
    have hbound : R.round (128 : ℤ) = 128 := R.round_intCast (by norm_num)
    have hmono := R.mono ((div_le_iff₀ htotal).mpr hmul)
    norm_num at hbound
    rwa [hbound] at hmono
  refine hle.trans ?_
  have hhundred : (100 : Rounded R).val = 100 := Rounded.natCast_val (n := 100) (by norm_num)
  rw [progressPercent, Rounded.div_val, Rounded.mul_val, Rounded.ofInt_val, hhundred]
  push_cast at hexact ⊢
  rwa [hexact]

/-- The percentage fits into the eight bits of its conversion. -/
lemma toNat_percent (hpos : 0 < total) (hsmall : total.toNat ≤ 2 ^ 24) (h : progress ≤ total) :
    (UInt8.ofInt (progressPercent R progress total).trunc).toNat
      = (progressPercent R progress total).trunc.toNat := by
  have hnonneg : 0 ≤ (progressPercent R progress total).trunc :=
    Rounded.trunc_nonneg progressPercent_nonneg
  have hle : (progressPercent R progress total).trunc.natAbs ≤ 128 := by
    refine Rounded.natAbs_trunc_le ?_
    rw [abs_of_nonneg (Rounded.nonneg_def.mp progressPercent_nonneg)]
    exact_mod_cast progressPercent_le hpos hsmall h
  rw [UInt8.ofInt, Int.emod_eq_of_lt hnonneg (by omega)]
  simp
  omega

/-- A larger percentage has no shorter bar. -/
lemma barLength_mono {percent percent' : Rounded R} (hnonneg : 0 ≤ percent)
    (h : percent ≤ percent') : barLength percent ≤ barLength percent' := by
  have hhundred : (0 : Rounded R) ≤ 100 := Rounded.ofRat_nonneg (by norm_num)
  have hwidth : (0 : Rounded R) ≤ .ofInt (screenWidth - 4) := Rounded.ofInt_nonneg (by decide)
  exact Rounded.trunc_le_trunc (Rounded.mul_nonneg hwidth (Rounded.div_nonneg hnonneg hhundred))
    (Rounded.mul_le_mul_left (Rounded.div_le_div_right h hhundred) hwidth)

/-- The text of a later call has no fewer characters. -/
lemma length_progressText_mono (hpos : 0 < total) (hsmall : total.toNat ≤ 2 ^ 24)
    (h : progress ≤ progress') (h' : progress' ≤ total) :
    (progressText R progress total).length ≤ (progressText R progress' total).length := by
  have hp : progress.toNat ≤ progress'.toNat := h
  have hp' : progress'.toNat ≤ total.toNat := h'
  have hpercent : (progressPercent R progress total).trunc.toNat
      ≤ (progressPercent R progress' total).trunc.toNat :=
    Int.toNat_le_toNat (Rounded.trunc_le_trunc progressPercent_nonneg (progressPercent_mono h))
  have hlen := length_padded_mono hp
  have hlen' := length_padded_mono hpercent
  simp only [progressText, List.length_take, List.length_append, List.length_cons, List.length_nil]
  rw [printInt_toInt32 (by omega), printInt_toInt32 (by omega), printInt_toInt32 (by omega),
    toNat_percent hpos hsmall (UInt32.le_trans h h'), toNat_percent hpos hsmall h']
  omega

/-- A later drawing covers an earlier one. -/
lemma covers_progressLayer (hpos : 0 < total) (hsmall : total.toNat ≤ 2 ^ 24)
    (h : progress ≤ progress') (h' : progress' ≤ total) :
    (progressLayer R g total progress').Covers (progressLayer R g total progress) :=
  covers_barLayer (barLength_mono progressPercent_nonneg (progressPercent_mono h))
    (length_progressText_mono hpos hsmall h h')

/-! ## Runs -/

open UpdateScreen

/-- Every call that draws puts its layer over what is there. -/
lemma picture_run (R : Rounding) (total : UInt32) (calls : List UInt32)
    (hs : s.panel = g.picture s.buffer) :
    let s' := run (onProgress R total) s calls
    g.picture s'.buffer = run (fun c l => l.onto c) (g.picture s.buffer)
        ((outputs (onProgress R total) (drawn total) s calls).map (progressLayer R g total)) ∧
      s'.panel = g.picture s'.buffer := by
  induction calls using List.reverseRecOn with
  | nil => exact ⟨rfl, hs⟩
  | append_singleton calls progress ih =>
    obtain ⟨hbuffer, hpanel⟩ := ih
    rw [run_concat, outputs_concat, List.map_append, run_append, ← hbuffer]
    simp only [onProgress, drawn]
    split_ifs
    · refine ⟨?_, rfl⟩
      rw [picture_printBarAt (by decide) printable_progressText]
      rfl
    · exact ⟨rfl, hpanel⟩

/-- The calls that draw are some of the calls, in their order. -/
lemma drawn_sublist : (outputs (onProgress R total) (drawn total) s calls).Sublist calls := by
  induction calls using List.reverseRecOn with
  | nil => exact List.Sublist.refl _
  | append_singleton calls progress ih =>
    rw [outputs_concat]
    refine ih.append ?_
    rw [drawn]
    split_ifs
    · exact List.Sublist.refl _
    · exact List.nil_sublist _

/-- While an image of at most 16 MiB is written, the panel shows one picture only: what the start of
the update has left, and over it the bar of the last call that drew, as if it had been the first
one. -/
theorem progress_picture (g : Gfx) (s : UpdateScreen g) (total : UInt32) (calls : List UInt32)
    (hpos : 0 < total) (hsmall : total.toNat ≤ 2 ^ 24) (hmono : calls.Pairwise (· ≤ ·))
    (hle : ∀ progress ∈ calls, progress ≤ total) :
    let started := s.onStart true
    (run (onProgress R total) started calls).panel
      = ((outputs (onProgress R total) (drawn total) started calls).getLast?.elim (startLayer g)
          fun progress => (progressLayer R g total progress).stack (startLayer g)).onto
        fun _ => false := by
  intro started
  have hstart : g.picture started.buffer = (startLayer g).onto fun _ => false := by
    rw [← g.picture_clearDisplay s.buffer]
    exact picture_centerText (by decide)
  have hsub : (outputs (onProgress R total) (drawn total) started calls).Sublist calls :=
    drawn_sublist
  obtain ⟨hbuffer, hpanel⟩ := picture_run R total calls (rfl : started.panel = _)
  rw [hpanel, hbuffer, hstart]
  generalize outputs (onProgress R total) (drawn total) started calls = ds at hsub
  rcases List.eq_nil_or_concat' ds with rfl | ⟨before, last, rfl⟩
  · rfl
  · have hpairs := hmono.sublist hsub
    have hlast : last ≤ total := hle last (hsub.subset (by simp))
    have hcovers : ∀ l ∈ before.map (progressLayer R g total),
        (progressLayer R g total last).Covers l := by
      intro l hl
      obtain ⟨earlier, hmem, rfl⟩ := List.mem_map.mp hl
      exact covers_progressLayer hpos hsmall
        ((List.pairwise_append.mp hpairs).2.2 earlier hmem last (by simp)) hlast
    rw [List.map_append, List.map_singleton, run_concat, Layer.run_onto_of_covers hcovers,
      List.getLast?_concat, Layer.onto_onto]
    rfl

end

/-! ## A short update -/

open UpdateScreen

/-- Five calls, of which the first and the last one draw. -/
def shortUpdate : List UInt32 := [0, 400, 800, 1200, 1500]

/-- A panel that is lit everywhere. -/
def litScreen : UpdateScreen blockGfx where
  buffer := fun _ => true
  panel := fun _ => true

/-- An update of 1500 bytes. -/
theorem progress_picture_short :
    (run (onProgress .binary32 1500) (litScreen.onStart true) shortUpdate).panel
      = ((progressLayer .binary32 blockGfx 1500 1500).stack (startLayer blockGfx)).onto
        fun _ => false := by
  have hdrawn : (outputs (onProgress .binary32 1500) (drawn 1500) (litScreen.onStart true)
      shortUpdate).getLast? = some 1500 := by decide +kernel
  have hpicture := progress_picture (R := .binary32) blockGfx litScreen 1500 shortUpdate
    (by decide) (by decide) (by decide) (by simp [shortUpdate])
  dsimp only at hpicture
  rwa [hdrawn] at hpicture

end AstroPowerBox.Display
