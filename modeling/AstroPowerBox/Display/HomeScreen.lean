import AstroPowerBox.Battery.Range
import AstroPowerBox.Display.FixedPoint
import AstroPowerBox.Display.StatusBar

/-!
# The home screen

Source `homeScreen::show` of `src/oled/screen_content.cpp`: the symbol of a battery that is filled
as far as the state of charge says, with the voltage in it, and beside it the state of charge and
the energy. Nothing is cleared before it is drawn, and the status bar is drawn on the same screen in
its own time.

As long as the numbers keep their three digits, which the ranges of the battery see to
(`fits_of_inRange`), a drawing paints the same pixels whatever it shows (`isSome_homeLayer`), and
none of the status bar. `screen_current` draws the conclusion for any order of drawings.
-/

namespace AstroPowerBox.Display
open Foundation Decimal Battery

section
variable {R : Rounding}

/-- Source `getEnergyRemainingWh`. -/
def getEnergyRemainingWh (s : Lifepo4Battery R) : Rounded R := s.chargeRemaining * (1 / 3600) * 12.8

/-- What the home screen reads: the battery, its voltage twice, and whether bit 10 of the clock is
set. -/
structure HomeReadings (R : Rounding) where
  battery : Lifepo4Battery R
  voltage : Rounded R
  voltageAgain : Rounded R
  blink : Bool

/-- The format `%wd`: filled up with blanks to a width. -/
def spaced (width : ℕ) (x : ℤ) : List Char :=
  .replicate (width - (printInt 0 x).length) ' ' ++ printInt 0 x

/-- The text of the format `%02d.%03d V`. -/
def voltageText (voltage : Rounded R) : List Char :=
  homeVoltage (voltage * 1000).trunc ++ [' ', 'V']

/-- The voltage is printed black on what is there. -/
def voltageStyle : TextStyle := { color := false, background := none }

/-- Numbers are printed in twice the size. -/
def numberStyle : TextStyle := { size := 2 }

/-- Source `iSoC`. -/
def filledColumns (soc : Rounded R) (fillWidth : ℤ) : ℤ :=
  (max 0 (min 100 soc) / 100 * .ofInt fillWidth).trunc

/-- Source `homeScreen::show`. -/
def showHome (g : Gfx) (b : g.Buffer) (r : HomeReadings R) : g.Buffer :=
  let fillHeight := screenHeight - 2 * 2
  let fillWidth := fillHeight * 2
  let rectWidth := fillWidth + 2 * 2
  let iSoC := filledColumns r.battery.soc fillWidth
  let b := g.fillRect b 0 0 rectWidth screenHeight true
  let b := g.fillRect b rectWidth 8 3 (screenHeight - 2 * 8) true
  let b := g.drawRect b 1 1 (rectWidth - 2) (screenHeight - 2) false
  let b := (g.print b 2 (fillHeight - 10) voltageStyle (voltageText r.voltage)).1
  -- the empty part is inverted, slightly angled
  let b :=
    if r.voltageAgain > 11 || r.blink then
      run g.invertPixel b
        (loopPixels (fun fillLine => iSoC + fillLine / 3 + 2) (fillWidth + 2) 2 fillHeight.toNat)
    else b
  let (b, cursorX) := g.print b (rectWidth + 8) 0 numberStyle (spaced 3 r.battery.soc.trunc)
  let b := (g.print b cursorX 8 {} ['%']).1
  let (b, cursorX) := g.print b (rectWidth + 8) 16 numberStyle
    (spaced 3 (getEnergyRemainingWh r.battery).trunc)
  (g.print b cursorX 24 {} ['W', 'h']).1

/-! ## The screen as a layer -/

/-- The empty part of the symbol, unless it is in the dark half of its blinking. -/
def emptyPart (r : HomeReadings R) (p : Pixel) : Bool :=
  (r.voltageAgain > 11 || r.blink) && (onScreen p && (inRect 2 2 56 28 p &&
    filledColumns r.battery.soc 56 + (p.2 - 2) / 3 ≤ p.1 - 2))

/-- A full battery with the voltage in it. -/
def fullSymbol (glyph : Char → ℤ → ℤ → Bool) (r : HomeReadings R) : Layer Pixel :=
  .stacked [filled 0 0 60 32 true, filled 60 8 3 16 true, framed 1 1 58 30 false,
    inked glyph 2 18 voltageStyle (voltageText r.voltage)]

def homeLayers (glyph : Char → ℤ → ℤ → Bool) (r : HomeReadings R) : List (Layer Pixel) :=
  let soc := spaced 3 r.battery.soc.trunc
  let energy := spaced 3 (getEnergyRemainingWh r.battery).trunc
  [(fullSymbol glyph r).inverted (emptyPart r), inked glyph 68 0 numberStyle soc,
    inked glyph (68 + 12 * soc.length) 8 {} ['%'], inked glyph 68 16 numberStyle energy,
    inked glyph (68 + 12 * energy.length) 24 {} ['W', 'h']]

def homeLayer (glyph : Char → ℤ → ℤ → Bool) (r : HomeReadings R) : Layer Pixel :=
  .stacked (homeLayers glyph r)

variable {g : Gfx} {b : g.Buffer} {r : HomeReadings R} {p : Pixel} {glyph : Char → ℤ → ℤ → Bool}

lemma legible_voltageStyle : voltageStyle.Legible := ⟨by decide, by decide⟩

lemma legible_numberStyle : numberStyle.Legible := ⟨by decide, by decide⟩

/-- A number that is filled up with blanks is printable. -/
@[simp] lemma printable_spaced {width : ℕ} {x : ℤ} : Printable (spaced width x) := by
  refine printable_append.mpr ⟨fun c hc => ?_, printable_printInt⟩
  rw [List.eq_of_mem_replicate hc]
  decide

/-- So is the voltage, with either sign. -/
@[simp] lemma printable_voltageText {voltage : Rounded R} : Printable (voltageText voltage) := by
  simp only [voltageText, homeVoltage, printable_append, printable_cons, printable_printInt,
    printable_nil]
  decide

/-- The columns of the state of charge are counted from the left edge of the symbol. -/
lemma filledColumns_nonneg {soc : Rounded R} : 0 ≤ filledColumns soc 56 := by
  have hhundred : (0 : Rounded R) ≤ 100 := Rounded.ofRat_nonneg (by norm_num)
  exact Rounded.trunc_nonneg (Rounded.mul_nonneg (Rounded.div_nonneg (le_max_left _ _) hhundred)
    (Rounded.ofInt_nonneg (by norm_num)))

/-- The symbol before the empty part is inverted. -/
lemma picture_fullSymbol :
    g.picture (g.print (g.drawRect (g.fillRect (g.fillRect b 0 0 60 32 true) 60 8 3 16 true) 1 1 58
      30 false) 2 18 voltageStyle (voltageText r.voltage)).1
      = (fullSymbol g.glyph r).onto (g.picture b) := by
  rw [fullSymbol, ← Layer.onto_stacked,
    g.picture_print _ _ _ _ _ legible_voltageStyle printable_voltageText,
    g.picture_drawRect _ _ _ _ _ _ (by decide) (by decide), g.picture_fillRect, g.picture_fillRect]
  rfl

/-- The whole body of the symbol is painted. -/
lemma isSome_fullSymbol_of_inRect (hscreen : onScreen p = true)
    (hrect : inRect 0 0 60 32 p = true) : (fullSymbol glyph r p).isSome :=
  Layer.isSome_stacked.mpr ⟨filled 0 0 60 32 true, by simp, isSome_filled.mpr ⟨hscreen, hrect⟩⟩

/-- The pixels of the empty part, row by row. -/
lemma emptyPart_iff (hshown : (r.voltageAgain > 11 || r.blink) = true) :
    emptyPart r p = true ↔ onScreen p = true ∧ ((2 ≤ p.2 ∧ p.2 < 30) ∧
      filledColumns r.battery.soc 56 + (p.2 - 2) / 3 + 2 ≤ p.1 ∧ p.1 < 58) := by
  have hnonneg : 0 ≤ filledColumns r.battery.soc 56 := filledColumns_nonneg
  rw [emptyPart, hshown, Bool.true_and, Bool.and_eq_true, Bool.and_eq_true, inRect_iff,
    decide_eq_true_iff]
  refine and_congr_right fun _ => ?_
  omega

/-- The loops of `homeScreen::show` invert the empty part. -/
lemma picture_emptied {c : g.Buffer} (h : g.picture c = (fullSymbol g.glyph r).onto (g.picture b)) :
    g.picture (if r.voltageAgain > 11 || r.blink then
      run g.invertPixel c (loopPixels (fun fillLine =>
        filledColumns r.battery.soc 56 + fillLine / 3 + 2) 58 2 28) else c)
      = ((fullSymbol g.glyph r).inverted (emptyPart r)).onto (g.picture b) := by
  split_ifs with hshown
  · have hset : (fun p => onScreen p && decide (p ∈ loopPixels (fun fillLine =>
        filledColumns r.battery.soc 56 + fillLine / 3 + 2) 58 2 28)) = emptyPart r := by
      funext p
      rw [Bool.eq_iff_iff, Bool.and_eq_true, decide_eq_true_iff, mem_loopPixels,
        emptyPart_iff hshown]
      refine and_congr_right fun _ => ?_
      omega
    rw [Gfx.picture_invertPixels nodup_loopPixels, hset, h, invert_onto]
    intro p hp
    have hnonneg : 0 ≤ filledColumns r.battery.soc 56 := filledColumns_nonneg
    obtain ⟨hscreen, hrows, hcols⟩ := (emptyPart_iff hshown).mp hp
    refine isSome_fullSymbol_of_inRect hscreen (inRect_iff.mpr ?_)
    omega
  · have hnone : emptyPart r = fun _ => false := by
      funext p
      rw [emptyPart, Bool.eq_false_iff.mpr hshown, Bool.false_and]
    rw [hnone, inverted_false]
    exact h

/-- The home screen is one layer over what was there. -/
lemma picture_showHome : g.picture (showHome g b r) = (homeLayer g.glyph r).onto (g.picture b) := by
  have hrows : (32 - 2 * 2 : ℤ).toNat = 28 := rfl
  rw [homeLayer, ← Layer.onto_stacked, homeLayers]
  have hsize : (numberStyle.size : ℤ) = 2 := rfl
  have hpercent : Printable ['%'] := by decide
  have hunit : Printable ['W', 'h'] := by decide
  simp only [showHome, screenHeight, hrows, hsize,
    g.picture_print _ _ _ _ _ legible_numberStyle printable_spaced,
    g.picture_print _ _ _ _ _ legible_default hpercent,
    g.picture_print _ _ _ _ _ legible_default hunit,
    g.cursor_print _ _ _ _ _ legible_numberStyle printable_spaced]
  norm_num only
  rw [picture_emptied picture_fullSymbol]
  rfl

/-! ## Where it is painted -/

/-- The numbers have three digits, and the voltage stays within the symbol. -/
structure Fits (r : HomeReadings R) : Prop where
  soc : (spaced 3 r.battery.soc.trunc).length = 3
  energy : (spaced 3 (getEnergyRemainingWh r.battery).trunc).length = 3
  voltage : (voltageText r.voltage).length ≤ 9

/-- The symbol, the state of charge with its sign, and the energy with its unit. -/
def homeArea (p : Pixel) : Bool :=
  onScreen p && (inRect 0 0 60 32 p || inRect 60 8 3 16 p || inRect 68 0 36 16 p
    || inRect 104 8 6 8 p || inRect 68 16 36 16 p || inRect 104 24 12 8 p)

/-- Frame and voltage stay within the body of the symbol. -/
lemma isSome_fullSymbol (fits : Fits r) : (fullSymbol glyph r p).isSome ↔
    onScreen p = true ∧ (inRect 0 0 60 32 p = true ∨ inRect 60 8 3 16 p = true) := by
  rw [fullSymbol, Layer.isSome_stacked]
  constructor
  · rintro ⟨l, hl, hp⟩
    simp only [List.mem_cons, List.not_mem_nil, or_false] at hl
    rcases hl with rfl | rfl | rfl | rfl
    · exact ⟨(isSome_filled.mp hp).1, .inl (isSome_filled.mp hp).2⟩
    · exact ⟨(isSome_filled.mp hp).1, .inr (isSome_filled.mp hp).2⟩
    · obtain ⟨hscreen, hrect, -⟩ := isSome_framed.mp hp
      refine ⟨hscreen, .inl (inRect_iff.mpr ?_)⟩
      rw [inRect_iff] at hrect
      omega
    · obtain ⟨hscreen, hrect⟩ := inRect_of_isSome_inked hp
      refine ⟨hscreen, .inl (inRect_iff.mpr ?_)⟩
      have hlength := fits.voltage
      simp only [inRect_iff, voltageStyle, Nat.cast_one, mul_one] at hrect
      omega
  · rintro ⟨hscreen, hrect | hcap⟩
    · exact ⟨filled 0 0 60 32 true, by simp, isSome_filled.mpr ⟨hscreen, hrect⟩⟩
    · exact ⟨filled 60 8 3 16 true, by simp, isSome_filled.mpr ⟨hscreen, hcap⟩⟩

/-- What is painted does not depend on what is shown. -/
lemma isSome_homeLayer (fits : Fits r) : (homeLayer glyph r p).isSome ↔ homeArea p = true := by
  have hnumber {y : ℤ} {text : List Char} (hlength : text.length = 3) :
      (inked glyph 68 y numberStyle text p).isSome ↔
        onScreen p = true ∧ inRect 68 y 36 16 p = true := by
    rw [isSome_inked rfl, hlength]
    rfl
  have hpercent : (inked glyph 104 8 {} ['%'] p).isSome ↔
      onScreen p = true ∧ inRect 104 8 6 8 p = true := isSome_inked rfl
  have hunit : (inked glyph 104 24 {} ['W', 'h'] p).isSome ↔
      onScreen p = true ∧ inRect 104 24 12 8 p = true := isSome_inked rfl
  rw [homeLayer, Layer.isSome_stacked]
  simp only [homeLayers, fits.soc, fits.energy, List.exists_mem_cons_iff, List.not_mem_nil,
    false_and, exists_false, or_false, Layer.inverted, Option.isSome_map, isSome_fullSymbol fits,
    hnumber fits.soc, hnumber fits.energy]
  norm_num only
  rw [hpercent, hunit]
  simp only [homeArea, Bool.and_eq_true, Bool.or_eq_true, and_or_left, or_assoc]

/-- The status bar has the columns on the right for itself. -/
lemma not_statusArea_of_homeArea (h : homeArea p = true) : statusArea p = false := by
  simp only [homeArea, Bool.and_eq_true, Bool.or_eq_true, inRect_iff] at h
  rw [Bool.eq_false_iff]
  simp only [statusArea, ne_eq, Bool.and_eq_true, Bool.or_eq_true, inRect_iff]
  omega

end

/-! ## Three digits -/

section
variable {R : Rounding} {x : ℤ} {width k n : ℕ}

/-- Filling up with zeros to a smaller width makes no text longer. -/
lemma length_padded_le (pos : 0 < k) (hwidth : width ≤ k) (h : n < 10 ^ k) :
    (padded width n).length ≤ k := by
  have hle := (Nat.length_toDigits_le_iff (b := 10) (by decide) pos).mpr h
  rw [padded, List.length_append, List.length_replicate]
  omega

/-- A number below 1000 takes three characters. -/
lemma length_spaced (hnonneg : 0 ≤ x) (h : x < 1000) : (spaced 3 x).length = 3 := by
  have hle : (printInt 0 x).length ≤ 3 := by
    rw [printInt, if_neg hnonneg.not_gt]
    exact length_padded_le (by decide) (by decide) (by omega)
  rw [spaced, List.length_append, List.length_replicate]
  omega

/-- A minus sign takes the place of a digit. -/
lemma length_printInt_neg_le (pos : 0 < k) (hwidth : width ≤ k + 1) (h : n < 10 ^ k) :
    (printInt width (-n : ℤ)).length ≤ k + 1 := by
  rw [printInt, Int.natAbs_neg, Int.natAbs_natCast]
  split_ifs
  · simpa using length_padded_le pos (by omega) h
  · have hpow : 10 ^ k ≤ 10 ^ (k + 1) := Nat.pow_le_pow_right (by decide) (by omega)
    exact length_padded_le (by omega) hwidth (h.trans_le hpow)

/-- From -10 V to 100 V. -/
lemma length_homeVoltage (hge : -10000 ≤ x) (hle : x ≤ 100000) : (homeVoltage x).length ≤ 7 := by
  have hthousand : (1000 : ℤ) = 10 ^ 3 := rfl
  rw [homeVoltage, List.length_append, List.length_cons, hthousand]
  rcases Int.eq_nat_or_neg x with ⟨n, rfl | rfl⟩
  · rw [tdiv_natCast, tmod_natCast, printInt_natCast, printInt_natCast]
    have hwhole : (padded 2 (n / 10 ^ 3)).length ≤ 3 :=
      length_padded_le (by decide) (by decide) (by omega)
    have hfraction : (padded 3 (n % 10 ^ 3)).length ≤ 3 :=
      length_padded_le (by decide) le_rfl (mod_lt n 3)
    omega
  · rw [Int.neg_tdiv, Int.neg_tmod, tdiv_natCast, tmod_natCast]
    rcases Nat.lt_or_ge n 10000 with hlt | hge'
    · have hwhole : (printInt 2 (-(n / 10 ^ 3 : ℕ) : ℤ)).length ≤ 2 :=
        length_printInt_neg_le (k := 1) (by decide) (by decide) (by omega)
      have hfraction : (printInt 3 (-(n % 10 ^ 3 : ℕ) : ℤ)).length ≤ 4 :=
        length_printInt_neg_le (k := 3) (by decide) (by decide) (mod_lt n 3)
      omega
    · -- exactly -10 V
      obtain rfl : n = 10000 := by omega
      decide

/-- Rounding does not leave the range of the voltage. -/
lemma trunc_millivolts {voltage : Rounded R} (hge : -10 ≤ voltage) (hle : voltage ≤ 100) :
    -10000 ≤ (voltage * 1000).trunc ∧ (voltage * 1000).trunc ≤ 100000 := by
  have hthousand : (1000 : Rounded R).val = 1000 := Rounded.natCast_val (n := 1000) (by norm_num)
  have hten : (10 : Rounded R).val = 10 := Rounded.natCast_val (n := 10) (by norm_num)
  have hhundred : (100 : Rounded R).val = 100 := Rounded.natCast_val (n := 100) (by norm_num)
  have hlow : -10 ≤ voltage.val := by
    rw [← hten]
    exact hge
  have hhigh : voltage.val ≤ 100 := by
    rw [← hhundred]
    exact hle
  have hval : (voltage * 1000).val = R.round (voltage.val * 1000) := by
    rw [Rounded.mul_val, hthousand]
  have hupper : (voltage * 1000).val ≤ 100000 := by
    have hmono := R.mono (show voltage.val * 1000 ≤ (100000 : ℤ) by push_cast; linarith)
    rw [R.round_intCast (by norm_num)] at hmono
    rw [hval]
    exact_mod_cast hmono
  have hlower : -10000 ≤ (voltage * 1000).val := by
    have hmono := R.mono (show ((-10000 : ℤ) : ℚ) ≤ voltage.val * 1000 by push_cast; linarith)
    rw [R.round_intCast (by norm_num)] at hmono
    rw [hval]
    exact_mod_cast hmono
  rcases le_total 0 (voltage * 1000).val with hnonneg | hneg
  · have hbound := Rounded.natAbs_trunc_le (n := 100000) (by rwa [abs_of_nonneg hnonneg])
    have := Rounded.trunc_nonneg (Rounded.nonneg_def.mpr hnonneg)
    omega
  · have hbound := Rounded.natAbs_trunc_le (a := voltage * 1000) (n := 10000)
      (by rw [abs_of_nonpos hneg]; push_cast; linarith)
    omega

/-- The ranges of the battery, and a voltage that a battery can have, see to it. -/
lemma fits_of_inRange {r : HomeReadings .binary32} (h : InRange r.battery) (hge : -10 ≤ r.voltage)
    (hle : r.voltage ≤ 100) : Fits r where
  soc := by
    have hsoc := Rounded.trunc_le_trunc h.soc_nonneg h.soc_le
    have hhundred : (100 : Rounded .binary32).trunc = 100 := by decide +kernel
    exact length_spaced (Rounded.trunc_nonneg h.soc_nonneg) (by omega)
  energy := by
    have hfactor : (0 : Rounded .binary32) ≤ 1 / 3600 := by decide +kernel
    have hnominal : (0 : Rounded .binary32) ≤ 12.8 := by decide +kernel
    have hnonneg : 0 ≤ getEnergyRemainingWh r.battery :=
      Rounded.mul_nonneg (Rounded.mul_nonneg h.charge_nonneg hfactor) hnominal
    have henergy : getEnergyRemainingWh r.battery ≤ chargeTotal * (1 / 3600) * 12.8 :=
      Rounded.mul_le_mul_right (Rounded.mul_le_mul_right h.charge_le hfactor) hnominal
    have hfull : (chargeTotal * (1 / 3600) * 12.8 : Rounded .binary32).trunc < 1000 := by
      decide +kernel
    exact length_spaced (Rounded.trunc_nonneg hnonneg)
      ((Rounded.trunc_le_trunc hnonneg henergy).trans_lt hfull)
  voltage := by
    obtain ⟨hlow, hhigh⟩ := trunc_millivolts hge hle
    have hlength := length_homeVoltage hlow hhigh
    simp only [voltageText, List.length_append, List.length_cons, List.length_nil]
    omega

end

/-! ## Any order of drawings -/

/-- A drawing on the screen. -/
inductive Drawing (R : Rounding) where
  | home (r : HomeReadings R)
  | status (r : StatusReadings)

section
variable {R : Rounding} {g : Gfx}

def draw (g : Gfx) (b : g.Buffer) : Drawing R → g.Buffer
  | .home r => showHome g b r
  | .status r => printStatus g b r

def Drawing.ofHome : Drawing R → Option (HomeReadings R)
  | .home r => some r
  | .status _ => none

def Drawing.ofStatus : Drawing R → Option StatusReadings
  | .home _ => none
  | .status r => some r

/-- The layer of a drawing, by its kind. -/
def Drawing.layer (glyph : Char → ℤ → ℤ → Bool) : Drawing R → Layer Pixel ⊕ Layer Pixel
  | .home r => .inl (homeLayer glyph r)
  | .status r => .inr (statusLayer glyph r)

variable {drawings : List (Drawing R)} {b : g.Buffer} {glyph : Char → ℤ → ℤ → Bool}

/-- The drawings as layers one over the other. -/
lemma picture_draws : g.picture (run (draw g) b drawings)
    = run (fun c step => (step.elim id id).onto c) (g.picture b)
        (drawings.map (Drawing.layer g.glyph)) := by
  induction drawings using List.reverseRecOn with
  | nil => rfl
  | append_singleton drawings d ih =>
    rw [run_concat, List.map_append, List.map_singleton, run_concat, ← ih]
    cases d with
    | home r => exact picture_showHome
    | status r => exact picture_printStatus

/-- The layers of the home screen. -/
lemma getLeft_layers : (drawings.map (Drawing.layer glyph)).filterMap Sum.getLeft?
    = (drawings.filterMap Drawing.ofHome).map (homeLayer glyph) := by
  rw [List.filterMap_map, List.map_filterMap]
  congr 1
  funext d
  cases d <;> rfl

/-- The layers of the status bar. -/
lemma getRight_layers : (drawings.map (Drawing.layer glyph)).filterMap Sum.getRight?
    = (drawings.filterMap Drawing.ofStatus).map (statusLayer glyph) := by
  rw [List.filterMap_map, List.map_filterMap]
  congr 1
  funext d
  cases d <;> rfl

/-- A layer of the first kind is one of the home screen. -/
lemma home_of_mem {l : Layer Pixel} (h : .inl l ∈ drawings.map (Drawing.layer glyph)) :
    ∃ r, .home r ∈ drawings ∧ l = homeLayer glyph r := by
  obtain ⟨d, hd, heq⟩ := List.mem_map.mp h
  cases d with
  | home r => exact ⟨r, hd, (Sum.inl.inj heq).symm⟩
  | status r => cases heq

/-- A layer of the second kind is one of the status bar. -/
lemma status_of_mem {l : Layer Pixel} (h : .inr l ∈ drawings.map (Drawing.layer glyph)) :
    ∃ r, l = statusLayer glyph r := by
  obtain ⟨d, -, heq⟩ := List.mem_map.mp h
  cases d with
  | home r => cases heq
  | status r => exact ⟨r, (Sum.inr.inj heq).symm⟩

/-- The last drawing of each kind is on the screen, since it covers those before and stays apart
from the others. -/
lemma screen_of_fits (fits : ∀ r, .home r ∈ drawings → Fits r) :
    g.picture (run (draw g) b drawings)
      = (Layer.last ((drawings.filterMap Drawing.ofHome).map (homeLayer g.glyph))).onto
          ((Layer.last ((drawings.filterMap Drawing.ofStatus).map (statusLayer g.glyph))).onto
            (g.picture b)) := by
  rw [picture_draws, Layer.run_onto_of_apart, getLeft_layers, getRight_layers]
  · intro l l' hl hl' p hp
    obtain ⟨r, hr, rfl⟩ := home_of_mem hl
    obtain ⟨r', hr', rfl⟩ := home_of_mem hl'
    exact (isSome_homeLayer (fits r' hr')).mpr ((isSome_homeLayer (fits r hr)).mp hp)
  · intro l l' hl hl' p hp
    obtain ⟨r, rfl⟩ := status_of_mem hl
    obtain ⟨r', rfl⟩ := status_of_mem hl'
    exact isSome_statusLayer.mpr (isSome_statusLayer.mp hp)
  · intro l l' hl hl' p hp
    obtain ⟨r, hr, rfl⟩ := home_of_mem hl
    obtain ⟨r', rfl⟩ := status_of_mem hl'
    have hout := not_statusArea_of_homeArea ((isSome_homeLayer (fits r hr)).mp hp)
    rw [← Option.not_isSome_iff_eq_none, isSome_statusLayer, hout]
    exact Bool.false_ne_true

end

/-- Whatever has been drawn in which order, with the battery in its ranges and a voltage from -10 V to
100 V, the screen shows what it would show if only the last home screen and the last status had been
drawn: nothing is left of the earlier ones, and neither touches the other. -/
theorem screen_current (g : Gfx) (b : g.Buffer) (drawings : List (Drawing .binary32))
    (inRange : ∀ r, .home r ∈ drawings → InRange r.battery ∧ -10 ≤ r.voltage ∧ r.voltage ≤ 100) :
    g.picture (run (draw g) b drawings)
      = (Layer.last ((drawings.filterMap Drawing.ofHome).map (homeLayer g.glyph))).onto
          ((Layer.last ((drawings.filterMap Drawing.ofStatus).map (statusLayer g.glyph))).onto
            (g.picture b)) := by
  apply screen_of_fits
  intro r hr
  obtain ⟨hbattery, hge, hle⟩ := inRange r hr
  exact fits_of_inRange hbattery hge hle

/-! ## A battery that is charged -/

/-- A battery at 13 V with the given state of charge. -/
def chargedTo (soc : Rounded .binary32) : HomeReadings .binary32 where
  battery := { soc }
  voltage := 13
  voltageAgain := 13
  blink := false

/-- Connected, and locked. -/
def lockedStatus : StatusReadings where
  wifidbm := -60
  connected := true
  ssidNdx := 1
  keyLockState := .lockedIdle

/-- From 9 to 100 percent, with the status bar in between. -/
theorem screen_current_charged :
    blockGfx.picture (run (draw blockGfx) (fun _ => true)
        [.home (chargedTo 9), .status lockedStatus, .home (chargedTo 100)])
      = (homeLayer blockGfx.glyph (chargedTo 100)).onto
          ((statusLayer blockGfx.glyph lockedStatus).onto fun _ => true) := by
  refine screen_current blockGfx (fun _ => true)
    [.home (chargedTo 9), .status lockedStatus, .home (chargedTo 100)] fun r hr => ?_
  have hsoc : r = chargedTo 9 ∨ r = chargedTo 100 := by simpa using hr
  rcases hsoc with rfl | rfl
  · exact ⟨by constructor <;> decide +kernel, by decide +kernel, by decide +kernel⟩
  · exact ⟨by constructor <;> decide +kernel, by decide +kernel, by decide +kernel⟩

end AstroPowerBox.Display
