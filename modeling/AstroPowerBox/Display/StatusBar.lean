import AstroPowerBox.Display.Gfx
import AstroPowerBox.Foundation.Decimal
import AstroPowerBox.Switcher.Button

/-!
# The status bar

Source `src/oled/status_bar.cpp`. `setup` places the symbols of a set of flags from the right to the
left, except for two that have places of their own. `printStatus` draws them anew. Whatever it draws
stays in the places of the symbols, which it clears first: so a drawing is a layer that always
paints the same pixels (`isSome_statusLayer`).

Left out is how the symbols are drawn that `statusDisplay::setup` does not ask for: they are not in
the status bar of the display (`symbols_displayBar`).
-/

namespace AstroPowerBox.Display
open Foundation Decimal Switcher

/-! ## Places -/

/-- The classes derived from `barSymbol`. -/
inductive BarSymbol where
  | stateOfChargeIcon
  | stateOfChargeValue
  | wifiStrengthIcon
  | playerName
  | standbyIcon
  | lockIcon
deriving DecidableEq

namespace BarSymbol

/-- The symbol of a flag, if it is implemented; a flag is given by the number of its bit. -/
def ofFlag : ℕ → Option BarSymbol
  | 0 => some stateOfChargeIcon
  | 1 => some stateOfChargeValue
  | 2 => some wifiStrengthIcon
  | 4 => some playerName
  | 5 => some standbyIcon
  | 6 => some lockIcon
  | _ => none

def width : BarSymbol → UInt16
  | stateOfChargeIcon => 13
  | stateOfChargeValue => 17
  | wifiStrengthIcon => 8
  | playerName => 1
  | standbyIcon => 8
  | lockIcon => 5

def height : BarSymbol → UInt16
  | stateOfChargeValue => 7
  | wifiStrengthIcon => 16
  | _ => 8

end BarSymbol

/-- A symbol in its place. The base class sets it, also for the symbol that has a `setPos` of its
own. -/
structure PlacedSymbol where
  symbol : BarSymbol
  posX : UInt16
  posY : UInt16
deriving DecidableEq

/-- Source `statusBar`, with the column for the next symbol. -/
structure StatusBar where
  symbols : List PlacedSymbol := []
  posX : UInt16
deriving DecidableEq

namespace StatusBar

/-- The body of the loop in `setup`. -/
def addFlag (width height : UInt16) (symbolFlags : UInt32) (posY : UInt16) (s : StatusBar)
    (flag : ℕ) : StatusBar :=
  if symbolFlags.toNat.testBit flag then
    match BarSymbol.ofFlag flag with
    | none => s
    | some .playerName => { s with symbols := s.symbols ++ [⟨.playerName, 0, posY⟩] }
    | some .lockIcon =>
      let sym := BarSymbol.lockIcon
      { s with symbols := s.symbols ++ [⟨sym, width - sym.width - 1, height - sym.height - 1⟩] }
    | some sym =>
      let posX := s.posX - sym.width
      { symbols := s.symbols ++ [⟨sym, posX, posY⟩], posX := posX - 1 }
  else s

def setup (width height : UInt16) (symbolFlags : UInt32) (posY : UInt16) : StatusBar :=
  (List.range 32).foldl (addFlag width height symbolFlags posY) { posX := width - 1 }

end StatusBar

/-! ### No two symbols overlap -/

namespace PlacedSymbol

def right (s : PlacedSymbol) : ℕ := s.posX.toNat + s.symbol.width.toNat
def bottom (s : PlacedSymbol) : ℕ := s.posY.toNat + s.symbol.height.toNat

/-- The places have no pixel in common. -/
def Apart (s s' : PlacedSymbol) : Prop :=
  s.right ≤ s'.posX.toNat ∨ s'.right ≤ s.posX.toNat ∨ s.bottom ≤ s'.posY.toNat ∨
    s'.bottom ≤ s.posY.toNat

end PlacedSymbol

/-- What the symbols in the row may have taken, before a flag comes. -/
def budget : ℕ → ℕ
  | 0 => 0
  | 1 => 14
  | 2 => 32
  | 3 | 4 | 5 => 41
  | _ => 50

/-- Where a symbol is, when a flag comes: in the row to the right of `posX`, or in its own place. -/
def InPlace (width height posY : UInt16) (flag : ℕ) (s : StatusBar) (sym : PlacedSymbol) : Prop :=
  (s.posX.toNat < sym.posX.toNat ∧ sym.right + 1 ≤ width.toNat ∧ sym.posY = posY) ∨
  (4 < flag ∧ sym = ⟨.playerName, 0, posY⟩) ∨
  (6 < flag ∧ sym.right + 1 = width.toNat ∧ sym.bottom + 1 = height.toNat ∧ sym.symbol = .lockIcon)

/-- The state of the loop in `setup` when a flag comes. -/
structure Packed (width height posY : UInt16) (flag : ℕ) (s : StatusBar) : Prop where
  room : width.toNat ≤ s.posX.toNat + 1 + budget flag
  inside : s.posX.toNat + 1 ≤ width.toNat
  inPlace : ∀ sym ∈ s.symbols, InPlace width height posY flag s sym
  apart : s.symbols.Pairwise PlacedSymbol.Apart

section
variable {width height posY : UInt16} {symbolFlags : UInt32} {flag : ℕ} {s : StatusBar}

/-- No flag gives room back. -/
lemma budget_le_succ : budget flag ≤ budget (flag + 1) :=
  match flag with
  | 0 | 1 | 2 | 3 | 4 | 5 => by decide
  | _ + 6 => le_rfl

/-- All symbols together take at most 50 columns of the row. -/
lemma budget_le (flag : ℕ) : budget flag ≤ 50 :=
  match flag with
  | 0 | 1 | 2 | 3 | 4 | 5 => by decide
  | _ + 6 => le_rfl

/-- No symbol is higher than 16 rows. -/
lemma bottom_le (sym : PlacedSymbol) : sym.bottom ≤ sym.posY.toNat + 16 := by
  have hheight : sym.symbol.height.toNat ≤ 16 := by cases sym.symbol <;> decide
  exact Nat.add_le_add_left hheight _

/-- A symbol stays in its place when the row grows to the left. -/
lemma InPlace.next {s' : StatusBar} {sym : PlacedSymbol}
    (h : InPlace width height posY flag s sym) (hleft : s'.posX.toNat ≤ s.posX.toNat) :
    InPlace width height posY (flag + 1) s' sym := by
  rcases h with ⟨hrow, hrest⟩ | ⟨hflag, hname⟩ | ⟨hflag, hlock⟩
  · exact .inl ⟨by omega, hrest⟩
  · exact .inr (.inl ⟨by omega, hname⟩)
  · exact .inr (.inr ⟨by omega, hlock⟩)

/-- A flag without a symbol, or one that is not asked for. -/
lemma Packed.next (h : Packed width height posY flag s) :
    Packed width height posY (flag + 1) s where
  room := h.room.trans (Nat.add_le_add_left budget_le_succ _)
  inside := h.inside
  inPlace sym hsym := (h.inPlace sym hsym).next le_rfl
  apart := h.apart

/-- One more symbol, apart from the others. -/
lemma Packed.concat (h : Packed width height posY flag s) {sym : PlacedSymbol} {posX : UInt16}
    (hroom : width.toNat ≤ posX.toNat + 1 + budget (flag + 1))
    (hleft : posX.toNat ≤ s.posX.toNat)
    (hnew : InPlace width height posY (flag + 1) { symbols := s.symbols ++ [sym], posX } sym)
    (hapart : ∀ sym', InPlace width height posY flag s sym' → sym'.Apart sym) :
    Packed width height posY (flag + 1) { symbols := s.symbols ++ [sym], posX } where
  room := hroom
  inside := (Nat.add_le_add_right hleft 1).trans h.inside
  inPlace sym' hsym' := by
    rcases List.mem_append.mp hsym' with hold | hmem
    · exact (h.inPlace sym' hold).next hleft
    · obtain rfl := List.mem_singleton.mp hmem
      exact hnew
  apart := by
    rw [List.pairwise_append]
    refine ⟨h.apart, List.pairwise_singleton _ _, fun sym' hold other hother => ?_⟩
    obtain rfl := List.mem_singleton.mp hother
    exact hapart sym' (h.inPlace sym' hold)

/-- No column is subtracted below zero. -/
lemma toNat_sub_sub_one {x y : UInt16} (h : y.toNat + 1 ≤ x.toNat) :
    (x - y - 1).toNat = x.toNat - y.toNat - 1 := by
  have hone : (1 : UInt16).toNat = 1 := rfl
  have hsub : (x - y).toNat = x.toNat - y.toNat :=
    UInt16.toNat_sub_of_le _ _ (UInt16.le_iff_toNat_le.mpr (by omega))
  rw [UInt16.toNat_sub_of_le _ _ (UInt16.le_iff_toNat_le.mpr (by omega)), hsub, hone]

/-- The name takes the first column. -/
lemma right_name : PlacedSymbol.right ⟨.playerName, 0, posY⟩ = 1 := rfl

/-- A symbol is put to the left of the row. -/
lemma Packed.row (h : Packed width height posY flag s) {sym : BarSymbol} (hflag : flag ≤ 5)
    (hwidth : 51 ≤ width.toNat)
    (hbudget : budget flag + sym.width.toNat + 1 ≤ budget (flag + 1)) :
    Packed width height posY (flag + 1)
      { symbols := s.symbols ++ [⟨sym, s.posX - sym.width, posY⟩]
        posX := s.posX - sym.width - 1 } := by
  have hroom := h.room
  have hinside := h.inside
  have hleast : sym.width.toNat + 1 ≤ s.posX.toNat := by
    have hmost := budget_le (flag + 1)
    omega
  have hx : (s.posX - sym.width).toNat = s.posX.toNat - sym.width.toNat :=
    UInt16.toNat_sub_of_le _ _ (UInt16.le_iff_toNat_le.mpr (by omega))
  have hposX := toNat_sub_sub_one hleast
  have hright : PlacedSymbol.right ⟨sym, s.posX - sym.width, posY⟩ = s.posX.toNat := by
    rw [PlacedSymbol.right, hx]
    exact Nat.sub_add_cancel (by omega)
  refine h.concat (by omega) (by omega) (.inl ⟨?_, by omega, rfl⟩) fun sym' hsym' => ?_
  · dsimp only
    omega
  · rcases hsym' with ⟨hrow, -⟩ | ⟨-, rfl⟩ | ⟨hlate, -⟩
    · exact .inr (.inl (by omega))
    · refine .inl ?_
      rw [right_name]
      dsimp only
      omega
    · omega

/-- The name is put at the left end, the row ends to the right of it. -/
lemma Packed.name (h : Packed width height posY 4 s) : Packed width height posY 5
    { s with symbols := s.symbols ++ [⟨.playerName, 0, posY⟩] } := by
  refine h.concat h.next.room le_rfl (.inr (.inl ⟨by decide, rfl⟩)) fun sym' hsym' => ?_
  rcases hsym' with ⟨hrow, -⟩ | ⟨hlate, -⟩ | ⟨hlate, -⟩
  · refine .inr (.inl ?_)
    rw [right_name]
    omega
  · omega
  · omega

/-- The lock is put into the corner, below the others. -/
lemma Packed.lock (h : Packed width height posY 6 s) (hwidth : 51 ≤ width.toNat)
    (hheight : posY.toNat + 25 ≤ height.toNat) : Packed width height posY 7
    { s with symbols := s.symbols ++ [⟨.lockIcon, width - BarSymbol.lockIcon.width - 1,
        height - BarSymbol.lockIcon.height - 1⟩] } := by
  have hx : (width - BarSymbol.lockIcon.width - 1).toNat = width.toNat - 5 - 1 :=
    toNat_sub_sub_one (show 5 + 1 ≤ _ by omega)
  have hy : (height - BarSymbol.lockIcon.height - 1).toNat = height.toNat - 8 - 1 :=
    toNat_sub_sub_one (show 8 + 1 ≤ _ by omega)
  refine h.concat h.next.room le_rfl (.inr (.inr ⟨by decide, ?_, ?_, rfl⟩)) fun sym' hsym' => ?_
  · change (width - BarSymbol.lockIcon.width - 1).toNat + 5 + 1 = _
    omega
  · change (height - BarSymbol.lockIcon.height - 1).toNat + 8 + 1 = _
    omega
  · have hposY : sym'.posY = posY := by
      rcases hsym' with ⟨-, -, hposY⟩ | ⟨-, rfl⟩ | ⟨hlate, -⟩
      · exact hposY
      · rfl
      · omega
    have hbottom := bottom_le sym'
    rw [hposY] at hbottom
    refine .inr (.inr (.inl ?_))
    dsimp only
    omega

/-- One pass of the loop. -/
lemma Packed.addFlag (h : Packed width height posY flag s) (hwidth : 51 ≤ width.toNat)
    (hheight : posY.toNat + 25 ≤ height.toNat) :
    Packed width height posY (flag + 1) (s.addFlag width height symbolFlags posY flag) := by
  rw [StatusBar.addFlag]
  split_ifs
  · match flag, h with
    | 0, h => exact h.row (by decide) hwidth (by decide)
    | 1, h => exact h.row (by decide) hwidth (by decide)
    | 2, h => exact h.row (by decide) hwidth (by decide)
    | 3, h => exact h.next
    | 4, h => exact h.name
    | 5, h => exact h.row (by decide) hwidth (by decide)
    | 6, h => exact h.lock hwidth hheight
    | n + 7, h => exact h.next
  · exact h.next

/-- The state of the loop, by induction on the flags that have come. -/
lemma packed_foldl (flags : ℕ) (hwidth : 51 ≤ width.toNat)
    (hheight : posY.toNat + 25 ≤ height.toNat) : Packed width height posY flags
      ((List.range flags).foldl (StatusBar.addFlag width height symbolFlags posY)
        { posX := width - 1 }) := by
  induction flags with
  | zero =>
    have hx : (width - 1).toNat = width.toNat - 1 :=
      UInt16.toNat_sub_of_le _ _ (UInt16.le_iff_toNat_le.mpr (show 1 ≤ _ by omega))
    refine ⟨?_, ?_, fun sym hsym => absurd hsym List.not_mem_nil, List.Pairwise.nil⟩
    · change width.toNat ≤ (width - 1).toNat + 1 + 0
      omega
    · change (width - 1).toNat + 1 ≤ _
      omega
  | succ flags ih =>
    rw [List.range_succ, List.foldl_concat]
    exact ih.addFlag hwidth hheight

/-- The places after the last flag. -/
lemma packed_setup (symbolFlags : UInt32) (hwidth : 51 ≤ width.toNat)
    (hheight : posY.toNat + 25 ≤ height.toNat) :
    Packed width height posY 32 (.setup width height symbolFlags posY) :=
  packed_foldl 32 hwidth hheight

/-- Whatever symbols are asked for: on a display that has room for them all, they are on the
display, and no two of them overlap. -/
theorem setup_apart (width height posY : UInt16) (symbolFlags : UInt32) (hwidth : 51 ≤ width.toNat)
    (hheight : posY.toNat + 25 ≤ height.toNat) :
    let symbols := (StatusBar.setup width height symbolFlags posY).symbols
    symbols.Pairwise PlacedSymbol.Apart ∧
      ∀ sym ∈ symbols, sym.right ≤ width.toNat ∧ sym.bottom ≤ height.toNat := by
  have hpacked := packed_setup symbolFlags hwidth hheight
  refine ⟨hpacked.apart, fun sym hsym => ?_⟩
  have hbottom := bottom_le sym
  rcases hpacked.inPlace sym hsym with ⟨-, hright, hposY⟩ | ⟨-, rfl⟩ | ⟨-, hright, hlock, -⟩
  · rw [hposY] at hbottom
    exact ⟨by omega, by omega⟩
  · rw [right_name]
    exact ⟨by omega, hbottom.trans (by dsimp only; omega)⟩
  · exact ⟨by omega, by omega⟩

/-- All six symbols on the display of the box. -/
theorem setup_apart_display :
    let symbols := (StatusBar.setup 128 32 0x77 0).symbols
    symbols.Pairwise PlacedSymbol.Apart ∧
      ∀ sym ∈ symbols, sym.right ≤ 128 ∧ sym.bottom ≤ 32 :=
  setup_apart 128 32 0 0x77 (by decide) (by decide)

end

/-- The status bar of `statusDisplay::setup`. -/
def displayBar : StatusBar := .setup 128 32 (1 <<< (2 : UInt32) ||| 1 <<< (6 : UInt32)) 0

def wifiPlace : PlacedSymbol := ⟨.wifiStrengthIcon, 119, 0⟩
def lockPlace : PlacedSymbol := ⟨.lockIcon, 122, 23⟩

/-- The display has two symbols, each in its own corner. -/
lemma symbols_displayBar : displayBar.symbols = [wifiPlace, lockPlace] := by decide +kernel

/-! ## Drawing -/

def noWifiSymbol : List UInt8 := [0x18, 0x66, 0x46, 0x89, 0x91, 0x62, 0x66, 0x18]
def lockedSymbol : List UInt8 := [0x00, 0x70, 0x88, 0x88, 0xF8, 0xD8, 0xD8, 0xF8]
def unlckdSymbol : List UInt8 := [0x70, 0x88, 0x80, 0x80, 0xF8, 0xD8, 0xD8, 0xF8]

/-- What the symbols show. -/
structure StatusReadings where
  wifidbm : Int8
  connected : Bool
  ssidNdx : UInt8
  keyLockState : KeyLockState

/-- Source `wifiStrengthValues`. -/
def wifiStrengthValues : List Int8 := [-70, -67, -60, -56]

/-- The bars of the loop in `wifiStrengthIcon::printSym`. -/
def strengthBars (wifidbm : Int8) : List ℕ :=
  (List.range 4).takeWhile fun bar => wifidbm ≥ wifiStrengthValues.getD bar 0

namespace PlacedSymbol
variable (g : Gfx)

def clearDisplayPos (s : PlacedSymbol) (b : g.Buffer) : g.Buffer :=
  g.fillRect b s.posX.toNat s.posY.toNat s.symbol.width.toNat s.symbol.height.toNat false

/-- Source `wifiStrengthIcon::printSym`. -/
def printWifi (s : PlacedSymbol) (b : g.Buffer) (r : StatusReadings) : g.Buffer :=
  let posX : ℤ := s.posX.toNat
  let posY : ℤ := s.posY.toNat
  let b := s.clearDisplayPos g b
  let b :=
    if r.wifidbm < -70 || r.wifidbm = 0 || !r.connected then
      g.drawBitmap b posX posY noWifiSymbol 8 8 true
    else
      run (fun b (bar : ℕ) =>
        g.drawFastVLine b (7 + posX - 2 * bar) (6 + posY - 2 * bar) (1 + 2 * bar) true)
        b (strengthBars r.wifidbm)
  (g.print b (posX + 3) (posY + 8) {} (padded 0 r.ssidNdx.toNat)).1

/-- Source `lockIcon::printSym`. -/
def printLock (s : PlacedSymbol) (b : g.Buffer) (r : StatusReadings) : g.Buffer :=
  let symMem := if r.keyLockState = .unlockedIdle then unlckdSymbol else lockedSymbol
  g.drawBitmap (s.clearDisplayPos g b) s.posX.toNat s.posY.toNat symMem 5 8 true

/-- Source `printSym`, of the two symbols that the display asks for. -/
def printSym (s : PlacedSymbol) (b : g.Buffer) (r : StatusReadings) : g.Buffer :=
  match s.symbol with
  | .wifiStrengthIcon => s.printWifi g b r
  | .lockIcon => s.printLock g b r
  | .stateOfChargeIcon | .stateOfChargeValue | .playerName | .standbyIcon => b

end PlacedSymbol

/-- Source `printStatus`, of the status bar of the display. -/
def printStatus (g : Gfx) (b : g.Buffer) (r : StatusReadings) : g.Buffer :=
  run (fun b sym => sym.printSym g b r) b displayBar.symbols

/-! ## The status as a layer -/

/-- The bars of a strength, or the symbol for none. -/
def strengthLayers (r : StatusReadings) : List (Layer Pixel) :=
  if r.wifidbm < -70 || r.wifidbm = 0 || !r.connected then [stamped 119 0 noWifiSymbol 8 8 true]
  else
    (strengthBars r.wifidbm).map fun (bar : ℕ) =>
      filled (126 - 2 * bar) (6 - 2 * bar) 1 (1 + 2 * bar) true

def lockLayers (r : StatusReadings) : List (Layer Pixel) :=
  let symMem := if r.keyLockState = .unlockedIdle then unlckdSymbol else lockedSymbol
  [filled 122 23 5 8 false, stamped 122 23 symMem 5 8 true]

def statusLayers (glyph : Char → ℤ → ℤ → Bool) (r : StatusReadings) : List (Layer Pixel) :=
  filled 119 0 8 16 false :: strengthLayers r
    ++ inked glyph 122 8 {} (padded 0 r.ssidNdx.toNat) :: lockLayers r

def statusLayer (glyph : Char → ℤ → ℤ → Bool) (r : StatusReadings) : Layer Pixel :=
  .stacked (statusLayers glyph r)

/-- The places of the symbols; the number below the strength takes one column more. -/
def statusArea (p : Pixel) : Bool :=
  onScreen p && (inRect 119 0 8 16 p || inRect 122 8 6 8 p || inRect 122 23 5 8 p)

variable {g : Gfx} {b : g.Buffer} {r : StatusReadings} {p : Pixel}

/-- The loop over the bars, as layers one over the other. -/
lemma picture_bars {bars : List ℕ} :
    g.picture (run (fun b (bar : ℕ) =>
        g.drawFastVLine b (7 + 119 - 2 * bar) (6 + 0 - 2 * bar) (1 + 2 * bar) true) b bars)
      = run (fun c l => l.onto c) (g.picture b) (bars.map fun (bar : ℕ) =>
          filled (126 - 2 * bar) (6 - 2 * bar) 1 (1 + 2 * bar) true) := by
  induction bars using List.reverseRecOn with
  | nil => rfl
  | append_singleton bars bar ih =>
    rw [run_concat, g.picture_drawFastVLine, ih, List.map_append, List.map_singleton, run_concat]
    rfl

/-- The place of the strength is cleared. -/
lemma picture_clearWifi :
    g.picture (wifiPlace.clearDisplayPos g b) = (filled 119 0 8 16 false).onto (g.picture b) :=
  g.picture_fillRect ..

/-- The symbol of the strength with its number. -/
lemma picture_printWifi : g.picture (wifiPlace.printWifi g b r)
    = run (fun c l => l.onto c) (g.picture b) (filled 119 0 8 16 false :: strengthLayers r
        ++ [inked g.glyph 122 8 {} (padded 0 r.ssidNdx.toNat)]) := by
  have hx : (wifiPlace.posX.toNat : ℤ) = 119 := rfl
  have hy : (wifiPlace.posY.toNat : ℤ) = 0 := rfl
  simp only [PlacedSymbol.printWifi, g.picture_print _ _ _ _ _ legible_default printable_padded, hx,
    hy]
  rw [run_concat]
  congr 1
  rw [strengthLayers]
  split_ifs
  · rw [g.picture_drawBitmap _ _ _ _ _ _ _ le_rfl (by decide), picture_clearWifi]
    rfl
  · rw [picture_bars, picture_clearWifi]
    rfl

/-- The symbol of the lock. -/
lemma picture_printLock : g.picture (lockPlace.printLock g b r)
    = run (fun c l => l.onto c) (g.picture b) (lockLayers r) := by
  have hrows : (8 : ℤ) ≤ (if r.keyLockState = .unlockedIdle then unlckdSymbol
      else lockedSymbol).length := by
    split_ifs <;> exact le_rfl
  rw [PlacedSymbol.printLock, g.picture_drawBitmap _ _ _ _ _ _ _ (by norm_num) hrows,
    PlacedSymbol.clearDisplayPos, g.picture_fillRect]
  rfl

/-- Both symbols together are one layer over what was there. -/
lemma picture_printStatus :
    g.picture (printStatus g b r) = (statusLayer g.glyph r).onto (g.picture b) := by
  have hsymbols : printStatus g b r = lockPlace.printLock g (wifiPlace.printWifi g b r) r := by
    rw [printStatus, symbols_displayBar]
    rfl
  rw [hsymbols, picture_printLock, picture_printWifi, ← run_append, statusLayer,
    ← Layer.onto_stacked, statusLayers, List.append_assoc]
  rfl

/-! ## Where it is painted -/

/-- There are at most four bars. -/
lemma mem_strengthBars {wifidbm : Int8} {bar : ℕ} (h : bar ∈ strengthBars wifidbm) : bar < 4 :=
  List.mem_range.mp (List.takeWhile_subset _ h)

/-- The strength stays in the upper half of its place. -/
lemma inRect_of_strengthLayers {l : Layer Pixel} (hl : l ∈ strengthLayers r) (h : (l p).isSome) :
    onScreen p = true ∧ inRect 119 0 8 8 p = true := by
  rw [strengthLayers] at hl
  split_ifs at hl
  · obtain rfl := List.mem_singleton.mp hl
    rw [isSome_stamped] at h
    exact ⟨h.1, h.2.1⟩
  · obtain ⟨bar, hbar, rfl⟩ := List.mem_map.mp hl
    have hlt := mem_strengthBars hbar
    rw [isSome_filled, inRect_iff] at h
    refine ⟨h.1, inRect_iff.mpr ?_⟩
    omega

/-- What is painted does not depend on what is shown. -/
lemma isSome_statusLayer {glyph : Char → ℤ → ℤ → Bool} :
    (statusLayer glyph r p).isSome ↔ statusArea p = true := by
  have hdigits : 0 < (padded 0 r.ssidNdx.toNat).length := List.length_pos_iff.mpr padded_ne_nil
  have hnumber : (inked glyph 122 8 {} (padded 0 r.ssidNdx.toNat) p).isSome ↔
      onScreen p = true ∧ inRect 122 8 6 8 p = true := by
    rw [isSome_inked rfl]
    refine and_congr_right fun hscreen => ?_
    rw [onScreen_iff, screenWidth, screenHeight] at hscreen
    simp only [inRect_iff, Nat.cast_one, mul_one]
    omega
  rw [statusLayer, Layer.isSome_stacked, statusLayers]
  simp only [statusArea, Bool.and_eq_true, Bool.or_eq_true]
  constructor
  · rintro ⟨l, hl, hp⟩
    simp only [lockLayers, List.cons_append, List.mem_cons, List.mem_append, List.not_mem_nil,
      or_false] at hl
    rcases hl with rfl | hl | rfl | rfl | rfl
    · exact ⟨(isSome_filled.mp hp).1, .inl (.inl (isSome_filled.mp hp).2)⟩
    · obtain ⟨hscreen, hrect⟩ := inRect_of_strengthLayers hl hp
      refine ⟨hscreen, .inl (.inl ?_)⟩
      rw [inRect_iff] at hrect ⊢
      omega
    · exact ⟨(hnumber.mp hp).1, .inl (.inr (hnumber.mp hp).2)⟩
    · exact ⟨(isSome_filled.mp hp).1, .inr (isSome_filled.mp hp).2⟩
    · exact ⟨(isSome_stamped.mp hp).1, .inr (isSome_stamped.mp hp).2.1⟩
  · rintro ⟨hscreen, (hwifi | hdigit) | hlock⟩
    · exact ⟨filled 119 0 8 16 false, by simp, isSome_filled.mpr ⟨hscreen, hwifi⟩⟩
    · exact ⟨_, by simp, hnumber.mpr ⟨hscreen, hdigit⟩⟩
    · exact ⟨filled 122 23 5 8 false, by simp [lockLayers], isSome_filled.mpr ⟨hscreen, hlock⟩⟩

end AstroPowerBox.Display
