import Mathlib.Algebra.Order.Ring.Nat
import Mathlib.Data.List.TakeWhile
import Mathlib.Data.Nat.Digits.Defs

/-!
# Decimal texts

The integer conversions of `printf`, with a width that is filled up with zeros, and fixed-point texts:
an optional minus sign, which may be escaped with a backslash, an integer part, a separator, and as
many digits as the fraction has. `parseUnsigned_padded` reads back what is printed from the two parts
of a number, and `parseFixed_unsigned`, `parseFixed_minus` and `parseFixed_escaped` take off the sign.
-/

namespace Foundation.Decimal

/-! ## Printing -/

/-- The digits of a number, filled up with zeros to a width. -/
def padded (width n : ℕ) : List Char :=
  .replicate (width - (Nat.toDigits 10 n).length) '0' ++ Nat.toDigits 10 n

/-- The conversion `%0wd`; without a width it is `%d`. -/
def printInt (width : ℕ) (x : ℤ) : List Char :=
  if x < 0 then '-' :: padded (width - 1) x.natAbs else padded width x.natAbs

/-- One line of the printable characters of ASCII. -/
def Printable (text : List Char) : Prop := ∀ c ∈ text, ' ' ≤ c ∧ c ≤ '~'

instance (text : List Char) : Decidable (Printable text) := List.decidableBAll _ text

/-! ## Reading -/

/-- The number that a text of digits stands for. -/
def parse (text : List Char) : Option ℕ :=
  if text ≠ [] ∧ text.all Char.isDigit then some (Nat.ofDigitChars 10 text 0) else none

/-- A fixed-point text without a sign, in units of the last of `k` digits. -/
def parseUnsigned (sep : Char) (k : ℕ) (text : List Char) : Option ℕ := do
  let whole ← parse (text.takeWhile (· != sep))
  let fraction := (text.dropWhile (· != sep)).tail
  let digits ← parse fraction
  if fraction.length = k then some (10 ^ k * whole + digits) else none

/-- A fixed-point text. -/
def parseFixed (sep : Char) (k : ℕ) : List Char → Option ℤ
  | '\\' :: '-' :: text => (parseUnsigned sep k text).map fun n => -n
  | '-' :: text => (parseUnsigned sep k text).map fun n => -n
  | text => (parseUnsigned sep k text).map fun n => n

/-! ## What is printed is read back -/

variable {width n k q f : ℕ} {sep c : Char} {rest : List Char}

/-- Zeros and digits are digits. -/
lemma isDigit_of_mem_padded (h : c ∈ padded width n) : c.isDigit = true := by
  rcases List.mem_append.mp h with h | h
  · rw [List.eq_of_mem_replicate h]
    rfl
  · exact Nat.isDigit_of_mem_toDigits (by decide) (by decide) h

lemma padded_ne_nil : padded width n ≠ [] := by
  simp [padded, Nat.toDigits_ne_nil]

/-! ### Printable texts -/

section
variable {text text' : List Char}

@[simp] lemma printable_nil : Printable [] := fun _ hc => absurd hc List.not_mem_nil

@[simp] lemma printable_cons : Printable (c :: text) ↔ (' ' ≤ c ∧ c ≤ '~') ∧ Printable text :=
  List.forall_mem_cons

@[simp] lemma printable_append :
    Printable (text ++ text') ↔ Printable text ∧ Printable text' :=
  List.forall_mem_append

/-- A text that is cut off stays printable. -/
lemma Printable.take (h : Printable text) (n : ℕ) : Printable (text.take n) :=
  fun c hc => h c (List.mem_of_mem_take hc)

/-- Digits are printable. -/
@[simp] lemma printable_padded : Printable (padded width n) := by
  intro c hc
  have hdigit := isDigit_of_mem_padded hc
  rw [Char.isDigit, Bool.and_eq_true, decide_eq_true_iff, decide_eq_true_iff] at hdigit
  have hlow : ' '.val ≤ '0'.val := by decide
  have hhigh : '9'.val ≤ '~'.val := by decide
  exact ⟨UInt32.le_trans hlow hdigit.1, UInt32.le_trans hdigit.2 hhigh⟩

/-- So is a sign. -/
@[simp] lemma printable_printInt {x : ℤ} : Printable (printInt width x) := by
  rw [printInt]
  split_ifs
  · exact printable_cons.mpr ⟨by decide, printable_padded⟩
  · exact printable_padded

end

/-- Leading zeros are read over. -/
@[simp] lemma parse_padded : parse (padded width n) = some n := by
  have hall : (padded width n).all Char.isDigit = true :=
    List.all_eq_true.mpr fun c hc => isDigit_of_mem_padded hc
  rw [parse, if_pos ⟨padded_ne_nil, hall⟩, padded, Nat.ofDigitChars_append]
  simp

/-- A number that fits into the width takes all of it. -/
lemma length_padded (pos : 0 < k) (h : n < 10 ^ k) : (padded k n).length = k := by
  have hle := (Nat.length_toDigits_le_iff (by decide) pos).mpr h
  rw [padded, List.length_append, List.length_replicate]
  omega

/-- What is no digit does not occur. -/
lemma count_padded (hc : c.isDigit = false) : (padded width n).count c = 0 := by
  rw [List.count_eq_zero]
  intro h
  rw [isDigit_of_mem_padded h] at hc
  cases hc

/-- The text is split at the separator. -/
lemma split_padded (width q : ℕ) (rest : List Char) (hsep : sep.isDigit = false) :
    (padded width q ++ sep :: rest).takeWhile (· != sep) = padded width q ∧
      (padded width q ++ sep :: rest).dropWhile (· != sep) = sep :: rest := by
  have hne : ∀ c ∈ padded width q, (c != sep) = true := by
    intro c hc
    rw [bne_iff_ne]
    rintro rfl
    rw [isDigit_of_mem_padded hc] at hsep
    cases hsep
  constructor
  · simp [List.takeWhile_append_of_pos hne]
  · simp [List.dropWhile_append_of_pos hne]

/-- The two parts make up the number. -/
lemma parseUnsigned_padded (hsep : sep.isDigit = false) (pos : 0 < k) (h : f < 10 ^ k) :
    parseUnsigned sep k (padded width q ++ sep :: padded k f) = some (10 ^ k * q + f) := by
  obtain ⟨hwhole, hfraction⟩ := split_padded width q (padded k f) hsep
  simp [parseUnsigned, hwhole, hfraction, length_padded pos h]

/-- A sign after the separator is not read. -/
lemma parseUnsigned_minus (hsep : sep.isDigit = false) :
    parseUnsigned sep k (padded width q ++ sep :: '-' :: rest) = none := by
  obtain ⟨hwhole, hfraction⟩ := split_padded width q ('-' :: rest) hsep
  have hminus : parse ('-' :: rest) = none := if_neg (by simp)
  simp [parseUnsigned, hwhole, hfraction, hminus]

/-- A text that begins with a digit has no sign. -/
lemma parseFixed_unsigned : parseFixed sep k (padded width q ++ rest)
    = (parseUnsigned sep k (padded width q ++ rest)).map fun n => (n : ℤ) := by
  cases hpadded : padded width q with
  | nil => exact absurd hpadded padded_ne_nil
  | cons c text =>
    have hc : c.isDigit = true := by
      apply isDigit_of_mem_padded
      rw [hpadded]
      exact List.mem_cons_self
    rw [List.cons_append, parseFixed.eq_def]
    split
    case h_1 heq =>
      rw [(List.cons.inj heq).1] at hc
      cases hc
    case h_2 heq =>
      rw [(List.cons.inj heq).1] at hc
      cases hc
    case h_3 => rfl

/-- A minus sign is taken off. -/
lemma parseFixed_minus :
    parseFixed sep k ('-' :: rest) = (parseUnsigned sep k rest).map fun n => (-n : ℤ) :=
  rfl

/-- So is an escaped one. -/
lemma parseFixed_escaped :
    parseFixed sep k ('\\' :: '-' :: rest) = (parseUnsigned sep k rest).map fun n => (-n : ℤ) :=
  rfl

end Foundation.Decimal
