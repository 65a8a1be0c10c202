import Mathlib.Data.List.Basic

/-!
# Tables in a text

A line is made of cells with a separator between them. A cell is a text without a separator and
without a line end (`Cell`), so that a line can be taken apart again. `records` reads the lines of a
text and skips empty ones: it does not matter whether the last line is ended, or ended twice.
-/

namespace Foundation

/-- The text of a cell. -/
structure Cell (sep : Char) where
  text : List Char
  sep_notMem : sep ∉ text
  newline_notMem : '\n' ∉ text

section
variable {sep : Char}

def line (cells : List (Cell sep)) : List Char := [sep].intercalate (cells.map Cell.text)

/-- The texts of the cells of a row. -/
def cellTexts (cells : List (Cell sep)) : List (List Char) := cells.map Cell.text

/-- The rows of a text, each with the texts of its cells. -/
def records (sep : Char) (text : List Char) : List (List (List Char)) :=
  ((text.splitOn '\n').filter (· ≠ [])).map (·.splitOn sep)

variable {cells : List (Cell sep)} {a b : List Char}

@[simp] lemma records_nil : records sep [] = [] := by
  simp [records]

/-- Reading can stop at a line end and go on behind it. -/
lemma records_newline : records sep (a ++ '\n' :: b) = records sep a ++ records sep b := by
  rw [records, List.splitOn_append_cons_self, List.filter_append, List.map_append]
  rfl

@[simp] lemma records_ended : records sep (a ++ ['\n']) = records sep a := by
  rw [records_newline, records_nil, List.append_nil]

/-- Texts without line ends have none when they are joined. -/
lemma newline_notMem_intercalate {texts : List (List Char)} (hsep : sep ≠ '\n')
    (h : ∀ text ∈ texts, '\n' ∉ text) : '\n' ∉ [sep].intercalate texts := by
  induction texts with
  | nil => simp
  | cons text texts ih =>
    cases texts with
    | nil => simpa using h text (by simp)
    | cons next rest =>
      rw [List.intercalate_cons_cons]
      have htail := ih fun t ht => h t (List.mem_cons_of_mem _ ht)
      simp only [List.mem_append, List.mem_singleton, not_or]
      exact ⟨⟨h text (by simp), Ne.symm hsep⟩, htail⟩

/-- A row stays on its line. -/
lemma newline_notMem_line (hsep : sep ≠ '\n') : '\n' ∉ line cells := by
  refine newline_notMem_intercalate hsep fun text htext => ?_
  obtain ⟨cell, -, rfl⟩ := List.mem_map.mp htext
  exact cell.newline_notMem

/-- A line of at least two cells has a separator. -/
lemma line_ne_nil (h : 2 ≤ cells.length) : line cells ≠ [] := by
  match cells, h with
  | first :: second :: rest, _ => simp [line, List.intercalate_cons_cons]

/-- A row is split into the texts of its cells. -/
lemma splitOn_line (h : cells ≠ []) : (line cells).splitOn sep = cellTexts cells := by
  refine List.splitOn_intercalate sep ?_ (by simpa using h)
  intro text htext
  obtain ⟨cell, -, rfl⟩ := List.mem_map.mp htext
  exact cell.sep_notMem

/-- A line is read back as it was written. -/
theorem records_line (hsep : sep ≠ '\n') (h : 2 ≤ cells.length) :
    records sep (line cells) = [cellTexts cells] := by
  have hne : cells ≠ [] := List.ne_nil_of_length_pos (by omega)
  rw [records, List.splitOn_eq_singleton (newline_notMem_line hsep),
    List.filter_singleton, decide_eq_true (line_ne_nil h)]
  simp only [cond_true, List.map_singleton, splitOn_line hne]

end
end Foundation
