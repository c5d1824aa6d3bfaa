import InjectionPlan.Text.Range

/-! # Blank characters and trimming

    Markers are written by hand, so the texts in them are read with the blanks
    at both ends removed.  A blank is a character with the property White_Space:
    the ASCII blanks, the two line separators, the no-break spaces and the
    typographic spaces.

    Main statement: a trimmed text neither starts nor ends with a blank
    (`trimmed_head`, `trimmed_last`).
-/

namespace InjectionPlan.Text

/-- The property White_Space. -/
def blankTable : List CodeRange :=
  [⟨0x9, 0xd⟩, ⟨0x20, 0x20⟩, ⟨0x85, 0x85⟩, ⟨0xa0, 0xa0⟩, ⟨0x1680, 0x1680⟩, ⟨0x2000, 0x200a⟩,
   ⟨0x2028, 0x2029⟩, ⟨0x202f, 0x202f⟩, ⟨0x205f, 0x205f⟩, ⟨0x3000, 0x3000⟩]

/-- Whether the character is blank. -/
def isBlank (c : Char) : Bool := inTable blankTable c

/-- The characters without the blanks at both ends. -/
def trimmed (cs : List Char) : List Char :=
  ((cs.dropWhile isBlank).reverse.dropWhile isBlank).reverse

/-- The text without the blanks at both ends. -/
def trim (s : String) : String := String.ofList (trimmed s.toList)

theorem toList_trim (s : String) : (trim s).toList = trimmed s.toList := by
  simp [trim]

/-- Trimming only cuts off at the end once the front is cut. -/
theorem trimmed_prefix (cs : List Char) : trimmed cs <+: cs.dropWhile isBlank := by
  have h := List.dropWhile_suffix isBlank (l := (cs.dropWhile isBlank).reverse)
  rw [← List.reverse_prefix, List.reverse_reverse] at h
  exact h

theorem trimmed_head {cs : List Char} (h : trimmed cs ≠ []) :
    isBlank ((trimmed cs).head h) = false := by
  obtain ⟨rest, hrest⟩ := trimmed_prefix cs
  have hne : cs.dropWhile isBlank ≠ [] := by
    intro e
    rw [e] at hrest
    exact h (List.append_eq_nil_iff.1 hrest).1
  have hhead : (cs.dropWhile isBlank).head hne = (trimmed cs).head h := by
    simp only [← hrest, List.head_append_of_ne_nil h]
  rw [← hhead]
  simpa using List.head_dropWhile_not isBlank hne

theorem trimmed_last {cs : List Char} (h : trimmed cs ≠ []) :
    isBlank ((trimmed cs).getLast h) = false := by
  have hne : (cs.dropWhile isBlank).reverse.dropWhile isBlank ≠ [] := by
    simpa [trimmed] using h
  have := List.head_dropWhile_not isBlank hne
  simpa [trimmed, List.getLast_reverse] using this

end InjectionPlan.Text
