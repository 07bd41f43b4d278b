/-!
# Lines

A text falls into lines at every Unicode line boundary, with a carriage return and the line feed
after it taken as one. The boundary at the very end of a text starts no further line.
-/

namespace TextTemplate.Text

/-- The characters that end a line: line feed, carriage return, vertical tab, form feed, the file,
group and record separators, next line, and the line and paragraph separators. -/
def isLineBoundary (c : Char) : Bool :=
  ['\n', '\x0d', '\x0b', '\x0c', '\x1c', '\x1d', '\x1e', '\u0085', '\u2028', '\u2029'].contains c

theorem isLineBoundary_iff {c : Char} : isLineBoundary c = true ↔
    c ∈ ['\n', '\r', '\x0b', '\x0c', '\x1c', '\x1d', '\x1e', '\u0085', '\u2028', '\u2029'] := by
  simp [isLineBoundary]

def consLine (c : Char) : List (List Char) → List (List Char)
  | [] => [[c]]
  | line :: lines => (c :: line) :: lines

def lines : List Char → List (List Char)
  | [] => []
  | '\r' :: '\n' :: rest => [] :: lines rest
  | c :: rest => if isLineBoundary c then [] :: lines rest else consLine c (lines rest)

@[simp] theorem lines_nil : lines [] = [] := rfl

@[simp] theorem lines_crlf (rest : List Char) : lines ('\r' :: '\n' :: rest) = [] :: lines rest :=
  rfl

theorem lines_text {c : Char} (h : isLineBoundary c = false) (rest : List Char) :
    lines (c :: rest) = consLine c (lines rest) := by
  have hc : c ≠ '\r' := by rintro rfl; exact absurd h (by decide)
  rw [lines]
  · simp [h]
  · rintro _ rfl; exact absurd rfl hc

theorem lines_boundary {c : Char} (h : isLineBoundary c = true) (hc : c ≠ '\r')
    (rest : List Char) : lines (c :: rest) = [] :: lines rest := by
  rw [lines]
  · simp [h]
  · rintro _ rfl; exact absurd rfl hc

end TextTemplate.Text
