/-!
# Literal text

Text written so that it stands for itself in a template: every `%` is doubled.
-/

namespace TextTemplate.Literal

def escapeChar (c : Char) : List Char :=
  if c = '%' then ['%', '%'] else [c]

/-- The template source that renders as `text`. -/
def escape (text : String) : String :=
  String.ofList (text.toList.flatMap escapeChar)

@[simp] theorem escape_append (a b : String) : escape (a ++ b) = escape a ++ escape b := by
  simp [escape, String.ofList_append]

end TextTemplate.Literal
