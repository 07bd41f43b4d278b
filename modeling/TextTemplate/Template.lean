import TextTemplate.Template.Reader

/-!
# Templates

A template is its source together with the tree that the source spells.
-/

namespace TextTemplate

structure Template where
  source : String
  nodes : List Node
deriving DecidableEq, Repr

def Template.parse (source : String) : Except Error Template :=
  match Reader.read source.toList with
  | .ok nodes => .ok ⟨source, nodes⟩
  | .error fault => .error (fault.within source)

theorem Template.source_of_parse {source : String} {t : Template}
    (h : Template.parse source = .ok t) : t.source = source := by
  unfold parse at h
  split at h <;> cases h
  rfl

end TextTemplate
