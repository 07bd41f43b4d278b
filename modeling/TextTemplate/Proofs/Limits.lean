import Mathlib.Control.Monad.Basic
import TextTemplate.Proofs.Caching

/-!
# More levels of expansion

Rendering looks at the limit only where it would go beyond it. What does not end there is the same
with any higher limit.
-/

namespace TextTemplate

def WithinLimit {α : Type} (x : Except Error α) : Prop :=
  ∀ e, x = .error e → e.kind ≠ .recursionLimit

/-- The two are the same, unless the first ends at the limit. -/
def unlessLimited : Likeness (Except Error) (Except Error) where
  Alike x y := WithinLimit x → y = x
  pure _ := fun _ => rfl
  bind := by
    intro α β x y f g same next within
    cases x with
    | error e =>
      have stopped : y = .error e := same fun e' failed => by
        cases failed
        exact within e rfl
      rw [stopped]
      rfl
    | ok a =>
      rw [same fun _ failed => nomatch failed]
      exact next a within

theorem unlessLimited_refl {α : Type} (x : Except Error α) : unlessLimited.Alike x x :=
  fun _ => rfl

theorem unlessLimited_limit {α : Type} {e : Error} (limited : e.kind = .recursionLimit)
    (y : Except Error α) : unlessLimited.Alike (.error e) y :=
  fun within => absurd limited (within e rfl)

section
variable {limit limit' : Nat}

theorem evaluate_unlessLimited (more : limit ≤ limit') (t : Template) (tables : Tables) :
    unlessLimited.Alike (t.evaluate limit tables) (t.evaluate limit' tables) := by
  have env : Environment.Alike unlessLimited
      (.ofTables tables fun _ _ text => Template.parse text)
      (.ofTables tables fun _ _ text => Template.parse text) :=
    ⟨fun _ => unlessLimited_refl _, fun _ => unlessLimited_refl _, fun _ => unlessLimited_refl _,
      fun _ _ _ => unlessLimited_refl _, rfl, fun _ => unlessLimited_refl _⟩
  exact Template.alike_levels env more (fun _ _ limited => unlessLimited_limit limited _)
    (fun _ _ _ _ => unlessLimited_refl _) t

theorem format_of_le {source : String} {bindings : Bindings} (more : limit ≤ limit')
    (within : WithinLimit (format limit source bindings)) :
    format limit' source bindings = format limit source bindings :=
  unlessLimited.bind (unlessLimited_refl (Template.parse source))
    (fun t => evaluate_unlessLimited more t bindings.resolve) within

end

/-! ### Engines -/

namespace Engine

/-- Where an engine does not end at its limit, any engine that goes as deep or deeper comes to the
same, whatever the two have been asked before. -/
theorem Client.format_of_maxDepth_le (requests requests' : List Request) (source : String)
    (bindings : Bindings)
    (more : (serveAll {} requests).2.engine.maxDepth ≤ (serveAll {} requests').2.engine.maxDepth)
    (within : WithinLimit ((serveAll {} requests).2.engine.format source bindings).result) :
    ((serveAll {} requests').2.engine.format source bindings).result =
      ((serveAll {} requests).2.engine.format source bindings).result := by
  rw [result_format (coherent_serveAll requests)] at within ⊢
  rw [result_format (coherent_serveAll requests')]
  exact format_of_le more within

theorem Client.format_of_maxDepth_le_nested :
    let bindings := (Bindings.empty.insert "a" (.value "%[b]%")).insertRecursive "a"
    let shallow := (serveAll {} [.setMaxDepth 1]).2.engine
    let deep := (serveAll {} [.format "%[a]%" bindings, .setMaxDepth 5]).2.engine
    (shallow.format "n%[a]%" bindings).result =
        .error ⟨⟨.unknownVariable "b", ⟨2, 3⟩⟩, "%[b]%"⟩ ∧
      (deep.format "n%[a]%" bindings).result = (shallow.format "n%[a]%" bindings).result := by
  intro bindings shallow deep
  have failed : (shallow.format "n%[a]%" bindings).result =
      .error ⟨⟨.unknownVariable "b", ⟨2, 3⟩⟩, "%[b]%"⟩ := by
    rw [result_format (coherent_of_empty rfl)]
    decide +kernel
  have more : 1 ≤ 5 := by decide
  refine ⟨failed, format_of_maxDepth_le _ _ _ _ more fun e same => ?_⟩
  cases failed.symm.trans same
  decide

end Engine

end TextTemplate
