import TextTemplate.Proofs.Trees
import TextTemplate.Render

/-!
# Rendering in two monads

Rendering leaves the monad open. A `Likeness` relates the runs of two monads in a way that
sequencing keeps, so that what is rendered is alike wherever the surroundings are.
-/

namespace TextTemplate

/-- A relation between the runs of two monads. -/
structure Likeness (m n : Type → Type) [Monad m] [Monad n] where
  Alike : {α : Type} → m α → n α → Prop
  pure {α : Type} (a : α) : Alike (pure a) (pure a)
  bind {α β : Type} {x : m α} {y : n α} {f : α → m β} {g : α → n β} :
    Alike x y → (∀ a, Alike (f a) (g a)) → Alike (x >>= f) (y >>= g)

variable {m n : Type → Type} [Monad m] [Monad n]

theorem Likeness.discard [LawfulMonad m] [LawfulMonad n] (like : Likeness m n) {α : Type} {x : m α}
    {y : n α} (h : like.Alike x y) : like.Alike (discard x) (discard y) := by
  simp only [Functor.discard, LawfulFunctor.map_const, Function.comp_apply, map_eq_pure_bind]
  exact like.bind h fun _ => like.pure _

/-! ### Trees -/

structure Host.Alike (like : Likeness m n) (host : Host m) (host' : Host n) : Prop where
  value v : like.Alike (host.value v) (host'.value v)
  condition test : like.Alike (host.condition test) (host'.condition test)
  layout : host.layout = host'.layout

namespace Node

mutual

theorem alike_render [LawfulMonad m] [LawfulMonad n] {like : Likeness m n} {host : Host m}
    {host' : Host n} (h : host.Alike like host') :
    ∀ node : Node, like.Alike (render host node) (render host' node)
  | .text s => like.pure s
  | .value v => h.value v
  | .probe test => like.bind (like.discard (h.condition test)) fun _ => like.pure _
  | .guard test yes => by
    refine like.bind (h.condition test) fun holds => ?_
    rw [h.layout]
    cases holds with
    | true => exact like.bind (alike_renderAll h yes) fun _ => like.pure _
    | false => exact like.pure _
  | .choice test yes no => by
    refine like.bind (h.condition test) fun holds => ?_
    rw [h.layout]
    cases holds with
    | true => exact like.bind (alike_renderAll h yes) fun _ => like.pure _
    | false => exact like.bind (alike_renderAll h no) fun _ => like.pure _

/-- A sequence renders alike where the surroundings answer alike. -/
theorem alike_renderAll [LawfulMonad m] [LawfulMonad n] {like : Likeness m n} {host : Host m}
    {host' : Host n} (h : host.Alike like host') :
    ∀ nodes : List Node, like.Alike (renderAll host nodes) (renderAll host' nodes)
  | [] => like.pure _
  | node :: nodes =>
    like.bind (alike_render h node) fun _ =>
      like.bind (alike_renderAll h nodes) fun _ => like.pure _

end

/-! ### Sequences -/

theorem renderAll_append [LawfulMonad m] (host : Host m) (a b : List Node) :
    renderAll host (a ++ b) = (do
      let x ← renderAll host a
      let y ← renderAll host b
      return x ++ y) := by
  induction a with
  | nil => simp only [List.nil_append, renderAll, pure_bind, String.empty_append, bind_pure]
  | cons node a ih =>
    simp only [List.cons_append, renderAll, ih, bind_assoc, pure_bind, String.append_assoc]

theorem renderAll_singleton [LawfulMonad m] (host : Host m) (node : Node) :
    renderAll host [node] = render host node := by
  simp only [renderAll, pure_bind, String.append_empty, bind_pure]

theorem renderAll_consText [LawfulMonad m] (host : Host m) (s : String) (nodes : List Node) :
    renderAll host (consText s nodes) = renderAll host (.text s :: nodes) := by
  simp only [renderAll, render, pure_bind]
  by_cases hs : s = ""
  · subst hs
    simp only [consText_empty, String.empty_append, bind_pure]
  cases nodes with
  | nil => simp [consText, hs, renderAll, render]
  | cons node nodes =>
    cases node with
    | text t =>
      simp only [consText, renderAll, render, pure_bind, bind_assoc, String.append_assoc]
    | _ => simp [consText, hs, renderAll, render]

/-- Texts render the same when they are joined. -/
@[simp] theorem renderAll_merge [LawfulMonad m] (host : Host m) (nodes : List Node) :
    renderAll host (merge nodes) = renderAll host nodes := by
  induction nodes with
  | nil => rfl
  | cons node nodes ih =>
    cases node with
    | text s => simp [renderAll_consText, renderAll, ih]
    | _ => simp [merge, renderAll, ih]

end Node

/-! ### Templates -/

structure Environment.Alike [MonadExceptOf Error m] [MonadExceptOf Error n] (like : Likeness m n)
    (env : Environment m) (env' : Environment n) : Prop where
  value name : like.Alike (env.value name) (env'.value name)
  isRecursive name : like.Alike (env.isRecursive name) (env'.isRecursive name)
  condition name : like.Alike (env.condition name) (env'.condition name)
  fetch name depth text : like.Alike (env.fetch name depth text) (env'.fetch name depth text)
  layout : env.layout = env'.layout
  fail {α : Type} (e : Error) : like.Alike (throw e : m α) (throw e : n α)

namespace Template

variable [MonadExceptOf Error m] [MonadExceptOf Error n] [LawfulMonad m] [LawfulMonad n]
  {like : Likeness m n} {env : Environment m} {env' : Environment n}

/-- Templates with one tree render alike where the surroundings answer alike, if they stop alike. -/
theorem alike_renderWith_of_nodes (h : env.Alike like env') {t t' : Template}
    (same : t.nodes = t'.nodes)
    (stops : ∀ {α : Type} cause span,
      like.Alike (t.stop cause span : m α) (t'.stop cause span : n α))
    {expand : Value → String → m String} {expand' : Value → String → n String}
    (expands : ∀ v text, like.Alike (expand v text) (expand' v text)) :
    like.Alike (t.renderWith env expand) (t'.renderWith env' expand') := by
  rw [renderWith, renderWith, ← same]
  refine Node.alike_renderAll ⟨fun v => ?_, fun test => ?_, h.layout⟩ t.nodes
  · refine like.bind (h.value _) fun found => ?_
    cases found with
    | none => exact stops _ _
    | some text =>
      refine like.bind (h.isRecursive _) fun recursive => ?_
      cases recursive with
      | true => exact like.bind (expands v text) fun _ => like.pure _
      | false => exact like.bind (like.pure _) fun _ => like.pure _
  · refine like.bind (h.condition _) fun found => ?_
    cases found with
    | none => exact stops _ _
    | some holds => exact like.pure _

theorem alike_renderWith (h : env.Alike like env') {expand : Value → String → m String}
    {expand' : Value → String → n String}
    (expands : ∀ v text, like.Alike (expand v text) (expand' v text)) (t : Template) :
    like.Alike (t.renderWith env expand) (t.renderWith env' expand') :=
  alike_renderWith_of_nodes h rfl (fun _ _ => h.fail _) expands

/-- A template renders alike where the surroundings answer alike, however deep it expands. -/
theorem alike_renderWithin (h : env.Alike like env') (limit left : Nat) (t : Template) :
    like.Alike (t.renderWithin env limit left) (t.renderWithin env' limit left) := by
  induction left generalizing t with
  | zero => exact alike_renderWith h (fun _ _ => h.fail _) t
  | succ left ih => exact alike_renderWith h (fun _ _ => like.bind (h.fetch _ _ _) ih) t

/-- A template renders alike with more levels of expansion left, if reaching the limit is like
whatever comes of going on. -/
theorem alike_levels (h : env.Alike like env') {limit limit' left left' : Nat}
    (more : left ≤ left')
    (limited : ∀ (e : Error) (y : n String), e.kind = .recursionLimit → like.Alike (throw e) y)
    (fetched : ∀ name depth depth' text,
      like.Alike (env.fetch name depth text) (env'.fetch name depth' text)) (t : Template) :
    like.Alike (t.renderWithin env limit left) (t.renderWithin env' limit' left') := by
  induction left generalizing left' t with
  | zero => cases left' <;> exact alike_renderWith h (fun _ _ => limited _ _ rfl) t
  | succ left ih =>
    cases left' with
    | zero => omega
    | succ left' =>
      refine alike_renderWith h (fun v text => ?_) t
      exact like.bind (fetched _ _ _ text) (ih (by omega))

end Template

end TextTemplate
