import InferenceGateway.Provider.Basic

/-!
# A value for each provider

`Provider.Table α` holds one value of `α` for every provider. What `set` does is said by
`get_set`: the value of one provider changes, the others stay.
-/

namespace InferenceGateway

/-- One value for each provider. -/
structure Provider.Table (α : Type) where
  jan : α
  openRouter : α
  gemini : α
  deriving DecidableEq, Repr

namespace Provider.Table

/-- The same value for each provider. -/
def const (a : α) : Table α := ⟨a, a, a⟩

/-- The value of a provider. -/
def get (t : Table α) : Provider → α
  | .jan => t.jan
  | .openRouter => t.openRouter
  | .gemini => t.gemini

/-- Puts the value of a provider. -/
def set (t : Table α) (p : Provider) (a : α) : Table α :=
  match p with
  | .jan => { t with jan := a }
  | .openRouter => { t with openRouter := a }
  | .gemini => { t with gemini := a }

@[simp] theorem get_const (a : α) (p : Provider) : (const a).get p = a := by
  cases p <;> rfl

theorem get_set (t : Table α) (p q : Provider) (a : α) :
    (t.set p a).get q = if p = q then a else t.get q := by
  cases p <;> cases q <;> rfl

theorem ext_get {s t : Table α} (h : ∀ p, s.get p = t.get p) : s = t := by
  cases s; cases t
  have hj := h .jan
  have ho := h .openRouter
  have hg := h .gemini
  simp_all [get]

end Provider.Table

end InferenceGateway
