/-!
# Rendering passes

A frame draws all solid geometry before any blended geometry. `PerPass` keeps
one value for each of the two.
-/

namespace PolygonRenderer

/-- The pass a polygon belongs to. -/
inductive Pass where
  /-- Drawn first, without blending. -/
  | solid
  /-- Drawn after all solid geometry, with blending, in the order of arrival. -/
  | blended
deriving DecidableEq, Repr

namespace Pass

/-- Both passes in drawing order. -/
def all : List Pass :=
  [solid, blended]

def name : Pass → String
  | solid => "opaque"
  | blended => "alpha"

end Pass

/-- One value for each pass. -/
structure PerPass (α : Type) where
  solid : α
  blended : α
deriving DecidableEq, Repr

namespace PerPass

variable {α : Type}

def both (a : α) : PerPass α :=
  ⟨a, a⟩

def get (v : PerPass α) : Pass → α
  | .solid => v.solid
  | .blended => v.blended

def set (v : PerPass α) (p : Pass) (a : α) : PerPass α :=
  match p with
  | .solid => { v with solid := a }
  | .blended => { v with blended := a }

def modify : PerPass α → Pass → (α → α) → PerPass α
  | ⟨solid, blended⟩, .solid, f => ⟨f solid, blended⟩
  | ⟨solid, blended⟩, .blended, f => ⟨solid, f blended⟩

def map {β : Type} (f : α → β) (v : PerPass α) : PerPass β :=
  ⟨f v.solid, f v.blended⟩

@[simp] theorem get_both (a : α) (p : Pass) : (both a).get p = a := by
  cases p <;> rfl

@[simp] theorem get_set_self (v : PerPass α) (p : Pass) (a : α) : (v.set p a).get p = a := by
  cases p <;> rfl

theorem get_set_of_ne (v : PerPass α) {p q : Pass} (a : α) (h : q ≠ p) :
    (v.set p a).get q = v.get q := by
  cases p <;> cases q <;> simp_all [get, set]

theorem modify_eq (v : PerPass α) (p : Pass) (f : α → α) :
    v.modify p f = v.set p (f (v.get p)) := by
  cases p <;> rfl

@[simp] theorem get_modify_self (v : PerPass α) (p : Pass) (f : α → α) :
    (v.modify p f).get p = f (v.get p) := by
  cases p <;> rfl

@[simp] theorem get_map {β : Type} (f : α → β) (v : PerPass α) (p : Pass) :
    (v.map f).get p = f (v.get p) := by
  cases p <;> rfl

@[ext] theorem ext_get {v w : PerPass α} (h : ∀ p, v.get p = w.get p) : v = w := by
  have hs : v.solid = w.solid := h .solid
  have hb : v.blended = w.blended := h .blended
  cases v
  cases w
  simp_all

end PerPass

end PolygonRenderer
