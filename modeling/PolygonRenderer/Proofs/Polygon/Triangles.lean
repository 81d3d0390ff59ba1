import Mathlib.Data.List.Cycle
import PolygonRenderer.Polygon.Basic

/-!
# Triangles of a polygon

`Polygon.corners` is a list of corners, which belong to triangles three by three. A
`Face` is a triangle in front, with the triangle behind it if there is one, and
`Polygon.IsCutInto` says which faces a polygon has. It tells the order of a triangle as a
cycle of slots, so it leaves open with which corner a triangle starts.

The main statement is that the corners of a polygon are those of the faces it is cut
into.
-/

namespace PolygonRenderer

/-- A triangle on three slots of a polygon, in the order it is drawn in. -/
structure Triangle where
  first : Fin 4
  second : Fin 4
  third : Fin 4
deriving DecidableEq, Repr

namespace Triangle

def slots (t : Triangle) : List (Fin 4) :=
  [t.first, t.second, t.third]

/-- The order of the slots by number, whichever of them is drawn first. -/
def order (t : Triangle) : Cycle Nat :=
  .ofList (t.slots.map Fin.val)

/-- The sides, each with the slot it starts from and the slot it leads to. -/
def edges (t : Triangle) : List (Nat × Nat) :=
  [(t.first, t.second), (t.second, t.third), (t.third, t.first)]

/-- Triangles of one order differ in the slot they start with. -/
theorem order_eq_iff {t : Triangle} {i j k : Fin 4} :
    t.order = .ofList [i, j, k] ↔ t = ⟨i, j, k⟩ ∨ t = ⟨j, k, i⟩ ∨ t = ⟨k, i, j⟩ := by
  obtain ⟨a, b, c⟩ := t
  have hmem : Triangle.order ⟨a, b, c⟩ = .ofList [i.val, j.val, k.val] ↔
      [a.val, b.val, c.val] ∈ [i.val, j.val, k.val].cyclicPermutations :=
    Cycle.coe_eq_coe.trans List.mem_cyclicPermutations_iff.symm
  have hrotations : [i.val, j.val, k.val].cyclicPermutations =
      [[i.val, j.val, k.val], [j.val, k.val, i.val], [k.val, i.val, j.val]] := rfl
  rw [hmem, hrotations]
  simp [Fin.ext_iff]

theorem mem_edges {t : Triangle} {i j k : Fin 4} (h : t.order = .ofList [i, j, k]) :
    (i.val, j.val) ∈ t.edges := by
  rcases order_eq_iff.1 h with rfl | rfl | rfl <;> simp [edges]

end Triangle

/-- A triangle in front, and the triangle behind it if there is one. -/
structure Face where
  front : Triangle
  behind? : Option Triangle
deriving DecidableEq, Repr

namespace Face

/-- What is drawn for a face, given what is drawn for a slot in front and behind. -/
def drawn {β : Type} (front behind : Fin 4 → β) (f : Face) : List β :=
  f.front.slots.map front ++ f.behind?.toList.flatMap (·.slots.map behind)

/-- In front the face runs along the cycle or against it. It has a triangle behind if it is
double-sided, which is on the same slots and runs the other way. -/
structure Runs (f : Face) (forward doubleSided : Bool) (order : Cycle Nat) : Prop where
  front : f.front.order = if forward then order else order.reverse
  isSome_behind? : f.behind?.isSome = doubleSided
  behind : ∀ t ∈ f.behind?, t.order = f.front.order.reverse

/-- The side between the slots 0 and 2 is run through in opposite directions. -/
def OpposesDiagonal (f g : Face) : Prop :=
  (0, 2) ∈ f.front.edges ∧ (2, 0) ∈ g.front.edges ∨
    (2, 0) ∈ f.front.edges ∧ (0, 2) ∈ g.front.edges

theorem map_drawn {β γ : Type} (g : β → γ) (front behind : Fin 4 → β) (f : Face) :
    (f.drawn front behind).map g = f.drawn (g ∘ front) (g ∘ behind) := by
  rw [drawn, List.map_append, List.map_map, List.map_flatMap, drawn]
  simp only [List.map_map]

namespace Runs

variable {f g : Face} {forward doubleSided : Bool} {order : Cycle Nat}

theorem length_drawn (h : f.Runs forward doubleSided order) {β : Type} (front behind : Fin 4 → β) :
    (f.drawn front behind).length = 3 * if doubleSided then 2 else 1 := by
  have hsome := h.isSome_behind?
  rw [drawn, List.length_append]
  cases hbehind : f.behind? with
  | none =>
      rw [hbehind] at hsome
      subst hsome
      rfl
  | some t =>
      rw [hbehind] at hsome
      subst hsome
      rfl

/-- The two triangles of a quad share a diagonal. -/
theorem opposesDiagonal (h : f.Runs forward doubleSided (.ofList [0, 1, 2]))
    (h' : g.Runs forward doubleSided (.ofList [0, 2, 3])) : f.OpposesDiagonal g := by
  have hf := h.front
  have hg := h'.front
  unfold OpposesDiagonal
  cases forward with
  | true =>
      refine .inr ⟨Triangle.mem_edges (i := 2) (j := 0) (k := 1) ?_,
        Triangle.mem_edges (i := 0) (j := 2) (k := 3) hg⟩
      rw [hf]
      decide
  | false =>
      refine .inl ⟨Triangle.mem_edges (i := 0) (j := 2) (k := 1) ?_,
        Triangle.mem_edges (i := 2) (j := 0) (k := 3) ?_⟩
      · rw [hf]
        decide
      · rw [hg]
        decide

end Runs

end Face

namespace Polygon

variable {α : Type}

/-- The slots of the triangles that a polygon is cut into, in the order of its
vertices. -/
def cuts (p : Polygon α) : List (Cycle Nat) :=
  if p.vertexCount = 4 then [.ofList [0, 1, 2], .ofList [0, 2, 3]] else [.ofList [0, 1, 2]]

/-- The polygon has these faces, all of which run in front in the order of its vertices, or
all against it. -/
def IsCutInto (p : Polygon α) (forward : Bool) (faces : List Face) : Prop :=
  List.Forall₂ (fun face order => face.Runs forward p.header.isDoubleSided order) faces p.cuts

namespace IsCutInto

variable {p : Polygon α} {forward : Bool} {faces : List Face}

theorem length_drawn (h : p.IsCutInto forward faces) {β : Type} (front behind : Fin 4 → β) :
    (faces.flatMap (Face.drawn front behind)).length = p.cornerCount := by
  unfold IsCutInto cuts at h
  unfold cornerCount
  split at h
  · rename_i hquad
    obtain _ | ⟨h₁, _ | ⟨h₂, _ | _⟩⟩ := h
    simp only [List.flatMap_cons, List.flatMap_nil, List.length_append, List.length_nil,
      h₁.length_drawn, h₂.length_drawn, if_pos hquad]
    omega
  · rename_i hquad
    obtain _ | ⟨h₁, _ | _⟩ := h
    simp only [List.flatMap_cons, List.flatMap_nil, List.append_nil, h₁.length_drawn,
      if_neg hquad]

theorem pairwise_opposesDiagonal (h : p.IsCutInto forward faces) :
    faces.Pairwise Face.OpposesDiagonal := by
  unfold IsCutInto cuts at h
  split at h
  · obtain _ | ⟨h₁, _ | ⟨h₂, _ | _⟩⟩ := h
    exact List.pairwise_pair.2 (h₁.opposesDiagonal h₂)
  · obtain _ | ⟨h₁, _ | _⟩ := h
    exact List.pairwise_singleton ..

end IsCutInto

/-- What is drawn for a direction and a side is the corners of one triangle, which runs
along the cycle or against it. -/
def Draws (triangle : Bool → Bool → List Corner) (order : Cycle Nat) : Prop :=
  ∀ forward back, ∃ t : Triangle, t.order = (if forward then order else order.reverse) ∧
    triangle forward back = t.slots.map (⟨·, back⟩)

theorem draws_firstTriangle : Draws firstTriangle (.ofList [0, 1, 2]) := by
  intro forward back
  cases forward with
  | true => exact ⟨⟨0, 1, 2⟩, rfl, rfl⟩
  | false => exact ⟨⟨2, 1, 0⟩, rfl, rfl⟩

-- backwards, the second triangle starts with the same slot
theorem draws_secondTriangle : Draws secondTriangle (.ofList [0, 2, 3]) := by
  intro forward back
  cases forward with
  | true => exact ⟨⟨0, 2, 3⟩, rfl, rfl⟩
  | false => exact ⟨⟨0, 3, 2⟩, by decide, rfl⟩

/-- The two sides of a triangle are a face. -/
theorem Draws.exists_runs {triangle : Bool → Bool → List Corner} {order : Cycle Nat}
    (h : Draws triangle order) (forward doubleSided : Bool) :
    ∃ f : Face, f.Runs forward doubleSided order ∧
      (triangle forward false ++ if doubleSided then triangle (!forward) true else []) =
        f.drawn (⟨·, false⟩) (⟨·, true⟩) := by
  obtain ⟨t, ht, hfront⟩ := h forward false
  obtain ⟨t', ht', hbehind⟩ := h (!forward) true
  have hreverse : t'.order = t.order.reverse := by
    rw [ht, ht']
    cases forward with
    | true => rfl
    | false => exact (Cycle.reverse_reverse order).symm
  rw [hfront, hbehind]
  cases doubleSided with
  | false => exact ⟨⟨t, none⟩, ⟨ht, rfl, nofun⟩, rfl⟩
  | true =>
      refine ⟨⟨t, some t'⟩, ⟨ht, rfl, ?_⟩, ?_⟩
      · rintro _ ⟨⟩
        exact hreverse
      · simp [Face.drawn]

/-- A polygon is drawn as the faces it is cut into, each in front and then behind. -/
theorem exists_isCutInto [Scalar α] (p : Polygon α) (zSign : α) :
    ∃ faces, p.IsCutInto (p.isClockwise zSign) faces ∧
      p.corners zSign = faces.flatMap (Face.drawn (⟨·, false⟩) (⟨·, true⟩)) := by
  obtain ⟨f, hf, hfirst⟩ :=
    draws_firstTriangle.exists_runs (p.isClockwise zSign) p.header.isDoubleSided
  obtain ⟨g, hg, hsecond⟩ :=
    draws_secondTriangle.exists_runs (p.isClockwise zSign) p.header.isDoubleSided
  unfold IsCutInto cuts corners
  dsimp only
  rw [hfirst, hsecond]
  by_cases hquad : p.vertexCount = 4
  · rw [if_pos hquad, if_pos hquad]
    exact ⟨[f, g], .cons hf (.cons hg .nil), by simp⟩
  · rw [if_neg hquad, if_neg hquad]
    exact ⟨[f], .cons hf .nil, by simp⟩

end Polygon

end PolygonRenderer
