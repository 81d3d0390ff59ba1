import PolygonRenderer.Proofs.DisplayList.Threads

/-!
# Runs of a display list

Seen from outside, a display list is two plain lists that share one capacity.
`PlainLists` is just that: an append goes to the end of both lists, or is refused if
it might not fit.

A display list keeps its nodes in one array and finds those of a pass by links, so
that each append also changes a node that was there before. The main statement is
that it cannot be told from plain lists, in any run. The links of each pass end, they
point forward, and every node is reached by one of the passes and only once.
-/

namespace PolygonRenderer

/-- A call of a display list. -/
inductive DisplayCall where
  | appendModel (ranges : PerPass VertexRange) (t : Transform)
  | appendViewport (v : Viewport)
  | clear

namespace DisplayCall

/-- What an append adds to a pass: a viewport to both, an instance only where its
model has vertices. -/
def added : DisplayCall → Pass → List NodeContent
  | appendModel ranges t, p =>
    if (ranges.get p).count = 0 then []
    else [.model ⟨ranges.get p, t.modelView, Winding.ofTransform t.modelView t.zSign⟩]
  | appendViewport v, _ => [.viewport v]
  | clear, _ => []

theorem length_added_le (call : DisplayCall) (p : Pass) : (call.added p).length ≤ 1 := by
  cases call with
  | appendModel ranges t =>
      rw [added]
      split <;> simp
  | appendViewport v => exact Nat.le_refl 1
  | clear => exact Nat.zero_le 1

end DisplayCall

/-- A list of nodes for each pass, with at most `capacity` nodes in both together. -/
structure PlainLists where
  capacity : Nat
  lists : PerPass (List NodeContent)

namespace PlainLists

def empty (capacity : Nat) : PlainLists :=
  ⟨capacity, .both []⟩

def length (k : PlainLists) : Nat :=
  k.lists.solid.length + k.lists.blended.length

/-- Make a call. An append has to have room for a node in each list. -/
def step (k : PlainLists) : DisplayCall → Except RenderError Unit × PlainLists
  | .clear => (.ok (), empty k.capacity)
  | call =>
    if k.capacity < k.length + 2 then (.error .displayListFull, k)
    else (.ok (), { k with lists :=
      ⟨k.lists.solid ++ call.added .solid, k.lists.blended ++ call.added .blended⟩ })

/-- Make calls in order. -/
def run (k : PlainLists) : List DisplayCall → PlainLists
  | [] => k
  | call :: calls => run (k.step call).2 calls

theorem step_of_ne_clear (k : PlainLists) {call : DisplayCall} (h : call ≠ .clear) :
    k.step call =
      if k.capacity < k.length + 2 then (.error .displayListFull, k)
      else (.ok (), { k with lists :=
        ⟨k.lists.solid ++ call.added .solid, k.lists.blended ++ call.added .blended⟩ }) := by
  cases call with
  | appendModel | appendViewport => rfl
  | clear => exact absurd rfl h

@[simp] theorem capacity_step (k : PlainLists) (call : DisplayCall) :
    (k.step call).2.capacity = k.capacity := by
  by_cases h : call = .clear
  · rw [h]
    rfl
  · rw [k.step_of_ne_clear h]
    split <;> rfl

@[simp] theorem capacity_run (k : PlainLists) (calls : List DisplayCall) :
    (k.run calls).capacity = k.capacity := by
  induction calls generalizing k with
  | nil => rfl
  | cons call calls ih => rw [run, ih, capacity_step]

end PlainLists

namespace DisplayList

/-- Make a call. -/
def step (l : DisplayList) : DisplayCall → Except RenderError Unit × DisplayList
  | .appendModel ranges t =>
    match l.appendModel ranges t with
    | .ok l' => (.ok (), l')
    | .error e => (.error e, l)
  | .appendViewport v =>
    match l.appendViewport v with
    | .ok l' => (.ok (), l')
    | .error e => (.error e, l)
  | .clear => (.ok (), l.clear)

/-- Make calls in order. -/
def run (l : DisplayList) : List DisplayCall → DisplayList
  | [] => l
  | call :: calls => run (l.step call).2 calls

/-- Each link points to a later node of the array. -/
def PointsForward (l : DisplayList) : Prop :=
  ∀ i node next, l.nodes[i]? = some node → node.next = some next → i < next ∧ next < l.length

namespace PointsForward

variable {l : DisplayList}

theorem empty (capacity : Nat) : (empty capacity).PointsForward := by
  intro i node next hnode
  simp [DisplayList.empty] at hnode

/-- The one new link leads from the tail to the node behind all others. -/
theorem push (h : l.PointsForward) (hlinked : l.IsLinked) (p : Pass) (content : NodeContent) :
    (l.push p content).PointsForward := by
  obtain ⟨paths, hpaths⟩ := hlinked
  intro i node next hnode hnext
  have hlength : (l.push p content).length = l.nodes.size + 1 :=
    IsThreaded.size_nodes_push l p content
  rw [hpaths.getElem?_nodes_push] at hnode
  rw [hlength]
  split at hnode
  · cases hnode
    cases hnext
  · split at hnode
    · rename_i htail
      obtain ⟨old, -, rfl⟩ := Option.map_eq_some_iff.1 hnode
      cases hnext
      rw [hpaths.tail] at htail
      exact ⟨hpaths.lt_size (List.mem_of_getLast? htail), Nat.lt_succ_self _⟩
    · obtain ⟨hlt, hle⟩ := h i node next hnode hnext
      exact ⟨hlt, Nat.lt_succ_of_lt hle⟩

theorem pushInstance (h : l.PointsForward) (hlinked : l.IsLinked) (p : Pass) (m : ModelInstance) :
    (l.pushInstance p m).PointsForward := by
  unfold DisplayList.pushInstance
  split
  · exact h
  · exact h.push hlinked p _

end PointsForward

/-- An append is refused and changes nothing, or adds to both passes. -/
theorem append_cases (l : DisplayList) {call : DisplayCall} (hcall : call ≠ .clear) :
    l.hasRoom = false ∧ l.step call = (.error .displayListFull, l) ∨
      l.hasRoom = true ∧ ∃ l', l.step call = (.ok (), l') ∧ l'.capacity = l.capacity ∧
        (l.IsLinked → l'.IsLinked ∧ (∀ p, l'.contents p = l.contents p ++ call.added p) ∧
          (l.PointsForward → l'.PointsForward)) := by
  cases hroom : l.hasRoom with
  | false =>
      refine .inl ⟨rfl, ?_⟩
      cases call with
      | clear => exact absurd rfl hcall
      | appendModel ranges t => simp [step, appendModel, hroom]
      | appendViewport v => simp [step, appendViewport, hroom]
  | true =>
      refine .inr ⟨rfl, ?_⟩
      cases call with
      | clear => exact absurd rfl hcall
      | appendModel ranges t =>
          have happend : l.appendModel ranges t = .ok _ := if_pos hroom
          refine ⟨_, by rw [step, happend], capacity_appendModel happend, fun hlinked => ?_⟩
          obtain ⟨hlinked', hcontents⟩ := hlinked.appendModel happend
          refine ⟨hlinked', fun p => ?_, fun hforward => ?_⟩
          · rw [hcontents, DisplayCall.added, ite_not]
          · exact (hforward.pushInstance hlinked _ _).pushInstance (hlinked.pushInstance _ _) _ _
      | appendViewport v =>
          have happend : l.appendViewport v = .ok _ := if_pos hroom
          refine ⟨_, by rw [step, happend], capacity_appendViewport happend, fun hlinked => ?_⟩
          obtain ⟨hlinked', hcontents⟩ := hlinked.appendViewport happend
          refine ⟨hlinked', hcontents, fun hforward => ?_⟩
          exact (hforward.push hlinked _ _).push (hlinked.push _ _) _ _

/-- Every node lies on one of the two threads. -/
theorem IsLinked.length_eq {l : DisplayList} (h : l.IsLinked) :
    l.length = (l.contents .solid).length + (l.contents .blended).length := by
  obtain ⟨paths, hpaths⟩ := h
  have hlength := hpaths.places.length_eq
  rw [List.length_append, List.length_map, List.length_map, List.length_range] at hlength
  rw [hpaths.contents_eq, hpaths.contents_eq, List.length_map, List.length_map]
  exact hlength.symm

/-- The display list is well linked, and holds what the plain lists hold. -/
structure Represents (l : DisplayList) (k : PlainLists) : Prop where
  linked : l.IsLinked
  forward : l.PointsForward
  contents : ∀ p, l.contents p = k.lists.get p
  capacity : l.capacity = k.capacity
  length_le : k.length ≤ k.capacity

namespace Represents

variable {l : DisplayList} {k : PlainLists}

theorem empty (capacity : Nat) : (empty capacity).Represents (.empty capacity) where
  linked := isLinked_empty capacity
  forward := .empty capacity
  contents p := by
    rw [contents_empty, PlainLists.empty, PerPass.get_both]
  capacity := rfl
  length_le := Nat.zero_le capacity

theorem length_eq (h : l.Represents k) : l.length = k.length := by
  rw [h.linked.length_eq, h.contents, h.contents]
  rfl

/-- There is room in one exactly if there is room in the other. -/
theorem hasRoom_eq (h : l.Represents k) : l.hasRoom = !decide (k.capacity < k.length + 2) := by
  rw [hasRoom, h.length_eq, h.capacity, nodesPerAppend, Bool.eq_iff_iff]
  simp

theorem step (h : l.Represents k) (call : DisplayCall) :
    (l.step call).1 = (k.step call).1 ∧ (l.step call).2.Represents (k.step call).2 := by
  by_cases hcall : call = .clear
  · rw [hcall]
    refine ⟨rfl, ?_⟩
    change (DisplayList.empty l.capacity).Represents (.empty k.capacity)
    rw [h.capacity]
    exact .empty k.capacity
  · rw [k.step_of_ne_clear hcall]
    rcases l.append_cases hcall with ⟨hroom, hstep⟩ | ⟨hroom, l', hstep, hcapacity, hl'⟩
    · rw [h.hasRoom_eq] at hroom
      have hfull : k.capacity < k.length + 2 := by simpa using hroom
      rw [hstep, if_pos hfull]
      exact ⟨rfl, h⟩
    · rw [h.hasRoom_eq] at hroom
      have hfits : ¬k.capacity < k.length + 2 := by simpa using hroom
      obtain ⟨hlinked, hcontents, hforward⟩ := hl' h.linked
      rw [hstep, if_neg hfits]
      refine ⟨rfl, hlinked, hforward h.forward, ?_, hcapacity.trans h.capacity, ?_⟩
      · intro p
        rw [hcontents, h.contents]
        cases p <;> rfl
      · have hsolid := call.length_added_le .solid
        have hblended := call.length_added_le .blended
        unfold PlainLists.length at hfits ⊢
        simp only [List.length_append]
        omega

theorem run (h : l.Represents k) (calls : List DisplayCall) :
    (l.run calls).Represents (k.run calls) := by
  induction calls generalizing l k with
  | nil => exact h
  | cons call calls ih => exact ih (h.step call).2

end Represents

/-- After any calls, the nodes of both passes are those of plain lists, and the next
call answers the same. The links of each pass end, point forward and reach what is
held of the pass in order; together they reach each place of the array once. An
append is refused exactly if fewer than two nodes are left, and then leaves
everything as it was. -/
theorem represents_run (capacity : Nat) (calls : List DisplayCall) :
    let l := (empty capacity).run calls
    let k := (PlainLists.empty capacity).run calls
    (∃ paths : PerPass (List (Nat × NodeContent)),
      (∀ p, Thread l.nodes (l.head.get p) (paths.get p) ∧
        (paths.get p).map (·.2) = k.lists.get p ∧ l.contents p = k.lists.get p) ∧
      (paths.solid.map (·.1) ++ paths.blended.map (·.1)).Perm (List.range l.length)) ∧
    l.PointsForward ∧ l.length = k.length ∧ l.length ≤ capacity ∧
    ∀ call, (l.step call).1 = (k.step call).1 ∧
      (call ≠ .clear →
        ((l.step call).1 = .error .displayListFull ↔ capacity < l.length + 2)) ∧
      ∀ e, (l.step call).1 = .error e → e = .displayListFull ∧ (l.step call).2 = l := by
  intro l k
  have h : l.Represents k := (Represents.empty capacity).run calls
  have hk : k.capacity = capacity := PlainLists.capacity_run (.empty capacity) calls
  obtain ⟨paths, hpaths⟩ := h.linked
  refine ⟨⟨paths, fun p => ⟨hpaths.head p, ?_, h.contents p⟩, hpaths.places⟩, h.forward,
    h.length_eq, ?_, fun call => ⟨(h.step call).1, ?_, ?_⟩⟩
  · rw [← hpaths.contents_eq, h.contents]
  · rw [h.length_eq, ← hk]
    exact h.length_le
  · intro hcall
    rw [(h.step call).1, k.step_of_ne_clear hcall, h.length_eq, hk]
    split <;> simp [*]
  · intro e he
    by_cases hcall : call = .clear
    · rw [hcall] at he
      cases he
    · rcases l.append_cases hcall with ⟨-, hstep⟩ | ⟨-, l', hstep, -⟩
      · rw [hstep] at he ⊢
        cases he
        exact ⟨rfl, rfl⟩
      · rw [hstep] at he
        cases he

end DisplayList

end PolygonRenderer
