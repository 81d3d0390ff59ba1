import PolygonRenderer.DisplayList

/-!
# Threads of a display list

The nodes of both passes lie in one array in the order of their arrival, and the
links of each pass run through it like a thread. `DisplayList.IsThreaded` says
that each thread ends at the tail of its pass, and that every node lies on one
of the two threads and only once, so that a link that is set for one pass cannot
harm the other.

The main statements say what an append adds to the contents of each pass.
-/

namespace PolygonRenderer

namespace DisplayList

/-- The links from a node on, with the places and the contents on the way. -/
inductive Thread (nodes : Array DisplayNode) : Option Nat → List (Nat × NodeContent) → Prop
  | nil : Thread nodes none []
  | cons {i : Nat} {node : DisplayNode} {path : List (Nat × NodeContent)}
      (h : nodes[i]? = some node) (tail : Thread nodes node.next path) :
      Thread nodes (some i) ((i, node.content) :: path)

namespace Thread

variable {nodes nodes' : Array DisplayNode} {start : Option Nat} {path : List (Nat × NodeContent)}

theorem follow_eq (h : Thread nodes start path) {fuel : Nat} (hfuel : path.length ≤ fuel) :
    follow nodes fuel start = path.map (·.2) := by
  induction h generalizing fuel with
  | nil => cases fuel <;> rfl
  | cons hnode _ ih =>
      cases fuel with
      | zero => cases hfuel
      | succ fuel =>
          rw [follow, hnode]
          dsimp only
          rw [ih (Nat.le_of_succ_le_succ hfuel), List.map_cons]

/-- Only the nodes on the thread count. -/
theorem congr (h : Thread nodes start path)
    (hsame : ∀ i ∈ path.map (·.1), nodes'[i]? = nodes[i]?) : Thread nodes' start path := by
  induction h with
  | nil => exact .nil
  | cons hnode _ ih =>
      have hhead := hsame _ List.mem_cons_self
      exact .cons (hhead.trans hnode) (ih fun i hi => hsame i (List.mem_cons_of_mem _ hi))

/-- A thread grows by a link from its last node to a new one. -/
theorem extend (h : Thread nodes start path) {last new : Nat} {content : NodeContent}
    (hlast : (path.map (·.1)).getLast? = some last) (hnodup : (path.map (·.1)).Nodup)
    (hlink : nodes'[last]? = nodes[last]?.map fun node => { node with next := some new })
    (hsame : ∀ i ∈ path.map (·.1), i ≠ last → nodes'[i]? = nodes[i]?)
    (hnew : nodes'[new]? = some ⟨content, none⟩) :
    Thread nodes' start (path ++ [(new, content)]) := by
  induction h with
  | nil => cases hlast
  | @cons i node path hnode tail ih =>
      rw [List.map_cons, List.nodup_cons] at hnodup
      cases path with
      | nil =>
          obtain rfl : i = last := Option.some.inj hlast
          rw [hnode, Option.map_some] at hlink
          exact @cons nodes' i ⟨node.content, some new⟩ _ hlink (@cons nodes' new _ _ hnew .nil)
      | cons e path =>
          rw [List.map_cons, List.map_cons, List.getLast?_cons_cons] at hlast
          have hi : i ≠ last := by
            rintro rfl
            exact hnodup.1 (List.mem_of_getLast? hlast)
          have hhead : nodes'[i]? = some node := by
            rw [hsame i List.mem_cons_self hi, hnode]
          exact .cons hhead (ih hlast hnodup.2 fun k hk => hsame k (List.mem_cons_of_mem _ hk))

end Thread

/-- The threads of a display list are these. -/
structure IsThreaded (l : DisplayList) (paths : PerPass (List (Nat × NodeContent))) : Prop where
  places : (paths.solid.map (·.1) ++ paths.blended.map (·.1)).Perm (List.range l.nodes.size)
  head : ∀ p, Thread l.nodes (l.head.get p) (paths.get p)
  tail : ∀ p, l.tail.get p = ((paths.get p).map (·.1)).getLast?

namespace IsThreaded

variable {l : DisplayList} {paths : PerPass (List (Nat × NodeContent))}

theorem nodup_append (h : l.IsThreaded paths) :
    (paths.solid.map (·.1) ++ paths.blended.map (·.1)).Nodup :=
  h.places.nodup_iff.2 List.nodup_range

theorem nodup (h : l.IsThreaded paths) (p : Pass) : ((paths.get p).map (·.1)).Nodup := by
  have hnodup := List.nodup_append.1 h.nodup_append
  cases p with
  | solid => exact hnodup.1
  | blended => exact hnodup.2.1

theorem disjoint (h : l.IsThreaded paths) {p q : Pass} (hne : q ≠ p) {i : Nat}
    (hp : i ∈ (paths.get p).map (·.1)) : i ∉ (paths.get q).map (·.1) := by
  have hnodup := List.nodup_append.1 h.nodup_append
  intro hq
  cases p <;> cases q
  · exact hne rfl
  · exact hnodup.2.2 i hp i hq rfl
  · exact hnodup.2.2 i hq i hp rfl
  · exact hne rfl

theorem lt_size (h : l.IsThreaded paths) {p : Pass} {i : Nat}
    (hi : i ∈ (paths.get p).map (·.1)) : i < l.nodes.size := by
  rw [← List.mem_range, ← h.places.mem_iff, List.mem_append]
  cases p with
  | solid => exact .inl hi
  | blended => exact .inr hi

theorem length_le (h : l.IsThreaded paths) (p : Pass) : (paths.get p).length ≤ l.nodes.size := by
  have hlength := h.places.length_eq
  rw [List.length_append, List.length_map, List.length_map, List.length_range] at hlength
  rw [← hlength]
  cases p with
  | solid => exact Nat.le_add_right _ _
  | blended => exact Nat.le_add_left _ _

/-- The contents of a pass are those of its thread. -/
theorem contents_eq (h : l.IsThreaded paths) (p : Pass) :
    l.contents p = (paths.get p).map (·.2) :=
  (h.head p).follow_eq (h.length_le p)

theorem empty (capacity : Nat) : (empty capacity).IsThreaded (.both []) where
  places := .refl _
  head p := by
    rw [PerPass.get_both]
    cases p <;> exact .nil
  tail p := by
    rw [PerPass.get_both]
    cases p <;> rfl

/-- A push adds one node, and sets a link in the tail of its pass. -/
theorem getElem?_nodes_push (h : l.IsThreaded paths) (p : Pass) (content : NodeContent) (i : Nat) :
    (l.push p content).nodes[i]? =
      if i = l.nodes.size then some ⟨content, none⟩
      else if l.tail.get p = some i then
        l.nodes[i]?.map fun node => { node with next := some l.nodes.size }
      else l.nodes[i]? := by
  cases htail : l.tail.get p with
  | none =>
      simp only [push, htail, Array.getElem?_push, reduceCtorEq, if_false]
  | some last =>
      have hlt : last < l.nodes.size := by
        rw [h.tail] at htail
        exact h.lt_size (List.mem_of_getLast? htail)
      simp only [push, htail, Array.getElem?_modify, Array.getElem?_push, Option.some.injEq]
      by_cases hi : i = l.nodes.size
      · have hne : last ≠ i := by omega
        rw [if_neg hne, if_pos hi, if_pos hi]
      · simp only [if_neg hi]

theorem size_nodes_push (l : DisplayList) (p : Pass) (content : NodeContent) :
    (l.push p content).nodes.size = l.nodes.size + 1 := by
  unfold push
  cases l.tail.get p <;> simp

/-- The new node goes on the thread of its pass, behind the tail. -/
theorem push (h : l.IsThreaded paths) (p : Pass) (content : NodeContent) :
    (l.push p content).IsThreaded (paths.modify p (· ++ [(l.nodes.size, content)])) where
  places := by
    rw [size_nodes_push, List.range_succ]
    cases p with
    | solid =>
        simp only [PerPass.modify, List.map_append, List.map_cons, List.map_nil]
        refine .trans ?_ (h.places.append_right _)
        rw [List.append_assoc, List.append_assoc]
        exact List.perm_append_comm.append_left _
    | blended =>
        simp only [PerPass.modify, List.map_append, List.map_cons, List.map_nil,
          ← List.append_assoc]
        exact h.places.append_right _
  head q := by
    have hnodes := h.getElem?_nodes_push p content
    by_cases hq : q = p
    · subst hq
      rw [PerPass.get_modify_self]
      cases htail : l.tail.get q with
      | none =>
          have hnil : paths.get q = [] := by
            rw [h.tail, List.getLast?_eq_none_iff] at htail
            exact List.map_eq_nil_iff.1 htail
          have hhead : (l.push q content).head.get q = some l.nodes.size := by
            simp [DisplayList.push, htail]
          have hnew := hnodes l.nodes.size
          rw [if_pos rfl] at hnew
          rw [hhead, hnil]
          exact .cons hnew .nil
      | some last =>
          have hmem : last ∈ (paths.get q).map (·.1) := by
            rw [h.tail] at htail
            exact List.mem_of_getLast? htail
          have hhead : (l.push q content).head.get q = l.head.get q := by
            simp [DisplayList.push, htail]
          rw [hhead]
          refine (h.head q).extend ((h.tail q).symm.trans htail) (h.nodup q) ?_ ?_ ?_
          · rw [hnodes, if_neg (Nat.ne_of_lt (h.lt_size hmem)), if_pos htail]
          · intro i hi hne
            have htail' : l.tail.get q ≠ some i := by
              rw [htail]
              intro heq
              exact hne (Option.some.inj heq).symm
            rw [hnodes, if_neg (Nat.ne_of_lt (h.lt_size hi)), if_neg htail']
          · rw [hnodes, if_pos rfl]
    · have hpath : (paths.modify p (· ++ [(l.nodes.size, content)])).get q = paths.get q := by
        rw [PerPass.modify_eq, PerPass.get_set_of_ne _ _ hq]
      have hhead : (l.push p content).head.get q = l.head.get q := by
        unfold DisplayList.push
        cases l.tail.get p with
        | none => exact PerPass.get_set_of_ne _ _ hq
        | some last => rfl
      rw [hpath, hhead]
      refine (h.head q).congr ?_
      intro i hi
      -- the tail of the other pass is not on this thread
      have htail : l.tail.get p ≠ some i := by
        intro heq
        rw [h.tail] at heq
        exact h.disjoint hq (List.mem_of_getLast? heq) hi
      rw [hnodes, if_neg (Nat.ne_of_lt (h.lt_size hi)), if_neg htail]
  tail q := by
    have htail : (l.push p content).tail = l.tail.set p (some l.nodes.size) := by
      unfold DisplayList.push
      cases l.tail.get p <;> rfl
    rw [htail]
    by_cases hq : q = p
    · subst hq
      simp
    · rw [PerPass.modify_eq, PerPass.get_set_of_ne _ _ hq, PerPass.get_set_of_ne _ _ hq]
      exact h.tail q

end IsThreaded

/-- The display list is well linked: it has threads. -/
def IsLinked (l : DisplayList) : Prop :=
  ∃ paths, l.IsThreaded paths

theorem isLinked_empty (capacity : Nat) : (empty capacity).IsLinked :=
  ⟨_, .empty capacity⟩

@[simp] theorem contents_empty (capacity : Nat) (p : Pass) : (empty capacity).contents p = [] := by
  rw [(IsThreaded.empty capacity).contents_eq p, PerPass.get_both, List.map_nil]

namespace IsLinked

variable {l : DisplayList}

theorem push (h : l.IsLinked) (p : Pass) (content : NodeContent) :
    (l.push p content).IsLinked := by
  obtain ⟨paths, hpaths⟩ := h
  exact ⟨_, hpaths.push p content⟩

/-- A push adds to the contents of its own pass only. -/
theorem contents_push (h : l.IsLinked) (p : Pass) (content : NodeContent) (q : Pass) :
    (l.push p content).contents q = l.contents q ++ if q = p then [content] else [] := by
  obtain ⟨paths, hpaths⟩ := h
  rw [(hpaths.push p content).contents_eq, hpaths.contents_eq]
  by_cases hq : q = p
  · subst hq
    simp
  · rw [PerPass.modify_eq, PerPass.get_set_of_ne _ _ hq, if_neg hq, List.append_nil]

theorem pushInstance (h : l.IsLinked) (p : Pass) (m : ModelInstance) :
    (l.pushInstance p m).IsLinked := by
  unfold DisplayList.pushInstance
  split
  · exact h
  · exact h.push p (.model m)

theorem contents_pushInstance (h : l.IsLinked) (p : Pass) (m : ModelInstance) (q : Pass) :
    (l.pushInstance p m).contents q =
      l.contents q ++ if q = p ∧ m.range.count ≠ 0 then [.model m] else [] := by
  unfold DisplayList.pushInstance
  split
  · rename_i hcount
    simp [hcount]
  · rename_i hcount
    rw [h.contents_push]
    simp [hcount]

/-- An instance is added to each pass that the model has vertices for. -/
theorem appendModel (h : l.IsLinked) {ranges : PerPass VertexRange} {t : Transform}
    {l' : DisplayList} (happend : l.appendModel ranges t = .ok l') :
    l'.IsLinked ∧ ∀ q, l'.contents q = l.contents q ++
      if (ranges.get q).count ≠ 0 then
        [.model ⟨ranges.get q, t.modelView, Winding.ofTransform t.modelView t.zSign⟩]
      else [] := by
  unfold DisplayList.appendModel at happend
  split at happend
  · cases happend
    have hsolid := h.pushInstance .solid
      ⟨ranges.get .solid, t.modelView, Winding.ofTransform t.modelView t.zSign⟩
    refine ⟨hsolid.pushInstance .blended _, ?_⟩
    intro q
    simp only [Pass.all, List.foldl_cons, List.foldl_nil]
    rw [hsolid.contents_pushInstance, h.contents_pushInstance]
    cases q <;> simp
  · cases happend

theorem appendViewport (h : l.IsLinked) {v : Viewport} {l' : DisplayList}
    (happend : l.appendViewport v = .ok l') :
    l'.IsLinked ∧ ∀ q, l'.contents q = l.contents q ++ [.viewport v] := by
  unfold DisplayList.appendViewport at happend
  split at happend
  · cases happend
    have hsolid := h.push .solid (.viewport v)
    refine ⟨hsolid.push .blended _, ?_⟩
    intro q
    simp only [Pass.all, List.foldl_cons, List.foldl_nil]
    rw [hsolid.contents_push, h.contents_push]
    cases q <;> simp
  · cases happend

end IsLinked

/-! ## Room -/

theorem capacity_push (l : DisplayList) (p : Pass) (content : NodeContent) :
    (l.push p content).capacity = l.capacity := by
  unfold push
  cases l.tail.get p <;> rfl

theorem capacity_pushInstance (l : DisplayList) (p : Pass) (m : ModelInstance) :
    (l.pushInstance p m).capacity = l.capacity := by
  unfold pushInstance
  split
  · rfl
  · exact l.capacity_push p _

section Append

variable {l l' : DisplayList}

theorem capacity_appendModel {ranges : PerPass VertexRange} {t : Transform}
    (h : l.appendModel ranges t = .ok l') : l'.capacity = l.capacity := by
  unfold appendModel at h
  split at h
  · cases h
    simp only [Pass.all, List.foldl_cons, List.foldl_nil, capacity_pushInstance]
  · cases h

theorem capacity_appendViewport {v : Viewport} (h : l.appendViewport v = .ok l') :
    l'.capacity = l.capacity := by
  unfold appendViewport at h
  split at h
  · cases h
    simp only [Pass.all, List.foldl_cons, List.foldl_nil, capacity_push]
  · cases h

theorem length_add_le_of_appendViewport {v : Viewport} (h : l.appendViewport v = .ok l') :
    l.length + nodesPerAppend ≤ l.capacity := by
  unfold appendViewport at h
  split at h
  · rename_i hroom
    exact of_decide_eq_true hroom
  · cases h

theorem nodesPerAppend_le_of_appendViewport {v : Viewport} (h : l.appendViewport v = .ok l') :
    nodesPerAppend ≤ l.capacity :=
  Nat.le_trans (Nat.le_add_left _ _) (length_add_le_of_appendViewport h)

/-- A viewport takes a node of each pass. -/
theorem length_appendViewport {v : Viewport} (h : l.appendViewport v = .ok l') :
    l'.length = l.length + nodesPerAppend := by
  unfold appendViewport at h
  split at h
  · cases h
    simp only [Pass.all, List.foldl_cons, List.foldl_nil, length, IsThreaded.size_nodes_push]
    rfl
  · cases h

end Append

end DisplayList

end PolygonRenderer
