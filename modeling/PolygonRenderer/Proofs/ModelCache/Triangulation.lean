import PolygonRenderer.Proofs.ModelCache.Outcomes
import PolygonRenderer.Proofs.Polygon.Triangles

/-!
# Triangulation of inserted polygons

A polygon that is inserted is staged as the triangles of the faces it is cut into. The
main statement tells the whole cache after the insertion: nothing has changed if the
polygon was refused, and otherwise nothing but what is staged and the two counters that go
with it.
-/

namespace PolygonRenderer

namespace ModelCache

/-- A polygon of the model that is being staged is taken if there is room, and refused
without any change otherwise. It is staged as whole triangles, in front on the slots 0, 1, 2
and for a quad on 0, 2, 3, all of them in the order of its vertices or all against it. Behind
each of them, if the polygon is double-sided, comes a triangle on the same vertices in the
opposite order, where nothing differs but that the normal is multiplied by -1. -/
theorem triangles_of_insertPolygon (c : ModelCache) (h : StagingHandle) (p : Polygon Float32)
    (ctx : DecodeContext) :
    let front (i : Fin 4) : BufferVertex := .ofPolygon ctx p (p.slots.get i) 1
    let behind (i : Fin 4) : BufferVertex :=
      { front i with normal := (p.slots.get i).normal.map (· * (-1)) }
    (∀ i, (front i).normal = (p.slots.get i).normal.map (· * 1)) ∧
      ((c.insertPolygon h p ctx).value.1 = .ok () ↔ c.accepts h = true ∧ c.HasRoomFor p.pass) ∧
      match (c.insertPolygon h p ctx).value with
      | (.error _, c') => c' = c
      | (.ok (), c') => ∃ faces new,
          p.IsCutInto (p.isClockwise ctx.zSign) faces ∧
          faces.Pairwise Face.OpposesDiagonal ∧
          new = faces.flatMap (Face.drawn front behind) ∧
          new.length =
            (if p.vertexCount = 4 then 6 else 3) * (if p.header.isDoubleSided then 2 else 1) ∧
          c' = { c with
            cursor := c.cursor + new.length
            staging := { c.staging with
              vertices := c.staging.vertices.modify p.pass (· ++ new) }
            polygonsInserted := c.polygonsInserted + 1 } := by
  intro front behind
  refine ⟨fun i => rfl, ?_⟩
  rcases c.insertPolygon_taken_or_refused h p ctx with ⟨hfits, hvalue⟩ | ⟨hfull, e, hvalue⟩
  · rw [hvalue]
    obtain ⟨faces, hcut, hcorners⟩ := p.exists_isCutInto ctx.zSign
    have hnew : polygonVertices p ctx = faces.flatMap (Face.drawn front behind) := by
      rw [polygonVertices, hcorners, List.map_flatMap]
      simp only [Face.map_drawn]
      rfl
    refine ⟨iff_of_true rfl hfits, faces, _, hcut, hcut.pairwise_opposesDiagonal, rfl,
      hcut.length_drawn front behind, ?_⟩
    rw [← hnew]
    rfl
  · rw [hvalue]
    refine ⟨iff_of_false ?_ hfull, rfl⟩
    rintro ⟨⟩

end ModelCache

end PolygonRenderer
