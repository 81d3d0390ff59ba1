import PolygonRenderer.Proofs.Polygon.StoredModel

/-!
# Items of a stream

Whoever walks a stream call by call, and whoever takes everything that is found in it
at once, come across the same polygons and the same truncation in the same order. Only
the invalid polygons are found and not answered.
-/

namespace PolygonRenderer

namespace Decoder

/-- What a call answers for something that is found, if it answers anything. -/
def Event.item? : Event → Option (Except Truncation (Polygon Float32))
  | .polygon p => some (.ok p)
  | .skipped _ => none
  | .truncated t => some (.error t)

/-- What is found from the position of a decoder on, as calls answer it. -/
def items (d : Decoder) : List (Except Truncation (Polygon Float32)) :=
  d.events.filterMap Event.item?

theorem yields_items (d : Decoder) : ∃ d', d.Yields d.items d' := by
  unfold items
  fun_induction events d with
  | case1 d hfinished => exact ⟨d, yields_of_finished hfinished⟩
  | case2 d hunfinished d' hstep =>
      refine ⟨d', .nothing ?_⟩
      rw [next_of_step_ended (Bool.eq_false_iff.2 hunfinished) hstep]
      rfl
  | case3 d hunfinished p d' hstep ih =>
      obtain ⟨d'', hyields⟩ := ih
      exact ⟨d'', hyields.of_step_yielded (Bool.eq_false_iff.2 hunfinished) hstep⟩
  | case4 d hunfinished t d' hstep =>
      have hfinished : d'.finished = true := by
        unfold step at hstep
        split at hstep
        · cases hstep
        · dsimp only at hstep
          split at hstep <;> cases hstep
        · cases hstep
          rfl
      refine ⟨d', .item ?_ (yields_of_finished hfinished)⟩
      rw [next_of_step_truncated (Bool.eq_false_iff.2 hunfinished) hstep]
      rfl
  | case5 d hunfinished d' hstep ih =>
      obtain ⟨d'', hyields⟩ := ih
      exact ⟨d'', hyields.of_step_skipped (Bool.eq_false_iff.2 hunfinished) hstep⟩

/-- A decoder can yield nothing else. -/
theorem Yields.unique {d d₁ d₂ : Decoder} {xs ys : List (Except Truncation (Polygon Float32))}
    (h : d.Yields xs d₁) (h' : d.Yields ys d₂) : xs = ys := by
  induction h generalizing ys with
  | nothing hnext =>
      cases h' with
      | nothing => rfl
      | item hnext' =>
          rw [hnext] at hnext'
          cases hnext'
  | item hnext _ ih =>
      cases h' with
      | nothing hnext' =>
          rw [hnext] at hnext'
          cases hnext'
      | item hnext' htail =>
          rw [hnext] at hnext'
          cases hnext'
          rw [ih htail]

theorem Yields.eq_items {d d' : Decoder} {xs : List (Except Truncation (Polygon Float32))}
    (h : d.Yields xs d') : xs = d.items := by
  obtain ⟨d'', hitems⟩ := d.yields_items
  exact h.unique hitems

end Decoder

end PolygonRenderer
