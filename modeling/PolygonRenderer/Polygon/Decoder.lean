import PolygonRenderer.Message
import PolygonRenderer.Error
import PolygonRenderer.Polygon.Basic

/-!
# Decoding a stream of polygons

A `Decoder` stands at a position of the stream of a model and remembers the
vertices of the last valid polygon. `Decoder.step` reads one record.
`Decoder.next` answers the next valid polygon, or a truncation, which comes last
and once; after the end of the model it answers nothing.

`Decoder.events` is everything a decoder finds from its position on.
-/

namespace PolygonRenderer

/-- A position in the stream of a model. -/
structure Decoder where
  /-- The words that are still unread. -/
  rest : List UInt32
  /-- The number of words read. -/
  position : Nat
  /-- The slots of the last valid polygon. -/
  history : Slots Float32
  /-- The scale of vertex positions. -/
  factor : Float32
  /-- Nothing more is to be answered. -/
  finished : Bool

namespace Decoder

/-- A decoder at the start of a model. -/
def start (words : List UInt32) (factor : Float32) : Decoder :=
  ⟨words, 0, Slots.zero, factor, false⟩

/-- What a decoder finds at its position, and where it stands afterwards. -/
inductive Step where
  /-- The model ends. -/
  | ended (next : Decoder)
  /-- A polygon that is to be drawn. -/
  | yielded (polygon : Polygon Float32) (next : Decoder)
  /-- A polygon that is marked as invalid. -/
  | skipped (next : Decoder)
  /-- The stream ends before the model does. -/
  | truncated (truncation : Truncation) (next : Decoder)

/-- Read one record. A polygon that is marked as the last one finishes the
decoder even if it turns out to be invalid or truncated. Only a valid polygon
becomes part of the history. -/
def step (d : Decoder) : Step :=
  match Record.read d.rest with
  | .terminator rest => .ended { d with rest := rest, position := d.position + 7, finished := true }
  | .record r rest =>
    let next := { d with
      rest := rest
      position := d.position + (7 + 4 * r.vertices.length)
      finished := r.header.isLast }
    let polygon := Polygon.ofRecord d.factor d.history r
    if r.header.isValid then .yielded polygon { next with history := polygon.slots }
    else .skipped next
  | .truncated needed consumed rest =>
    let offset := d.position + consumed
    .truncated ⟨offset, needed, rest.length⟩
      { d with rest := rest, position := offset, finished := true }

theorem length_lt_of_step_yielded {d next : Decoder} {p : Polygon Float32}
    (h : d.step = .yielded p next) : next.rest.length < d.rest.length := by
  unfold step at h
  split at h
  · cases h
  · rename_i e
    dsimp only at h
    split at h
    · cases h
      exact Record.length_lt_of_read e
    · cases h
  · cases h

theorem length_lt_of_step_skipped {d next : Decoder} (h : d.step = .skipped next) :
    next.rest.length < d.rest.length := by
  unfold step at h
  split at h
  · cases h
  · rename_i e
    dsimp only at h
    split at h
    · cases h
    · cases h
      exact Record.length_lt_of_read e
  · cases h

/-- The message about an invalid polygon that ends at `position`. -/
def skipMessage (position : Nat) : Logged Unit :=
  .report .trace ("Skipping invalid polygon at word " ++ toString position)

/-- The next polygon or truncation, if there is one. -/
def next (d : Decoder) : Logged (Option (Except Truncation (Polygon Float32)) × Decoder) :=
  if d.finished then pure (none, d)
  else
    match _h : d.step with
    | .ended d' => pure (none, d')
    | .yielded p d' => pure (some (.ok p), d')
    | .truncated t d' => pure (some (.error t), d')
    | .skipped d' => do
      skipMessage d'.position
      d'.next
termination_by d.rest.length
decreasing_by exact length_lt_of_step_skipped _h

theorem next_of_finished {d : Decoder} (h : d.finished = true) : d.next = pure (none, d) := by
  rw [next, if_pos h]

theorem next_of_step_ended {d d' : Decoder} (hf : d.finished = false) (h : d.step = .ended d') :
    d.next = pure (none, d') := by
  rw [next, if_neg (by simp [hf])]
  split <;> simp_all

theorem next_of_step_yielded {d d' : Decoder} {p : Polygon Float32} (hf : d.finished = false)
    (h : d.step = .yielded p d') : d.next = pure (some (.ok p), d') := by
  rw [next, if_neg (by simp [hf])]
  split <;> simp_all

theorem next_of_step_truncated {d d' : Decoder} {t : Truncation} (hf : d.finished = false)
    (h : d.step = .truncated t d') : d.next = pure (some (.error t), d') := by
  rw [next, if_neg (by simp [hf])]
  split <;> simp_all

/-- An invalid polygon is passed over. -/
theorem value_next_of_step_skipped {d d' : Decoder} (hf : d.finished = false)
    (h : d.step = .skipped d') : d.next.value = d'.next.value := by
  rw [next, if_neg (by simp [hf])]
  split <;> simp_all

/-- What is found in a stream, in order. -/
inductive Event where
  | polygon (polygon : Polygon Float32)
  /-- An invalid polygon that ends at a position. -/
  | skipped (position : Nat)
  | truncated (truncation : Truncation)

/-- Everything that is found from the position of a decoder on. -/
def events (d : Decoder) : List Event :=
  if d.finished then []
  else
    match _h : d.step with
    | .ended _ => []
    | .yielded p d' => .polygon p :: d'.events
    | .truncated t _ => [.truncated t]
    | .skipped d' => .skipped d'.position :: d'.events
termination_by d.rest.length
decreasing_by
  · exact length_lt_of_step_yielded _h
  · exact length_lt_of_step_skipped _h

theorem events_of_finished {d : Decoder} (h : d.finished = true) : d.events = [] := by
  rw [events, if_pos h]

theorem events_of_step_yielded {d d' : Decoder} {p : Polygon Float32} (hf : d.finished = false)
    (h : d.step = .yielded p d') : d.events = .polygon p :: d'.events := by
  rw [events, if_neg (by simp [hf])]
  split <;> simp_all

end Decoder

end PolygonRenderer
