import PolygonRenderer.Graphics.Recorder

/-!
# Observed backends

`Observed β` is any backend together with a record of the calls made on it, so
that what a program asks of a backend can be stated without choosing one.
-/

namespace PolygonRenderer

/-- A backend and the calls made on it, in order. -/
structure Observed (β : Type) where
  backend : β
  calls : List Call

namespace Observed

variable {β : Type} [Backend β]

instance : Backend (Observed β) where
  allocate b bytes usage :=
    ((Backend.allocate b.backend bytes usage).1,
      ⟨(Backend.allocate b.backend bytes usage).2, b.calls ++ [.allocate bytes usage]⟩)
  release b h := ⟨Backend.release b.backend h, b.calls ++ [.release h]⟩
  upload b h offset data := do
    let backend ← Backend.upload b.backend h offset data
    return ⟨backend, b.calls ++ [.upload h offset data.size]⟩
  submit b c := ⟨Backend.submit b.backend c, b.calls ++ [.submit c]⟩

theorem calls_upload (b : Observed β) (h : BufferHandle) (offset : Nat) (data : Array UInt8) :
    (Backend.upload b h offset data).value.calls = b.calls ++ [.upload h offset data.size] := rfl

end Observed

end PolygonRenderer
