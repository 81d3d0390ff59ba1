import PolygonRenderer.Graphics.Backend
import PolygonRenderer.Graphics.Memory

/-!
# The recording backend

A `Recorder` is a backend without a screen. It keeps the contents of its buffers
and a record of every call.
-/

namespace PolygonRenderer

/-- A call that was made on a recorder. -/
inductive Call where
  | allocate (bytes : Nat) (usage : BufferUsage)
  | release (buffer : BufferHandle)
  | upload (buffer : BufferHandle) (offset length : Nat)
  | submit (command : Command)
deriving Repr

/-- A backend that stores buffers and records calls. -/
structure Recorder where
  /-- All buffers that were ever granted; those released are gone. -/
  buffers : Array (Option Memory)
  /-- The calls made, in order. -/
  calls : Array Call
  /-- The largest buffer that is granted, if there is a limit. -/
  limit : Option Nat
deriving Repr

namespace Recorder

def empty (limit : Option Nat) : Recorder :=
  ⟨#[], #[], limit⟩

/-- Put a call on record. -/
def record (r : Recorder) (c : Call) : Recorder :=
  { r with calls := r.calls.push c }

/-- Forget the calls, keeping the buffers. -/
def clearCalls (r : Recorder) : Recorder :=
  { r with calls := #[] }

/-- The contents of a buffer that is live. -/
def buffer? (r : Recorder) (h : BufferHandle) : Option Memory :=
  r.buffers[h.index]?.join

/-- The number of buffers granted and not yet released. -/
def liveCount (r : Recorder) : Nat :=
  r.buffers.countP Option.isSome

/-- The first vertex and the number of vertices of every draw on record. -/
def draws (r : Recorder) : List (Nat × Nat) :=
  r.calls.toList.filterMap fun
    | .submit (.draw first count) => some (first, count)
    | _ => none

/-- Whether a buffer of this size is granted. -/
def grants (r : Recorder) (bytes : Nat) : Bool :=
  r.limit.all (bytes ≤ ·)

/-- Ask for a buffer, which is numbered in the order of granting. -/
def allocate (r : Recorder) (bytes : Nat) (usage : BufferUsage) :
    Except OutOfMemory BufferHandle × Recorder :=
  let r := r.record (.allocate bytes usage)
  if r.grants bytes then
    (.ok ⟨r.buffers.size⟩, { r with buffers := r.buffers.push (some (Memory.zero bytes)) })
  else
    (.error ⟨bytes⟩, r)

/-- Give a buffer back. Nothing happens to a handle that is not known. -/
def release (r : Recorder) (h : BufferHandle) : Recorder :=
  let r := r.record (.release h)
  { r with buffers := r.buffers.setIfInBounds h.index none }

/-- Upload data. An upload to a buffer that is not live, or beyond the end of
the buffer, is reported and has no other effect. -/
def upload (r : Recorder) (h : BufferHandle) (offset : Nat) (data : Array UInt8) :
    Logged Recorder :=
  let r := r.record (.upload h offset data.size)
  match r.buffer? h with
  | none => do
    Logged.report .warn ("Upload to unknown buffer " ++ h.render)
    return r
  | some memory =>
    match memory.write? offset data with
    | some memory => return { r with buffers := r.buffers.setIfInBounds h.index (some memory) }
    | none => do
      Logged.report .warn
        ("Upload of " ++ toString data.size ++ " bytes at offset " ++ toString offset ++
          " exceeds buffer size " ++ toString memory.size)
      return r

instance : Backend Recorder where
  allocate := allocate
  release := release
  upload := upload
  submit r c := r.record (.submit c)

@[simp] theorem buffer?_record (r : Recorder) (c : Call) (h : BufferHandle) :
    (r.record c).buffer? h = r.buffer? h := rfl

/-- A buffer that is granted is the next one, and zero throughout. -/
theorem allocate_ok {r r' : Recorder} {bytes : Nat} {usage : BufferUsage} {h : BufferHandle}
    (hok : Backend.allocate r bytes usage = (.ok h, r')) :
    r.grants bytes = true ∧ h = ⟨r.buffers.size⟩ ∧
      r'.buffers = r.buffers.push (some (.zero bytes)) := by
  change r.allocate bytes usage = (.ok h, r') at hok
  unfold allocate at hok
  dsimp only at hok
  split at hok
  · rename_i hgrants
    cases hok
    exact ⟨hgrants, rfl, rfl⟩
  · cases hok

/-- A buffer that is refused leaves no trace but a call on record. -/
theorem allocate_error {r r' : Recorder} {bytes : Nat} {usage : BufferUsage} {e : OutOfMemory}
    (herror : Backend.allocate r bytes usage = (.error e, r')) :
    r.grants bytes = false ∧ r' = r.record (.allocate bytes usage) := by
  change r.allocate bytes usage = (.error e, r') at herror
  unfold allocate at herror
  dsimp only at herror
  split at herror
  · cases herror
  · rename_i hgrants
    cases herror
    exact ⟨Bool.eq_false_iff.2 hgrants, rfl⟩

/-- An upload that fits is a write to the buffer. -/
theorem buffer?_upload_self {r : Recorder} {h : BufferHandle} {m m' : Memory} {offset : Nat}
    {data : Array UInt8} (hm : r.buffer? h = some m) (hwrite : m.write? offset data = some m') :
    (r.upload h offset data).value.buffer? h = some m' := by
  have hlive : h.index < r.buffers.size := by
    rw [buffer?] at hm
    cases hget : r.buffers[h.index]? with
    | none =>
        rw [hget] at hm
        cases hm
    | some buffer => exact (Array.getElem?_eq_some_iff.1 hget).1
  simp only [upload, buffer?_record, hm, hwrite, Logged.value_pure]
  simp [buffer?, record, hlive]

/-- What is in a buffer after an upload to it depends on what was in it before. -/
theorem buffer?_upload_congr {r r' : Recorder} {h : BufferHandle}
    (hsame : r'.buffer? h = r.buffer? h) (offset : Nat) (data : Array UInt8) :
    (r'.upload h offset data).value.buffer? h = (r.upload h offset data).value.buffer? h := by
  cases hm : r.buffer? h with
  | none =>
      rw [hm] at hsame
      simp only [upload, buffer?_record, hsame, hm, Logged.value_bind, Logged.value_pure]
  | some m =>
      rw [hm] at hsame
      cases hwrite : m.write? offset data with
      | none =>
          simp only [upload, buffer?_record, hsame, hm, hwrite, Logged.value_bind,
            Logged.value_pure]
      | some m' => rw [buffer?_upload_self hsame hwrite, buffer?_upload_self hm hwrite]

/-- An upload leaves all other buffers as they are. -/
theorem buffer?_upload_of_ne (r : Recorder) {h other : BufferHandle} (offset : Nat)
    (data : Array UInt8) (hne : other ≠ h) :
    (r.upload h offset data).value.buffer? other = r.buffer? other := by
  have hindex : h.index ≠ other.index := by
    intro heq
    apply hne
    cases h
    cases other
    exact congrArg BufferHandle.mk heq.symm
  simp only [upload, buffer?_record]
  cases r.buffer? h with
  | none => rfl
  | some m =>
    dsimp only
    cases m.write? offset data with
    | none => rfl
    | some m' => simp [buffer?, record, hindex]

/-- Commands are put on record, and nothing else happens. -/
theorem submitAll_eq (r : Recorder) (commands : List Command) :
    Backend.submitAll r commands =
      { r with calls := r.calls ++ (commands.map Call.submit).toArray } := by
  induction commands generalizing r with
  | nil => simp
  | cons c cs ih =>
    rw [Backend.submitAll_cons, ih]
    simp [Backend.submit, record]

end Recorder

end PolygonRenderer
