import Mathlib.Data.List.Nodup
import Mathlib.Data.List.Induction
import PolygonRenderer.Graphics.Recorder

/-!
# Histories of a recorder

A recorder may be asked anything in any order, with handles that it never gave out and data that
fits nowhere. What it holds afterwards is told by the history of the calls alone: a buffer is live
from the call that was granted it until it is given back (`Recorder.IsLiveSince`), and holds zeros
over which the uploads since then have been written, as far as they lie inside
(`RecorderCall.contents`).
-/

namespace PolygonRenderer

namespace MemoryWrite

/-- Bytes with the data of a write in their place. -/
def overwrite (bytes : List UInt8) (w : MemoryWrite) : List UInt8 :=
  bytes.take w.offset ++ w.data.toList ++ bytes.drop (w.offset + w.data.size)

end MemoryWrite

namespace Memory

theorem read_append (m : Memory) (first i j : Nat) :
    m.read first (i + j) = m.read first i ++ m.read (first + i) j := by
  rw [read, ← List.range'_append_1, List.map_append]
  rfl

theorem toList_zero (size : Nat) : (zero size).toList = List.replicate size 0 := by
  have hzeros : (zero size).byteAt = fun _ => 0 := funext (byteAt_zero size)
  rw [toList, read, hzeros, List.map_const', List.length_range']
  rfl

section Write

variable {m m' : Memory} {offset : Nat} {data : Array UInt8}

theorem le_size_of_write? (h : m.write? offset data = some m') : offset + data.size ≤ m.size := by
  rw [← Nat.not_lt, ← write?_eq_none_iff, h]
  rintro ⟨⟩

theorem toList_write (h : m.write? offset data = some m') :
    m'.toList = MemoryWrite.overwrite m.toList ⟨offset, data⟩ := by
  obtain ⟨rest, hrest⟩ := Nat.exists_eq_add_of_le (le_size_of_write? h)
  have hsplit : ∀ n : Memory, n.size = m.size →
      n.toList =
        n.read 0 offset ++ n.read offset data.size ++ n.read (offset + data.size) rest := by
    intro n hn
    rw [toList, hn, hrest, read_append, read_append, Nat.zero_add, Nat.zero_add]
  have hbefore : m'.read 0 offset = m.read 0 offset :=
    read_write_of_disjoint h (.inl (Nat.le_of_eq (Nat.zero_add _)))
  have hafter : m'.read (offset + data.size) rest = m.read (offset + data.size) rest :=
    read_write_of_disjoint h (.inr (Nat.le_refl _))
  rw [hsplit m' (size_of_write? h), hbefore, hafter, read_write h, MemoryWrite.overwrite,
    hsplit m rfl]
  simp [List.drop_append]

end Write

end Memory

/-- A call made on a recorder. -/
inductive RecorderCall where
  | allocate (bytes : Nat) (usage : BufferUsage)
  | release (h : BufferHandle)
  | upload (h : BufferHandle) (offset : Nat) (data : Array UInt8)
  | submit (command : Command)
  | clearCalls

namespace RecorderCall

/-- The buffer that a call is made on. -/
def handle? : RecorderCall → Option BufferHandle
  | release h | upload h _ _ => some h
  | allocate .. | submit _ | clearCalls => none

/-- What a call leaves on record. -/
def entry? : RecorderCall → Option Call
  | allocate bytes usage => some (.allocate bytes usage)
  | release h => some (.release h)
  | upload h offset data => some (.upload h offset data.size)
  | submit command => some (.submit command)
  | clearCalls => none

/-- The write to a buffer of that size, if a call uploads data that lies inside. -/
def write? (h : BufferHandle) (size : Nat) : RecorderCall → Option MemoryWrite
  | upload h' offset data =>
    if h' = h ∧ offset + data.size ≤ size then some ⟨offset, data⟩ else none
  | _ => none

/-- The bytes of a buffer of that size after calls: zeros, overwritten in order. -/
def contents (h : BufferHandle) (size : Nat) (calls : List RecorderCall) : List UInt8 :=
  (calls.filterMap (write? h size)).foldl MemoryWrite.overwrite (List.replicate size 0)

end RecorderCall

namespace Recorder

/-- Make a call. -/
def step (r : Recorder) : RecorderCall → Recorder
  | .allocate bytes usage => (r.allocate bytes usage).2
  | .release h => r.release h
  | .upload h offset data => (r.upload h offset data).value
  | .submit command => Backend.submit r command
  | .clearCalls => r.clearCalls

/-- Make calls in order. -/
def run (r : Recorder) (calls : List RecorderCall) : Recorder :=
  calls.foldl step r

/-- The buffer that is granted in answer to a call. -/
def grant? (r : Recorder) : RecorderCall → Option BufferHandle
  | .allocate bytes usage => (r.allocate bytes usage).1.toOption
  | _ => none

/-- The buffers granted in answer to calls, in order. -/
def grantsOf (r : Recorder) : List RecorderCall → List BufferHandle
  | [] => []
  | call :: calls => (r.grant? call).toList ++ grantsOf (r.step call) calls

@[simp] theorem run_nil (r : Recorder) : r.run [] = r := rfl

@[simp] theorem run_cons (r : Recorder) (call : RecorderCall) (calls : List RecorderCall) :
    r.run (call :: calls) = (r.step call).run calls := rfl

theorem run_append (r : Recorder) (calls calls' : List RecorderCall) :
    r.run (calls ++ calls') = (r.run calls).run calls' :=
  List.foldl_append

/-! ## One call -/

section Step

variable {r : Recorder} {h : BufferHandle} {m : Memory} {call : RecorderCall}

theorem index_lt_of_buffer? (hm : r.buffer? h = some m) : h.index < r.buffers.size := by
  rw [buffer?, Option.join_eq_some_iff] at hm
  exact (Array.getElem?_eq_some_iff.1 hm).1

theorem allocate_cases (r : Recorder) (bytes : Nat) (usage : BufferUsage) :
    (r.limit.any (· < bytes) = true ∧
        r.allocate bytes usage = (.error ⟨bytes⟩, r.record (.allocate bytes usage))) ∨
      (r.limit.any (· < bytes) = false ∧
        r.allocate bytes usage = (.ok ⟨r.buffers.size⟩, { r.record (.allocate bytes usage) with
          buffers := r.buffers.push (some (.zero bytes)) })) := by
  have hgrants : (r.record (.allocate bytes usage)).grants bytes = !r.limit.any (· < bytes) := by
    rw [grants, record]
    cases r.limit with
    | none => rfl
    | some max =>
        change decide (bytes ≤ max) = !decide (max < bytes)
        rw [← decide_not, decide_eq_decide, Nat.not_lt]
  unfold allocate
  dsimp only
  rw [hgrants]
  cases r.limit.any (· < bytes) with
  | true => exact .inl ⟨rfl, rfl⟩
  | false => exact .inr ⟨rfl, rfl⟩

theorem upload_cases (r : Recorder) (h : BufferHandle) (offset : Nat) (data : Array UInt8) :
    ((∀ m, r.buffer? h = some m → m.size < offset + data.size) ∧
        (r.upload h offset data).value = r.record (.upload h offset data.size)) ∨
      ∃ m m', r.buffer? h = some m ∧ m.write? offset data = some m' ∧
        (r.upload h offset data).value = { r.record (.upload h offset data.size) with
          buffers := r.buffers.setIfInBounds h.index (some m') } := by
  simp only [upload, buffer?_record]
  cases hm : r.buffer? h with
  | none =>
      refine .inl ⟨?_, rfl⟩
      rintro _ ⟨⟩
  | some m =>
      dsimp only
      cases hwrite : m.write? offset data with
      | none =>
          refine .inl ⟨?_, rfl⟩
          rintro _ ⟨⟩
          exact Memory.write?_eq_none_iff.1 hwrite
      | some m' => exact .inr ⟨m, m', rfl, hwrite, rfl⟩

theorem limit_step (r : Recorder) (call : RecorderCall) : (r.step call).limit = r.limit := by
  cases call with
  | allocate bytes usage =>
      rcases r.allocate_cases bytes usage with ⟨-, heq⟩ | ⟨-, heq⟩ <;> rw [step, heq] <;> rfl
  | upload h offset data =>
      rcases r.upload_cases h offset data with ⟨-, heq⟩ | ⟨_, _, -, -, heq⟩ <;>
        rw [step, heq] <;> rfl
  | release | submit | clearCalls => rfl

/-- A buffer that is granted is a new one, and zero throughout. -/
theorem buffers_step_of_grant (hgrant : r.grant? call = some h) :
    ∃ bytes usage, call = .allocate bytes usage ∧ h = ⟨r.buffers.size⟩ ∧
      (r.step call).buffers = r.buffers.push (some (.zero bytes)) := by
  cases call with
  | allocate bytes usage =>
      rw [grant?] at hgrant
      rcases r.allocate_cases bytes usage with ⟨-, heq⟩ | ⟨-, heq⟩
      · rw [heq] at hgrant
        cases hgrant
      · rw [heq] at hgrant
        cases hgrant
        refine ⟨bytes, usage, rfl, rfl, ?_⟩
        rw [step, heq]
  | release | upload | submit | clearCalls => cases hgrant

theorem buffers_upload_of_not_fits {offset : Nat} {data : Array UInt8}
    (hfits : ∀ m, r.buffer? h = some m → m.size < offset + data.size) :
    (r.upload h offset data).value.buffers = r.buffers := by
  rcases r.upload_cases h offset data with ⟨-, heq⟩ | ⟨m, m', hm, hwrite, -⟩
  · rw [heq]
    rfl
  · rw [Memory.write?_eq_none_iff.2 (hfits m hm)] at hwrite
    cases hwrite

theorem buffer?_release_self (r : Recorder) (h : BufferHandle) :
    (r.release h).buffer? h = none := by
  rw [buffer?, release, Array.getElem?_setIfInBounds_self]
  split <;> rfl

theorem buffers_release_of_none (hnone : r.buffer? h = none) :
    (r.release h).buffers = r.buffers := by
  apply Array.ext_getElem?
  intro i
  rw [release, Array.getElem?_setIfInBounds]
  split
  · rename_i hi
    subst hi
    change r.buffers[h.index]?.join = none at hnone
    cases hget : r.buffers[h.index]? with
    | none => exact if_neg (Nat.not_lt.2 (Array.getElem?_eq_none_iff.1 hget))
    | some buffer =>
        rw [hget, Option.join_some] at hnone
        rw [hnone]
        exact if_pos (Array.getElem?_eq_some_iff.1 hget).1
  · rfl

/-- A call leaves every buffer alone but the one it is made on or granted. -/
theorem buffer?_step_of_ne (hgrant : r.grant? call ≠ some h) (hhandle : call.handle? ≠ some h) :
    (r.step call).buffer? h = r.buffer? h := by
  cases call with
  | allocate bytes usage =>
      rw [grant?] at hgrant
      rcases r.allocate_cases bytes usage with ⟨-, heq⟩ | ⟨-, heq⟩
      · rw [step, heq]
        rfl
      · have hne : h.index ≠ r.buffers.size := by
          intro hindex
          apply hgrant
          rw [heq, ← hindex]
          rfl
        rw [step, heq, buffer?, Array.getElem?_push, if_neg hne, buffer?]
  | release h' =>
      have hne : h'.index ≠ h.index := by
        intro heq
        apply hhandle
        cases h
        cases h'
        exact congrArg (some ∘ BufferHandle.mk) heq
      rw [step, buffer?, release, Array.getElem?_setIfInBounds_ne hne]
      rfl
  | upload h' offset data =>
      have hne : h ≠ h' := by
        rintro rfl
        exact hhandle rfl
      exact buffer?_upload_of_ne r offset data hne
  | submit command => rfl
  | clearCalls => rfl

/-- A buffer that is not given back keeps its size, and its bytes but for the data that a call
writes to it. -/
theorem exists_buffer?_step (hm : r.buffer? h = some m) (hkept : call ≠ .release h) :
    ∃ m', (r.step call).buffer? h = some m' ∧ m'.size = m.size ∧
      m'.toList = (call.write? h m.size).toList.foldl MemoryWrite.overwrite m.toList := by
  have hgrant : r.grant? call ≠ some h := by
    intro hgrant
    obtain ⟨bytes, usage, -, rfl, -⟩ := buffers_step_of_grant hgrant
    exact Nat.lt_irrefl _ (index_lt_of_buffer? hm)
  by_cases hhandle : call.handle? = some h
  · cases call with
    | upload h' offset data =>
        obtain rfl : h' = h := Option.some.inj hhandle
        cases hwrite : m.write? offset data with
        | none =>
            have hfits := Memory.write?_eq_none_iff.1 hwrite
            have hbuffers : (r.upload h' offset data).value.buffers = r.buffers := by
              apply buffers_upload_of_not_fits
              intro m₁ hm₁
              cases hm.symm.trans hm₁
              exact hfits
            refine ⟨m, ?_, rfl, ?_⟩
            · rw [step, buffer?, hbuffers]
              exact hm
            · rw [RecorderCall.write?, if_neg (fun h => Nat.not_lt.2 h.2 hfits)]
              rfl
        | some m' =>
            refine ⟨m', buffer?_upload_self hm hwrite, Memory.size_of_write? hwrite, ?_⟩
            rw [RecorderCall.write?, if_pos ⟨rfl, Memory.le_size_of_write? hwrite⟩,
              Memory.toList_write hwrite]
            rfl
    | release h' => exact absurd (congrArg _ (Option.some.inj hhandle)) hkept
    | allocate | submit | clearCalls => cases hhandle
  · refine ⟨m, (buffer?_step_of_ne hgrant hhandle).trans hm, rfl, ?_⟩
    have hnone : call.write? h m.size = none := by
      cases call with
      | upload h' offset data => exact if_neg fun hself => hhandle (congrArg some hself.1)
      | allocate | release | submit | clearCalls => rfl
    rw [hnone]
    rfl

/-- A buffer that is not live stays so until it is granted. -/
theorem buffer?_step_of_none (hnone : r.buffer? h = none) (hgrant : r.grant? call ≠ some h) :
    (r.step call).buffer? h = none := by
  by_cases hhandle : call.handle? = some h
  · cases call with
    | release h' =>
        obtain rfl : h' = h := Option.some.inj hhandle
        exact r.buffer?_release_self h'
    | upload h' offset data =>
        obtain rfl : h' = h := Option.some.inj hhandle
        have hbuffers : (r.upload h' offset data).value.buffers = r.buffers := by
          apply buffers_upload_of_not_fits
          intro m hm
          rw [hnone] at hm
          cases hm
        rw [step, buffer?, hbuffers]
        exact hnone
    | allocate | submit | clearCalls => cases hhandle
  · exact (buffer?_step_of_ne hgrant hhandle).trans hnone

theorem size_buffers_step_of_none (hgrant : r.grant? call = none) :
    (r.step call).buffers.size = r.buffers.size := by
  cases call with
  | allocate bytes usage =>
      rw [grant?] at hgrant
      rcases r.allocate_cases bytes usage with ⟨-, heq⟩ | ⟨-, heq⟩
      · rw [step, heq]
        rfl
      · rw [heq] at hgrant
        cases hgrant
  | upload h offset data =>
      rcases r.upload_cases h offset data with ⟨-, heq⟩ | ⟨_, _, -, -, heq⟩
      · rw [step, heq]
        rfl
      · rw [step, heq]
        exact Array.size_setIfInBounds
  | release h => exact Array.size_setIfInBounds
  | submit | clearCalls => rfl

theorem calls_step_of_ne (hclear : call ≠ .clearCalls) :
    (r.step call).calls.toList = r.calls.toList ++ call.entry?.toList := by
  have hrecord : ∀ entry, (r.record entry).calls.toList = r.calls.toList ++ [entry] :=
    fun _ => Array.toList_push ..
  cases call with
  | allocate bytes usage =>
      rcases r.allocate_cases bytes usage with ⟨-, heq⟩ | ⟨-, heq⟩ <;> rw [step, heq] <;>
        exact hrecord _
  | upload h offset data =>
      rcases r.upload_cases h offset data with ⟨-, heq⟩ | ⟨_, _, -, -, heq⟩ <;>
        rw [step, heq] <;> exact hrecord _
  | release | submit => exact hrecord _
  | clearCalls => exact absurd rfl hclear

end Step

/-! ## Any calls -/

theorem limit_run (r : Recorder) (calls : List RecorderCall) : (r.run calls).limit = r.limit := by
  induction calls generalizing r with
  | nil => rfl
  | cons call calls ih => exact (ih (r.step call)).trans (r.limit_step call)

/-- Buffers are numbered in the order of granting. -/
theorem grantsOf_eq (r : Recorder) (calls : List RecorderCall) :
    (List.range r.buffers.size).map BufferHandle.mk ++ r.grantsOf calls =
      (List.range (r.run calls).buffers.size).map BufferHandle.mk := by
  induction calls generalizing r with
  | nil => exact List.append_nil _
  | cons call calls ih =>
      rw [run_cons, ← ih, grantsOf, ← List.append_assoc]
      congr 1
      cases hgrant : r.grant? call with
      | none => rw [size_buffers_step_of_none hgrant, Option.toList_none, List.append_nil]
      | some h =>
          obtain ⟨bytes, usage, -, rfl, hbuffers⟩ := buffers_step_of_grant hgrant
          rw [hbuffers, Array.size_push, List.range_succ, List.map_append]
          rfl

/-- Until it is given back, a buffer has the bytes that it had, overwritten in order. -/
theorem exists_buffer?_run {r : Recorder} {h : BufferHandle} {m : Memory}
    (hm : r.buffer? h = some m) {calls : List RecorderCall} (hkept : .release h ∉ calls) :
    ∃ m', (r.run calls).buffer? h = some m' ∧ m'.size = m.size ∧
      m'.toList =
        (calls.filterMap (·.write? h m.size)).foldl MemoryWrite.overwrite m.toList := by
  induction calls generalizing r m with
  | nil => exact ⟨m, hm, rfl, rfl⟩
  | cons call calls ih =>
      obtain ⟨hcall, hkept⟩ := List.ne_and_not_mem_of_not_mem_cons hkept
      obtain ⟨m₁, hm₁, hsize₁, hlist₁⟩ := exists_buffer?_step hm hcall.symm
      obtain ⟨m', hm', hsize, hlist⟩ := ih hm₁ hkept
      refine ⟨m', hm', hsize.trans hsize₁, ?_⟩
      rw [hlist, hlist₁, hsize₁, ← List.foldl_append, List.filterMap_cons]
      cases call.write? h m.size <;> rfl

/-- In the course of calls the buffer was granted with that size, and it was not given back in
the calls since. -/
def IsLiveSince (limit : Option Nat) (calls : List RecorderCall) (h : BufferHandle) (size : Nat)
    (since : List RecorderCall) : Prop :=
  ∃ before usage, calls = before ++ .allocate size usage :: since ∧
    ((empty limit).run before).grant? (.allocate size usage) = some h ∧ .release h ∉ since

variable {limit : Option Nat} {calls : List RecorderCall}

theorem IsLiveSince.exists_buffer? {h : BufferHandle} {size : Nat} {since : List RecorderCall}
    (hlive : IsLiveSince limit calls h size since) :
    ∃ m, ((empty limit).run calls).buffer? h = some m ∧ m.size = size ∧
      m.toList = RecorderCall.contents h size since := by
  obtain ⟨before, usage, rfl, hgrant, hkept⟩ := hlive
  obtain ⟨_, _, hcall, rfl, hbuffers⟩ := buffers_step_of_grant hgrant
  cases hcall
  have hzero : (((empty limit).run before).step (.allocate size usage)).buffer?
      ⟨((empty limit).run before).buffers.size⟩ = some (.zero size) := by
    rw [buffer?, hbuffers, Array.getElem?_push_size]
    rfl
  rw [run_append, run_cons, RecorderCall.contents, ← Memory.toList_zero]
  exact exists_buffer?_run hzero hkept

/-- A buffer is live because of the call that it was granted in answer to. -/
theorem exists_isLiveSince {h : BufferHandle}
    (hlive : (((empty limit).run calls).buffer? h).isSome) :
    ∃ size since, IsLiveSince limit calls h size since := by
  induction calls using List.reverseRecOn with
  | nil => cases hlive
  | append_singleton calls call ih =>
      rw [run_append, run_cons, run_nil] at hlive
      by_cases hgrant : ((empty limit).run calls).grant? call = some h
      · obtain ⟨size, usage, rfl, -, -⟩ := buffers_step_of_grant hgrant
        exact ⟨size, [], calls, usage, rfl, hgrant, List.not_mem_nil⟩
      · have hkept : call ≠ .release h := by
          rintro rfl
          rw [step, buffer?_release_self] at hlive
          cases hlive
        have hbefore : (((empty limit).run calls).buffer? h).isSome := by
          rw [Option.isSome_iff_ne_none]
          intro hnone
          rw [buffer?_step_of_none hnone hgrant] at hlive
          cases hlive
        obtain ⟨size, since, before, usage, rfl, hfirst, hsince⟩ := ih hbefore
        refine ⟨size, since ++ [call], before, usage, by simp, hfirst, ?_⟩
        rw [List.mem_append, List.mem_singleton]
        exact not_or.2 ⟨hsince, hkept.symm⟩

theorem isSome_buffer?_iff {h : BufferHandle} :
    (((empty limit).run calls).buffer? h).isSome ↔
      ∃ size since, IsLiveSince limit calls h size since := by
  refine ⟨exists_isLiveSince, ?_⟩
  rintro ⟨size, since, hlive⟩
  obtain ⟨m, hm, -, -⟩ := hlive.exists_buffer?
  rw [hm]
  rfl

/-- The live buffers are as many as are counted. -/
theorem liveCount_eq_length (r : Recorder) :
    r.liveCount = (((List.range r.buffers.size).map BufferHandle.mk).filter
      fun h => (r.buffer? h).isSome).length := by
  have hslots : (List.range r.buffers.size).map (fun i => r.buffers[i]?) =
      r.buffers.toList.map some := by
    apply List.ext_getElem <;> simp
  calc r.liveCount
      = r.buffers.toList.countP Option.isSome := (Array.countP_toList ..).symm
    _ = (r.buffers.toList.map some).countP fun slot => slot.join.isSome := by
        rw [List.countP_map]
        rfl
    _ = _ := by
        rw [← hslots, List.countP_map, ← List.countP_eq_length_filter, List.countP_map]
        rfl

/-- What is on record are the calls since the record was cleared. -/
theorem exists_calls_eq (limit : Option Nat) (calls : List RecorderCall) :
    ∃ before since, calls = before ++ since ∧
      (before = [] ∨ ∃ earlier, before = earlier ++ [.clearCalls]) ∧ .clearCalls ∉ since ∧
      ((empty limit).run calls).calls.toList = since.filterMap RecorderCall.entry? := by
  induction calls using List.reverseRecOn with
  | nil => exact ⟨[], [], rfl, .inl rfl, List.not_mem_nil, rfl⟩
  | append_singleton calls call ih =>
      rw [run_append, run_cons, run_nil]
      by_cases hclear : call = .clearCalls
      · subst hclear
        exact ⟨calls ++ [.clearCalls], [], (List.append_nil _).symm, .inr ⟨calls, rfl⟩,
          List.not_mem_nil, rfl⟩
      · obtain ⟨before, since, rfl, hbefore, hsince, hcalls⟩ := ih
        refine ⟨before, since ++ [call], List.append_assoc .., hbefore, ?_, ?_⟩
        · rw [List.mem_append, List.mem_singleton]
          exact not_or.2 ⟨hsince, Ne.symm hclear⟩
        · rw [calls_step_of_ne hclear, hcalls, List.filterMap_append, List.filterMap_cons,
            List.filterMap_nil]
          cases call.entry? <;> rfl

/-- What the history of the calls tells of a recorder. -/
structure Follows (limit : Option Nat) (calls : List RecorderCall) (r : Recorder) : Prop where
  /-- A buffer is refused if it is above the limit. Otherwise it is known by the number of the
  buffers granted before. -/
  allocate : ∀ bytes usage, (r.allocate bytes usage).1 =
    if limit.any (· < bytes) then .error ⟨bytes⟩
    else .ok ⟨((empty limit).grantsOf calls).length⟩
  /-- No buffer was known by it. -/
  isNew : ⟨((empty limit).grantsOf calls).length⟩ ∉ (empty limit).grantsOf calls
  /-- The live buffers are those that were granted and not given back since, and their bytes are
  zeros, overwritten by the uploads that lie inside. -/
  buffer : ∀ h bytes, (r.buffer? h).map Memory.toList = some bytes ↔
    ∃ size since, IsLiveSince limit calls h size since ∧
      bytes = RecorderCall.contents h size since
  length : ∀ h size since, IsLiveSince limit calls h size since →
    (RecorderCall.contents h size since).length = size
  /-- An upload that does not lie inside a live buffer changes none. -/
  upload : ∀ h offset data, (∀ m, r.buffer? h = some m → m.size < offset + data.size) →
    (r.upload h offset data).value.buffers = r.buffers
  /-- No buffer is given back twice. -/
  release : ∀ h, r.buffer? h = none → (r.release h).buffers = r.buffers
  /-- A call changes no buffer but the one that it is made on or granted. -/
  frame : ∀ call h, r.grant? call ≠ some h → call.handle? ≠ some h →
    (r.step call).buffer? h = r.buffer? h
  liveCount : ∃ live : List BufferHandle, live.Nodup ∧
    (∀ h, h ∈ live ↔ ∃ size since, IsLiveSince limit calls h size since) ∧
    r.liveCount = live.length
  /-- On record are the calls since the record was cleared, in order. -/
  calls : ∃ before since, calls = before ++ since ∧
    (before = [] ∨ ∃ earlier, before = earlier ++ [.clearCalls]) ∧ .clearCalls ∉ since ∧
    r.calls.toList = since.filterMap RecorderCall.entry?

/-- Whatever calls are made on a recorder, it is what their history tells. -/
theorem follows_run (limit : Option Nat) (calls : List RecorderCall) :
    Follows limit calls ((empty limit).run calls) := by
  have hgrants : (empty limit).grantsOf calls =
      (List.range ((empty limit).run calls).buffers.size).map BufferHandle.mk :=
    (empty limit).grantsOf_eq calls
  have hlength : ((empty limit).grantsOf calls).length =
      ((empty limit).run calls).buffers.size := by
    rw [hgrants, List.length_map, List.length_range]
  exact {
    allocate := by
      intro bytes usage
      have hlimit : ((empty limit).run calls).limit = limit := limit_run ..
      rcases allocate_cases ((empty limit).run calls) bytes usage with ⟨hany, heq⟩ | ⟨hany, heq⟩
      · rw [hlimit] at hany
        rw [heq, hany]
        rfl
      · rw [hlimit] at hany
        rw [heq, hany, hlength]
        rfl
    isNew := by
      rw [hlength, hgrants]
      simp
    buffer := by
      intro h bytes
      constructor
      · intro hbytes
        obtain ⟨m, hm, rfl⟩ := Option.map_eq_some_iff.1 hbytes
        obtain ⟨size, since, hlive⟩ := isSome_buffer?_iff.1 (Option.isSome_of_eq_some hm)
        obtain ⟨m', hm', -, hlist⟩ := hlive.exists_buffer?
        cases hm.symm.trans hm'
        exact ⟨size, since, hlive, hlist⟩
      · rintro ⟨size, since, hlive, rfl⟩
        obtain ⟨m, hm, -, hlist⟩ := hlive.exists_buffer?
        rw [hm, Option.map_some, hlist]
    length := by
      intro h size since hlive
      obtain ⟨m, -, rfl, hlist⟩ := hlive.exists_buffer?
      rw [← hlist, Memory.length_toList]
    upload := fun _ _ _ => buffers_upload_of_not_fits
    release := fun _ => buffers_release_of_none
    frame := fun _ _ => buffer?_step_of_ne
    liveCount := by
      refine ⟨_, ?_, ?_, liveCount_eq_length _⟩
      · apply List.Nodup.filter
        refine List.Nodup.map ?_ List.nodup_range
        intro i j hij
        cases hij
        rfl
      · intro h
        rw [← isSome_buffer?_iff, List.mem_filter, and_iff_right_iff_imp]
        intro hlive
        obtain ⟨m, hm⟩ := Option.isSome_iff_exists.1 hlive
        exact List.mem_map.2 ⟨h.index, List.mem_range.2 (index_lt_of_buffer? hm), rfl⟩
    calls := exists_calls_eq limit calls }

example :
    let r := (empty (some 8)).run [.allocate 9 .static, .allocate 8 .stream,
      .upload ⟨0⟩ 4 #[1, 2, 3, 4], .upload ⟨0⟩ 6 #[9, 9, 9], .allocate 2 .stream, .release ⟨1⟩,
      .upload ⟨1⟩ 0 #[7], .release ⟨2⟩]
    (r.buffer? ⟨0⟩).map Memory.toList = some [0, 0, 0, 0, 1, 2, 3, 4] ∧ r.liveCount = 1 := by
  decide

end Recorder

end PolygonRenderer
