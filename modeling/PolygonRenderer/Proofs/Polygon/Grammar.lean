import PolygonRenderer.Proofs.Polygon.StoredModel

/-!
# The grammar of streams

Any words at all are complete records up to some point, and then one of three
things: a header that closes the model, a record that is marked as the last one,
or an item that breaks off. `Record.BreaksOff` tells where it does.

The main statement is that a decoder goes by this grammar. It answers the valid
polygons of the records and, only if no model stands at the front of the words,
one truncation at the end. After that it answers nothing and does not move.
-/

namespace PolygonRenderer

namespace Record

/-- The words are one item of a stream: a complete record, or a header that closes
the model. -/
def IsItem (words : List UInt32) : Prop :=
  (∃ r : Record, r.IsComplete ∧ words = r.toList) ∨
    ∃ t : Header, t.isTerminator = true ∧ words = t.toList

/-- The words are not an item, but the beginning of one. -/
def IsCutShort (words : List UInt32) : Prop :=
  ¬ IsItem words ∧ ∃ more, IsItem (words ++ more)

/-- An item breaks off for want of how many words, and with how many left. -/
inductive BreaksOff : List UInt32 → Nat → Nat → Prop
  /-- A header is due. -/
  | header {fragment : List UInt32} (hfragment : fragment.length < 7) :
      BreaksOff fragment 7 fragment.length
  /-- A vertex is due, behind a header and the vertices before it. -/
  | vertex {h : Header} {vs : List VertexWords} {fragment : List UInt32}
      (hrecord : h.isTerminator = false) (hvertices : vs.length < h.ownCount)
      (hfragment : fragment.length < 4) :
      BreaksOff (h.toList ++ vs.flatMap VertexWords.toList ++ fragment) 4 fragment.length

theorem breaksOff_of_read {words rest : List UInt32} {needed consumed : Nat}
    (h : read words = .truncated needed consumed rest) :
    BreaksOff words needed rest.length ∧ words.length = consumed + rest.length := by
  unfold read at h
  split at h
  · rename_i hheader
    cases h
    exact ⟨.header (Header.length_lt_of_read hheader), (Nat.zero_add _).symm⟩
  · rename_i header tail hheader
    split at h
    · cases h
    · rename_i ht
      dsimp only at h
      split at h
      · rename_i hcount
        cases h
        have hwords := Header.eq_of_read hheader
        rw [VertexWords.eq_of_readMany header.ownCount tail, ← List.append_assoc] at hwords
        refine ⟨?_, ?_⟩
        · rw [hwords]
          exact .vertex (Bool.eq_false_iff.2 ht) hcount (VertexWords.length_snd_readMany_lt hcount)
        · rw [hwords, List.length_append, List.length_append, Header.length_toList,
            VertexWords.length_flatMap_toList]
      · cases h

namespace BreaksOff

theorem lt {words : List UInt32} {needed available : Nat} (h : BreaksOff words needed available) :
    available < needed := by
  cases h with
  | header hfragment => exact hfragment
  | vertex _ _ hfragment => exact hfragment

/-- No item stands at the front of words that break off. -/
theorem not_isItem {front back : List UInt32} {needed available : Nat}
    (h : BreaksOff (front ++ back) needed available) : ¬ IsItem front := by
  generalize hwords : front ++ back = words at h
  cases h with
  | header hfragment =>
      rw [← hwords, List.length_append] at hfragment
      rintro (⟨r, -, rfl⟩ | ⟨t, -, rfl⟩)
      · rw [length_toList] at hfragment
        omega
      · rw [Header.length_toList] at hfragment
        omega
  | @vertex h vs fragment hrecord hvertices hfragment =>
      have hread := congrArg Header.read hwords
      rw [List.append_assoc, Header.read_toList_append] at hread
      rintro (⟨r, ⟨-, hcount⟩, rfl⟩ | ⟨t, ht, rfl⟩)
      · rw [toList, List.append_assoc, Header.read_toList_append] at hread
        obtain ⟨hheader, -⟩ := Prod.mk.inj (Option.some.inj hread)
        have hlength := congrArg List.length hwords
        simp only [List.length_append, length_toList, hcount, hheader, Header.length_toList,
          VertexWords.length_flatMap_toList] at hlength
        omega
      · rw [Header.read_toList_append] at hread
        obtain ⟨hheader, -⟩ := Prod.mk.inj (Option.some.inj hread)
        rw [← hheader, ht] at hrecord
        cases hrecord

/-- Up to six words become a header that closes the model, and the vertex that is
due becomes complete with any words. -/
theorem exists_isItem {words : List UInt32} {needed available : Nat}
    (h : BreaksOff words needed available) : ∃ more, IsItem (words ++ more) := by
  cases h with
  | header hfragment =>
      -- padding with zeros makes word 6 zero, and that is what closes a model
      have hlength : (words ++ List.replicate (7 - words.length) 0).length = 7 := by
        simp
        omega
      obtain ⟨t, ht⟩ := Header.exists_toList_eq hlength
      refine ⟨_, .inr ⟨t, ?_, ht⟩⟩
      have hlast : t.toList[6]? = some 0 := by
        rw [← ht, List.getElem?_append_right (by omega), List.getElem?_replicate,
          if_pos (by omega)]
      rw [Header.isTerminator, beq_iff_eq]
      exact Option.some.inj hlast
  | @vertex h vs fragment hrecord hvertices hfragment =>
      have hlength : (fragment ++ List.replicate (4 - fragment.length) 0).length = 4 := by
        simp
        omega
      obtain ⟨w, hw⟩ := VertexWords.exists_toList_eq hlength
      let rest := List.replicate (h.ownCount - vs.length - 1) w
      refine ⟨List.replicate (4 - fragment.length) 0 ++ rest.flatMap VertexWords.toList,
        .inl ⟨⟨h, vs ++ w :: rest⟩, ⟨hrecord, ?_⟩, ?_⟩⟩
      · simp [rest]
        omega
      · simp only [toList, List.flatMap_append, List.flatMap_cons, ← hw, List.append_assoc]

theorem isCutShort {words : List UInt32} {needed available : Nat}
    (h : BreaksOff words needed available) : IsCutShort words := by
  refine ⟨?_, h.exists_isItem⟩
  rw [← List.append_nil words] at h
  exact h.not_isItem

end BreaksOff

theorem seven_mul_length_le (rs : List Record) : 7 * rs.length ≤ (rs.flatMap toList).length := by
  induction rs with
  | nil => exact Nat.le_refl _
  | cons r rs ih =>
      rw [List.flatMap_cons, List.length_append, length_toList, List.length_cons]
      omega

/-- A record stands for one polygon or for none. -/
theorem Decodes.length_le {factor : Float32} {before after : Slots Float32} {rs : List Record}
    {ps : List (Polygon Float32)} (h : Decodes factor before rs ps after) :
    ps.length ≤ rs.length := by
  induction h with
  | nil => exact Nat.le_refl _
  | valid _ _ _ ih => exact Nat.succ_le_succ ih
  | invalid _ _ ih => exact Nat.le_succ_of_le ih

end Record

namespace StoredModel

/-- Any words are records that leave the model open up to a point where no such
record is read. -/
theorem exists_areOpen (words : List UInt32) :
    ∃ rs rest, AreOpen rs ∧ words = rs.flatMap Record.toList ++ rest ∧
      ∀ r rest', Record.read rest = .record r rest' → r.header.isLast = true := by
  by_cases hopen : ∃ r rest, Record.read words = .record r rest ∧ r.header.isLast = false
  · obtain ⟨r, rest, hread, hlast⟩ := hopen
    obtain ⟨rs, rest', hrs, hrest, hend⟩ := exists_areOpen rest
    refine ⟨r :: rs, rest', ?_, ?_, hend⟩
    · intro r' hr'
      rcases List.mem_cons.1 hr' with rfl | hr'
      · exact ⟨Record.isComplete_of_read hread, hlast⟩
      · exact hrs r' hr'
    · rw [Record.eq_of_read hread, hrest, List.flatMap_cons, List.append_assoc]
  · refine ⟨[], words, nofun, rfl, ?_⟩
    intro r rest hread
    exact Bool.not_eq_false _ ▸ fun hlast => hopen ⟨r, rest, hread, hlast⟩
termination_by words.length
decreasing_by exact Record.length_lt_of_read hread

/-- At the front of a stored model stands something that closes it, or a record
behind which the rest of the model is stored. -/
theorem toList_cases {m : StoredModel} (h : m.IsWellFormed) :
    (∃ t : Header, t.isTerminator = true ∧ m.toList = t.toList) ∨
      (∃ r : Record, r.IsComplete ∧ r.header.isLast = true ∧ m.toList = r.toList) ∨
      ∃ (r : Record) (m' : StoredModel), r.IsComplete ∧ m'.IsWellFormed ∧
        m.toList = r.toList ++ m'.toList := by
  cases m with
  | terminated rs t =>
      obtain ⟨hopen, ht⟩ := h
      cases rs with
      | nil => exact .inl ⟨t, ht, rfl⟩
      | cons r rs =>
          have hopen' : AreOpen rs := fun r' hr' => hopen r' (List.mem_cons_of_mem r hr')
          refine .inr (.inr ⟨r, terminated rs t, (hopen r List.mem_cons_self).1, ⟨hopen', ht⟩, ?_⟩)
          simp [toList]
  | marked rs last =>
      obtain ⟨hopen, hlast⟩ := h
      cases rs with
      | nil => exact .inr (.inl ⟨last, hlast.1, hlast.2, rfl⟩)
      | cons r rs =>
          have hopen' : AreOpen rs := fun r' hr' => hopen r' (List.mem_cons_of_mem r hr')
          refine .inr (.inr ⟨r, marked rs last, (hopen r List.mem_cons_self).1,
            ⟨hopen', hlast⟩, ?_⟩)
          simp [toList]

/-- No model is stored at the front of words that break off behind records which
leave it open. -/
theorem not_isWellFormed_of_breaksOff {rs : List Record} (hopen : AreOpen rs)
    {fragment : List UInt32} {needed available : Nat}
    (hbreaks : Record.BreaksOff fragment needed available) {m : StoredModel}
    {trailing : List UInt32}
    (heq : rs.flatMap Record.toList ++ fragment = m.toList ++ trailing) : ¬ m.IsWellFormed := by
  intro hm
  -- a record is read back from its own words, so the model starts with the same records
  induction rs generalizing m with
  | nil =>
      rw [List.flatMap_nil, List.nil_append] at heq
      rcases toList_cases hm with ⟨t, ht, h⟩ | ⟨r, hr, -, h⟩ | ⟨r, m', hr, -, h⟩
      · rw [heq, h] at hbreaks
        exact hbreaks.not_isItem (.inr ⟨t, ht, rfl⟩)
      · rw [heq, h] at hbreaks
        exact hbreaks.not_isItem (.inl ⟨r, hr, rfl⟩)
      · rw [heq, h, List.append_assoc] at hbreaks
        exact hbreaks.not_isItem (.inl ⟨r, hr, rfl⟩)
  | cons r rs ih =>
      obtain ⟨hr, hlast⟩ := hopen r List.mem_cons_self
      have hread := congrArg Record.read heq
      rw [List.flatMap_cons, List.append_assoc, Record.read_toList_append r hr] at hread
      rcases toList_cases hm with ⟨t, ht, h⟩ | ⟨r', hr', hlast', h⟩ | ⟨r', m', hr', hm', h⟩
      · rw [h, Record.read_terminator_append ht] at hread
        cases hread
      · rw [h, Record.read_toList_append r' hr'] at hread
        cases hread
        rw [hlast] at hlast'
        cases hlast'
      · rw [h, List.append_assoc, Record.read_toList_append r' hr'] at hread
        obtain ⟨-, hrest⟩ := Record.Reading.record.inj hread
        exact ih (fun r hr => hopen r (List.mem_cons_of_mem _ hr)) hrest hm'

end StoredModel

namespace Decoder

/-- The decoder after a number of calls. -/
def after (d : Decoder) : Nat → Decoder
  | 0 => d
  | n + 1 => after d.next.value.2 n

/-- What the call with a number answers, counting from zero. -/
def answer (d : Decoder) (n : Nat) : Option (Except Truncation (Polygon Float32)) :=
  (d.after n).next.value.1

theorem yields_of_truncated {d : Decoder} {rest : List UInt32} {needed consumed : Nat}
    (hf : d.finished = false) (hread : Record.read d.rest = .truncated needed consumed rest) :
    d.Yields [.error ⟨d.position + consumed, needed, rest.length⟩]
      { d with rest := rest, position := d.position + consumed, finished := true } := by
  apply Yields.item _ (yields_of_finished rfl)
  rw [next_of_step_truncated hf (by rw [step, hread])]
  rfl

/-- A decoder that answers nothing and stays where it is does so for good. -/
theorem after_eq_self {d : Decoder} (h : d.next.value = (none, d)) (n : Nat) : d.after n = d := by
  induction n with
  | zero => rfl
  | succ n ih => rw [after, h, ih]

/-- What is yielded is what the calls answer one after the other, and nothing comes
after it. -/
theorem Yields.answers {d d' : Decoder} {xs : List (Except Truncation (Polygon Float32))}
    (h : d.Yields xs d') (hend : d'.next.value = (none, d')) :
    (∀ n, d.answer n = xs[n]?) ∧ ∀ n, xs.length < n → d.after n = d' := by
  induction h with
  | nothing h =>
      refine ⟨?_, ?_⟩
      · intro n
        cases n with
        | zero => rw [answer, after, h]; rfl
        | succ n => rw [answer, after, h, after_eq_self hend, hend]; rfl
      · intro n hn
        cases n with
        | zero => cases hn
        | succ n => rw [after, h, after_eq_self hend]
  | item h _ ih =>
      obtain ⟨hanswer, hafter⟩ := ih hend
      refine ⟨?_, ?_⟩
      · intro n
        cases n with
        | zero => rw [answer, after, h]; rfl
        | succ n =>
            rw [answer, after, h]
            exact hanswer n
      · intro n hn
        cases n with
        | zero => cases hn
        | succ n =>
            rw [after, h]
            exact hafter n (Nat.lt_of_succ_lt_succ hn)

/-- The words start with a model, `ps` are its polygons, and `d` stands at its end. -/
def EndsModel (words : List UInt32) (factor : Float32) (ps : List (Polygon Float32))
    (d : Decoder) : Prop :=
  ∃ (m : StoredModel) (history : Slots Float32), m.IsWellFormed ∧
    d.position = m.toList.length ∧ words.take d.position = m.toList ∧
    Record.Decodes factor Slots.zero m.records ps history

/-- The words are records that leave the model open, `ps` are the polygons of these,
and an item that breaks off where `d` stands, which is what `t` tells. -/
def FindsBreak (words : List UInt32) (factor : Float32) (ps : List (Polygon Float32))
    (t : Truncation) (d : Decoder) : Prop :=
  ∃ (rs : List Record) (fragment : List UInt32) (history : Slots Float32),
    StoredModel.AreOpen rs ∧ words = rs.flatMap Record.toList ++ fragment ∧
      Record.IsCutShort fragment ∧ Record.Decodes factor Slots.zero rs ps history ∧
      Record.BreaksOff fragment t.needed t.available ∧ t.available < t.needed ∧
      t.offset = d.position ∧ t.offset + t.available = words.length

theorem EndsModel.of_append {m : StoredModel} {trailing words : List UInt32} {factor : Float32}
    {ps : List (Polygon Float32)} {history : Slots Float32} {d : Decoder} (hm : m.IsWellFormed)
    (hwords : words = m.toList ++ trailing) (hposition : d.position = m.toList.length)
    (hdecodes : Record.Decodes factor Slots.zero m.records ps history) :
    EndsModel words factor ps d :=
  ⟨m, history, hm, hposition, by rw [hposition, hwords, List.take_left], hdecodes⟩

/-- In front of any words, a decoder comes to the end of a model or to an item that
breaks off. -/
theorem exists_yields (words : List UInt32) (factor : Float32) :
    ∃ (ps : List (Polygon Float32)) (t? : Option Truncation) (d : Decoder),
      (start words factor).Yields (ps.map .ok ++ (t?.map .error).toList) d ∧
        d.finished = true ∧ 7 * ps.length ≤ words.length ∧
        match t? with
        | none => EndsModel words factor ps d
        | some t => FindsBreak words factor ps t d := by
  obtain ⟨rs, rest, hopen, hwords, hend⟩ := StoredModel.exists_areOpen words
  obtain ⟨ps, history, hdecodes, hyields⟩ := yields_of_records hopen
    (d := start words factor) rfl hwords
  have hcount := Record.seven_mul_length_le rs
  have hle := hdecodes.length_le
  have hlength := congrArg List.length hwords
  rw [List.length_append] at hlength
  cases hread : Record.read rest with
  | terminator trailing =>
      obtain ⟨t, ht, rfl⟩ := Record.eq_of_read_terminator hread
      have hm : (StoredModel.terminated rs t).IsWellFormed := ⟨hopen, ht⟩
      have hmodel : words = (StoredModel.terminated rs t).toList ++ trailing := by
        rw [hwords, StoredModel.toList, List.append_assoc]
      refine ⟨ps, none, _, hyields _ _ (yields_of_terminator rfl rfl ht), rfl, by omega,
        .of_append hm hmodel ?_ hdecodes⟩
      simp [start, StoredModel.toList]
  | record r trailing =>
      have hr := Record.isComplete_of_read hread
      have hlast := hend r trailing hread
      obtain rfl := Record.eq_of_read hread
      have hm : (StoredModel.marked rs r).IsWellFormed := ⟨hopen, hr, hlast⟩
      have hmodel : words = (StoredModel.marked rs r).toList ++ trailing := by
        rw [hwords, StoredModel.toList, List.append_assoc]
      obtain ⟨ps', history', hdecodes', hyields'⟩ := yields_of_record
        (d := ⟨r.toList ++ trailing, 0 + (rs.flatMap Record.toList).length, history, factor,
          false⟩) rfl rfl hr
      have hall := hyields _ _ (hyields' _ _ (yields_of_finished hlast))
      -- the last record may add a polygon of its own
      have hle' : ps'.length ≤ 1 := hdecodes'.length_le
      rw [← List.append_assoc, ← List.map_append] at hall
      rw [List.length_append, Record.length_toList] at hlength
      refine ⟨ps ++ ps', none, _, hall, hlast, ?_,
        .of_append hm hmodel ?_ (hdecodes.append hdecodes')⟩
      · rw [List.length_append]
        omega
      · simp [StoredModel.toList]
  | truncated needed consumed left =>
      obtain ⟨hbreaks, hrest⟩ := Record.breaksOff_of_read hread
      refine ⟨ps, some ⟨_, needed, left.length⟩, _, hyields _ _ (yields_of_truncated rfl hread),
        rfl, by omega, rs, rest, history, hopen, hwords, hbreaks.isCutShort, hdecodes, hbreaks,
        hbreaks.lt, rfl, ?_⟩
      simp only [start]
      omega

/-- All that `next` answers, for any words: the polygons of the model that the words
start with, and if there is no such model, the polygons of the records before the
place where the words break off and a truncation that tells that place. Then it
answers nothing, and the decoder does not move any more. -/
theorem answers_any (words : List UInt32) (factor : Float32) :
    ∃ (ps : List (Polygon Float32)) (t? : Option Truncation) (d : Decoder),
      let items := ps.map .ok ++ (t?.map .error).toList
      (∀ n, (start words factor).answer n = items[n]?) ∧
        (∀ n, items.length < n → (start words factor).after n = d) ∧
        items.length + 1 ≤ words.length / 7 + 2 ∧
        (t? = none ↔ ∃ m trailing, StoredModel.IsWellFormed m ∧ words = m.toList ++ trailing) ∧
        match t? with
        | none => EndsModel words factor ps d
        | some t => FindsBreak words factor ps t d := by
  obtain ⟨ps, t?, d, hyields, hfinished, hcount, hend⟩ := exists_yields words factor
  obtain ⟨hanswer, hafter⟩ := hyields.answers (by rw [next_of_finished hfinished]; rfl)
  refine ⟨ps, t?, d, hanswer, hafter, ?_, ?_, hend⟩
  · cases t? <;> simp <;> omega
  · cases t? with
    | none =>
        obtain ⟨m, history, hm, -, htake, -⟩ := hend
        refine iff_of_true rfl ⟨m, words.drop d.position, hm, ?_⟩
        rw [← htake, List.take_append_drop]
    | some t =>
        obtain ⟨rs, fragment, history, hopen, hwords, -, -, hbreaks, -⟩ := hend
        refine iff_of_false nofun ?_
        rintro ⟨m, trailing, hm, hmodel⟩
        exact StoredModel.not_isWellFormed_of_breaksOff hopen hbreaks (hwords.symm.trans hmodel) hm

end Decoder

end PolygonRenderer
