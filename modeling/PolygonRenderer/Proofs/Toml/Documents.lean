import PolygonRenderer.Proofs.Toml.Lines

/-!
# Documents as they are written

The text of a flat document is read back: `Document.parse?_render`. The reader
takes the lines for statements, and these add the entries one by one at the end
of the document or of its last table.
-/

namespace PolygonRenderer.Toml

namespace Entries

theorem lookup_eq_none {entries : Entries} {key : String} (h : key ∉ entries.map Prod.fst) :
    entries.lookup key = none := by
  rw [List.lookup_eq_none_iff]
  intro e he
  rw [bne_iff_ne]
  rintro rfl
  exact h (List.mem_map_of_mem he)

theorem insertNew_of_not_mem {entries : Entries} {key : String} (h : key ∉ entries.map Prod.fst)
    (value : Value) : entries.insertNew key value = some (entries ++ [(key, value)]) := by
  rw [insertNew, lookup_eq_none h]

theorem replace_append_singleton {entries : Entries} {key : String}
    (h : key ∉ entries.map Prod.fst) (old new : Value) :
    Entries.replace (entries ++ [(key, old)]) key new = entries ++ [(key, new)] := by
  have hkeep : entries.replace key new = entries := by
    calc entries.replace key new = entries.map id := by
          refine List.map_congr_left fun e he => if_neg ?_
          rintro rfl
          exact h (List.mem_map_of_mem he)
      _ = entries := List.map_id entries
  unfold Entries.replace at hkeep ⊢
  simpa using hkeep

theorem insertDotted_headed {entries : Entries} {key : String} (h : key ∉ entries.map Prod.fst)
    (value : Value) :
    entries.insertDotted [] key value .headed = some (entries ++ [(key, value)]) :=
  insertNew_of_not_mem h value

theorem openTable_of_not_mem {entries : Entries} {key : String} (h : key ∉ entries.map Prod.fst) :
    entries.openTable [] key = some (entries ++ [(key, .table .headed [])]) := by
  simp [openTable, update, lookup_eq_none h]

/-- A change of the last table of a document. -/
theorem update_last {entries : Entries} {key : String} (h : key ∉ entries.map Prod.fst)
    {change : TableKind → Entries → Option Entries} {inner result : Entries}
    (hchange : change .headed inner = some result) :
    update false change [key] .headed (entries ++ [(key, .table .headed inner)]) =
      some (entries ++ [(key, .table .headed result)]) := by
  have hlookup : (entries ++ [(key, Value.table .headed inner)]).lookup key =
      some (.table .headed inner) := by
    rw [List.lookup_append, lookup_eq_none h]
    simp
  simp [update, hlookup, hchange, replace_append_singleton h]

end Entries

namespace FlatDocument

/-- The entries that are written under keys. -/
def written (entries : List (String × Scalar)) : Entries :=
  entries.map fun e => (e.1, .scalar e.2.asWritten)

theorem keys_written (entries : List (String × Scalar)) :
    (written entries).map Prod.fst = entries.map Prod.fst := by
  rw [written, List.map_map]
  rfl

/-- The document that the text stands for. -/
def asWritten (d : FlatDocument) : FlatDocument :=
  { entries := d.entries.map fun e => (e.1, e.2.asWritten)
    tables := d.tables.map fun t => (t.1, t.2.map fun e => (e.1, e.2.asWritten)) }

theorem toEntries_asWritten (d : FlatDocument) :
    d.asWritten.toEntries =
      written d.entries ++ d.tables.map fun t => (t.1, .table .headed (written t.2)) := by
  simp [asWritten, toEntries, written, Function.comp_def]

/-- A document whose text stands for it: its values are words or in quotes, and
no key occurs twice. -/
structure IsWritable (d : FlatDocument) : Prop where
  plain_entries : ∀ e ∈ d.entries, e.2.isPlain
  plain_tables : ∀ t ∈ d.tables, ∀ e ∈ t.2, e.2.isPlain
  nodup_keys : (d.entries.map Prod.fst ++ d.tables.map Prod.fst).Nodup
  nodup_tables : ∀ t ∈ d.tables, (t.2.map Prod.fst).Nodup

/-! ### The lines of a document -/

/-- The line of an entry, and the statement it stands for. -/
def entryLine (e : String × Scalar) : List Char × Option Statement :=
  ((keyText e.1).toList ++ ' ' :: '=' :: ' ' :: e.2.text.toList,
    some (.entry ⟨[], e.1⟩ (.scalar e.2.asWritten)))

/-- The lines of a table, of which the first is empty. -/
def tableLines (t : String × List (String × Scalar)) : List (List Char × Option Statement) :=
  ([], none) :: ('[' :: ((keyText t.1).toList ++ [']']), some (.table ⟨[], t.1⟩)) ::
    t.2.map entryLine

def lines (d : FlatDocument) : List (List Char × Option Statement) :=
  d.entries.map entryLine ++ d.tables.flatMap tableLines

theorem joinLines_append (lines others : List (List Char)) :
    joinLines (lines ++ others) = joinLines lines ++ joinLines others :=
  List.flatMap_append

theorem toList_entryText (e : String × Scalar) :
    (entryText e).toList = joinLines [(entryLine e).1] := by
  simp [entryText, entryLine, joinLines]

theorem toList_join_entryText (entries : List (String × Scalar)) :
    (String.join (entries.map entryText)).toList =
      joinLines ((entries.map entryLine).map Prod.fst) := by
  induction entries with
  | nil => rfl
  | cons e entries ih =>
    rw [List.map_cons, String.join_cons, String.toList_append, ih, toList_entryText,
      ← joinLines_append]
    rfl

theorem toList_tableText (t : String × List (String × Scalar)) :
    (tableText t).toList = joinLines ((tableLines t).map Prod.fst) := by
  rw [tableText, String.toList_append, toList_join_entryText]
  simp [tableLines, joinLines]

theorem toList_render (d : FlatDocument) :
    d.render.toList = joinLines (d.lines.map Prod.fst) := by
  have htables : (String.join (d.tables.map tableText)).toList =
      joinLines ((d.tables.flatMap tableLines).map Prod.fst) := by
    induction d.tables with
    | nil => rfl
    | cons t tables ih =>
      rw [List.map_cons, String.join_cons, String.toList_append, ih, toList_tableText,
        ← joinLines_append, List.flatMap_cons, List.map_append]
  rw [render, String.toList_append, toList_join_entryText, htables, ← joinLines_append,
    ← List.map_append, lines]

theorem IsWritable.readsLine {d : FlatDocument} (h : d.IsWritable) :
    ∀ l ∈ d.lines, ReadsLine l.1 l.2 := by
  intro l hl
  rcases List.mem_append.1 hl with hl | hl
  · obtain ⟨e, he, rfl⟩ := List.mem_map.1 hl
    exact readsLine_entry e.1 (h.plain_entries e he)
  · obtain ⟨t, ht, hl⟩ := List.mem_flatMap.1 hl
    rcases List.mem_cons.1 hl with rfl | hl
    · exact readsLine_nil
    · rcases List.mem_cons.1 hl with rfl | hl
      · exact readsLine_header t.1
      · obtain ⟨e, he, rfl⟩ := List.mem_map.1 hl
        exact readsLine_entry e.1 (h.plain_tables t ht e he)

/-! ### Carrying out the lines -/

/-- The statement of an entry. -/
def entryStatement (e : String × Scalar) : Statement :=
  .entry ⟨[], e.1⟩ (.scalar e.2.asWritten)

def tableStatements (t : String × List (String × Scalar)) : List Statement :=
  .table ⟨[], t.1⟩ :: t.2.map entryStatement

theorem statements_lines (d : FlatDocument) :
    d.lines.filterMap Prod.snd =
      d.entries.map entryStatement ++ d.tables.flatMap tableStatements := by
  have hentries (entries : List (String × Scalar)) :
      (entries.map entryLine).filterMap Prod.snd = entries.map entryStatement := by
    rw [List.filterMap_map, ← List.filterMap_eq_map]
    rfl
  have htables : (d.tables.flatMap tableLines).filterMap Prod.snd =
      d.tables.flatMap tableStatements := by
    rw [List.filterMap_flatMap, List.flatMap_def, List.flatMap_def]
    exact congrArg List.flatten (List.map_congr_left fun t _ =>
      congrArg (Statement.table ⟨[], t.1⟩ :: ·) (hentries t.2))
  rw [lines, List.filterMap_append, hentries, htables]

theorem append_written_cons (entries : Entries) (e : String × Scalar)
    (added : List (String × Scalar)) :
    entries ++ written (e :: added) =
      entries ++ [(e.1, .scalar e.2.asWritten)] ++ written added := by
  simp [written]

/-- What a key that is added next has to be, and what it leaves. -/
theorem nodup_append_cons {keys added : List String} {key : String}
    (h : (keys ++ key :: added).Nodup) :
    key ∉ keys ∧ (keys ++ [key] ++ added).Nodup := by
  refine ⟨fun hmem => (List.nodup_append.1 h).2.2 key hmem key (by simp) rfl, ?_⟩
  rwa [List.append_assoc, List.singleton_append]

/-- A document does not start with a byte order mark. -/
theorem toList_render_ne (d : FlatDocument) (rest : List Char) :
    d.render.toList ≠ '\uFEFF' :: rest := by
  rw [toList_render, lines]
  cases d.entries with
  | cons e entries =>
    obtain ⟨c, tail, htext, hc⟩ := exists_keyText_eq e.1
    intro heq
    obtain rfl : c = '\uFEFF' := by
      simpa [joinLines, entryLine, htext] using congrArg List.head? heq
    rcases hc with hc | hc
    · exact absurd hc (by decide)
    · exact absurd hc (by decide)
  | nil =>
    cases d.tables with
    | nil => simp [joinLines]
    | cons t tables => simp [joinLines, tableLines]

theorem length_le_length_joinLines (lines : List (List Char)) :
    lines.length ≤ (joinLines lines).length := by
  induction lines with
  | nil => simp
  | cons line lines ih =>
    simp only [joinLines, List.flatMap_cons, List.length_append, List.length_cons] at ih ⊢
    omega

/-- Entries before the first header go to the end of the document. -/
theorem run_entries {entries : Entries} {added : List (String × Scalar)}
    (hnodup : (entries.map Prod.fst ++ added.map Prod.fst).Nodup) (rest : List Statement) :
    Document.run [] entries (added.map entryStatement ++ rest) =
      Document.run [] (entries ++ written added) rest := by
  induction added generalizing entries with
  | nil => simp [written]
  | cons e added ih =>
    obtain ⟨hkey, hnodup⟩ := nodup_append_cons hnodup
    have hinsert := Entries.insertDotted_headed hkey (.scalar e.2.asWritten)
    rw [append_written_cons, ← ih (by simpa using hnodup), List.map_cons, List.cons_append,
      entryStatement, Document.run]
    simp only [Entries.update, hinsert, Option.bind_eq_bind, Option.bind_some]

/-- Entries after a header go to the end of its table. -/
theorem run_table_entries {entries inner : Entries} {key : String}
    (hkey : key ∉ entries.map Prod.fst) {added : List (String × Scalar)}
    (hnodup : (inner.map Prod.fst ++ added.map Prod.fst).Nodup) (rest : List Statement) :
    Document.run [key] (entries ++ [(key, .table .headed inner)])
        (added.map entryStatement ++ rest) =
      Document.run [key] (entries ++ [(key, .table .headed (inner ++ written added))]) rest := by
  induction added generalizing inner with
  | nil => simp [written]
  | cons e added ih =>
    obtain ⟨hinner, hnodup⟩ := nodup_append_cons hnodup
    have hupdate : Entries.update false
          (fun kind inner => inner.insertDotted [] e.1 (.scalar e.2.asWritten) kind) [key] .headed
          (entries ++ [(key, .table .headed inner)]) =
        some (entries ++ [(key, .table .headed (inner ++ [(e.1, .scalar e.2.asWritten)]))]) :=
      Entries.update_last hkey (Entries.insertDotted_headed hinner _)
    rw [append_written_cons, ← ih (by simpa using hnodup), List.map_cons, List.cons_append,
      entryStatement, Document.run]
    simp only [hupdate, Option.bind_eq_bind, Option.bind_some]

/-- Tables go to the end of the document. -/
theorem run_tables (header : List String) {entries : Entries}
    {tables : List (String × List (String × Scalar))}
    (hnodup : (entries.map Prod.fst ++ tables.map Prod.fst).Nodup)
    (htables : ∀ t ∈ tables, (t.2.map Prod.fst).Nodup) :
    Document.run header entries (tables.flatMap tableStatements) =
      some (entries ++ tables.map fun t => (t.1, .table .headed (written t.2))) := by
  induction tables generalizing header entries with
  | nil => simp [Document.run]
  | cons t tables ih =>
    obtain ⟨hkey, hnodup⟩ := nodup_append_cons hnodup
    have hopen := Entries.openTable_of_not_mem hkey
    have hadd : Document.run [t.1] (entries ++ [(t.1, .table .headed [])])
          (t.2.map entryStatement ++ tables.flatMap tableStatements) =
        Document.run [t.1] (entries ++ [(t.1, .table .headed (written t.2))])
          (tables.flatMap tableStatements) :=
      run_table_entries hkey (by simpa using htables t (by simp)) _
    rw [List.flatMap_cons, tableStatements, List.cons_append, Document.run]
    simp only [hopen, Option.bind_eq_bind, Option.bind_some, List.nil_append]
    rw [hadd, ih [t.1] (by simpa using hnodup) fun u hu => htables u (by simp [hu])]
    simp

end FlatDocument

/-- The text of a document is read back as the document it stands for. -/
theorem Document.parse?_render {d : FlatDocument} (h : d.IsWritable) :
    Document.parse? d.render = some d.asWritten.toEntries := by
  have hfuel : d.lines.length ≤ d.render.toList.length + 1 := by
    have := FlatDocument.length_le_length_joinLines (d.lines.map Prod.fst)
    rw [List.length_map] at this
    rw [FlatDocument.toList_render]
    omega
  have hlines : statements? (d.render.toList.length + 1) d.render.toList =
      some (d.lines.filterMap Prod.snd) := by
    have hread := statements?_lines h.readsLine hfuel
    rwa [← FlatDocument.toList_render] at hread
  have hstatements : Document.statements d.render = some (d.lines.filterMap Prod.snd) := by
    unfold Document.statements
    split
    · exact absurd ‹_› (d.toList_render_ne _)
    · exact hlines
  have hkeys : ((FlatDocument.written d.entries).map Prod.fst ++
      d.tables.map Prod.fst).Nodup := by
    rw [FlatDocument.keys_written]
    exact h.nodup_keys
  rw [Document.parse?, hstatements, Option.bind_eq_bind, Option.bind_some,
    FlatDocument.statements_lines, FlatDocument.run_entries, List.nil_append,
    FlatDocument.run_tables [] hkeys h.nodup_tables, FlatDocument.toEntries_asWritten]
  exact h.nodup_keys.sublist (by simp)

end PolygonRenderer.Toml
