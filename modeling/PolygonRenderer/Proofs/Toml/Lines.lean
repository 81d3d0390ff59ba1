import PolygonRenderer.Proofs.Toml.Numbers
import PolygonRenderer.Proofs.Toml.Quotes

/-!
# Lines as they are written

Each line of a written document is one statement: an entry, a header, or nothing
on an empty line. `ReadsLine` says what a line stands for whatever comes after
it, and `statements?_lines` reads line by line.
-/

namespace PolygonRenderer.Toml

/-! ### Words -/

/-- A character of a number or a name. -/
def isWordChar (c : Char) : Bool :=
  c.isAlphanum || c == '-' || c == '.'

/-- A character of a word stands neither for a blank nor for a part of the
syntax. -/
theorem isWordChar_spec {c : Char} (hc : isWordChar c) :
    isBlank c = false ∧ endsWord c = false ∧ c ∉ ['"', '\'', '[', '{'] := by
  refine ⟨?_, ?_, ?_⟩
  · rw [Bool.eq_false_iff]
    intro h
    simp only [isBlank, Bool.or_eq_true, beq_iff_eq] at h
    rcases h with rfl | rfl <;> contradiction
  · rw [Bool.eq_false_iff]
    intro h
    simp only [endsWord, decide_eq_true_eq, List.mem_cons, List.not_mem_nil, or_false] at h
    rcases h with rfl | rfl | rfl | rfl | rfl | rfl | rfl | rfl | rfl <;> contradiction
  · intro h
    simp only [List.mem_cons, List.not_mem_nil, or_false] at h
    rcases h with rfl | rfl | rfl | rfl <;> contradiction

theorem word_append_newline {text : List Char} (htext : ∀ c ∈ text, isWordChar c)
    (rest : List Char) : word (text ++ '\n' :: rest) = text := by
  induction text with
  | nil => simp [word, wordGoesOn, isBlank, endsWord]
  | cons c text ih =>
    obtain ⟨hblank, hends, -⟩ := isWordChar_spec (htext c (by simp))
    rw [List.cons_append, word, if_pos (by simp [wordGoesOn, hblank, hends]),
      ih fun d hd => htext d (by simp [hd])]

theorem scalar?_of_ofWord? {text : List Char} {s : Scalar} (htext : ∀ c ∈ text, isWordChar c)
    (hs : Scalar.ofWord? text = some s) (rest : List Char) :
    scalar? (text ++ '\n' :: rest) = some (s, '\n' :: rest) := by
  have hword := word_append_newline htext rest
  have hfirst (quote : Char) (hquote : quote ∈ ['"', '\'']) (others : List Char) :
      text ++ '\n' :: rest ≠ quote :: others := by
    cases text with
    | nil =>
      intro heq
      rw [← (List.cons.inj heq).1] at hquote
      contradiction
    | cons c text =>
      intro heq
      obtain ⟨rfl, -⟩ := List.cons.inj heq
      have hnot := (isWordChar_spec (htext c (by simp))).2.2
      simp at hquote hnot
      grind
  unfold scalar?
  split
  · rename_i heq
    exact absurd heq (hfirst '"' (by simp) _)
  · rename_i heq
    exact absurd heq (hfirst '\'' (by simp) _)
  · simp [hword, hs]

/-- A value without brackets is a scalar. -/
theorem value?_eq_scalar? (depth : Nat) {chars : List Char}
    (hfirst : ∀ c ∈ chars.head?, c ≠ '[' ∧ c ≠ '{') :
    value? depth chars = (scalar? chars).map fun p => (.scalar p.1, p.2) := by
  cases depth with
  | zero =>
    rw [value?, Option.map_eq_bind]
    rfl
  | succ depth =>
    unfold value?
    split
    · simp at hfirst
    · simp at hfirst
    · rw [Option.map_eq_bind]
      rfl

/-! ### Values -/

namespace Scalar

/-- Whether the text of the value does not have to be a word of its own. -/
def isPlain : Scalar → Bool
  | datetime _ | unreadable _ => false
  | _ => true

/-- The value that the text stands for. -/
def asWritten : Scalar → Scalar
  | float x => float x.asWritten
  | s => s

/-- A word that is a number is none of the other values. -/
theorem ofWord?_of_isSome {text : List Char}
    (h : (integer? text).isSome ∨ (float? text).isSome) :
    ofWord? text = ((integer? text).map integer).or ((float? text).map float) := by
  have htrue : text ≠ ['t', 'r', 'u', 'e'] := by
    rintro rfl
    exact absurd h (by decide)
  have hfalse : text ≠ ['f', 'a', 'l', 's', 'e'] := by
    rintro rfl
    exact absurd h (by decide)
  rw [ofWord?, if_neg htrue, if_neg hfalse]
  rcases hinteger : integer? text with _ | n
  · rcases hfloat : float? text with _ | x
    · simp [hinteger, hfloat] at h
    · rfl
  · rfl

theorem ofWord?_floatText (x : ExtendedDecimal) :
    ofWord? (floatText x).toList = some (float x.asWritten) := by
  rcases x with _ | negative | d
  · decide
  · cases negative <;> decide
  · have hread := float?_text d
    rw [floatText, ofWord?_of_isSome (by simp [hread]), hread,
      integer?_eq_none_of_point (point_mem_text d)]
    rfl

theorem isWordChar_of_isDigit {c : Char} (hc : c.isDigit) : isWordChar c := by
  simp [isWordChar, Char.isAlphanum, hc]

theorem isWordChar_of_mem_floatText {x : ExtendedDecimal} {c : Char}
    (hc : c ∈ (floatText x).toList) : isWordChar c := by
  rcases x with _ | negative | d
  · exact List.all_eq_true.1 (by decide : "nan".toList.all isWordChar) c hc
  · cases negative
    · exact List.all_eq_true.1 (by decide : "inf".toList.all isWordChar) c hc
    · exact List.all_eq_true.1 (by decide : "-inf".toList.all isWordChar) c hc
  · rcases mem_text hc with hdigit | rfl | rfl
    · exact isWordChar_of_isDigit hdigit
    · rfl
    · rfl

theorem isWordChar_of_mem_toString {n : Int} {c : Char} (hc : c ∈ (toString n).toList) :
    isWordChar c := by
  rw [toList_toString_int] at hc
  rcases List.mem_append.1 hc with hsign | hdigit
  · obtain rfl : c = '-' := by simpa [signChars] using (List.mem_ite_nil_right.1 hsign).2
    rfl
  · exact isWordChar_of_isDigit (isDigit_of_mem_toDigits hdigit)

/-- The text of a value is a string in quotes or a word. -/
theorem text_cases {s : Scalar} (hs : s.isPlain) :
    (∃ text, s = string text) ∨
      (∀ c ∈ s.text.toList, isWordChar c) ∧ ofWord? s.text.toList = some s.asWritten := by
  rcases s with text | n | x | b | _ | _
  · exact .inl ⟨text, rfl⟩
  · have hread := integer?_toString n
    refine .inr ⟨fun c hc => isWordChar_of_mem_toString hc, ?_⟩
    rw [Scalar.text, ofWord?_of_isSome (.inl (by rw [hread]; rfl)), hread]
    rfl
  · exact .inr ⟨fun c hc => isWordChar_of_mem_floatText hc, ofWord?_floatText x⟩
  · refine .inr ⟨List.all_eq_true.1 ?_, ?_⟩ <;> cases b <;> decide
  · contradiction
  · contradiction

end Scalar

/-- What stands at the start of a value that is written. -/
theorem exists_text_eq {s : Scalar} (hs : s.isPlain) :
    ∃ c rest, s.text.toList = c :: rest ∧ isBlank c = false ∧ c ≠ '[' ∧ c ≠ '{' := by
  rcases Scalar.text_cases hs with ⟨text, rfl⟩ | ⟨hchars, hread⟩
  · exact ⟨_, _, toList_quote text, by decide⟩
  · cases htext : s.text.toList with
    | nil =>
      have hnil : Scalar.ofWord? [] = none := by decide
      simp [htext, hnil] at hread
    | cons c rest =>
      obtain ⟨hblank, -, hnot⟩ := isWordChar_spec (hchars c (by simp [htext]))
      simp only [List.mem_cons, not_or] at hnot
      exact ⟨c, rest, rfl, hblank, hnot.2.2.1, hnot.2.2.2.1⟩

/-- A value is read back from its line. -/
theorem value?_text (depth : Nat) {s : Scalar} (hs : s.isPlain) (rest : List Char) :
    value? depth (s.text.toList ++ '\n' :: rest) =
      some (.scalar s.asWritten, '\n' :: rest) := by
  have hscalar : scalar? (s.text.toList ++ '\n' :: rest) = some (s.asWritten, '\n' :: rest) := by
    rcases Scalar.text_cases hs with ⟨text, rfl⟩ | ⟨hchars, hread⟩
    · have hread : string? ((quote text).toList ++ '\n' :: rest) = some (text, '\n' :: rest) :=
        string?_quote text (by simp)
      rw [Scalar.text, toList_quote, List.cons_append] at *
      rw [scalar?, hread]
      rfl
    · exact scalar?_of_ofWord? hchars hread rest
  obtain ⟨c, tail, htext, -, hnot⟩ := exists_text_eq hs
  rw [value?_eq_scalar? depth, hscalar, Option.map_some]
  rw [htext]
  intro d hd
  obtain rfl : c = d := by simpa using hd
  exact hnot

/-! ### Keys -/

theorem skipBlanks_of_head? {chars : List Char} (h : ∀ c ∈ chars.head?, isBlank c = false) :
    skipBlanks chars = chars := by
  cases chars with
  | nil => rfl
  | cons c rest => simp [skipBlanks, h c rfl]

theorem skipBlanks_keyText (key : String) (rest : List Char) :
    skipBlanks ((keyText key).toList ++ rest) = (keyText key).toList ++ rest := by
  obtain ⟨c, tail, htext, hc⟩ := exists_keyText_eq key
  refine skipBlanks_of_head? fun d hd => ?_
  obtain rfl : c = d := by simpa [htext] using hd
  rw [Bool.eq_false_iff]
  intro hblank
  simp only [isBlank, Bool.or_eq_true, beq_iff_eq] at hblank
  rcases hblank with rfl | rfl <;> simp [isBare] at hc

/-- A key without dots is read back with the blanks after it. -/
theorem key?_keyText (key : String) {rest : List Char} (hrest : ∀ c ∈ rest.head?, isBare c = false)
    (hdot : (skipBlanks rest).head? ≠ some '.') :
    key? ((keyText key).toList ++ rest) = some (⟨[], key⟩, skipBlanks rest) := by
  rw [key?, maxParts, dottedKey?, skipBlanks_keyText, simpleKey?_keyText key hrest]
  simp only [Option.bind_eq_bind, Option.bind_some]
  split
  · rename_i heq
    simp [heq] at hdot
  · rfl

/-! ### Lines -/

/-- A line stands for a statement, or for none, whatever comes after it. -/
def ReadsLine (text : List Char) (statement : Option Statement) : Prop :=
  ∀ rest, statement? (text ++ '\n' :: rest) = some (statement, '\n' :: rest)

theorem readsLine_nil : ReadsLine [] none := fun rest => by
  rw [List.nil_append, statement?, skipBlanks_of_head? (by simp [isBlank])]
  rfl

/-- A line that starts with a key is an entry. -/
theorem statement?_keyText (key : String) (rest : List Char) :
    statement? ((keyText key).toList ++ rest) =
      (keyValue? skipBlanks (value? maxDepth) ((keyText key).toList ++ rest)).map fun p =>
        (some (.entry p.1 p.2.1), p.2.2) := by
  have hfirst (c : Char) (hc : c ∈ ['#', '\n', '\r', '[']) (others : List Char) :
      (keyText key).toList ++ rest ≠ c :: others := by
    obtain ⟨d, tail, htext, hd⟩ := exists_keyText_eq key
    rw [htext]
    intro heq
    obtain ⟨rfl, -⟩ := List.cons.inj heq
    simp only [List.mem_cons, List.not_mem_nil, or_false] at hc
    rcases hc with rfl | rfl | rfl | rfl <;> simp [isBare] at hd
  have hne : (keyText key).toList ++ rest ≠ [] := by
    obtain ⟨d, tail, htext, -⟩ := exists_keyText_eq key
    simp [htext]
  rw [statement?, skipBlanks_keyText]
  split
  · contradiction
  · exact absurd ‹_› (hfirst '#' (by simp) _)
  · exact absurd ‹_› (hfirst '\n' (by simp) _)
  · exact absurd ‹_› (hfirst '\r' (by simp) _)
  · exact absurd ‹_› (hfirst '[' (by simp) _)
  · exact absurd ‹_› (hfirst '[' (by simp) _)
  · rw [Option.map_eq_bind]
    rfl

theorem readsLine_entry (key : String) {s : Scalar} (hs : s.isPlain) :
    ReadsLine ((keyText key).toList ++ ' ' :: '=' :: ' ' :: s.text.toList)
      (some (.entry ⟨[], key⟩ (.scalar s.asWritten))) := by
  intro rest
  have hkey : key? ((keyText key).toList ++
      ' ' :: '=' :: ' ' :: (s.text.toList ++ '\n' :: rest)) =
        some (⟨[], key⟩, '=' :: ' ' :: (s.text.toList ++ '\n' :: rest)) :=
    key?_keyText key (by simp [isBare]) (by simp [skipBlanks, isBlank])
  have hequals : char? '=' (skipBlanks ('=' :: ' ' :: (s.text.toList ++ '\n' :: rest))) =
      some (' ' :: (s.text.toList ++ '\n' :: rest)) := rfl
  have hskip : skipBlanks (' ' :: (s.text.toList ++ '\n' :: rest)) =
      s.text.toList ++ '\n' :: rest := by
    obtain ⟨c, tail, htext, hblank, -⟩ := exists_text_eq hs
    have hspace (chars : List Char) : skipBlanks (' ' :: chars) = skipBlanks chars := rfl
    rw [hspace, skipBlanks_of_head? (by simpa [htext] using hblank)]
  have hentry : keyValue? skipBlanks (value? maxDepth) ((keyText key).toList ++
      ' ' :: '=' :: ' ' :: (s.text.toList ++ '\n' :: rest)) =
        some (⟨[], key⟩, .scalar s.asWritten, '\n' :: rest) := by
    simp only [keyValue?, hkey, hequals, hskip, value?_text maxDepth hs rest, Option.bind_eq_bind,
      Option.bind_some, Option.pure_def]
  rw [List.append_assoc, statement?_keyText]
  exact congrArg (Option.map _) hentry

theorem readsLine_header (key : String) :
    ReadsLine ('[' :: ((keyText key).toList ++ [']'])) (some (.table ⟨[], key⟩)) := by
  intro rest
  have hkey : key? ((keyText key).toList ++ ']' :: '\n' :: rest) =
      some (⟨[], key⟩, ']' :: '\n' :: rest) :=
    key?_keyText key (by simp [isBare]) (by simp [skipBlanks, isBlank])
  have hbracket (others : List Char) :
      (keyText key).toList ++ ']' :: '\n' :: rest ≠ '[' :: others := by
    obtain ⟨c, tail, htext, hc⟩ := exists_keyText_eq key
    rw [htext]
    intro heq
    obtain ⟨rfl, -⟩ := List.cons.inj heq
    simp [isBare] at hc
  rw [List.cons_append, List.append_assoc, List.singleton_append, statement?,
    skipBlanks_of_head? (by simp [isBlank])]
  simp [hkey, char?]

/-- The characters of lines. -/
def joinLines (lines : List (List Char)) : List Char :=
  lines.flatMap fun line => line ++ ['\n']

/-- Lines are read one by one. -/
theorem statements?_lines {lines : List (List Char × Option Statement)}
    (hlines : ∀ l ∈ lines, ReadsLine l.1 l.2) {fuel : Nat} (hfuel : lines.length ≤ fuel) :
    statements? fuel (joinLines (lines.map Prod.fst)) = some (lines.filterMap Prod.snd) := by
  induction lines generalizing fuel with
  | nil => simp [joinLines, statements?]
  | cons l lines ih =>
    obtain ⟨text, statement⟩ := l
    obtain ⟨fuel, rfl⟩ := Nat.exists_eq_add_one_of_ne_zero (Nat.ne_zero_of_lt hfuel)
    have hread := hlines (text, statement) (by simp) (joinLines (lines.map Prod.fst))
    have hothers : statements? fuel (joinLines (lines.map Prod.fst)) =
        some (lines.filterMap Prod.snd) :=
      ih (fun l hl => hlines l (by simp [hl])) (by simpa using hfuel)
    have hline : joinLines (((text, statement) :: lines).map Prod.fst) =
        text ++ '\n' :: joinLines (lines.map Prod.fst) := by
      simp [joinLines]
    have hend : endOfLine? ('\n' :: joinLines (lines.map Prod.fst)) =
        some (joinLines (lines.map Prod.fst)) := by
      simp [endOfLine?, skipBlanks, isBlank, skipComment, newline?]
    rw [hline, statements?, hread]
    · simp only [hend, hothers, Option.bind_eq_bind, Option.bind_some, Option.pure_def]
      cases statement <;> rfl
    · simp

end PolygonRenderer.Toml
