import PolygonRenderer.Toml.Printer

/-!
# Strings in quotes

A string is written in double quotes, each character for itself or as an escape.
The reader takes one character of the string from each of these, so it finds the
string and stops behind the closing quote.
-/

namespace PolygonRenderer.Toml

/-- The four digits of the number of a character. -/
def unicodeDigits (c : Char) : List Char :=
  List.replicate (4 - (Nat.toDigits 16 c.toNat).length) '0' ++ Nat.toDigits 16 c.toNat

theorem toNat_lt_of_isControl {c : Char} (hc : isControl c) : c.toNat < 128 := by
  simp only [isControl, Bool.or_eq_true, Bool.and_eq_true, decide_eq_true_eq, beq_iff_eq,
    UInt32.lt_iff_toNat_lt, ← UInt32.toNat_inj] at hc
  rcases hc with ⟨hlow, -⟩ | hdelete
  · exact Nat.lt_trans hlow (by decide)
  · exact Nat.lt_of_le_of_lt (Nat.le_of_eq hdelete) (by decide)

/-- A control character is read from its number. -/
theorem codePoint?_unicodeDigits {c : Char} (hc : isControl c) (rest : List Char) :
    codePoint? 4 (unicodeDigits c ++ rest) = some (c, rest) := by
  have hall : ∀ n < 128, isControl (Char.ofNat n) → (unicodeDigits (Char.ofNat n)).length = 4 ∧
      codePoint? 4 (unicodeDigits (Char.ofNat n)) = some (Char.ofNat n, []) := by
    decide +kernel
  obtain ⟨hlength, hread⟩ := hall c.toNat (toNat_lt_of_isControl hc) (by rwa [Char.ofNat_toNat])
  rw [Char.ofNat_toNat] at hlength hread
  unfold codePoint? at hread ⊢
  rw [List.take_of_length_le (Nat.le_of_eq hlength)] at hread
  rw [List.take_left' hlength, List.drop_left' hlength]
  cases hdigits : (unicodeDigits c).mapM hexDigit? with
  | none => simp [hdigits] at hread
  | some digits =>
    simp only [hdigits, Option.bind_eq_bind, Option.bind_some] at hread ⊢
    split at hread
    · rename_i hvalid
      rw [if_pos hvalid, (Prod.mk.inj (Option.some.inj hread)).1]
    · contradiction

/-- One character of a string is read from its escape. -/
theorem basic?_escapeChar (fuel : Nat) (c : Char) (rest : List Char) :
    basic? (fuel + 1) (escapeChar c ++ rest) =
      (basic? fuel rest).map fun p => (c :: p.1, p.2) := by
  by_cases hquote : c = '"'
  · subst hquote
    cases h : basic? fuel rest <;> simp [escapeChar, basic?, escape?, h]
  by_cases hbackslash : c = '\\'
  · subst hbackslash
    cases h : basic? fuel rest <;> simp [escapeChar, basic?, escape?, h]
  by_cases hcontrol : isControl c
  · have hread := codePoint?_unicodeDigits hcontrol rest
    have hescape : escapeChar c = '\\' :: 'u' :: unicodeDigits c := by
      simp [escapeChar, unicodeDigits, hquote, hbackslash, hcontrol]
    rw [hescape]
    cases h : basic? fuel rest <;> simp [basic?, escape?, hread, h]
  · cases h : basic? fuel rest <;> simp [escapeChar, basic?, hquote, hbackslash, hcontrol, h]

/-- A string is read up to the closing quote. -/
theorem basic?_flatMap_escapeChar {fuel : Nat} (text rest : List Char)
    (hfuel : text.length < fuel) :
    basic? fuel (text.flatMap escapeChar ++ '"' :: rest) = some (text, rest) := by
  obtain ⟨fuel, rfl⟩ := Nat.exists_eq_add_one_of_ne_zero (Nat.ne_zero_of_lt hfuel)
  induction text generalizing fuel with
  | nil => simp [basic?]
  | cons c text ih =>
    obtain ⟨fuel, rfl⟩ := Nat.exists_eq_add_one_of_ne_zero (n := fuel) (by simp at hfuel; omega)
    rw [List.flatMap_cons, List.append_assoc, basic?_escapeChar, ih fuel (by simpa using hfuel)]
    rfl

theorem toList_quote (text : String) :
    (quote text).toList = '"' :: (text.toList.flatMap escapeChar ++ ['"']) := by
  rw [quote, String.toList_ofList, List.cons_append]

/-- An escape does not start like the end of a string. -/
theorem exists_escapeChar_eq (c : Char) : ∃ d rest, escapeChar c = d :: rest ∧ d ≠ '"' := by
  unfold escapeChar
  split
  · exact ⟨_, _, rfl, by decide⟩
  · split
    · exact ⟨_, _, rfl, by decide⟩
    · split
      · exact ⟨_, _, rfl, by decide⟩
      · exact ⟨_, _, rfl, by assumption⟩

theorem length_le_length_flatMap_escapeChar (text : List Char) :
    text.length ≤ (text.flatMap escapeChar).length := by
  induction text with
  | nil => simp
  | cons c text ih =>
    obtain ⟨d, rest, hescape, -⟩ := exists_escapeChar_eq c
    rw [List.flatMap_cons, hescape, List.length_append, List.length_cons, List.length_cons]
    omega

/-- Only a quote that follows makes an empty string the start of three quotes. -/
theorem string?_eq_basic? {chars : List Char} (hfirst : ∀ rest, chars ≠ '"' :: '"' :: rest) :
    string? ('"' :: chars) =
      (basic? (chars.length + 1) chars).map fun p => (String.ofList p.1, p.2) := by
  cases h : basic? (chars.length + 1) chars <;> simp [string?, h]

/-- A string in quotes is read back, whatever its characters. -/
theorem string?_quote (text : String) {rest : List Char} (hrest : rest.head? ≠ some '"') :
    string? ((quote text).toList ++ rest) = some (text, rest) := by
  have hfirst (others : List Char) :
      text.toList.flatMap escapeChar ++ '"' :: rest ≠ '"' :: '"' :: others := by
    cases text.toList with
    | nil =>
      intro heq
      rw [(List.cons.inj heq).2] at hrest
      exact hrest rfl
    | cons c chars =>
      obtain ⟨d, tail, hescape, hne⟩ := exists_escapeChar_eq c
      rw [List.flatMap_cons, hescape]
      exact fun heq => hne (List.cons.inj heq).1
  have hfuel : text.toList.length <
      (text.toList.flatMap escapeChar ++ '"' :: rest).length + 1 := by
    have := length_le_length_flatMap_escapeChar text.toList
    rw [List.length_append]
    omega
  rw [toList_quote, List.cons_append, List.append_assoc, List.singleton_append,
    string?_eq_basic? hfirst, basic?_flatMap_escapeChar _ _ hfuel, Option.map_some,
    String.ofList_toList]

theorem takeWhile_append_of_head? {p : Char → Bool} {chars rest : List Char}
    (hchars : ∀ c ∈ chars, p c) (hrest : ∀ c ∈ rest.head?, p c = false) :
    (chars ++ rest).takeWhile p = chars := by
  rw [List.takeWhile_append_of_pos hchars]
  cases rest with
  | nil => simp
  | cons c rest => simp [hrest c rfl]

theorem simpleKey?_of_isBare {chars rest : List Char} (hbare : ∀ c ∈ chars, isBare c)
    (hne : chars ≠ []) (hrest : ∀ c ∈ rest.head?, isBare c = false) :
    simpleKey? (chars ++ rest) = some (String.ofList chars, rest) := by
  obtain ⟨c, tail, rfl⟩ := List.exists_cons_of_ne_nil hne
  have hc : isBare c := hbare c (by simp)
  unfold simpleKey?
  split
  · rename_i heq
    obtain ⟨rfl, -⟩ := List.cons.inj heq
    contradiction
  · rename_i heq
    obtain ⟨rfl, -⟩ := List.cons.inj heq
    contradiction
  · dsimp only
    rw [takeWhile_append_of_head? hbare hrest, if_neg (by simp), List.drop_left]

/-- A key is read back, with quotes or without. -/
theorem simpleKey?_keyText (key : String) {rest : List Char}
    (hrest : ∀ c ∈ rest.head?, isBare c = false) :
    simpleKey? ((keyText key).toList ++ rest) = some (key, rest) := by
  unfold keyText
  split
  · rename_i hbare
    obtain ⟨hbare, hne⟩ : (∀ c ∈ key.toList, isBare c) ∧ key.toList ≠ [] := by
      simpa [← String.toList_eq_nil_iff] using hbare
    rw [simpleKey?_of_isBare hbare hne hrest, String.ofList_toList]
  · have hfuel : key.toList.length <
        (key.toList.flatMap escapeChar ++ '"' :: rest).length := by
      have := length_le_length_flatMap_escapeChar key.toList
      rw [List.length_append, List.length_cons]
      omega
    rw [toList_quote, List.cons_append, List.append_assoc, List.singleton_append, simpleKey?,
      basic?_flatMap_escapeChar _ _ hfuel]
    simp

/-- A key starts with a quote or a character of its own. -/
theorem exists_keyText_eq (key : String) :
    ∃ c rest, (keyText key).toList = c :: rest ∧ (c = '"' ∨ isBare c) := by
  unfold keyText
  split
  · rename_i hbare
    obtain ⟨hbare, hne⟩ : (∀ c ∈ key.toList, isBare c) ∧ key.toList ≠ [] := by
      simpa [← String.toList_eq_nil_iff] using hbare
    obtain ⟨c, rest, heq⟩ := List.exists_cons_of_ne_nil hne
    exact ⟨c, rest, heq, .inr (hbare c (by simp [heq]))⟩
  · exact ⟨_, _, toList_quote key, .inl rfl⟩

end PolygonRenderer.Toml
