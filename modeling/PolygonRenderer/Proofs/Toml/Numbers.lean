import Mathlib.Data.List.TakeWhile
import PolygonRenderer.Toml.Printer

/-!
# Numbers as they are written

Integers and floats are written in decimal digits. Reading the digits gives the
number back: for an integer the number itself, for a float the decimal with a
fraction of one place at least, `Decimal.asWritten`.
-/

namespace PolygonRenderer

/-- The decimal with at least one place after the point, of the same value. -/
def Decimal.asWritten (d : Decimal) : Decimal :=
  if d.exponent < 0 then d else ⟨d.negative, d.digits * tenPow (d.exponent.toNat + 1), -1⟩

def ExtendedDecimal.asWritten : ExtendedDecimal → ExtendedDecimal
  | .finite d => .finite d.asWritten
  | x => x

namespace Toml

/-! ### Digits -/

theorem hexDigit?_of_isDigit {c : Char} (hc : c.isDigit) :
    hexDigit? c = some (c.toNat - '0'.toNat) := by
  have hrange : '0' ≤ c ∧ c ≤ '9' := by
    simpa [Char.isDigit, Char.le_def, UInt32.le_iff_toNat_le] using hc
  rw [hexDigit?, if_pos hrange]

theorem digit_of_isDigit {c : Char} (hc : c.isDigit) :
    digitGroups?.digit 10 c = some [c.toNat - '0'.toNat] := by
  have hvalue : c.toNat - '0'.toNat < 10 := by
    have hle : c.toNat ≤ 57 := by
      simp [Char.isDigit, UInt32.le_iff_toNat_le] at hc
      exact hc.2
    exact Nat.lt_of_le_of_lt (Nat.sub_le_sub_right hle _) (by decide)
  rw [digitGroups?.digit, hexDigit?_of_isDigit hc, Option.bind_eq_bind, Option.bind_some,
    if_pos hvalue]

theorem digitGroups?_of_isDigit {chars : List Char} (hdigits : ∀ c ∈ chars, c.isDigit)
    (hne : chars ≠ []) :
    digitGroups? 10 chars = some (chars.map fun c => c.toNat - '0'.toNat) := by
  fun_induction digitGroups? 10 chars with
  | case1 => exact absurd rfl hne
  | case2 c => exact digit_of_isDigit (hdigits c (by simp))
  | case3 c rest ih => exact absurd (hdigits '_' (by simp)) (by decide)
  | case4 c rest hnil hunder ih =>
    rw [digit_of_isDigit (hdigits c (by simp)),
      ih (fun d hd => hdigits d (by simp [hd])) (by simpa using hnil)]
    rfl

/-- A character of digit groups is a digit or an underscore. -/
theorem digitGroups?_eq_none {base : Nat} {chars : List Char} {c : Char} (hc : c ∈ chars)
    (hunder : c ≠ '_') (hdigit : hexDigit? c = none) : digitGroups? base chars = none := by
  have hnone : digitGroups?.digit base c = none := by simp [digitGroups?.digit, hdigit]
  fun_induction digitGroups? base chars with
  | case1 => simp at hc
  | case2 d =>
    obtain rfl : c = d := by simpa using hc
    exact hnone
  | case3 d rest ih =>
    rcases List.mem_cons.1 hc with rfl | hc
    · simp [hnone]
    · rcases List.mem_cons.1 hc with rfl | hc
      · contradiction
      · simp [ih hc]
  | case4 d rest hnil hunder' ih =>
    rcases List.mem_cons.1 hc with rfl | hc
    · simp [hnone]
    · simp [ih hc]

theorem ofDigits_map (chars : List Char) :
    ofDigits 10 (chars.map fun c => c.toNat - '0'.toNat) = Nat.ofDigitChars 10 chars 0 := by
  rw [ofDigits, List.foldl_map, Nat.ofDigitChars]

theorem head?_toDigits_ne_zero {n : Nat} (hpos : 0 < n) :
    (Nat.toDigits 10 n).head? ≠ some '0' := by
  induction n using Nat.strongRecOn with
  | _ n ih =>
    rw [Nat.toDigits_eq_if (by decide)]
    split
    · rename_i hsmall
      have hall : ∀ m < 10, 0 < m → m.digitChar ≠ '0' := by decide
      simpa using hall n hsmall hpos
    · rw [List.head?_append, Option.or_of_isSome (by simp [Nat.toDigits_ne_nil])]
      exact ih (n / 10) (by omega) (by omega)

/-- Decimal digits are read as a whole number, also if only the first ones of
them are taken. -/
theorem wholeNumber?_take_toDigits (n : Nat) {count : Nat} (hcount : 0 < count) :
    wholeNumber? ((Nat.toDigits 10 n).take count) =
      some (((Nat.toDigits 10 n).take count).map fun c => c.toNat - '0'.toNat) := by
  have hdigits : ∀ c ∈ (Nat.toDigits 10 n).take count, c.isDigit := fun c hc =>
    Nat.isDigit_of_mem_toDigits (by decide) (by decide) (List.mem_of_mem_take hc)
  have hne : (Nat.toDigits 10 n).take count ≠ [] := by
    simp [List.take_eq_nil_iff, Nat.toDigits_ne_nil]
    omega
  unfold wholeNumber?
  split
  · rename_i c rest heq
    rcases Nat.eq_zero_or_pos n with rfl | hpos
    · have hlength := congrArg List.length heq
      simp [List.length_take] at hlength
      omega
    · have hhead := congrArg List.head? heq
      rw [List.head?_take, if_neg (by omega)] at hhead
      exact absurd hhead (head?_toDigits_ne_zero hpos)
  · exact digitGroups?_of_isDigit hdigits hne

theorem isDigit_of_mem_toDigits {n : Nat} {c : Char} (hc : c ∈ Nat.toDigits 10 n) : c.isDigit :=
  Nat.isDigit_of_mem_toDigits (by decide) (by decide) hc

theorem wholeNumber?_toDigits (n : Nat) :
    wholeNumber? (Nat.toDigits 10 n) =
      some ((Nat.toDigits 10 n).map fun c => c.toNat - '0'.toNat) := by
  simpa only [List.take_length] using
    wholeNumber?_take_toDigits n (Nat.length_toDigits_pos (b := 10) (n := n))

/-! ### Signs -/

def signChars (negative : Bool) : List Char :=
  if negative then ['-'] else []

theorem splitSign_signChars_append (negative : Bool) {c : Char} {rest : List Char}
    (hc : c.isDigit) : splitSign (signChars negative ++ c :: rest) = (negative, c :: rest) := by
  cases negative with
  | true => rfl
  | false =>
    unfold splitSign
    split
    · rename_i heq
      obtain ⟨rfl, -⟩ := List.cons.inj heq
      contradiction
    · rename_i heq
      obtain ⟨rfl, -⟩ := List.cons.inj heq
      contradiction
    · rfl

theorem toList_toString_int (n : Int) :
    (toString n).toList = signChars (decide (n < 0)) ++ Nat.toDigits 10 n.natAbs := by
  rw [Int.toString_eq_repr, Int.repr_eq_if]
  split
  · have hnatAbs : n.toNat = n.natAbs := by omega
    rw [Nat.toList_repr, hnatAbs, signChars, if_neg (by simp; omega), List.nil_append]
  · have hnatAbs : (-n).toNat = n.natAbs := by omega
    rw [String.toList_append, Nat.toList_repr, hnatAbs, signChars, if_pos (by simp; omega)]
    rfl

/-! ### Integers -/

/-- Without a base in front, an integer is a sign and a whole number. -/
theorem integer?_of_second_ne {chars : List Char}
    (hbase : ∀ c ∈ chars[1]?, c ≠ 'x' ∧ c ≠ 'o' ∧ c ≠ 'b') :
    integer? chars = (wholeNumber? (splitSign chars).2).map fun digits =>
      signed (splitSign chars).1 (ofDigits 10 digits) := by
  unfold integer?
  split <;> simp_all

/-- An integer is read back as it is written. -/
theorem integer?_toString (n : Int) : integer? (toString n).toList = some n := by
  rw [toList_toString_int]
  have hsplit : splitSign (signChars (decide (n < 0)) ++ Nat.toDigits 10 n.natAbs) =
      (decide (n < 0), Nat.toDigits 10 n.natAbs) := by
    have hdigits := @isDigit_of_mem_toDigits n.natAbs
    cases hchars : Nat.toDigits 10 n.natAbs with
    | nil => exact absurd hchars Nat.toDigits_ne_nil
    | cons c rest => exact splitSign_signChars_append _ (hdigits (by simp [hchars]))
  have hbase : ∀ c ∈ (signChars (decide (n < 0)) ++ Nat.toDigits 10 n.natAbs)[1]?,
      c ≠ 'x' ∧ c ≠ 'o' ∧ c ≠ 'b' := by
    intro c hc
    have hdigit : c = '-' ∨ c.isDigit := by
      rcases List.mem_append.1 (List.mem_of_getElem? hc) with hc | hc
      · exact .inl (by simpa [signChars] using (List.mem_ite_nil_right.1 hc).2)
      · exact .inr (isDigit_of_mem_toDigits hc)
    refine ⟨?_, ?_, ?_⟩ <;> rintro rfl <;> simp at hdigit
  rw [integer?_of_second_ne hbase, hsplit, wholeNumber?_toDigits, Option.map_some, ofDigits_map,
    Nat.ofDigitChars_ten_toDigits]
  simp only [signed, decide_eq_true_eq, Option.some.injEq]
  split <;> omega

/-! ### Floats -/

/-- A character that no number without base has makes a float of a word. -/
theorem integer?_eq_none_of_point {chars : List Char} (hpoint : '.' ∈ chars) :
    integer? chars = none := by
  have hgroups (base : Nat) {cs : List Char} (h : '.' ∈ cs) : digitGroups? base cs = none :=
    digitGroups?_eq_none h (by decide) (by decide)
  have hsplit : '.' ∈ (splitSign chars).2 := by
    unfold splitSign
    split <;> simp_all
  have hwhole : wholeNumber? (splitSign chars).2 = none := by
    unfold wholeNumber?
    split
    · rfl
    · exact hgroups 10 hsplit
  unfold integer?
  split
  · rw [natural?, hgroups 16 (by simpa using hpoint)]; rfl
  · rw [natural?, hgroups 8 (by simpa using hpoint)]; rfl
  · rw [natural?, hgroups 2 (by simpa using hpoint)]; rfl
  · show (wholeNumber? (splitSign chars).2).map _ = none
    rw [hwhole, Option.map_none]

/-- The digits of a positional number, with the zeros in front. -/
def paddedDigits (digits places : Nat) : List Char :=
  List.replicate (places + 1 - (Nat.toDigits 10 digits).length) '0' ++ Nat.toDigits 10 digits

theorem toList_positional (digits places : Nat) :
    (Decimal.positional digits places).toList =
      (paddedDigits digits places).take ((paddedDigits digits places).length - places) ++
        '.' ::
          (paddedDigits digits places).drop ((paddedDigits digits places).length - places) := by
  rw [Decimal.positional, String.toList_ofList]
  rfl

theorem lt_length_paddedDigits (digits places : Nat) :
    places < (paddedDigits digits places).length := by
  rw [paddedDigits, List.length_append, List.length_replicate]
  omega

theorem isDigit_of_mem_paddedDigits {digits places : Nat} {c : Char}
    (hc : c ∈ paddedDigits digits places) : c.isDigit := by
  rcases List.mem_append.1 hc with hc | hc
  · rw [List.eq_of_mem_replicate hc]
    decide
  · exact isDigit_of_mem_toDigits hc

theorem ofDigitChars_paddedDigits (digits places : Nat) :
    Nat.ofDigitChars 10 (paddedDigits digits places) 0 = digits := by
  have hzeros (count : Nat) (chars : List Char) :
      Nat.ofDigitChars 10 (List.replicate count '0' ++ chars) 0 = Nat.ofDigitChars 10 chars 0 := by
    induction count with
    | zero => rfl
    | succ count ih =>
      rw [List.replicate_succ, List.cons_append, Nat.ofDigitChars_cons]
      exact ih
  rw [paddedDigits, hzeros, Nat.ofDigitChars_ten_toDigits]

/-- The digits before the point are a whole number. -/
theorem wholeNumber?_take_paddedDigits (digits places : Nat) :
    wholeNumber? ((paddedDigits digits places).take
        ((paddedDigits digits places).length - places)) =
      some (((paddedDigits digits places).take
        ((paddedDigits digits places).length - places)).map fun c => c.toNat - '0'.toNat) := by
  by_cases hpadded : places < (Nat.toDigits 10 digits).length
  · have hdigits : paddedDigits digits places = Nat.toDigits 10 digits := by
      rw [paddedDigits, Nat.sub_eq_zero_of_le hpadded, List.replicate_zero, List.nil_append]
    rw [hdigits]
    exact wholeNumber?_take_toDigits digits (by omega)
  · have hlength : (paddedDigits digits places).length = places + 1 := by
      rw [paddedDigits, List.length_append, List.length_replicate]
      omega
    have hzero : (paddedDigits digits places).take 1 = ['0'] := by
      rw [paddedDigits, show places + 1 - (Nat.toDigits 10 digits).length =
        places - (Nat.toDigits 10 digits).length + 1 by omega]
      rfl
    rw [hlength, Nat.add_sub_cancel_left, hzero]
    rfl

/-- Digits with a point among them are the float of all the digits. -/
theorem float?_of_digits (negative : Bool) {whole fraction : List Char} (hwhole : whole ≠ [])
    (hfraction : fraction ≠ []) (hdigits : ∀ c ∈ whole ++ fraction, c.isDigit)
    (hread : wholeNumber? whole = some (whole.map fun c => c.toNat - '0'.toNat)) :
    float? (signChars negative ++ (whole ++ '.' :: fraction)) =
      some (.finite ⟨negative, Nat.ofDigitChars 10 (whole ++ fraction) 0, -fraction.length⟩) := by
  obtain ⟨c, rest, rfl⟩ := List.exists_cons_of_ne_nil hwhole
  have hc : c.isDigit := hdigits c (by simp)
  have hsplit : splitSign (signChars negative ++ (c :: rest ++ '.' :: fraction)) =
      (negative, c :: rest ++ '.' :: fraction) := splitSign_signChars_append negative hc
  have hletter {d : Char} (hd : d.isDigit = false) (others : List Char) :
      c :: rest ++ '.' :: fraction ≠ d :: others := by
    intro heq
    obtain ⟨rfl, -⟩ := List.cons.inj heq
    exact absurd hc (by simp [hd])
  have hinf : c :: rest ++ '.' :: fraction ≠ ['i', 'n', 'f'] := hletter rfl _
  have hnan : c :: rest ++ '.' :: fraction ≠ ['n', 'a', 'n'] := hletter rfl _
  have hmantissa : (c :: rest ++ '.' :: fraction).takeWhile (fun c => !(c == 'e' || c == 'E')) =
      c :: rest ++ '.' :: fraction := by
    rw [List.takeWhile_eq_self_iff]
    intro d hd
    have hd : d.isDigit ∨ d = '.' := by
      simp only [List.mem_append, List.mem_cons] at hd hdigits
      grind
    rcases hd with hd | rfl
    · rw [Bool.not_eq_true', Bool.or_eq_false_iff, beq_eq_false_iff_ne, beq_eq_false_iff_ne]
      constructor <;> rintro rfl <;> contradiction
    · rfl
  have hpoint : (c :: rest ++ '.' :: fraction).takeWhile (· != '.') = c :: rest := by
    rw [List.takeWhile_append_of_pos]
    · simp
    · intro d hd
      have hd := hdigits d (List.mem_append_left _ hd)
      rw [bne_iff_ne]
      rintro rfl
      contradiction
  have hgroups := digitGroups?_of_isDigit
    (fun d hd => hdigits d (List.mem_append_right _ hd)) hfraction
  have hlength : (c :: rest).length ≠ (c :: rest ++ '.' :: fraction).length := by simp
  rw [float?, hsplit]
  simp only [hinf, hnan, hmantissa, hpoint, hread, fraction?, hgroups, hlength, List.drop_length,
    exponent?, if_false, List.drop_left, Option.bind_eq_bind, Option.bind_some, Option.pure_def,
    ← List.map_append, ofDigits_map, List.length_map, Int.zero_sub]

/-- A positional number is read back digit by digit. -/
theorem float?_positional (negative : Bool) (digits : Nat) {places : Nat} (hplaces : 0 < places) :
    float? (signChars negative ++ (Decimal.positional digits places).toList) =
      some (.finite ⟨negative, digits, -places⟩) := by
  have hlt := lt_length_paddedDigits digits places
  rw [toList_positional, float?_of_digits]
  · rw [List.take_append_drop, ofDigitChars_paddedDigits, List.length_drop, Nat.sub_sub_self hlt.le]
  · rw [Ne, List.take_eq_nil_iff]
    rintro (hzero | hnil)
    · omega
    · simp [hnil] at hlt
  · rw [Ne, List.drop_eq_nil_iff]
    omega
  · rw [List.take_append_drop]
    exact fun c hc => isDigit_of_mem_paddedDigits hc
  · exact wholeNumber?_take_paddedDigits digits places

theorem toList_text (d : Decimal) :
    d.text.toList = signChars d.negative ++
      (Decimal.positional d.asWritten.digits (-d.asWritten.exponent).toNat).toList := by
  have hmagnitude : Decimal.positional d.asWritten.digits (-d.asWritten.exponent).toNat =
      if d.exponent < 0 then Decimal.positional d.digits (-d.exponent).toNat
      else Decimal.positional (d.digits * tenPow (d.exponent.toNat + 1)) 1 := by
    unfold Decimal.asWritten
    split <;> rfl
  rw [Decimal.text, hmagnitude]
  cases d.negative <;> simp [signChars]

theorem exponent_asWritten_neg (d : Decimal) : d.asWritten.exponent < 0 := by
  unfold Decimal.asWritten
  split
  · assumption
  · exact Int.negSucc_lt_zero 0

theorem negative_asWritten (d : Decimal) : d.asWritten.negative = d.negative := by
  unfold Decimal.asWritten
  split <;> rfl

/-- A decimal is read back with the places that are written. -/
theorem float?_text (d : Decimal) : float? d.text.toList = some (.finite d.asWritten) := by
  have hexponent := exponent_asWritten_neg d
  have hplaces : -((-d.asWritten.exponent).toNat : Int) = d.asWritten.exponent := by omega
  rw [toList_text, float?_positional _ _ (by omega), hplaces, ← negative_asWritten]

theorem point_mem_text (d : Decimal) : '.' ∈ d.text.toList := by
  rw [toList_text, toList_positional]
  simp

/-- A character of a decimal. -/
theorem mem_text {d : Decimal} {c : Char} (hc : c ∈ d.text.toList) :
    c.isDigit ∨ c = '-' ∨ c = '.' := by
  rw [toList_text, toList_positional, List.mem_append, List.mem_append, List.mem_cons] at hc
  rcases hc with hsign | hwhole | hpoint | hfraction
  · exact .inr (.inl (by simpa [signChars] using (List.mem_ite_nil_right.1 hsign).2))
  · exact .inl (isDigit_of_mem_paddedDigits (List.mem_of_mem_take hwhole))
  · exact .inr (.inr hpoint)
  · exact .inl (isDigit_of_mem_paddedDigits (List.mem_of_mem_drop hfraction))

end Toml

end PolygonRenderer
