import PolygonRenderer.Config.File
import PolygonRenderer.Proofs.Decimal.RoundTrip
import PolygonRenderer.Proofs.Toml.Documents

/-!
# Saved configurations

A configuration is written as a flat document in which every limit of both
caches has a key of its own. It can be saved as long as the limits have 64 bits
(`Config.save_eq_ok_iff`). Loading the text reads each of them back, so no limit
falls back to its standard value.
-/

namespace PolygonRenderer

open Toml

/-! ### The factor -/

namespace Decimal

theorem asWritten_of_nonneg {d : Decimal} (h : 0 ≤ d.exponent) :
    d.asWritten = ⟨d.negative, d.digits * tenPow (d.exponent.toNat + 1), -1⟩ :=
  if_neg (not_lt.2 h)

theorem magnitude_asWritten (d : Decimal) : d.asWritten.magnitude = d.magnitude := by
  rcases lt_or_ge d.exponent 0 with h | h
  · rw [asWritten, if_pos h]
  · obtain ⟨n, hn⟩ := Int.eq_ofNat_of_zero_le h
    rw [asWritten_of_nonneg h, magnitude, magnitude, hn, Nat.cast_mul, cast_tenPow, mul_assoc]
    congr 1
    rw [Int.toNat_natCast, pow_succ, zpow_neg_one, mul_inv_cancel_right₀ (by norm_num),
      zpow_natCast]

/-- A decimal is read as the same number with a fraction as without. -/
theorem toFloat32_asWritten {d : Decimal} (h : d.exponent ≤ 309) :
    d.asWritten.toFloat32 = d.toFloat32 := by
  rcases lt_or_ge d.exponent 0 with hneg | hnonneg
  · rw [asWritten, if_pos hneg]
  · have hwritten := asWritten_of_nonneg hnonneg
    have hbinary : d.asWritten.toBinary64 = d.toBinary64 := by
      by_cases hdigits : d.digits = 0
      · simp [toBinary64, isHuge, isTiny, hwritten, hdigits]
      · have hne : d.asWritten.digits ≠ 0 := by
          rw [hwritten]
          exact Nat.mul_ne_zero hdigits (tenPow_pos _).ne'
        have hexponent : d.asWritten.exponent = -1 := by rw [hwritten]
        rw [toBinary64_of_exponent_le hne (by omega) (by omega),
          toBinary64_of_exponent_le hdigits h (by omega)]
        exact Binary.round_congr _ (ratio_den_pos _) (ratio_den_pos _)
          (by rw [ratio_div, ratio_div, magnitude_asWritten])
    rw [toFloat32, toFloat32, hbinary, negative_asWritten]

theorem exponent_shortest_le (x : Float32) : (shortest x).exponent ≤ 39 := by
  by_cases hzero : (Binary.ofFloat32 x).mantissa = 0
  · rw [shortest, if_pos hzero]
    exact Int.natCast_nonneg 39
  · exact (hit_shortest hzero).2.1

end Decimal

namespace ExtendedDecimal

/-- A number is read back if its shortest decimal is, which infinities do not
need. -/
theorem toFloat32_asWritten_ofFloat32 {x : Float32} (hnan : x.isNaN = false)
    (hshortest : x.isInf = false → (Decimal.shortest x).toFloat32 = some x) :
    (ofFloat32 x).asWritten.toFloat32 = some x := by
  rw [ofFloat32, if_neg (Bool.eq_false_iff.1 hnan)]
  split
  · rename_i hinf
    exact congrArg some (infinity32_of_isInf hinf)
  · rename_i hfinite
    rw [asWritten, toFloat32,
      Decimal.toFloat32_asWritten ((Decimal.exponent_shortest_le x).trans (by decide)),
      hshortest (Bool.eq_false_iff.2 hfinite)]

end ExtendedDecimal

namespace CacheLimits

/-- The limits, in the order of their keys. -/
def values (l : CacheLimits) : List Nat :=
  [l.bufferVertices, l.stagingVertices, l.maxModels, l.lutEntries, l.displayListEntries]

theorem limit?_integer {n : Nat} (hn : n < twoPow 64) : limit? (.scalar (.integer n)) = some n := by
  rw [limit?, if_pos ⟨Int.natCast_nonneg n, Int.ofNat_lt.2 hn⟩, Int.toNat_natCast]

theorem written_toEntries (l : CacheLimits) :
    FlatDocument.written l.toEntries =
      keys.zip (l.values.map fun n : Nat => .scalar (.integer n)) :=
  rfl

/-- The limits are read back, whatever the standard ones are. -/
theorem ofValue?_written (standard : CacheLimits) {l : CacheLimits}
    (hvalues : ∀ n ∈ l.values, n < twoPow 64) :
    ofValue? standard (.table .headed (FlatDocument.written l.toEntries)) = some l := by
  obtain ⟨buffer, staging, models, lut, list⟩ := l
  simp only [values, List.forall_mem_cons] at hvalues
  obtain ⟨hbuffer, hstaging, hmodels, hlut, hlist, -⟩ := hvalues
  have hothers : othersReadable keys (FlatDocument.written
      (toEntries ⟨buffer, staging, models, lut, list⟩)) := by
    simp [othersReadable, written_toEntries, keys, values, entriesReadable]
  rw [ofValue?, ofEntries?, if_pos hothers]
  simp [written_toEntries, keys, values, field, List.lookup_cons, limit?_integer, *]

theorem isPlain_of_mem_toEntries {l : CacheLimits} {e : String × Toml.Scalar}
    (he : e ∈ l.toEntries) : e.2.isPlain := by
  obtain ⟨n, -, hn⟩ := List.mem_map.1 (List.of_mem_zip he).2
  rw [← hn]
  rfl

theorem keys_toEntries (l : CacheLimits) : l.toEntries.map Prod.fst = keys :=
  rfl

theorem fits_integer (n : Nat) : (Scalar.integer n).fits = true ↔ n < twoPow 64 := by
  have hneg : -(twoPow 63 : Int) ≤ n := by omega
  simp only [Scalar.fits, hneg, decide_true, Bool.true_and, decide_eq_true_eq, Nat.cast_lt]

theorem fits_toEntries (l : CacheLimits) :
    (l.toEntries.all fun e => e.2.fits) = true ↔ ∀ n ∈ l.values, n < twoPow 64 := by
  simp [toEntries, keys, values, fits_integer]

end CacheLimits

namespace Config

theorem isWritable_toDocument (c : Config) : c.toDocument.IsWritable where
  plain_entries := by simp [toDocument, Scalar.isPlain]
  plain_tables t ht e he := by
    simp only [toDocument, List.mem_cons, List.not_mem_nil, or_false] at ht
    rcases ht with rfl | rfl <;> exact CacheLimits.isPlain_of_mem_toEntries he
  nodup_keys := by simp [toDocument]
  nodup_tables t ht := by
    simp only [toDocument, List.mem_cons, List.not_mem_nil, or_false] at ht
    rcases ht with rfl | rfl <;> simp only [CacheLimits.keys_toEntries] <;> decide

/-- The entries of a saved configuration. -/
theorem toEntries_toDocument (c : Config) :
    c.toDocument.asWritten.toEntries =
      [("modulation", .scalar (.string c.modulation.name)),
       ("vertex_factor", .scalar (.float (ExtendedDecimal.ofFloat32 c.vertexFactor).asWritten)),
       ("static_cache", .table .headed (FlatDocument.written c.staticCache.toEntries)),
       ("dynamic_cache", .table .headed (FlatDocument.written c.dynamicCache.toEntries))] := by
  rw [FlatDocument.toEntries_asWritten]
  rfl

/-- The configuration is read back from its entries, with the factor that is read
for the written one. -/
theorem ofEntries?_toDocument {c : Config}
    (hlimits : ∀ source, ∀ n ∈ (c.limits source).values, n < twoPow 64) {x : Float32}
    (hfactor : (ExtendedDecimal.ofFloat32 c.vertexFactor).asWritten.toFloat32 = some x) :
    ofEntries? c.toDocument.asWritten.toEntries = some { c with vertexFactor := x } := by
  have hstatic : CacheLimits.ofValue? .static
      (.table .headed (FlatDocument.written c.staticCache.toEntries)) = some c.staticCache :=
    CacheLimits.ofValue?_written .static (hlimits .static)
  have hdynamic : CacheLimits.ofValue? .dynamic
      (.table .headed (FlatDocument.written c.dynamicCache.toEntries)) = some c.dynamicCache :=
    CacheLimits.ofValue?_written .dynamic (hlimits .dynamic)
  rw [toEntries_toDocument, ofEntries?, if_pos (by simp [othersReadable, keys, entriesReadable])]
  simp [field, List.lookup_cons, hstatic, hdynamic, Modulation.ofValue?, factor?, hfactor]

/-- A text that is in a file is decoded first. -/
theorem load_toUTF8 (text : String) : load (some text.toUTF8) = parse text := by
  have hdecode : String.fromUTF8? text.toUTF8 = some text := dif_pos text.isValidUTF8
  rw [load, Option.bind_eq_bind, Option.bind_some, hdecode]

/-- A saved configuration is loaded with all its limits and its modulation, and
with the factor that is read for the written one. -/
theorem load_render_of_factor {c : Config}
    (hlimits : ∀ source, ∀ n ∈ (c.limits source).values, n < twoPow 64) {x : Float32}
    (hfactor : (ExtendedDecimal.ofFloat32 c.vertexFactor).asWritten.toFloat32 = some x) :
    load (some c.render.toUTF8) = .ok { c with vertexFactor := x } := by
  have hparse := Document.parse?_render c.isWritable_toDocument
  rw [load_toUTF8, parse, render, hparse, Option.bind_eq_bind, Option.bind_some,
    ofEntries?_toDocument hlimits hfactor]

theorem fits_toDocument {c : Config} :
    c.toDocument.fits = true ↔ ∀ source, ∀ n ∈ (c.limits source).values, n < twoPow 64 := by
  have hentries : (c.toDocument.entries.all fun e => e.2.fits) = true := rfl
  have htables : (c.toDocument.tables.all fun t => t.2.all fun e => e.2.fits) = true ↔
      (∀ n ∈ c.staticCache.values, n < twoPow 64) ∧
        ∀ n ∈ c.dynamicCache.values, n < twoPow 64 := by
    simp only [toDocument, List.all_cons, List.all_nil, Bool.and_true, Bool.and_eq_true,
      CacheLimits.fits_toEntries]
  rw [FlatDocument.fits, hentries, Bool.true_and, htables]
  constructor
  · rintro ⟨hstatic, hdynamic⟩ source
    cases source with
    | static => exact hstatic
    | dynamic => exact hdynamic
  · intro h
    exact ⟨h .static, h .dynamic⟩

/-- A configuration can be saved exactly if its limits have 64 bits. -/
theorem save_eq_ok_iff {c : Config} :
    c.save = .ok c.render ↔ ∀ source, ∀ n ∈ (c.limits source).values, n < twoPow 64 := by
  rw [save, ← fits_toDocument]
  cases c.toDocument.fits <;> simp

/-- A configuration can be saved, and is loaded as it was. The factor's shortest decimal has
to be read back, which is to be known of `7.038531e-26` and its negative only, since that of
any other number is. -/
theorem load_render {c : Config}
    (hlimits : ∀ source, ∀ n ∈ (c.limits source).values, n ≤ 0x7FFFFFFFFFFFFFFF)
    (hnan : c.vertexFactor.isNaN = false)
    (hshortest : c.vertexFactor.toBits = 0x15AE43FD ∨ c.vertexFactor.toBits = 0x95AE43FD →
      (Decimal.shortest c.vertexFactor).toFloat32 = some c.vertexFactor) :
    ∃ text, c.save = .ok text ∧ load (some text.toUTF8) = .ok c := by
  have hbits : ∀ source, ∀ n ∈ (c.limits source).values, n < twoPow 64 :=
    fun source n hn => (hlimits source n hn).trans_lt (by decide)
  refine ⟨c.render, save_eq_ok_iff.2 hbits, load_render_of_factor hbits ?_⟩
  refine ExtendedDecimal.toFloat32_asWritten_ofFloat32 hnan fun hinf => ?_
  by_cases hexception : c.vertexFactor.toBits = 0x15AE43FD ∨ c.vertexFactor.toBits = 0x95AE43FD
  · exact hshortest hexception
  · rw [not_or] at hexception
    exact Decimal.toFloat32_shortest hnan hinf hexception.1 hexception.2

/-- Limits of zero and the largest ones, and a factor that takes eight digits. -/
theorem load_render_extremes :
    let c : Config := ⟨⟨0, 0x7FFFFFFFFFFFFFFF, 0, 1, 0⟩, ⟨0x7FFFFFFFFFFFFFFF, 0, 7, 0, 2⟩,
      .ifWord3, .ofBits 0x80000001⟩
    ∃ text, c.save = .ok text ∧ load (some text.toUTF8) = .ok c :=
  load_render (fun source => by cases source <;> decide) (by decide +kernel) fun hexception =>
    absurd hexception (by decide +kernel)

end Config

end PolygonRenderer
