import PolygonRenderer.Config.File
import PolygonRenderer.Proofs.Config.RoundTrip

/-!
# Partial configuration files

A file may leave out any key, at the top and in the tables of the caches. Every
value of the configuration is settled by one key alone: `Provides` has a case for a
key that is present and one for a key that is absent, and the standard value of the
second is that of the cache whose table it is.
-/

namespace PolygonRenderer

open Toml

namespace Toml

theorem entriesReadable_iff {entries : Entries} :
    entriesReadable entries ↔ ∀ e ∈ entries, e.2.isReadable := by
  induction entries with
  | nil => simp [entriesReadable]
  | cons e es ih => simp [entriesReadable, ih]

theorem othersReadable_iff {known : List String} {entries : Entries} :
    othersReadable known entries ↔ ∀ e ∈ entries, e.1 ∉ known → e.2.isReadable := by
  simp only [othersReadable, entriesReadable_iff, List.mem_filter, decide_eq_true_eq, and_imp]

variable {α : Type} {entries : Entries} {key : String} {Writes : Value → α → Prop}

/-- What a table provides for a key: that which its value writes, or the standard
value where the key is absent. -/
inductive Provides (entries : Entries) (key : String) (Writes : Value → α → Prop)
    (standard : α) : α → Prop
  | absent : entries.lookup key = none → Provides entries key Writes standard standard
  | present {v : Value} {x : α} : entries.lookup key = some v → Writes v x →
      Provides entries key Writes standard x

/-- A key is read if its value is, should it be present. -/
theorem exists_field {read : Value → Option α} (standard : α)
    (hread : ∀ v, entries.lookup key = some v → ∃ x, read v = some x ∧ Writes v x) :
    ∃ x, field entries key standard read = some x ∧ Provides entries key Writes standard x := by
  rcases hlookup : entries.lookup key with _ | v
  · refine ⟨standard, ?_, .absent hlookup⟩
    simp only [field, hlookup]
  · obtain ⟨x, hx, hwrites⟩ := hread v hlookup
    refine ⟨x, ?_, .present hlookup hwrites⟩
    simp only [field, hlookup, hx]

end Toml

namespace Modulation

/-- A modulation is written as its name, or as a table with the name as its only key
and nothing in it. -/
inductive Writes : Value → Modulation → Prop
  | name (m : Modulation) : Writes (.scalar (.string m.name)) m
  | emptyArray (m : Modulation) (kind : TableKind) (headed : Bool) :
      Writes (.table kind [(m.name, .array headed [])]) m
  | emptyTable (m : Modulation) (kind inner : TableKind) :
      Writes (.table kind [(m.name, .table inner [])]) m

theorem ofValue?_of_writes {v : Value} {m : Modulation} (h : Writes v m) :
    ofValue? v = some m := by
  cases h <;> exact ofName?_name m

end Modulation

namespace CacheLimits

variable {entries : Entries}

/-- A limit is written as an integer. -/
inductive Writes : Value → Nat → Prop
  | integer {n : Nat} : n < twoPow 64 → Writes (.scalar (.integer n)) n

theorem limit?_of_writes {v : Value} {n : Nat} (h : Writes v n) : limit? v = some n := by
  cases h with
  | integer hn => exact limit?_integer hn

/-- A table of limits from which any may be missing, and which may have other keys,
with values that can be read. -/
structure IsPartial (entries : Entries) : Prop where
  others : ∀ e ∈ entries, e.1 ∉ keys → e.2.isReadable
  limits : ∀ key ∈ keys, ∀ v, entries.lookup key = some v → ∃ n, Writes v n

/-- The limits of a table, and the standard ones in place of those that are missing. -/
structure IsOverride (standard : CacheLimits) (entries : Entries) (l : CacheLimits) : Prop where
  bufferVertices :
    Provides entries "vbo_vertices" Writes standard.bufferVertices l.bufferVertices
  stagingVertices :
    Provides entries "staging_vertices" Writes standard.stagingVertices l.stagingVertices
  maxModels :
    Provides entries "max_models" Writes standard.maxModels l.maxModels
  lutEntries :
    Provides entries "lut_entries" Writes standard.lutEntries l.lutEntries
  displayListEntries :
    Provides entries "display_list_entries" Writes standard.displayListEntries
      l.displayListEntries

theorem IsPartial.exists_limit (h : IsPartial entries) (key : String) (standard : Nat)
    (hkey : key ∈ keys) :
    ∃ n, field entries key standard limit? = some n ∧
      Provides entries key Writes standard n :=
  exists_field standard fun v hv =>
    (h.limits key hkey v hv).imp fun _ hn => ⟨limit?_of_writes hn, hn⟩

theorem IsPartial.exists_ofEntries? (h : IsPartial entries) (standard : CacheLimits) :
    ∃ l, ofEntries? standard entries = some l ∧ IsOverride standard entries l := by
  obtain ⟨buffer, hbuffer, isBuffer⟩ :=
    h.exists_limit "vbo_vertices" standard.bufferVertices (by simp [keys])
  obtain ⟨staging, hstaging, isStaging⟩ :=
    h.exists_limit "staging_vertices" standard.stagingVertices (by simp [keys])
  obtain ⟨models, hmodels, isModels⟩ :=
    h.exists_limit "max_models" standard.maxModels (by simp [keys])
  obtain ⟨lut, hlut, isLut⟩ :=
    h.exists_limit "lut_entries" standard.lutEntries (by simp [keys])
  obtain ⟨list, hlist, isList⟩ :=
    h.exists_limit "display_list_entries" standard.displayListEntries (by simp [keys])
  refine ⟨⟨buffer, staging, models, lut, list⟩, ?_,
    ⟨isBuffer, isStaging, isModels, isLut, isList⟩⟩
  rw [ofEntries?, if_pos (othersReadable_iff.2 h.others), hbuffer, hstaging, hmodels, hlut, hlist]
  rfl

/-- The limits of a cache are written as a table. -/
inductive TableWrites (standard : CacheLimits) : Value → CacheLimits → Prop
  | table (kind : TableKind) {entries : Entries} {l : CacheLimits} :
      IsOverride standard entries l → TableWrites standard (.table kind entries) l

end CacheLimits

namespace Config

variable {entries : Entries}

/-- A factor is written as a float, which stands for the binary32 number nearest to
the binary64 number nearest to it, or as an integer of 64 bits. -/
inductive WritesFactor : Value → Float32 → Prop
  | float {d : ExtendedDecimal} {x : Float32} : d.toFloat32 = some x →
      WritesFactor (.scalar (.float d)) x
  | integer {n : Int} : -(twoPow 63 : Int) ≤ n → n < twoPow 64 →
      WritesFactor (.scalar (.integer n)) (nearest32 (decide (n < 0)) n.natAbs 1)

theorem factor?_of_writesFactor {v : Value} {x : Float32} (h : WritesFactor v x) :
    factor? v = some x := by
  cases h with
  | float hx => exact hx
  | integer hlower hupper => exact if_pos ⟨hlower, hupper⟩

/-- A document from which any key may be missing, also in the tables of the caches,
and which may have other keys, with values that can be read. -/
structure IsPartial (entries : Entries) : Prop where
  others : ∀ e ∈ entries, e.1 ∉ keys → e.2.isReadable
  caches : ∀ key ∈ ["static_cache", "dynamic_cache"], ∀ v, entries.lookup key = some v →
    ∃ kind inner, v = .table kind inner ∧ CacheLimits.IsPartial inner
  modulation : ∀ v, entries.lookup "modulation" = some v → ∃ m, Modulation.Writes v m
  vertexFactor : ∀ v, entries.lookup "vertex_factor" = some v → ∃ x, WritesFactor v x

/-- The values of a document, and the standard ones in place of those that are
missing, for each limit that of its own cache. -/
structure IsOverride (entries : Entries) (c : Config) : Prop where
  staticCache : Provides entries "static_cache" (CacheLimits.TableWrites .static) .static
    c.staticCache
  dynamicCache : Provides entries "dynamic_cache" (CacheLimits.TableWrites .dynamic) .dynamic
    c.dynamicCache
  modulation : Provides entries "modulation" Modulation.Writes standard.modulation c.modulation
  vertexFactor : Provides entries "vertex_factor" WritesFactor standard.vertexFactor
    c.vertexFactor

theorem IsPartial.exists_limits (h : IsPartial entries) (key : String) (standard : CacheLimits)
    (hkey : key ∈ ["static_cache", "dynamic_cache"]) :
    ∃ l, field entries key standard (CacheLimits.ofValue? standard) = some l ∧
      Provides entries key (CacheLimits.TableWrites standard) standard l := by
  refine exists_field standard fun v hv => ?_
  obtain ⟨kind, inner, rfl, hinner⟩ := h.caches key hkey v hv
  obtain ⟨l, hl, hoverride⟩ := hinner.exists_ofEntries? standard
  exact ⟨l, hl, .table kind hoverride⟩

theorem IsPartial.exists_ofEntries? (h : IsPartial entries) :
    ∃ c, ofEntries? entries = some c ∧ c.IsOverride entries := by
  obtain ⟨static, hstatic, isStatic⟩ := h.exists_limits "static_cache" .static (by simp)
  obtain ⟨dynamic, hdynamic, isDynamic⟩ := h.exists_limits "dynamic_cache" .dynamic (by simp)
  obtain ⟨m, hm, isModulation⟩ := exists_field standard.modulation fun v hv =>
    (h.modulation v hv).imp fun _ hm => ⟨Modulation.ofValue?_of_writes hm, hm⟩
  obtain ⟨x, hx, isFactor⟩ := exists_field standard.vertexFactor fun v hv =>
    (h.vertexFactor v hv).imp fun _ hx => ⟨factor?_of_writesFactor hx, hx⟩
  refine ⟨⟨static, dynamic, m, x⟩, ?_, ⟨isStatic, isDynamic, isModulation, isFactor⟩⟩
  rw [ofEntries?, if_pos (othersReadable_iff.2 h.others), hstatic, hdynamic, hm, hx]
  rfl

/-- A document with any of the keys is loaded, and every value that it leaves out is
the standard one. -/
theorem load_of_isPartial {text : String} (hparse : Document.parse? text = some entries)
    (h : IsPartial entries) : ∃ c, load (some text.toUTF8) = .ok c ∧ c.IsOverride entries := by
  obtain ⟨c, hc, hoverride⟩ := h.exists_ofEntries?
  refine ⟨c, ?_, hoverride⟩
  rw [load_toUTF8, parse, hparse, Option.bind_eq_bind, Option.bind_some, hc]

/-- A document in which each cache has one limit, with keys that are not known. -/
def fewLimits : String :=
  "modulation = \"word3_bit7\"\ngamma = [2.5, \x7b\x7d]\n" ++
  "[static_cache]\nvbo_vertices = 1234\nunit = \"vertices\"\n" ++
  "[dynamic_cache]\nlut_entries = 0x100 # few\nmax_lights = 16\n"

def fewLimitsEntries : Entries :=
  [("modulation", .scalar (.string "word3_bit7")),
   ("gamma", .array false [.scalar (.float (.finite ⟨false, 25, -1⟩)), .table .inline []]),
   ("static_cache", .table .headed
     [("vbo_vertices", .scalar (.integer 1234)), ("unit", .scalar (.string "vertices"))]),
   ("dynamic_cache", .table .headed
     [("lut_entries", .scalar (.integer 256)), ("max_lights", .scalar (.integer 16))])]

theorem isPartial_fewLimitsEntries : IsPartial fewLimitsEntries where
  others := by decide +kernel
  caches key hkey v hv := by
    fin_cases hkey
    · cases hv
      refine ⟨_, _, rfl, by decide +kernel, fun key hkey v hv => ?_⟩
      fin_cases hkey <;> cases hv
      exact ⟨1234, .integer (by decide)⟩
    · cases hv
      refine ⟨_, _, rfl, by decide +kernel, fun key hkey v hv => ?_⟩
      fin_cases hkey <;> cases hv
      exact ⟨256, .integer (by decide)⟩
  modulation v hv := by
    cases hv
    exact ⟨_, .name .ifWord3⟩
  vertexFactor v hv := by cases hv

/-- The limits that are left out are those of the cache in whose table they are. -/
theorem load_of_isPartial_fewLimits :
    Document.parse? fewLimits = some fewLimitsEntries ∧ IsPartial fewLimitsEntries ∧
      ∃ c, load (some fewLimits.toUTF8) = .ok c ∧ c.IsOverride fewLimitsEntries := by
  have hparse : Document.parse? fewLimits = some fewLimitsEntries := by cbv
  exact ⟨hparse, isPartial_fewLimitsEntries, load_of_isPartial hparse isPartial_fewLimitsEntries⟩

end Config

end PolygonRenderer
