import Mathlib.Data.List.Nodup
import DataQuality.Scan.Engine

/-!
# Resolving columns against a valid schema

A scan finds a column by its lower-case name, the last column of that name winning; a
precondition asks for a column by its exact name.  In a valid schema no two names are equal up to
case, so both find the same column: the position of the column of a name is what the scan
resolves the name to (`Schema.resolveColumn_eq`), and a scan reads the cells that the
preconditions checked.
-/

namespace DataQuality

namespace Schema

/-- What the check of a schema sees: no column name among those already seen, up to case, and
no two names of the rest equal up to case. -/
lemma nodup_of_validate_go {idx : Nat} {seen : List String} {cs : List Column}
    (h : validate.go idx seen cs = .ok ()) :
    (cs.map fun c => Text.toLower c.name).Nodup ∧ ∀ c ∈ cs, Text.toLower c.name ∉ seen := by
  induction cs generalizing idx seen with
  | nil => simp
  | cons c rest ih =>
    unfold validate.go at h
    dsimp only at h
    split_ifs at h with hblank hseen
    obtain ⟨hnodup, hfresh⟩ := ih h
    refine ⟨List.nodup_cons.mpr ⟨?_, hnodup⟩, ?_⟩
    · -- the name of `c` was added to what the rest must not repeat
      simp only [List.mem_map, not_exists, not_and]
      intro d hd heq
      exact hfresh d hd (by rw [heq]; exact List.mem_cons_self ..)
    · intro d hd
      rcases List.mem_cons.mp hd with rfl | hd
      · simpa using hseen
      · exact fun hmem => hfresh d hd (List.mem_cons_of_mem _ hmem)

/-- The names of a valid schema are all different up to case. -/
lemma nodup_lowerNames {s : Schema} (h : s.validate = .ok ()) :
    (s.names.map Text.toLower).Nodup := by
  have := (nodup_of_validate_go h).1
  simpa [names, List.map_map, Function.comp_def] using this

/-- The entries of the index of names that a lower-case name selects. -/
lemma mem_index {names : List String} {x : String × Nat} :
    x ∈ RowView.index names ↔ ∃ h : x.2 < names.length, x.1 = Text.toLower names[x.2] := by
  obtain ⟨key, i⟩ := x
  simp only [RowView.index, List.mem_map, Prod.exists, Prod.mk.injEq, List.mem_zipIdx_iff_getElem?]
  constructor
  · rintro ⟨n, j, hj, rfl, rfl⟩
    obtain ⟨hlt, rfl⟩ := List.getElem?_eq_some_iff.mp hj
    exact ⟨hlt, rfl⟩
  · rintro ⟨hlt, hkey⟩
    exact ⟨names[i], i, List.getElem?_eq_getElem hlt, hkey.symm, rfl⟩

/-- In a valid schema the column of a name is where a scan resolves the name. -/
lemma resolveColumn_eq {s : Schema} {c : String} {j : Nat} (hv : s.validate = .ok ())
    (hj : s.indexOf? c = some j) : resolveColumn (RowView.index s.names) c = .ok j := by
  obtain ⟨hlt, hname, -⟩ := List.findIdx?_eq_some_iff_getElem.mp hj
  have hlen : j < s.names.length := by simpa [names] using hlt
  have hcol : s.names[j] = c := by simpa [names] using hname
  -- the entry of the column matches, and any entry that matches is that one
  have hunique : ∀ x ∈ RowView.index s.names, x.1 = Text.toLower c → x = (Text.toLower c, j) := by
    rintro ⟨key, i⟩ hx rfl
    obtain ⟨hi, hkey⟩ := mem_index.mp hx
    have hi' : i < (s.names.map Text.toLower).length := by simpa using hi
    have hj' : j < (s.names.map Text.toLower).length := by simpa using hlen
    have hsame : (s.names.map Text.toLower)[i] = (s.names.map Text.toLower)[j] := by
      simp only [List.getElem_map]
      rw [← hkey, hcol]
    rw [(List.Nodup.getElem_inj_iff (nodup_lowerNames hv)).mp hsame]
  have hmem : (Text.toLower c, j) ∈ (RowView.index s.names).reverse :=
    List.mem_reverse.mpr (mem_index.mpr ⟨hlen, by simp [hcol]⟩)
  have hfind : (RowView.index s.names).reverse.find? (·.1 == Text.toLower c) =
      some (Text.toLower c, j) := by
    have hsome : ((RowView.index s.names).reverse.find? (·.1 == Text.toLower c)).isSome :=
      List.find?_isSome.mpr ⟨_, hmem, by simp⟩
    obtain ⟨x, hx⟩ := Option.isSome_iff_exists.mp hsome
    have hxmem := List.mem_reverse.mp (List.mem_of_find?_eq_some hx)
    have hxkey : x.1 = Text.toLower c := by simpa using List.find?_some hx
    rw [hx, hunique x hxmem hxkey]
  simp only [resolveColumn, hfind]

/-- A column that exists has a position. -/
lemma indexOf?_isSome {s : Schema} {c : String} (h : s.hasColumn c = true) :
    ∃ j, s.indexOf? c = some j := by
  obtain ⟨col, hcol⟩ := Option.isSome_iff_exists.mp h
  obtain ⟨hname, -⟩ := List.find?_eq_some_iff_append.mp hcol
  have : (s.columns.findIdx? (·.name == c)).isSome := by
    rw [List.findIdx?_isSome]
    exact List.any_eq_true.mpr ⟨col, List.mem_of_find?_eq_some hcol, hname⟩
  exact Option.isSome_iff_exists.mp this

end Schema

end DataQuality
