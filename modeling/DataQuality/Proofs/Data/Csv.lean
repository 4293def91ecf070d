import Mathlib.Data.List.Forall2
import DataQuality.Data.Csv

/-!
# Column types inferred from delimited text

Without a schema, a table read from delimited text types each column by its cells: the cells of
the column, trimmed and with the null ones left out (`Csv.columnCells`), decide the type
(`Csv.inferType`).  Reading then parses every cell by the type of its column (`Csv.readCell`).
The two are separate functions, yet inference never picks a type that a cell of the column then
fails to read as (`Csv.exists_readCell_inferType`), and what a cell reads as always fits the
type it was read for (`Csv.fits_of_readCell`).

So a text whose header names are non-blank once trimmed and distinct up to case, and whose
records are as wide as the header, is read into a table (`Csv.ofCsv_infers_readable_types`):
column `j` is named by the trimmed header `j` and typed by the non-null cells of column `j`, and
each cell of the table is what its raw text reads as for that type.  The splitting of the text
into records is taken as it comes: the statements are about the fields of the records.
-/

namespace DataQuality

namespace Csv

/-- The fields of the header: the first record of the text. -/
def headerFields (text : String) (delimiter : Char) : List String :=
  ((Delimited.records text delimiter).head?.map (·.fields)).getD []

/-- The fields of the records after the header. -/
def bodyFields (text : String) (delimiter : Char) : List (List String) :=
  ((Delimited.records text delimiter).drop 1).map (·.fields)

/-- The non-null cells of the column at a position, trimmed, in record order. -/
def columnCells (records : List (List String)) (j : Nat) : List String :=
  ((records.filterMap (·[j]?)).map Text.trim).filter (!isNullToken ·)

/-- Reads a record numbered in a table. -/
def readRecord (schema : Schema) (positions : List Nat) (record : List String × Nat) :
    Except DataError Row :=
  readRow schema positions record.2 record.1

/-! ## Reading a cell for its inferred type -/

/-- A cell that is a `true` or `false` word reads as a truth value. -/
lemma boolCell_isSome_of_boolWord {s : String} (h : (boolWord s).isSome) :
    (boolCell s).isSome := by
  unfold boolWord at h
  unfold boolCell
  split at h
  · next heq => rw [heq]; rfl
  · next heq => rw [heq]; rfl
  · exact absurd h (by simp)

/-- Inference never picks a type that one of the column's cells then fails to read as: a raw
cell that is null, or whose trimmed text is among the column's cells, reads for their type. -/
lemma exists_readCell_inferType {cells : List String} {raw : String}
    (h : isNullToken (Text.trim raw) = true ∨ Text.trim raw ∈ cells) :
    ∃ v, readCell (inferType cells) raw = .ok v := by
  by_cases hnull : isNullToken (Text.trim raw) = true
  · exact ⟨.null, by simp [readCell, hnull]⟩
  have hmem := h.resolve_left hnull
  unfold inferType
  split_ifs with hempty hint hfloat hbool
  · simp [List.isEmpty_iff.mp hempty] at hmem
  · obtain ⟨n, hn⟩ := Option.isSome_iff_exists.mp (List.all_eq_true.mp hint _ hmem)
    exact ⟨.int n, by simp [readCell, hnull, hn]⟩
  · obtain ⟨x, hx⟩ := Option.isSome_iff_exists.mp (List.all_eq_true.mp hfloat _ hmem)
    exact ⟨.float x, by simp [readCell, hnull, hx]⟩
  · obtain ⟨b, hb⟩ := Option.isSome_iff_exists.mp
      (boolCell_isSome_of_boolWord (List.all_eq_true.mp hbool _ hmem))
    exact ⟨.bool b, by simp [readCell, hnull, hb]⟩
  · exact ⟨.text raw, by simp [readCell, hnull]⟩

/-- What a cell reads as fits the type it was read for. -/
lemma fits_of_readCell {t : ColumnType} {raw : String} {v : Value}
    (h : readCell t raw = .ok v) : v.fits t = true := by
  simp only [readCell] at h
  split at h
  · cases h
    rfl
  · cases t <;> simp only at h <;> (try split at h) <;> cases h <;> rfl

/-! ## Reading the records -/

/-- A traversal that can fail succeeds exactly when each step does, the results side by side. -/
lemma mapM_eq_ok_iff {α β ε : Type} (f : α → Except ε β) (xs : List α) (ys : List β) :
    xs.mapM f = .ok ys ↔ List.Forall₂ (fun x y => f x = .ok y) xs ys := by
  induction xs generalizing ys with
  | nil => cases ys <;> simp [pure, Except.pure]
  | cons x xs ih =>
    rw [List.mapM_cons]
    cases h : f x with
    | error e => cases ys <;> simp [bind, Except.bind, h]
    | ok y =>
      cases ht : xs.mapM f with
      | error e => cases ys <;> simp [bind, Except.bind, ← ih, ht, h]
      | ok zs => cases ys <;> simp [bind, Except.bind, pure, Except.pure, ← ih, ht, h]

/-- A relation that relates each member of a list to something relates the list to a list. -/
lemma exists_forall₂ {α β : Type} {R : α → β → Prop} :
    ∀ {xs : List α}, (∀ x ∈ xs, ∃ y, R x y) → ∃ ys, List.Forall₂ R xs ys
  | [], _ => ⟨[], .nil⟩
  | x :: xs, h => by
    obtain ⟨y, hy⟩ := h x List.mem_cons_self
    obtain ⟨ys, hys⟩ := exists_forall₂ fun z hz => h z (List.mem_cons_of_mem x hz)
    exact ⟨y :: ys, .cons hy hys⟩

/-- Each member of a list related to another is related to one of its members. -/
lemma exists_mem_of_forall₂ {α β : Type} {R : α → β → Prop} {xs : List α} {ys : List β}
    (h : List.Forall₂ R xs ys) {y : β} (hy : y ∈ ys) : ∃ x ∈ xs, R x y := by
  induction h with
  | nil => cases hy
  | cons hxy _ ih =>
    rcases List.mem_cons.mp hy with rfl | hy
    · exact ⟨_, List.mem_cons_self, hxy⟩
    · obtain ⟨x, hx, hr⟩ := ih hy
      exact ⟨x, List.mem_cons_of_mem _ hx, hr⟩

/-- Positions `0, …, n - 1` look up every field of a record of `n` fields. -/
lemma zip_range_getD {β : Type} (cols : List β) {record : List String} {n : Nat}
    (hlen : record.length = n) :
    (cols.zip (List.range n)).map (fun x => (x.1, record[x.2]?.getD "")) = cols.zip record := by
  have hrecord : (List.range n).map (fun p => record[p]?.getD "") = record := by
    apply List.ext_getElem (by simp [hlen])
    intro i h₁ h₂
    simp [List.getElem?_eq_getElem h₂]
  conv_rhs => rw [← hrecord]
  rw [List.zip_map_right]
  rfl

/-- Reading a record by the positions `0, …, n - 1` of its `n` fields gives a row exactly when
each field reads for the type of its column. -/
lemma readRow_eq_ok_iff {schema : Schema} {record : List String} {n : Nat}
    (hlen : record.length = n) (number : Nat) (row : Row) :
    readRow schema (List.range n) number record = .ok row ↔
      List.Forall₂ (fun (x : Column × String) v => readCell x.1.columnType x.2 = .ok v)
        (schema.columns.zip record) row := by
  rw [readRow, mapM_eq_ok_iff, ← zip_range_getD schema.columns hlen, List.forall₂_map_left_iff]
  -- the step of `readRow` passes a cell's value on and words its refusal
  constructor
  · refine List.Forall₂.imp fun x v h => ?_
    obtain ⟨c, p⟩ := x
    simp only at h ⊢
    split at h
    · next heq => cases h; exact heq
    · cases h
  · refine List.Forall₂.imp fun x v h => ?_
    obtain ⟨c, p⟩ := x
    simp only at h ⊢
    simp only [h]

/-- Records as wide as `n` read, numbered from one, into rows exactly when each of their fields
reads for the type of its column. -/
lemma mapM_readRecord_eq_ok_iff {schema : Schema} {records : List (List String)} {n : Nat}
    (hwidth : ∀ r ∈ records, r.length = n) (rows : List Row) :
    (records.zipIdx 1).mapM (readRecord schema (List.range n)) = .ok rows ↔
      List.Forall₂ (fun record row => List.Forall₂ (fun (x : Column × String) v =>
        readCell x.1.columnType x.2 = .ok v) (schema.columns.zip record) row) records rows := by
  rw [mapM_eq_ok_iff]
  conv_rhs => rw [← List.zipIdx_map_fst 1 records]
  rw [List.forall₂_map_left_iff]
  have hmem : ∀ x ∈ records.zipIdx 1, x.1.length = n :=
    fun x hx => hwidth x.1 (List.fst_mem_of_mem_zipIdx hx)
  constructor
  · intro h
    exact ((List.forall₂_and_left _ _).mpr ⟨hmem, h⟩).imp
      fun x row hx => (readRow_eq_ok_iff hx.1 x.2 row).mp hx.2
  · intro h
    exact ((List.forall₂_and_left _ _).mpr ⟨hmem, h⟩).imp
      fun x row hx => (readRow_eq_ok_iff hx.1 x.2 row).mpr hx.2

/-- A row read field by field for some columns has each value fitting its column's type. -/
lemma fits_of_forall₂_readCell {cols : List Column} {record : List String} {row : Row}
    (h : List.Forall₂ (fun (x : Column × String) v => readCell x.1.columnType x.2 = .ok v)
      (cols.zip record) row) :
    ∀ x ∈ row.zip cols, x.1.fits x.2.columnType = true := by
  induction cols generalizing record row with
  | nil => simp
  | cons c cols ih =>
    cases record with
    | nil =>
      rw [List.zip_nil_right] at h
      cases h
      simp
    | cons s record =>
      rw [List.zip_cons_cons] at h
      cases h with
      | cons hv hrest =>
        intro x hx
        rcases List.mem_cons.mp hx with rfl | hx
        · exact fits_of_readCell hv
        · exact ih hrest x hx

/-! ## The inferred schema -/

/-- Column `j` of the inferred schema is named by header `j` and typed by the cells of column
`j`. -/
lemma columns_inferSchema (headers : List String) (records : List (List String)) :
    (inferSchema headers records).columns =
      headers.mapIdx fun j name => { name := name, columnType := inferType (columnCells records j) } := by
  rw [List.mapIdx_eq_zipIdx_map]
  rfl

@[simp] lemma length_columns_inferSchema (headers : List String) (records : List (List String)) :
    (inferSchema headers records).columns.length = headers.length := by
  simp [columns_inferSchema]

/-- The inferred schema names its columns by the headers, in order. -/
@[simp] lemma map_name_inferSchema (headers : List String) (records : List (List String)) :
    (inferSchema headers records).columns.map (·.name) = headers := by
  apply List.ext_getElem (by simp)
  intro i h₁ h₂
  simp [columns_inferSchema]

/-- Every column of the inferred schema admits nulls. -/
lemma nullable_of_mem_inferSchema {headers : List String} {records : List (List String)}
    {c : Column} (hc : c ∈ (inferSchema headers records).columns) : c.nullable = true := by
  rw [columns_inferSchema, List.mem_mapIdx] at hc
  obtain ⟨i, hi, rfl⟩ := hc
  rfl

/-- A field of a record is null once trimmed, or among the cells of its column. -/
lemma isNullToken_or_mem_columnCells {records : List (List String)} {r : List String}
    (hr : r ∈ records) {j : Nat} (hj : j < r.length) :
    isNullToken (Text.trim r[j]) = true ∨ Text.trim r[j] ∈ columnCells records j := by
  by_cases hnull : isNullToken (Text.trim r[j]) = true
  · exact .inl hnull
  · right
    simp only [columnCells, List.mem_filter, List.mem_map, List.mem_filterMap]
    exact ⟨⟨r[j], ⟨r, hr, List.getElem?_eq_getElem hj⟩, rfl⟩, by simpa using hnull⟩

/-- Each field of a record reads for the type inferred for its column. -/
lemma exists_readCell_of_mem_zip {headers : List String} {records : List (List String)}
    {r : List String} (hr : r ∈ records) {x : Column × String}
    (hx : x ∈ (inferSchema headers records).columns.zip r) :
    ∃ v, readCell x.1.columnType x.2 = .ok v := by
  obtain ⟨j, hj, rfl⟩ := List.getElem_of_mem hx
  simp only [List.length_zip] at hj
  obtain ⟨v, hv⟩ := exists_readCell_inferType (isNullToken_or_mem_columnCells hr (j := j) (by omega))
  exact ⟨v, by simpa [columns_inferSchema] using hv⟩

/-! ## Tables built from the records -/

/-- Checking a schema passes over columns that are not blank and whose lower-case names are
distinct from one another and from those seen before. -/
lemma validate_go_eq_ok (idx : Nat) (seen : List String) (cols : List Column)
    (hblank : ∀ c ∈ cols, Text.isBlankText c.name = false)
    (hnodup : (cols.map fun c => Text.toLower c.name).Nodup)
    (hseen : ∀ c ∈ cols, Text.toLower c.name ∉ seen) :
    Schema.validate.go idx seen cols = .ok () := by
  induction cols generalizing idx seen with
  | nil => rfl
  | cons c cols ih =>
    rw [List.map_cons, List.nodup_cons] at hnodup
    have hc : seen.contains (Text.toLower c.name) = false := by
      simpa using hseen c List.mem_cons_self
    rw [Schema.validate.go, hblank c List.mem_cons_self, if_neg Bool.false_ne_true]
    simp only [hc, Bool.false_eq_true, if_false]
    apply ih _ _ (fun d hd => hblank d (List.mem_cons_of_mem c hd)) hnodup.2
    intro d hd hmem
    rcases List.mem_cons.mp hmem with heq | hin
    · exact hnodup.1 (heq ▸ List.mem_map_of_mem hd)
    · exact hseen d (List.mem_cons_of_mem c hd) hin

/-- A trimmed text with nothing but white space is empty. -/
lemma trim_eq_empty_of_isBlankText {s : String} (h : Text.isBlankText (Text.trim s) = true) :
    Text.trim s = "" := by
  simp only [Text.trim, Text.trimEnd, Text.isBlankText, String.toList_ofList, List.all_reverse]
    at h ⊢
  -- what trimming leaves ends in a non-blank character unless it is empty
  generalize hm : List.dropWhile Text.isBlank (Text.trimStart s).toList.reverse = m at h ⊢
  cases m with
  | nil => rfl
  | cons c rest =>
    have hne : List.dropWhile Text.isBlank (Text.trimStart s).toList.reverse ≠ [] := by
      rw [hm]
      exact List.cons_ne_nil c rest
    have hc := List.head_dropWhile_not Text.isBlank hne
    simp only [hm, List.head_cons] at hc
    simp [hc] at h

/-- A table is made from rows that each have a value per column, fitting its type, under a
schema that checks, all of whose columns admit nulls. -/
lemma make_eq_ok {schema : Schema} {rows : List Row} (hvalid : schema.validate = .ok ())
    (hnull : ∀ c ∈ schema.columns, c.nullable = true)
    (hrows : ∀ row ∈ rows, row.length = schema.columns.length ∧
      ∀ x ∈ row.zip schema.columns, x.1.fits x.2.columnType = true) :
    Table.make schema rows = .ok ⟨schema, rows⟩ := by
  simp only [Table.make, hvalid]
  rw [List.findSome?_eq_none_iff.mpr ?_]
  · rfl
  -- no row has a problem: each is as wide as the schema and its values fit
  rintro ⟨row, k⟩ hx
  have hrow : row ∈ rows := by
    rw [← List.zipIdx_map_fst 1 rows]
    exact List.mem_map_of_mem hx
  obtain ⟨hlen, hfits⟩ := hrows row hrow
  simp only
  rw [Table.rowProblem, if_neg (by omega), List.findSome?_eq_none_iff]
  intro y hy
  simp [hfits y hy, hnull y.2 (List.of_mem_zip hy).2]

/-- The inferred schema checks when the headers are non-blank once trimmed and distinct up to
case. -/
lemma validate_inferSchema {headers : List String} (records : List (List String))
    (hnames : ∀ h ∈ headers, Text.trim h ≠ "")
    (hdistinct : (headers.map fun h => Text.toLower (Text.trim h)).Nodup) :
    (inferSchema (headers.map Text.trim) records).validate = .ok () := by
  apply validate_go_eq_ok
  · intro c hc
    have hname : c.name ∈ headers.map Text.trim := by
      rw [← map_name_inferSchema (headers.map Text.trim) records]
      exact List.mem_map_of_mem hc
    obtain ⟨h, hh, hc⟩ := List.mem_map.mp hname
    rw [← hc]
    exact Bool.eq_false_iff.mpr fun hblank => hnames h hh (trim_eq_empty_of_isBlankText hblank)
  · rw [show (fun c : Column => Text.toLower c.name) = Text.toLower ∘ (·.name) from rfl,
      ← List.map_map, map_name_inferSchema, List.map_map]
    exact hdistinct
  · simp

/-- Records as wide as the header leave no width mismatch. -/
lemma firstMismatch_eq_none {rs : List Delimited.Record}
    (h : ∀ r ∈ rs.drop 1, r.fields.length = ((rs.head?.map (·.fields)).getD []).length) :
    Delimited.firstMismatch rs = none := by
  cases rs with
  | nil => rfl
  | cons first rest =>
    rw [Delimited.firstMismatch, List.findSome?_eq_none_iff]
    intro r hr
    simp [h r hr]

/-- Without a schema, a text whose records are as wide as its header is read by inferring the
schema from the trimmed headers and the records, then reading each record for it. -/
lemma ofCsv_eq_of_widths {text : String} {d : Char}
    (hwidth : ∀ r ∈ bodyFields text d, r.length = (headerFields text d).length) :
    Table.ofCsv text { delimiter := d } =
      ((bodyFields text d).zipIdx 1).mapM
          (readRecord (inferSchema ((headerFields text d).map Text.trim) (bodyFields text d))
            (List.range (headerFields text d).length)) >>=
        Table.make (inferSchema ((headerFields text d).map Text.trim) (bodyFields text d)) := by
  have hnone : Delimited.firstMismatch (Delimited.records text d) = none :=
    firstMismatch_eq_none fun r hr => hwidth r.fields (List.mem_map_of_mem hr)
  simp only [Table.ofCsv, hnone, List.length_map]
  rfl

end Csv

/-- Without a schema, a text whose header names are non-blank once trimmed and distinct up to
case, and whose records are as wide as the header, is read into a table: column `j` is named by
the trimmed header `j` and typed by the non-null trimmed cells of column `j`, and each row holds
what the fields of its record read as for the types of their columns. -/
theorem Csv.ofCsv_infers_readable_types (text : String) (delimiter : Char)
    (hnames : ∀ h ∈ Csv.headerFields text delimiter, Text.trim h ≠ "")
    (hdistinct : ((Csv.headerFields text delimiter).map fun h => Text.toLower (Text.trim h)).Nodup)
    (hwidth : ∀ r ∈ Csv.bodyFields text delimiter,
      r.length = (Csv.headerFields text delimiter).length) :
    ∃ t : Table, Table.ofCsv text { delimiter := delimiter } = .ok t ∧
      t.schema.columns = (Csv.headerFields text delimiter).mapIdx (fun j h =>
        { name := Text.trim h,
          columnType := Csv.inferType (Csv.columnCells (Csv.bodyFields text delimiter) j) }) ∧
      List.Forall₂ (fun record row => List.Forall₂ (fun (x : Column × String) v =>
          Csv.readCell x.1.columnType x.2 = .ok v) (t.schema.columns.zip record) row)
        (Csv.bodyFields text delimiter) t.rows := by
  set headers := Csv.headerFields text delimiter
  set body := Csv.bodyFields text delimiter
  set schema := Csv.inferSchema (headers.map Text.trim) body
  have hcols : schema.columns = headers.mapIdx fun j h =>
      { name := Text.trim h, columnType := Csv.inferType (Csv.columnCells body j) } := by
    apply List.ext_getElem (by simp [schema])
    intro i h₁ h₂
    simp [schema, Csv.columns_inferSchema]
  -- every field of every record reads for the type of its column
  obtain ⟨rows, hrows⟩ := Csv.exists_forall₂ fun r hr =>
    Csv.exists_forall₂ fun x hx => Csv.exists_readCell_of_mem_zip hr hx
  have hread : (body.zipIdx 1).mapM (Csv.readRecord schema (List.range headers.length)) =
      .ok rows :=
    (Csv.mapM_readRecord_eq_ok_iff hwidth rows).mpr hrows
  -- so each row is as wide as the schema and fits it
  have hfit : ∀ row ∈ rows, row.length = schema.columns.length ∧
      ∀ x ∈ row.zip schema.columns, x.1.fits x.2.columnType = true := by
    intro row hrow
    obtain ⟨r, hr, hrel⟩ := Csv.exists_mem_of_forall₂ hrows hrow
    refine ⟨?_, Csv.fits_of_forall₂_readCell hrel⟩
    rw [← hrel.length_eq, List.length_zip, hwidth r hr]
    simp [schema]
  have hmake : Table.make schema rows = .ok ⟨schema, rows⟩ :=
    Csv.make_eq_ok (Csv.validate_inferSchema body hnames hdistinct)
      (fun c hc => Csv.nullable_of_mem_inferSchema hc) hfit
  refine ⟨⟨schema, rows⟩, ?_, hcols, hrows⟩
  rw [Csv.ofCsv_eq_of_widths hwidth, hread]
  exact hmake

/-- A text with one `score` column, one of its cells null, is read into a table. -/
theorem Csv.ofCsv_reads_scores :
    (∀ h ∈ Csv.headerFields "score\n1.5\nnull\n2\n" ',', Text.trim h ≠ "") ∧
    ((Csv.headerFields "score\n1.5\nnull\n2\n" ',').map fun h =>
      Text.toLower (Text.trim h)).Nodup ∧
    (∀ r ∈ Csv.bodyFields "score\n1.5\nnull\n2\n" ',',
      r.length = (Csv.headerFields "score\n1.5\nnull\n2\n" ',').length) ∧
    ∃ t : Table, Table.ofCsv "score\n1.5\nnull\n2\n" { delimiter := ',' } = .ok t := by
  have hheader : Csv.headerFields "score\n1.5\nnull\n2\n" ',' = ["score"] := by
    decide +kernel
  have hnames : ∀ h ∈ Csv.headerFields "score\n1.5\nnull\n2\n" ',', Text.trim h ≠ "" := by
    decide +kernel
  -- one header has no other to clash with, whatever lower-casing makes of it
  have hdistinct : ((Csv.headerFields "score\n1.5\nnull\n2\n" ',').map fun h =>
      Text.toLower (Text.trim h)).Nodup := by
    rw [hheader, List.map_singleton]
    exact List.nodup_cons.mpr ⟨List.not_mem_nil, List.nodup_nil⟩
  have hwidth : ∀ r ∈ Csv.bodyFields "score\n1.5\nnull\n2\n" ',',
      r.length = (Csv.headerFields "score\n1.5\nnull\n2\n" ',').length := by
    decide +kernel
  obtain ⟨t, ht, -⟩ := Csv.ofCsv_infers_readable_types _ _ hnames hdistinct hwidth
  exact ⟨hnames, hdistinct, hwidth, t, ht⟩

end DataQuality
