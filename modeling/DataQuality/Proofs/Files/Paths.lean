import Mathlib
import DataQuality.Repository.Document

/-!
# Paths of stored entries

The parts of a path are its pieces between separators, without the empty pieces and the `.`
pieces (`Path.IsPart` says what a kept piece is).  So the parts of pieces put together with
separators are those pieces again, less the empty and `.` ones (`Path.parts_intercalate`), and a
separator between two paths puts their parts side by side (`Path.parts_append_slash`).

A directory repository keeps the entry of a key at `Path.join root k.fileName`, where the file
name is the hex text of a SHA-256 digest followed by `.json`: a part with the extension `json`
(`ResultKey.isPart_fileName`, `ResultKey.extension?_fileName`).  Below a root that is not empty,
such a path has the root's parts and then the name (`Path.parts_join`), the name as its last part
(`Path.fileName?_join`), and a parent that is not empty and has the root's parts
(`Path.parent?_join`).
-/

namespace DataQuality

namespace Path

/-- A piece of a path that `parts` keeps: no separator, neither empty nor `.`. -/
def IsPart (p : String) : Prop := '/' ∉ p.toList ∧ p ≠ "" ∧ p ≠ "."

/-- A piece between separators holds no separator. -/
lemma not_mem_of_mem_splitOn {a : Char} {xs l : List Char} (h : l ∈ xs.splitOn a) : a ∉ l := by
  induction xs generalizing l with
  | nil =>
    rw [List.splitOn_nil, List.mem_singleton] at h
    subst h
    simp
  | cons x xs ih =>
    rw [List.splitOn_cons_eq_if_modifyHead] at h
    split_ifs at h with hx
    · rcases List.mem_cons.mp h with rfl | h
      · simp
      · exact ih h
    · -- the first piece gains a character that is not a separator
      obtain ⟨first, rest, hsplit⟩ := List.exists_cons_of_ne_nil (List.splitOn_ne_nil a xs)
      rw [hsplit, List.modifyHead_cons] at h
      rcases List.mem_cons.mp h with rfl | h
      · have hfirst := ih (hsplit ▸ List.mem_cons_self)
        simp only [List.mem_cons, not_or]
        exact ⟨fun hax => hx (by simp [hax]), hfirst⟩
      · exact ih (hsplit ▸ List.mem_cons_of_mem _ h)

lemma isPart_of_mem_parts {path p : String} (h : p ∈ parts path) : IsPart p := by
  simp only [parts, List.mem_filter, List.mem_map, Bool.and_eq_true, bne_iff_ne, ne_eq] at h
  obtain ⟨⟨l, hl, rfl⟩, hne, hdot⟩ := h
  exact ⟨by simpa using not_mem_of_mem_splitOn hl, hne, hdot⟩

/-- Pieces without separators put together with separators split back into those pieces. -/
lemma parts_intercalate {L : List String} (hL : ∀ p ∈ L, '/' ∉ p.toList) :
    parts ("/".intercalate L) = L.filter fun p => p != "" && p != "." := by
  cases L with
  | nil => simp [parts]
  | cons p L =>
    have hsplit : ("/".intercalate (p :: L)).toList.splitOn '/' = (p :: L).map String.toList := by
      rw [String.toList_intercalate]
      exact List.splitOn_intercalate '/' (by simpa using hL) (by simp)
    rw [parts, hsplit, List.map_map]
    simp

/-- The parts of a part are itself. -/
lemma parts_of_isPart {name : String} (h : IsPart name) : parts name = [name] := by
  have := parts_intercalate (L := [name]) (by simpa using h.1)
  simpa [h.2.1, h.2.2] using this

/-- A separator between two paths puts their parts side by side. -/
lemma parts_append_slash (a b : String) : parts (a ++ "/" ++ b) = parts a ++ parts b := by
  have hlist : (a ++ "/" ++ b).toList = a.toList ++ '/' :: b.toList := by simp
  rw [parts, parts, parts, hlist, List.splitOn_append_cons_self, List.map_append,
    List.filter_append]

lemma parts_empty : parts "" = [] := by
  simp [parts]

/-- A part has no separator at its start. -/
lemma startsWith_slash_of_isPart {name : String} (h : IsPart name) :
    name.startsWith "/" = false := by
  rw [← String.startsWith_toSlice, Bool.eq_false_iff]
  intro hstart
  simp only [String.Slice.startsWith_string_iff, String.copy_toSlice] at hstart
  exact h.1 (hstart.subset (by simp))

variable {root name : String}

/-- Below a root that is not empty, a part joined to it comes after the root's parts. -/
lemma parts_join (hroot : root ≠ "") (hname : IsPart name) :
    parts (join root name) = parts root ++ [name] := by
  have hempty : root.isEmpty = false := by simpa using hroot
  unfold join
  rw [startsWith_slash_of_isPart hname, hempty, Bool.or_false, if_neg Bool.false_ne_true]
  split_ifs with hend
  · -- the root ends with a separator: its last piece is empty
    rw [← String.endsWith_toSlice] at hend
    simp only [String.Slice.endsWith_string_iff, String.copy_toSlice] at hend
    obtain ⟨t, ht⟩ := hend
    have hroot' : root = String.ofList t ++ "/" ++ "" := by
      rw [← String.toList_inj]
      simpa using ht.symm
    have hjoin : root ++ name = String.ofList t ++ "/" ++ name := by
      rw [hroot']
      simp
    rw [hjoin, hroot', parts_append_slash, parts_append_slash, parts_empty,
      parts_of_isPart hname, List.append_nil]
  · rw [parts_append_slash, parts_of_isPart hname]

/-- A path with parts has a parent, whose parts are all but the last; the parent is empty only
for a path that starts with neither `/` nor `./`. -/
lemma parent?_of_parts_ne_nil {path : String} (h : parts path ≠ []) :
    ∃ dir, parent? path = some dir ∧ parts dir = (parts path).dropLast ∧
      (dir = "" → path.startsWith "/" = false ∧ (path == "." || path.startsWith "./") = false) := by
  have hpieces : ∀ p ∈ (parts path).dropLast, '/' ∉ p.toList :=
    fun p hp => (isPart_of_mem_parts (List.dropLast_subset _ hp)).1
  have hkept : ((parts path).dropLast.filter fun p => p != "" && p != ".") = (parts path).dropLast :=
    List.filter_eq_self.mpr fun p hp => by
      have := isPart_of_mem_parts (List.dropLast_subset _ hp)
      simp [this.2.1, this.2.2]
  unfold parent?
  dsimp only
  obtain ⟨p, ps, hps⟩ := List.exists_cons_of_ne_nil h
  rw [hps] at hpieces hkept ⊢
  cases hslash : path.startsWith "/" <;> cases hhere : (path == "." || path.startsWith "./")
  · -- a relative path not below `.`
    exact ⟨_, rfl, by rw [parts_intercalate hpieces, hkept], fun _ => ⟨rfl, rfl⟩⟩
  · -- a path below `.`: its parent starts with `.`
    refine ⟨_, rfl, ?_, fun hdir => absurd (congrArg String.toList hdir) (by simp)⟩
    rw [parts_intercalate (by simpa using hpieces)]
    simpa using hkept
  all_goals
    -- a path below `/`: its parent starts with `/`
    refine ⟨_, rfl, ?_, fun hdir => absurd (congrArg String.toList hdir) (by simp)⟩
    rw [show "/" ++ "/".intercalate (p :: ps).dropLast = "" ++ "/" ++ "/".intercalate (p :: ps).dropLast
      by simp, parts_append_slash, parts_empty, List.nil_append, parts_intercalate hpieces, hkept]

/-- A path that is not empty with no parts, and not below `/`, is `.` or starts with `./`: its
first piece is dropped and has a character, so it is `.`. -/
lemma dot_of_parts_eq_nil {path : String} (hpath : path ≠ "") (hparts : parts path = [])
    (hslash : path.toList.head? ≠ some '/') :
    ∃ rest, path.toList = '.' :: rest ∧ (rest = [] ∨ rest.head? = some '/') := by
  obtain ⟨c, cs, hc⟩ := List.exists_cons_of_ne_nil (by simpa using hpath : path.toList ≠ [])
  have hc' : (c == '/') = false := by simpa [hc] using hslash
  obtain ⟨first, more, hsplit⟩ := List.exists_cons_of_ne_nil (List.splitOn_ne_nil '/' cs)
  have hpieces : path.toList.splitOn '/' = (c :: first) :: more := by
    rw [hc, List.splitOn_cons_eq_if_modifyHead, if_neg (by simp [hc']), hsplit, List.modifyHead_cons]
  -- the first piece is dropped, and it is not empty, so it is `.`
  have hdropped := List.filter_eq_nil_iff.mp hparts (String.ofList (c :: first))
    (by rw [hpieces]; simp)
  have hdot : c :: first = ['.'] := by
    have hfirst : String.ofList (c :: first) = "." := by
      simpa [← String.toList_inj] using hdropped
    simpa using congrArg String.toList hfirst
  obtain ⟨rfl, rfl⟩ : c = '.' ∧ first = [] := by simpa using hdot
  refine ⟨cs, hc, ?_⟩
  -- the piece after the `.` is empty: nothing follows, or a separator does
  cases cs with
  | nil => exact .inl rfl
  | cons d ds =>
    refine .inr ?_
    by_contra hd
    obtain ⟨first', more', hsplit'⟩ := List.exists_cons_of_ne_nil (List.splitOn_ne_nil '/' ds)
    rw [List.splitOn_cons_eq_if_modifyHead, if_neg (by simpa using hd), hsplit',
      List.modifyHead_cons] at hsplit
    simp at hsplit

/-- The characters of a part joined below a root that is not empty: the root's, a separator
unless the root ends with one, and the part's. -/
lemma toList_join (hroot : root ≠ "") (hname : IsPart name) :
    ∃ sep, (join root name).toList = root.toList ++ sep ++ name.toList ∧
      (sep = ['/'] ∨ sep = [] ∧ root.toList.getLast? = some '/') := by
  have hempty : root.isEmpty = false := by simpa using hroot
  unfold join
  rw [startsWith_slash_of_isPart hname, hempty, Bool.or_false, if_neg Bool.false_ne_true]
  split_ifs with hend
  · rw [← String.endsWith_toSlice] at hend
    simp only [String.Slice.endsWith_string_iff, String.copy_toSlice] at hend
    obtain ⟨t, ht⟩ := hend
    exact ⟨[], by simp, .inr ⟨rfl, by simp [← ht]⟩⟩
  · exact ⟨['/'], by simp, .inl rfl⟩

/-- Below a root that is not empty, a part has as its parent a path that is not empty and has the
root's parts. -/
lemma parent?_join (hroot : root ≠ "") (hname : IsPart name) :
    ∃ dir, parent? (join root name) = some dir ∧ dir ≠ "" ∧ parts dir = parts root := by
  have hparts := parts_join hroot hname
  obtain ⟨dir, hdir, hdirparts, hbare⟩ := @parent?_of_parts_ne_nil (join root name) (by simp [hparts])
  rw [hparts, List.dropLast_concat] at hdirparts
  refine ⟨dir, hdir, fun hd => ?_, hdirparts⟩
  obtain ⟨hslash, hhere⟩ := hbare hd
  have hnil : parts root = [] := by rw [← hdirparts, hd, parts_empty]
  obtain ⟨sep, hjoin, hsep⟩ := toList_join hroot hname
  -- the path starts as the root does
  have hhead : root.toList.head? ≠ some '/' := by
    intro h
    obtain ⟨rest, hrest⟩ : ∃ rest, root.toList = '/' :: rest := by
      cases hr : root.toList with
      | nil => simp [hr] at h
      | cons c cs => exact ⟨cs, by simp_all⟩
    rw [← String.startsWith_toSlice, Bool.eq_false_iff] at hslash
    exact hslash (by simp [hjoin, hrest])
  -- a root with no parts that is not below `/` is `.` or below `./`, and so is the path
  obtain ⟨rest, hrest, hdot⟩ := dot_of_parts_eq_nil hroot hnil hhead
  have hbelow : ['.', '/'] <+: (join root name).toList := by
    rcases hdot with rfl | hd
    · rcases hsep with rfl | ⟨-, hlast⟩
      · simp [hjoin, hrest]
      · simp [hrest] at hlast
    · obtain ⟨t, rfl⟩ : ∃ t, rest = '/' :: t := by
        cases rest with
        | nil => simp at hd
        | cons c cs => exact ⟨cs, by simp_all⟩
      simp [hjoin, hrest]
  have hstart : (join root name).startsWith "./" = true := by
    rw [← String.startsWith_toSlice]
    simpa using hbelow
  rw [Bool.or_eq_false_iff, hstart] at hhere
  exact Bool.false_ne_true hhere.2.symm

/-- Below a root that is not empty, the last part of a joined part other than `..` is the part. -/
lemma fileName?_join (hroot : root ≠ "") (hname : IsPart name) (hdots : name ≠ "..") :
    fileName? (join root name) = some name := by
  unfold fileName?
  rw [parts_join hroot hname, List.getLast?_concat]
  split <;> simp_all

/-- A name of characters other than `/` and `.` followed by `.json` has the extension `json`. -/
lemma extension?_append_json {stem : String} (hslash : '/' ∉ stem.toList)
    (hdot : '.' ∉ stem.toList) (hstem : stem ≠ "") : extension? (stem ++ ".json") = some "json" := by
  have hpart : IsPart (stem ++ ".json") := by
    refine ⟨by simpa using hslash, by simp, fun h => ?_⟩
    have := congrArg (fun s : String => s.toList.length) h
    simp at this
  have hdots : stem ++ ".json" ≠ ".." := fun h => by
    have := congrArg (fun s : String => s.toList.length) h
    simp at this
  have hname : fileName? (stem ++ ".json") = some (stem ++ ".json") := by
    unfold fileName?
    rw [parts_of_isPart hpart]
    split <;> simp_all
  have hsplit : ((stem ++ ".json").toList.splitOn '.').map String.ofList = [stem, "json"] := by
    rw [show (stem ++ ".json").toList = stem.toList ++ '.' :: "json".toList by simp,
      List.splitOn_append_cons_self, List.splitOn_eq_singleton hdot,
      List.splitOn_eq_singleton (by simp)]
    simp
  unfold extension?
  rw [hname]
  dsimp only
  rw [hsplit]
  simp [hstem]

end Path

/-! ## File names of keys -/

namespace Digest

/-- A compression gives eight words, so the digest has eight words of four bytes. -/
lemma length_sha256 (msg : ByteArray) : (sha256 msg).length = 32 := by
  have hsize : ∀ (l : List Nat) (state : Array UInt32), state.size = 8 →
      (l.foldl (fun state i => compress state (pad msg) (64 * i)) state).size = 8 := by
    intro l
    induction l with
    | nil => exact fun _ h => h
    | cons i l ih => exact fun _ _ => ih _ (by simp [compress])
  have hfinal := hsize (List.range ((pad msg).size / 64)) initialState rfl
  simp only [sha256, List.length_flatMap, wordBytes, List.length_cons, List.length_nil]
  rw [List.map_const', List.sum_replicate, Array.length_toList, hfinal]
  rfl

lemma sha256_ne_nil (msg : ByteArray) : sha256 msg ≠ [] := by
  intro h
  have := length_sha256 msg
  rw [h] at this
  simp at this

/-- Hex digits are digits and lower-case letters: neither a separator nor a dot. -/
lemma hexDigit_ne {n : Nat} (h : n < 16) : hexDigit n ≠ '/' ∧ hexDigit n ≠ '.' := by
  revert n
  decide

/-- Every character of a hex text is the hex digit of a number below sixteen. -/
lemma exists_hexDigit_of_mem_hexText {bytes : List UInt8} {c : Char}
    (h : c ∈ (hexText bytes).toList) : ∃ n < 16, hexDigit n = c := by
  simp only [hexText, String.toList_ofList, List.mem_flatMap, List.mem_cons, List.not_mem_nil,
    or_false] at h
  obtain ⟨b, -, hb | hb⟩ := h
  · exact ⟨_, Nat.div_lt_of_lt_mul (by simpa using b.toNat_lt), hb.symm⟩
  · exact ⟨_, Nat.mod_lt _ (by decide), hb.symm⟩

lemma hexText_spec (bytes : List UInt8) :
    '/' ∉ (hexText bytes).toList ∧ '.' ∉ (hexText bytes).toList := by
  refine ⟨fun h => ?_, fun h => ?_⟩
  · obtain ⟨n, hn, hc⟩ := exists_hexDigit_of_mem_hexText h
    exact (hexDigit_ne hn).1 hc
  · obtain ⟨n, hn, hc⟩ := exists_hexDigit_of_mem_hexText h
    exact (hexDigit_ne hn).2 hc

lemma hexText_ne_empty {bytes : List UInt8} (h : bytes ≠ []) : hexText bytes ≠ "" := by
  obtain ⟨b, bs, rfl⟩ := List.exists_cons_of_ne_nil h
  simp [hexText, ← String.toList_inj]

end Digest

/-- The file of a key is a part of a path, other than `..`. -/
theorem ResultKey.isPart_fileName (k : ResultKey) : Path.IsPart k.fileName ∧ k.fileName ≠ ".." := by
  obtain ⟨hslash, -⟩ := Digest.hexText_spec (Digest.sha256 (Json.compact k.toJson).toUTF8)
  -- the name has at least the five characters of `.json`
  have hlength : ∀ t : String, k.fileName = t → 5 ≤ t.toList.length := by
    rintro t rfl
    simp [ResultKey.fileName]
  refine ⟨⟨by simpa [ResultKey.fileName] using hslash, fun h => ?_, fun h => ?_⟩, fun h => ?_⟩ <;>
    simpa using hlength _ h

/-- The file of a key has the extension `json`. -/
theorem ResultKey.extension?_fileName (k : ResultKey) : Path.extension? k.fileName = some "json" :=
  Path.extension?_append_json (Digest.hexText_spec _).1 (Digest.hexText_spec _).2
    (Digest.hexText_ne_empty (Digest.sha256_ne_nil _))

end DataQuality
