import DataQuality.Data.Table

/-!
# Partitions of a table

`Table.partitions` cuts the rows of a table into consecutive chunks.  Whatever the count asked
for, the chunks put back together are the rows in order (`Table.flatten_partitions`), so anything
computed chunk by chunk and then combined in chunk order sees every row once, in order.

The count is clamped to `[1, n]` for `n` rows and the chunks take `⌈n / count⌉` rows each, the
last one fewer.  Every chunk is non-empty, and since `count` chunks of `⌈n / count⌉` rows hold all
`n` rows, there are at most `count` of them (`Table.partitions_cover_rows`).
-/

namespace DataQuality

namespace Table

variable {α : Type}

/-- The chunks cut by the bounded loop of `chunks` put back together give the list. -/
theorem flatten_chunks_go (size fuel : Nat) (xs : List α) :
    (chunks.go size fuel xs).flatten = xs := by
  induction fuel generalizing xs with
  | zero => cases xs <;> simp [chunks.go]
  | succ fuel ih =>
    cases xs with
    | nil => simp [chunks.go]
    | cons x rest =>
      simp only [chunks.go, List.flatten_cons, ih, List.take_append_drop]

/-- Chunks put back together give the list. -/
theorem flatten_chunks (size : Nat) (xs : List α) : (chunks size xs).flatten = xs := by
  unfold chunks
  split
  · simp
  · exact flatten_chunks_go size xs.length xs

/-- The partitions of a table put back together give its rows, in order. -/
theorem flatten_partitions (t : Table) (count : Nat) : (t.partitions count).flatten = t.rows := by
  unfold partitions
  split
  · next h => simp [List.isEmpty_iff.mp h]
  · exact flatten_chunks _ _

/-- A list cut into chunks as long as itself is one chunk. -/
theorem chunks_length {xs : List α} (h : xs ≠ []) : chunks xs.length xs = [xs] := by
  obtain ⟨x, rest, rfl⟩ := List.exists_cons_of_ne_nil h
  simp [chunks, chunks.go]

/-- A table cut into one partition is one chunk of all its rows, or no chunk when it has none. -/
theorem partitions_one (t : Table) : t.partitions 1 = if t.rows = [] then [] else [t.rows] := by
  unfold partitions
  split
  · next h => simp [List.isEmpty_iff.mp h]
  · next h =>
    have hne : t.rows ≠ [] := fun he => h (List.isEmpty_iff.mpr he)
    have hcount : max 1 (min 1 t.rows.length) = 1 := by omega
    simp only [hcount, Nat.add_sub_cancel, Nat.div_one, if_neg hne]
    exact chunks_length hne

/-! ## How many partitions -/

/-- Each round of `chunks.go` takes a non-empty chunk. -/
theorem ne_nil_of_mem_chunks_go {size : Nat} (hs : 0 < size) (fuel : Nat) (xs : List α) :
    ∀ c ∈ chunks.go size fuel xs, c ≠ [] := by
  fun_induction chunks.go size fuel xs with
  | case1 => simp
  | case2 ys hys => simpa using hys
  | case3 fuel ys hys ih =>
    intro c hc
    rcases List.mem_cons.mp hc with rfl | hc
    · obtain ⟨y, rest, rfl⟩ := List.exists_cons_of_ne_nil hys
      obtain ⟨s, rfl⟩ := Nat.exists_eq_add_of_lt hs
      simp
    · exact ih c hc

/-- With a round for every item, the chunks of `n` items are at most `⌈n / size⌉`: all of
them but the last hold `size` items. -/
theorem length_chunks_go_mul_lt {size : Nat} (hs : 0 < size) (fuel : Nat) (xs : List α)
    (h : xs.length ≤ fuel) : (chunks.go size fuel xs).length * size < xs.length + size := by
  fun_induction chunks.go size fuel xs with
  | case1 => simpa using hs
  | case2 ys hys => exact absurd (List.eq_nil_of_length_eq_zero (Nat.le_zero.mp h)) hys
  | case3 fuel ys hys ih =>
    have hpos : 0 < ys.length := List.length_pos_iff.mpr hys
    rw [List.length_cons, Nat.succ_mul]
    by_cases hshort : ys.length ≤ size
    · -- the first chunk takes every item
      rw [List.drop_eq_nil_of_le hshort, chunks.go.eq_1]
      simpa using hpos
    · have := ih (by rw [List.length_drop]; omega)
      rw [List.length_drop] at this
      omega

/-- Cut into chunks of `⌈n / c⌉` items, `n` items make at most `c` chunks. -/
theorem length_chunks_go_le {c : Nat} (hc : 0 < c) (xs : List α) :
    (chunks.go ((xs.length + c - 1) / c) xs.length xs).length ≤ c := by
  have hdiv := Nat.div_add_mod (xs.length + c - 1) c
  have hmod := Nat.mod_lt (xs.length + c - 1) hc
  cases xs with
  | nil => simp [chunks.go]
  | cons x rest =>
    have hs : 0 < ((x :: rest).length + c - 1) / c :=
      Nat.div_pos (by rw [List.length_cons]; omega) hc
    have hlen := length_chunks_go_mul_lt hs _ (x :: rest) (Nat.le_refl _)
    -- more than `c` chunks of `⌈n / c⌉` items would hold more than `n` items
    refine Nat.le_of_not_lt fun hmore => ?_
    have hge := Nat.mul_le_mul_right (((x :: rest).length + c - 1) / c) hmore
    rw [Nat.succ_mul] at hge
    omega

/-- A table with rows is cut, in `⌈n / c⌉`-row chunks for the clamped count `c`, by as many
rounds as it has rows. -/
theorem partitions_of_ne_nil {t : Table} (h : t.rows ≠ []) (count : Nat) :
    t.partitions count = chunks.go ((t.rows.length + max 1 (min count t.rows.length) - 1) /
      max 1 (min count t.rows.length)) t.rows.length t.rows := by
  have hpos : 0 < t.rows.length := List.length_pos_iff.mpr h
  have hsize : (t.rows.length + max 1 (min count t.rows.length) - 1) /
      max 1 (min count t.rows.length) ≠ 0 :=
    Nat.pos_iff_ne_zero.mp (Nat.div_pos (by omega) (by omega))
  rw [partitions, if_neg (by simpa using h)]
  exact if_neg hsize

/-- The partitions of a table cover it: none for a table without rows, otherwise between one
and `max count 1` non-empty chunks that put back together give the rows in order. -/
theorem partitions_cover_rows (t : Table) (count : Nat) :
    (t.rows = [] → t.partitions count = []) ∧
    (t.rows ≠ [] → 1 ≤ (t.partitions count).length ∧ (t.partitions count).length ≤ max count 1 ∧
      (∀ part ∈ t.partitions count, part ≠ []) ∧ (t.partitions count).flatten = t.rows) := by
  refine ⟨fun h => by simp [partitions, h], fun h => ⟨?_, ?_, ?_, flatten_partitions t count⟩⟩
  · obtain ⟨y, rest, hyr⟩ := List.exists_cons_of_ne_nil h
    rw [partitions_of_ne_nil h, hyr]
    simp [chunks.go]
  · have hle := @length_chunks_go_le _ (max 1 (min count t.rows.length)) (by omega) t.rows
    rw [partitions_of_ne_nil h]
    omega
  · have hpos : 0 < t.rows.length := List.length_pos_iff.mpr h
    rw [partitions_of_ne_nil h]
    exact ne_nil_of_mem_chunks_go (Nat.div_pos (by omega) (by omega)) _ _

/-- Seven rows asked for five partitions: chunks of two rows, so only four of them. -/
example : ((⟨⟨[]⟩, List.replicate 7 []⟩ : Table).partitions 5).map List.length = [2, 2, 2, 1] := by
  decide

end Table

end DataQuality
