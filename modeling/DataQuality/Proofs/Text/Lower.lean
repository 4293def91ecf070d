import Mathlib
import DataQuality.Text.Lower

/-!
# Lower case is idempotent

Lower-casing a text twice is lower-casing it once (`Text.toLower_toLower`): every character that
lower-casing writes is its own lower-case form, and none of them is a capital sigma, the one
character whose lower-case form depends on its neighbours.

For the one-character mapping this is a fact of its table, checked by evaluating the table:
every code point that a run maps lands on a scalar value other than `Σ` and `İ` that the mapping
leaves alone (`lowerTableSettled_eq_true`).  The binary search returns only runs that map the
code point asked about (`findRun_covers`), so the lower-case form of a code point is the code
point itself or the image of a member of a run (`lowerCode_cases`).
-/

namespace DataQuality.Unicode

/-! ### The table of the one-character mapping -/

/-- The binary search returns only runs of the array that map the code point. -/
theorem findRun_covers {rs : Array ShiftRun} {n lo hi : Nat} {r : ShiftRun}
    (h : findRun rs n lo hi = some r) : r ∈ rs ∧ r.covers n = true := by
  fun_induction findRun rs n lo hi with
  | case1 _ _ _ _ _ _ _ ih => exact ih h
  | case2 _ _ _ _ _ _ _ _ ih => exact ih h
  | case3 _ _ _ mid hmid _ _ _ hcov =>
    rw [← Option.some.inj h]
    exact ⟨Array.getElem_mem hmid, hcov⟩
  | case4 => cases h
  | case5 => cases h
  | case6 => cases h

/-- The code point a run sends `n` to. -/
def ShiftRun.image (r : ShiftRun) (n : Nat) : Nat := ((n : Int) + r.shift).toNat

/-- A code point that a run with members and a positive step maps is one of its members. -/
theorem ShiftRun.exists_of_covers {r : ShiftRun} (hc : 0 < r.count) (hs : 0 < r.step) {n : Nat}
    (h : r.covers n = true) : ∃ k < r.count, n = r.first + k * r.step := by
  simp only [ShiftRun.covers, ShiftRun.last, Bool.and_eq_true, decide_eq_true_eq, beq_iff_eq] at h
  obtain ⟨⟨hlo, hhi⟩, hmod⟩ := h
  replace hhi := of_decide_eq_true hhi
  have hdiv : (n - r.first) / r.step * r.step = n - r.first :=
    Nat.div_mul_cancel (Nat.dvd_of_mod_eq_zero hmod)
  have hlast : (r.count - 1) * r.step + r.step = r.count * r.step := by
    rw [← Nat.succ_mul, Nat.succ_eq_add_one, Nat.sub_add_cancel hc]
  refine ⟨(n - r.first) / r.step, (Nat.div_lt_iff_lt_mul hs).mpr (by omega), by omega⟩

/-- What the table of the lower-case mapping satisfies: every run has members and a positive
step, and the image of every member is a scalar value other than `Σ` (U+03A3) and `İ` (U+0130)
that is its own lower-case form. -/
def lowerTableSettled : Bool :=
  lowerRuns.toList.all fun r => 0 < r.count && 0 < r.step &&
    (List.range r.count).all fun k =>
      let m := r.image (r.first + k * r.step)
      decide (Nat.isValidChar m) && m != 0x3A3 && m != 0x130 && lowerCode m == m

theorem lowerTableSettled_eq_true : lowerTableSettled = true := by
  decide +kernel

/-- The lower-case form of a code point is the code point, or the image of a member of a run. -/
theorem lowerCode_cases (n : Nat) :
    lowerCode n = n ∨ ∃ r ∈ lowerRuns, r.covers n = true ∧ lowerCode n = r.image n := by
  unfold lowerCode
  cases h : findRun lowerRuns n 0 lowerRuns.size with
  | none => exact .inl rfl
  | some r => exact .inr ⟨r, (findRun_covers h).1, (findRun_covers h).2, rfl⟩

/-- A code point that lower-casing moves lands on a scalar value other than `Σ` and `İ` that
lower-casing leaves alone. -/
theorem lowerCode_settled (n : Nat) :
    lowerCode n = n ∨ (Nat.isValidChar (lowerCode n) ∧ lowerCode n ≠ 0x3A3 ∧
      lowerCode n ≠ 0x130 ∧ lowerCode (lowerCode n) = lowerCode n) := by
  rcases lowerCode_cases n with h | ⟨r, hr, hcov, hcode⟩
  · exact .inl h
  · have htable := lowerTableSettled_eq_true
    simp only [lowerTableSettled, List.all_eq_true, Bool.and_eq_true, decide_eq_true_eq,
      List.mem_range, bne_iff_ne, ne_eq, beq_iff_eq] at htable
    obtain ⟨⟨hc, hs⟩, himages⟩ := htable r (Array.mem_toList_iff.mpr hr)
    obtain ⟨k, hk, rfl⟩ := r.exists_of_covers hc hs hcov
    obtain ⟨⟨⟨hvalid, hsig⟩, hdot⟩, hfix⟩ := himages k hk
    rw [hcode]
    exact .inr ⟨hvalid, hsig, hdot, hfix⟩

/-! ### Characters -/

/-- A character that lower-casing writes back as it is, whatever stands around it. -/
def LowerSettled (d : Char) : Prop := d ≠ 'Σ' ∧ lowerFull d = [d]

/-- A character other than `İ` whose one-character form is itself is settled, unless it is `Σ`. -/
theorem lowerSettled_of_lowerChar {d : Char} (hs : d ≠ 'Σ') (hi : d ≠ 'İ')
    (hd : lowerChar d = d) : LowerSettled d :=
  ⟨hs, by rw [lowerFull, if_neg hi, hd]⟩

/-- The characters that lower-casing writes besides one-character forms: `i` and the combining
dot above for `İ`, and the two small sigmas for `Σ`. -/
theorem lowerSettled_written :
    LowerSettled 'i' ∧ LowerSettled '̇' ∧ LowerSettled 'σ' ∧ LowerSettled 'ς' := by
  refine ⟨⟨by decide, ?_⟩, ⟨by decide, ?_⟩, ⟨by decide, ?_⟩, ⟨by decide, ?_⟩⟩
  all_goals decide +kernel

/-- The one-character form of a character other than `Σ` and `İ` is settled. -/
theorem lowerSettled_lowerChar {c : Char} (hs : c ≠ 'Σ') (hi : c ≠ 'İ') :
    LowerSettled (lowerChar c) := by
  rcases lowerCode_settled c.toNat with h | ⟨hvalid, hsig, hdot, hfix⟩
  · -- lower-casing leaves `c` alone
    have hc : lowerChar c = c := by rw [lowerChar, h, Char.ofNat_toNat]
    rw [hc]
    exact lowerSettled_of_lowerChar hs hi hc
  · -- lower-casing moves `c` to a code point it leaves alone
    have hnat : (lowerChar c).toNat = lowerCode c.toNat := by
      rw [lowerChar, Char.toNat_ofNat, if_pos hvalid]
    refine lowerSettled_of_lowerChar ?_ ?_ ?_
    · intro heq
      exact hsig (by rw [← hnat, heq]; rfl)
    · intro heq
      exact hdot (by rw [← hnat, heq]; rfl)
    · rw [lowerChar, hnat, hfix]
      rfl

/-- Every character of the full lower-case form of a character other than `Σ` is settled. -/
theorem lowerSettled_of_mem_lowerFull {c d : Char} (hs : c ≠ 'Σ') (hd : d ∈ lowerFull c) :
    LowerSettled d := by
  unfold lowerFull at hd
  split at hd
  · -- `İ` becomes `i` and a combining dot above
    simp only [List.mem_cons, List.not_mem_nil, or_false] at hd
    rcases hd with rfl | rfl
    · exact lowerSettled_written.1
    · exact lowerSettled_written.2.1
  · rename_i hi
    rw [List.mem_singleton.mp hd]
    exact lowerSettled_lowerChar hs hi

end DataQuality.Unicode

namespace DataQuality.Text

open DataQuality.Unicode

/-- Every character that lower-casing writes is settled. -/
theorem lowerSettled_of_mem_lowerChars {before cs : List Char} {d : Char}
    (h : d ∈ lowerChars before cs) : LowerSettled d := by
  induction cs generalizing before with
  | nil => simp [lowerChars] at h
  | cons c rest ih =>
    simp only [lowerChars, List.mem_append] at h
    rcases h with hout | hrest
    · split at hout
      · -- a capital sigma becomes one of the two small sigmas
        rw [List.mem_singleton.mp hout]
        unfold sigmaLower
        split
        · exact lowerSettled_written.2.2.2
        · exact lowerSettled_written.2.2.1
      · rename_i hs
        exact lowerSettled_of_mem_lowerFull hs hout
    · exact ih hrest

/-- Lower-casing characters that are all settled writes them back. -/
theorem lowerChars_of_settled {before ds : List Char} (h : ∀ d ∈ ds, LowerSettled d) :
    lowerChars before ds = ds := by
  induction ds generalizing before with
  | nil => rfl
  | cons d rest ih =>
    obtain ⟨hs, hfull⟩ := h d List.mem_cons_self
    rw [lowerChars, if_neg hs, hfull, ih fun e he => h e (List.mem_cons_of_mem d he)]
    rfl

/-- Lower case is idempotent. -/
@[simp]
theorem toLower_toLower (s : String) : toLower (toLower s) = toLower s := by
  unfold toLower
  rw [String.toList_ofList, lowerChars_of_settled fun d hd => lowerSettled_of_mem_lowerChars hd]

end DataQuality.Text
