import Mathlib.Data.List.Basic
import DataQuality.Analysis.Aggregate
import DataQuality.Proofs.Scan.Fold

/-!
# Keys of grouping values

A frequency table keys each row by its grouping values joined with bars, a backslash or a bar
inside a value escaped by a backslash.  Reading a key splits it back into the values
(`Frequencies.splitKey_keyOf`), so two lists of values of the same nonempty shape have the same
key only when they are equal (`Frequencies.keyOf_inj`): counting keys is counting the tuples
of grouping values.  The key a frequency scan gives a row splits back into the row's rendered
grouping cells (`Frequencies.splitKey_groupingKey`), and `Frequencies.keyOf_splits_back` gathers
what follows for any nonempty list of values.
-/

namespace DataQuality

namespace Frequencies

/-- A character that is escaped inside a grouping value. -/
def escapes (c : Char) : Bool := c == '\\' || c == '|'

/-- The characters of a grouping value with its backslashes and bars escaped. -/
def escapeChars (cs : List Char) : List Char :=
  cs.flatMap fun c => if escapes c then ['\\', c] else [c]

lemma toList_escapePart (s : String) : (escapePart s).toList = escapeChars s.toList :=
  String.toList_ofList

/-- Reading the escaped characters of a value pushes the value, reversed, onto the part being
read. -/
lemma splitChars_escapeChars (cur cs rest : List Char) :
    splitChars cur (escapeChars cs ++ rest) = splitChars (cs.reverse ++ cur) rest := by
  induction cs generalizing cur with
  | nil => simp [escapeChars]
  | cons c cs ih =>
    by_cases hc : escapes c
    · have h : escapeChars (c :: cs) ++ rest = '\\' :: c :: (escapeChars cs ++ rest) := by
        simp [escapeChars, hc]
      rw [h, splitChars, ih]
      simp
    · have h : escapeChars (c :: cs) ++ rest = c :: (escapeChars cs ++ rest) := by
        simp [escapeChars, hc]
      have hb : c ≠ '\\' := fun h => by simp [escapes, h] at hc
      have hbar : c ≠ '|' := fun h => by simp [escapes, h] at hc
      rw [h, splitChars.eq_5 _ _ _ (fun _ _ h => absurd h hb) (fun h => absurd h hb)
        (fun h => absurd h hbar), ih]
      simp

/-- Reading escaped values joined by bars gives the values back. -/
lemma splitChars_join (vs : List String) (hvs : vs ≠ []) :
    splitChars [] (['|'].intercalate (vs.map fun s => escapeChars s.toList)) = vs := by
  induction vs with
  | nil => exact absurd rfl hvs
  | cons s rest ih =>
    cases rest with
    | nil =>
      have h := splitChars_escapeChars [] s.toList []
      simp only [List.append_nil] at h
      simp [h, splitChars]
    | cons t more =>
      -- the first value is read up to the bar that ends it, then the rest from scratch
      have hrest := ih (List.cons_ne_nil t more)
      rw [List.map_cons] at hrest
      rw [List.map_cons, List.map_cons, List.intercalate_cons_cons, List.append_assoc,
        splitChars_escapeChars, List.singleton_append, splitChars, hrest]
      simp

/-- A key splits back into the grouping values it was made of. -/
theorem splitKey_keyOf (vs : List String) (hvs : vs ≠ []) : splitKey (keyOf vs) = vs := by
  simpa [splitKey, keyOf, String.toList_intercalate, List.map_map, Function.comp_def,
    toList_escapePart] using splitChars_join vs hvs

/-- Nonempty lists of grouping values with the same key are the same. -/
theorem keyOf_inj {vs ws : List String} (hvs : vs ≠ []) (hws : ws ≠ [])
    (h : keyOf vs = keyOf ws) : vs = ws := by
  rw [← splitKey_keyOf vs hvs, h, splitKey_keyOf ws hws]

/-- The key a frequency scan gives a row with no null grouping cell splits back into the row's
rendered grouping cells. -/
lemma splitKey_groupingKey {js : List Nat} (hjs : js ≠ []) {row : Row} {k : String}
    (h : groupingKey js row = some k) : splitKey k = (js.map (cellAt row)).map Value.render := by
  simp only [groupingKey] at h
  split_ifs at h
  cases h
  exact splitKey_keyOf _ (by simpa using hjs)

/-- Keys round-trip: a nonempty list of values, bars and backslashes included, is split back out
of its key; so no other nonempty list has its key, a row of a frequency scan gets that key only
when its grouping cells render to those values, and a key of two values splits into those two.
Values here are the rendered texts the scan joins, so cells that render alike share a key. -/
theorem keyOf_splits_back (xs : List String) (hxs : xs ≠ []) :
    splitKey (keyOf xs) = xs ∧
    (∀ ys : List String, ys ≠ [] → keyOf ys = keyOf xs → ys = xs) ∧
    (∀ (js : List Nat) (row : Row), js ≠ [] → groupingKey js row = some (keyOf xs) →
      (js.map (cellAt row)).map Value.render = xs) ∧
    ∀ x y : String, splitKey (keyOf [x, y]) = [x, y] := by
  refine ⟨splitKey_keyOf xs hxs, fun ys hys h => keyOf_inj hys hxs h, fun js row hjs h => ?_,
    fun x y => splitKey_keyOf [x, y] (List.cons_ne_nil _ _)⟩
  rw [← splitKey_groupingKey hjs h, splitKey_keyOf xs hxs]

/-- The values of a key with a bar, a backslash and an empty value come back out of it. -/
theorem keyOf_splits_back_separators :
    ["a|b", "c\\d", ""] ≠ [] ∧ splitKey (keyOf ["a|b", "c\\d", ""]) = ["a|b", "c\\d", ""] :=
  ⟨List.cons_ne_nil _ _, (keyOf_splits_back ["a|b", "c\\d", ""] (List.cons_ne_nil _ _)).1⟩

end Frequencies

end DataQuality
