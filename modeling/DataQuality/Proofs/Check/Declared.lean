import Mathlib.Data.List.Infix
import DataQuality.Suite.Config

/-!
# What a declared constraint adds to a check

A suite declares each constraint as a specification with an optional row filter and hint.  The
specification appends its constraints after the check's own and changes nothing else
(`ConstraintSpec.apply_eq`): one constraint for every kind but a primary key, which adds a
completeness constraint per key column and then the uniqueness of the key
(`ConstraintSpec.length_added`).  The filter and the hint then go to the last constraint added,
and to it alone (`ConstraintConfig.apply_eq`, `ConstraintConfig.added`).

So a declaration that adds one constraint restricts every analyzer it creates to its filter and
gives its hint to what it adds, and a declared check holds the constraints of its declarations
one after another (`CheckConfig.constraints_toCheck`); `declared_filter_and_hint_reach_added`
gathers these.  A primary key over key columns is the exception: its completeness constraints
keep reading every row and carry no hint (`ConstraintConfig.added_isPrimaryKey`).
-/

namespace DataQuality

namespace Check

@[simp] lemma constraints_default : (default : Check).constraints = [] := rfl

/-- Asserting one condition on each of a list of analyzers appends one constraint per analyzer,
in order, and changes nothing else. -/
lemma foldl_assertOn (f : String → Analyzer) (assertion : Assertion) (cols : List String)
    (c : Check) :
    cols.foldl (fun c col => c.assertOn (f col) assertion) c =
      { c with constraints := c.constraints ++ cols.map fun col => Constraint.on (f col) assertion } := by
  induction cols generalizing c with
  | nil => simp
  | cons col cols ih =>
    rw [List.foldl_cons, ih]
    simp [assertOn, add]

/-- Changing the last constraint of a check changes the last of its constraints. -/
lemma mapLast_concat (c : Check) (l : List Constraint) (x : Constraint)
    (f : Constraint → Constraint) :
    ({ c with constraints := l ++ [x] } : Check).mapLast f = { c with constraints := l ++ [f x] } := by
  simp [mapLast]

end Check

namespace ConstraintSpec

/-- How many constraints a specification adds: a primary key one per key column and one more,
every other kind one. -/
def constraintCount : ConstraintSpec → Nat
  | .isPrimaryKey cols => cols.length + 1
  | _ => 1

/-- The constraints a specification adds to a check; they do not depend on the check
(`ConstraintSpec.apply_eq`). -/
def added (s : ConstraintSpec) : List Constraint := (s.apply default).constraints

/-- A specification appends its constraints to the check's and changes nothing else. -/
lemma apply_eq (s : ConstraintSpec) (c : Check) :
    s.apply c = { c with constraints := c.constraints ++ s.added } := by
  cases s
  case isPrimaryKey cols =>
    simp only [added, apply, Check.isPrimaryKey, Check.foldl_assertOn]
    simp [Check.assertOn, Check.add]
  -- every other kind appends one constraint through `assertOn` or `add`
  all_goals rfl

/-- A primary key adds a completeness constraint per key column, then the uniqueness of the
key. -/
lemma added_isPrimaryKey (cols : List String) :
    (isPrimaryKey cols).added =
      cols.map (fun col => Constraint.on (Check.plainAnalyzer (.completeness col)) .isOne) ++
        [Constraint.on (Check.plainAnalyzer (.uniqueness cols)) .isOne] := by
  simp only [added, apply, Check.isPrimaryKey, Check.foldl_assertOn]
  simp [Check.assertOn, Check.add]

/-- A specification adds as many constraints as `constraintCount` says. -/
lemma length_added (s : ConstraintSpec) : s.added.length = s.constraintCount := by
  cases s
  case isPrimaryKey cols => simp [added_isPrimaryKey, constraintCount]
  all_goals rfl

/-- Every specification adds a constraint. -/
lemma added_ne_nil (s : ConstraintSpec) : s.added ≠ [] := by
  apply List.ne_nil_of_length_pos
  rw [length_added]
  cases s <;> simp [constraintCount]

end ConstraintSpec

namespace ConstraintConfig

/-- What a declaration's filter and hint make of a constraint: its analyzers restricted to the
filter, then the hint given. -/
def finish (k : ConstraintConfig) (x : Constraint) : Constraint :=
  let x := match k.filter with
    | some f => x.withFilter f
    | none => x
  match k.hint with
  | some h => { x with hint := some h }
  | none => x

/-- The constraints a declaration adds to a check: those of its specification, the last one
finished by the declaration's filter and hint. -/
def added (k : ConstraintConfig) : List Constraint :=
  k.spec.added.dropLast ++ (k.spec.added.getLast?.map k.finish).toList

/-- What a declaration adds, once the last constraint of its specification is named. -/
lemma added_eq {k : ConstraintConfig} {pre : List Constraint} {x : Constraint}
    (h : k.spec.added = pre ++ [x]) : k.added = pre ++ [k.finish x] := by
  simp [added, h]

/-- A declaration appends its constraints to the check's and changes nothing else. -/
lemma apply_eq (k : ConstraintConfig) (c : Check) :
    k.apply c = { c with constraints := c.constraints ++ k.added } := by
  obtain ⟨pre, x, hx⟩ := (List.eq_nil_or_concat k.spec.added).resolve_left k.spec.added_ne_nil
  rw [List.concat_eq_append] at hx
  rw [added_eq hx, ← List.append_assoc, apply, ConstraintSpec.apply_eq, hx, ← List.append_assoc]
  obtain ⟨spec, filter, hint⟩ := k
  -- the filter and the hint each change the last constraint the specification added
  cases filter <;> cases hint <;>
    simp only [finish, Check.whereFilter, Check.withHint, Check.mapLast_concat]

/-- A finished constraint reads only the rows that pass the declaration's filter. -/
lemma filter_of_mem_finish {k : ConstraintConfig} {f : String} (hf : k.filter = some f)
    (x : Constraint) : ∀ a ∈ (k.finish x).analyzers, a.filter = some f := by
  obtain ⟨spec, filter, hint⟩ := k
  cases hf
  cases hint <;> simp [finish, Constraint.withFilter]

/-- A finished constraint carries the declaration's hint. -/
lemma hint_finish {k : ConstraintConfig} {h : String} (hh : k.hint = some h) (x : Constraint) :
    (k.finish x).hint = some h := by
  obtain ⟨spec, filter, hint⟩ := k
  cases hh
  simp [finish]

/-- A declaration whose specification adds one constraint adds it finished. -/
lemma added_of_constraintCount {k : ConstraintConfig} (hone : k.spec.constraintCount = 1) :
    ∃ x, k.added = [k.finish x] := by
  have hlen := k.spec.length_added
  rw [hone] at hlen
  obtain ⟨x, hx⟩ := List.length_eq_one_iff.mp hlen
  exact ⟨x, added_eq (show k.spec.added = [] ++ [x] from hx)⟩

/-- A declared primary key over key columns finishes only the uniqueness constraint: the
completeness constraints stay unfiltered and without hint. -/
lemma added_isPrimaryKey (cols : List String) (filter hint : Option String) :
    (⟨.isPrimaryKey cols, filter, hint⟩ : ConstraintConfig).added =
      cols.map (fun col => Constraint.on (Check.plainAnalyzer (.completeness col)) .isOne) ++
        [finish ⟨.isPrimaryKey cols, filter, hint⟩
          (Constraint.on (Check.plainAnalyzer (.uniqueness cols)) .isOne)] :=
  added_eq (ConstraintSpec.added_isPrimaryKey cols)

end ConstraintConfig

namespace CheckConfig

/-- Applying declarations in turn appends what each adds, in order. -/
lemma constraints_foldl_apply (ks : List ConstraintConfig) (c : Check) :
    (ks.foldl ConstraintConfig.apply c).constraints =
      c.constraints ++ ks.flatMap ConstraintConfig.added := by
  induction ks generalizing c with
  | nil => simp
  | cons k ks ih =>
    rw [List.foldl_cons, ih, ConstraintConfig.apply_eq]
    simp

/-- A declared check holds the constraints of its declarations one after another. -/
lemma constraints_toCheck (cc : CheckConfig) :
    cc.toCheck.constraints = cc.constraints.flatMap ConstraintConfig.added := by
  unfold toCheck
  split <;> simp [constraints_foldl_apply, Check.stoppingOnFailure]

end CheckConfig

/-- A declaration whose specification adds one constraint appends it after the check's own
constraints, leaving them and the rest of the check as they were; the constraint reads only the
rows that pass the declaration's filter and carries its hint; and the check a suite builds from
a declared check holding the declaration holds that constraint. -/
theorem declared_filter_and_hint_reach_added (k : ConstraintConfig)
    (hone : k.spec.constraintCount = 1) :
    (∀ c : Check, k.apply c = { c with constraints := c.constraints ++ k.added }) ∧
    k.added ≠ [] ∧
    (∀ x ∈ k.added, (∀ f, k.filter = some f → ∀ a ∈ x.analyzers, a.filter = some f) ∧
      (∀ h, k.hint = some h → x.hint = some h)) ∧
    ∀ s : SuiteConfig, ∀ cc ∈ s.checks, k ∈ cc.constraints →
      ∃ check ∈ s.toChecks, k.added <:+: check.constraints := by
  obtain ⟨x, hx⟩ := ConstraintConfig.added_of_constraintCount hone
  refine ⟨k.apply_eq, by simp [hx], ?_, ?_⟩
  · intro y hy
    rw [hx, List.mem_singleton] at hy
    subst hy
    exact ⟨fun f hf => ConstraintConfig.filter_of_mem_finish hf x,
      fun h hh => ConstraintConfig.hint_finish hh x⟩
  · intro s cc hcc hk
    refine ⟨cc.toCheck, List.mem_map_of_mem hcc, ?_⟩
    rw [CheckConfig.constraints_toCheck, List.flatMap_def]
    exact List.infix_of_mem_flatten (List.mem_map_of_mem hk)

/-- An `is_complete` declaration filtered by `id > 0` adds a constraint whose analyzers read only
the rows with a positive id. -/
theorem declared_filter_reaches_isComplete :
    (ConstraintSpec.isComplete "id").constraintCount = 1 ∧
    ∀ x ∈ (⟨.isComplete "id", some "id > 0", some "ids are set"⟩ : ConstraintConfig).added,
      ∀ a ∈ x.analyzers, a.filter = some "id > 0" :=
  ⟨rfl, fun x hx => ((declared_filter_and_hint_reach_added _ rfl).2.2.1 x hx).1 _ rfl⟩

end DataQuality
