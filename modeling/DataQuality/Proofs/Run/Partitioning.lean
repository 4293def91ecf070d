import Mathlib
import DataQuality.Proofs.Ordered
import DataQuality.Proofs.Run.WholeScan

/-!
# A run does not depend on how the table is cut

A run reaches the number of partitions only through the scan groups of its analyzers'
descriptors (`runAnalysis_congr_scans`).  When the numbers of the table are whole and the sums
its analyzers take fit, each such group is one pass over the rows (`scanGroup_eq_scanWhole`), so
a run over a table cut one way returns what a run over it cut any other way returns
(`runAnalysis_partitions_eq`): every metric, every failure and its message.
-/

namespace DataQuality

section Partitions

variable {T : Table} {w : Row → Nat → Int}

/-- The outcomes of the scans of grouped descriptors depend on the number of partitions only
through the scans of groups of those descriptors. -/
lemma scanOutcomes_congr {B : List (Descriptor × List Analyzer)} {e₁ e₂ : Engine}
    (h : ∀ shape ds, (∀ d ∈ ds, ∃ x ∈ B, d = x.1) →
      scanGroup e₁ shape ds = scanGroup e₂ shape ds) :
    scanOutcomes e₁ B = scanOutcomes e₂ B := by
  unfold scanOutcomes
  refine List.flatMap_congr fun ⟨shape, ds⟩ hx => ?_
  dsimp only
  rw [h shape ds fun d hd => ?_]
  -- a group of a shape holds descriptors of the map grouped
  rcases Ordered.mem_foldl_push_values (fun y : Descriptor × List Analyzer => y.1.shape)
      (fun y => y.1) B [] _ hx d hd with ⟨y, hy, -⟩ | ⟨y, hy, rfl⟩
  · simp at hy
  · exact ⟨y, hy, rfl⟩

/-- A run with the default options and no repository reaches the number of partitions only
through the scan groups of its analyzers' descriptors: where these agree, so do the runs. -/
theorem runAnalysis_congr_scans {k₁ k₂ : Nat} {analyzers : List Analyzer}
    (h : ∀ shape ds, (∀ d ∈ ds, ∃ a ∈ analyzers, d = a.descriptor) →
      scanGroup (scanPartitions T k₁) shape ds = scanGroup (scanPartitions T k₂) shape ds) :
    runAnalysis (m := Id) {} none k₁ T analyzers = runAnalysis (m := Id) {} none k₂ T analyzers := by
  have hout : scanOutcomes (scanPartitions T k₁) (groupByDescriptor T.schema (Ordered.keysOf analyzers)) =
      scanOutcomes (scanPartitions T k₂) (groupByDescriptor T.schema (Ordered.keysOf analyzers)) := by
    refine scanOutcomes_congr fun shape ds hds => h shape ds fun d hd => ?_
    -- a grouped descriptor is that of an analyzer that passes its preconditions
    obtain ⟨x, hx, rfl⟩ := hds d hd
    rcases Ordered.mem_foldl_push_keys (fun a : Analyzer => a.descriptor) (fun a => a) _ [] x hx
      with hx | ⟨a, ha, hkey⟩
    · simp at hx
    · exact ⟨a, Ordered.mem_keysOf (List.mem_of_mem_filter ha), hkey⟩
  simp only [runAnalysis, runAnalysisWith, reuseStored, priorStates, persist,
    AnalysisOptions.repositoryUse?]
  simp [hout]

/-- A run with the default options and no repository over a table whose numbers are whole and
whose analyzers' sums fit returns the same, every metric and every failure with its message,
however many partitions the table is cut into. -/
theorem runAnalysis_partitions_eq {analyzers : List Analyzer} (hw : T.WholeSums w analyzers)
    (k₁ k₂ : Nat) :
    runAnalysis (m := Id) {} none k₁ T analyzers = runAnalysis (m := Id) {} none k₂ T analyzers := by
  refine runAnalysis_congr_scans fun shape ds hds => ?_
  have hsums : ∀ d ∈ ds, d.computation.ExactSums T w := by
    intro d hd
    obtain ⟨a, ha, rfl⟩ := hds d hd
    exact hw.sums a ha
  rw [scanGroup_eq_scanWhole hw.cells k₁ shape hsums, scanGroup_eq_scanWhole hw.cells k₂ shape hsums]

end Partitions

/-- Two integer columns, one cell of the second null. -/
def pairsTable : Table :=
  ⟨⟨[{ name := "x", columnType := .integral }, { name := "y", columnType := .integral }]⟩,
    [[.int 1, .int 2], [.int (-2), .null], [.int 3, .int 5]]⟩

/-- Its numbers are whole, at most five, three of them to a column. -/
lemma pairsTable_wholeSums (analyzers : List Analyzer) :
    pairsTable.WholeSums (fun r j => (cellAt r j).asInt?.getD 0) analyzers := by
  have hcell : ∀ r ∈ pairsTable.rows, ∀ j, cellAt r j = .int 1 ∨ cellAt r j = .int 2 ∨
      cellAt r j = .int (-2) ∨ cellAt r j = .int 3 ∨ cellAt r j = .int 5 ∨ cellAt r j = .null := by
    intro r hr j
    simp only [pairsTable, List.mem_cons, List.not_mem_nil, or_false] at hr
    rcases hr with rfl | rfl | rfl <;> rcases j with _ | _ | j <;> simp [cellAt]
  have hb : ∀ r ∈ pairsTable.rows, ∀ j, ((cellAt r j).asInt?.getD 0).natAbs ≤ 5 := by
    intro r hr j
    rcases hcell r hr j with h | h | h | h | h | h <;> simp [h, Value.asInt?]
  refine ⟨wholeCells_of_integers ?_, fun a _ =>
    Computation.exactSums_of_bound hb (by decide) (by decide) _⟩
  intro r hr j y
  rcases hcell r hr j with h | h | h | h | h | h <;> simp [h]

/-- The mean of the first column, the correlation of the two and the sum of the second are the
same whether the table is scanned whole or cut in two. -/
theorem runAnalysis_partitions_pairsTable :
    pairsTable.WholeSums (fun r j => (cellAt r j).asInt?.getD 0)
        [{ statistic := .mean "x" }, { statistic := .correlation "x" "y" },
          { statistic := .sum "y" }] ∧
      runAnalysis (m := Id) {} none 1 pairsTable
          [{ statistic := .mean "x" }, { statistic := .correlation "x" "y" },
            { statistic := .sum "y" }] =
        runAnalysis (m := Id) {} none 2 pairsTable
          [{ statistic := .mean "x" }, { statistic := .correlation "x" "y" },
            { statistic := .sum "y" }] :=
  ⟨pairsTable_wholeSums _, runAnalysis_partitions_eq (pairsTable_wholeSums _) 1 2⟩

end DataQuality
