import DataQuality.Scan.Engine

/-!
# A scan plan answers every descriptor in its place

A scan plan keeps the accumulators of the descriptors that resolve one after the other and, apart
from them, one slot per descriptor for its failure.  Each partition is scanned into one aggregate
per accumulator; `ScanPlan.distribute` regroups these, partition by partition, into one list per
accumulator and hands the lists out, in order, to the slots without a failure.

Scanning a partition feeds every row to every accumulator at once, which is scanning the
partition with each accumulator alone (`ScanPlan.scan_eq`).  Regrouping the partitions' lists
transposes them (`foldl_pushEach`), and handing the lists out consumes one per slot that
resolved (`fillSlots_compiled`).  So the answer has one slot per descriptor, in request order:
the descriptor's failure, or its aggregate of each partition in partition order
(`ScanPlan.distribute_scan`), and the in-memory engine answers each descriptor as if it were
scanned alone (`scanPartitions_eq`).
-/

namespace DataQuality

/-- An accumulator resolves the probe of its descriptor's computation and starts from the empty
aggregate of that computation. -/
theorem Accumulator.compile_eq (index : List (String × Nat)) (d : Descriptor) :
    Accumulator.compile index d =
      (d.computation.probe index).map fun probe => ⟨probe, Aggregate.empty d.computation⟩ := by
  unfold Accumulator.compile
  cases d.computation.probe index <;> rfl

namespace ScanPlan

/-- Feeding every row to all the accumulators is scanning the rows with each accumulator on its
own. -/
theorem scan_eq (plan : ScanPlan) (rows : List Row) :
    plan.scan rows = plan.accumulators.map fun acc =>
      scanRows plan.index plan.filter acc.probe acc.state rows := by
  unfold scan
  generalize plan.accumulators = accs
  -- each row either passes the filter and advances every accumulator, or advances none
  induction rows generalizing accs with
  | nil => simp [scanRows]
  | cons row rows ih =>
    rw [List.foldl_cons, ih]
    simp only [scanRows, List.foldl_cons]
    split <;> simp_all [Accumulator.observe]

end ScanPlan

section Regroup

variable {β : Type}

/-- Appending one state per accumulator to one slot per accumulator. -/
theorem pushEach_map (accs : List β) (f : β → List Aggregate) (g : β → Aggregate) :
    pushEach (accs.map f) (accs.map g) = accs.map fun acc => f acc ++ [g acc] := by
  induction accs with
  | nil => rfl
  | cons acc accs ih => simp [pushEach, ih]

/-- Regrouping the aggregates of each partition, one per accumulator, gives each accumulator its
aggregates in partition order, after what its slot held. -/
theorem foldl_pushEach (accs : List β) (g : β → List Row → Aggregate) (pre : β → List Aggregate)
    (parts : List (List Row)) :
    (parts.map fun rows => accs.map (g · rows)).foldl pushEach (accs.map pre) =
      accs.map fun acc => pre acc ++ parts.map (g acc) := by
  induction parts generalizing pre with
  | nil => simp
  | cons rows parts ih =>
    rw [List.map_cons, List.foldl_cons, pushEach_map, ih]
    simp

/-- Handing out the lists of the accumulators that compiled, in order, to the slots without a
failure gives every outcome its own list. -/
theorem fillSlots_compiled (cs : List (Except ScanError β)) (F : β → List Aggregate) :
    fillSlots (cs.map rejection) ((cs.filterMap Except.toOption).map F) = cs.map (Except.map F) := by
  induction cs with
  | nil => rfl
  | cons c cs ih =>
    cases c with
    | error e =>
      rw [List.filterMap_cons_none rfl]
      simp [rejection, fillSlots, ih, Except.map]
    | ok b => simp [rejection, fillSlots, Except.toOption, ih, Except.map]

end Regroup

namespace ScanPlan

/-- A plan compiles its filter and then every descriptor against the index of the schema. -/
theorem compile_eq (schema : Schema) (request : ScanRequest) :
    compile schema request =
      (request.shape.filter.mapM (compilePredicate (RowView.index schema.names))).map fun filter =>
        ⟨RowView.index schema.names, filter,
          (request.descriptors.map (Accumulator.compile (RowView.index schema.names))).map rejection,
          (request.descriptors.map (Accumulator.compile (RowView.index schema.names))).filterMap
            Except.toOption⟩ := by
  unfold compile
  cases request.shape.filter with
  | none => rfl
  | some f =>
    simp only [Option.mapM_some]
    cases compilePredicate (RowView.index schema.names) f <;> rfl

/-- Distributing the scans of the partitions hands each accumulator's aggregates, in partition
order, to the slots without a failure. -/
theorem distribute_map_scan (plan : ScanPlan) (parts : List (List Row)) :
    plan.distribute (parts.map plan.scan) = fillSlots plan.rejections
      (plan.accumulators.map fun acc => parts.map (scanRows plan.index plan.filter acc.probe acc.state)) := by
  have hscan : parts.map plan.scan = parts.map fun rows =>
      plan.accumulators.map fun acc => scanRows plan.index plan.filter acc.probe acc.state rows :=
    List.map_congr_left fun rows _ => scan_eq plan rows
  rw [distribute, hscan, ← List.map_const', foldl_pushEach]
  simp only [List.nil_append]

/-- A plan that compiles reads the columns of the schema by their place in it. -/
theorem index_of_compile {schema : Schema} {request : ScanRequest} {plan : ScanPlan}
    (h : compile schema request = .ok plan) : plan.index = RowView.index schema.names := by
  rw [compile_eq] at h
  cases hf : request.shape.filter.mapM (compilePredicate (RowView.index schema.names)) with
  | error e => simp [hf, Except.map] at h
  | ok filter =>
    simp only [hf, Except.map, Except.ok.injEq] at h
    rw [← h]

/-- Distributing the scans of the partitions of a plan that compiled gives one slot per
descriptor, in request order: the descriptor's failure, or the aggregate its accumulator reaches
over each partition, in partition order. -/
theorem distribute_scan {schema : Schema} {request : ScanRequest} {plan : ScanPlan}
    (h : compile schema request = .ok plan) (parts : List (List Row)) :
    plan.distribute (parts.map plan.scan) = request.descriptors.map fun d =>
      (Accumulator.compile plan.index d).map fun acc =>
        parts.map (scanRows plan.index plan.filter acc.probe acc.state) := by
  rw [compile_eq] at h
  cases hf : request.shape.filter.mapM (compilePredicate (RowView.index schema.names)) with
  | error e => simp [hf, Except.map] at h
  | ok filter =>
    simp only [hf, Except.map, Except.ok.injEq] at h
    subst h
    rw [distribute_map_scan, fillSlots_compiled, List.map_map]
    rfl

/-- The slots of a scan follow the request: there is one per descriptor, the `i`-th holds the
failure of the `i`-th descriptor exactly when its accumulator does not resolve, and otherwise the
aggregate that accumulator reaches over each partition, in partition order. -/
theorem distribute_slots_in_request_order {schema : Schema} {request : ScanRequest}
    {plan : ScanPlan} (h : compile schema request = .ok plan) (parts : List (List Row)) :
    (plan.distribute (parts.map plan.scan)).length = request.descriptors.length ∧
    ∀ i (hi : i < request.descriptors.length),
      (∀ e, (plan.distribute (parts.map plan.scan))[i]? = some (.error e) ↔
        Accumulator.compile (RowView.index schema.names) request.descriptors[i] = .error e) ∧
      ∀ acc, Accumulator.compile (RowView.index schema.names) request.descriptors[i] = .ok acc →
        ∃ states, (plan.distribute (parts.map plan.scan))[i]? = some (.ok states) ∧
          states.length = parts.length ∧
          ∀ j (hj : j < parts.length), states[j]? = some (scanRows (RowView.index schema.names)
            plan.filter acc.probe (Aggregate.empty request.descriptors[i].computation) parts[j]) := by
  rw [distribute_scan h, index_of_compile h]
  refine ⟨List.length_map _, fun i hi => ?_⟩
  simp only [List.getElem?_map, List.getElem?_eq_getElem hi, Option.map_some]
  cases hc : Accumulator.compile (RowView.index schema.names) request.descriptors[i] with
  | error e => simp [Except.map]
  | ok acc =>
    -- the accumulator starts from the empty aggregate of its descriptor
    have hstate : acc.state = Aggregate.empty request.descriptors[i].computation := by
      rw [Accumulator.compile_eq] at hc
      cases hp : request.descriptors[i].computation.probe (RowView.index schema.names) with
      | error e => simp [hp, Except.map] at hc
      | ok probe =>
        simp only [hp, Except.map, Except.ok.injEq] at hc
        rw [← hc]
    refine ⟨fun e => by simp [Except.map], fun acc' hacc => ?_⟩
    cases hacc
    refine ⟨_, rfl, List.length_map _, fun j hj => ?_⟩
    simp [hstate, hj]

/-- Three descriptors against a schema without columns: the middle one names an unknown column
and takes its own slot, and the other two count the rows of each of the two partitions. -/
theorem distribute_slots_in_request_order_unknown_middle :
    ∃ plan, compile ⟨[]⟩ ⟨⟨.aggregation, none⟩,
        [⟨.rowCount, none⟩, ⟨.nonNullCount "b", none⟩, ⟨.rowCount, none⟩]⟩ = .ok plan ∧
      ((plan.distribute ([[[]], [[], []]].map plan.scan)).length = 3 ∧
      ∀ i (hi : i < 3),
        (∀ e, (plan.distribute ([[[]], [[], []]].map plan.scan))[i]? = some (.error e) ↔
          Accumulator.compile (RowView.index []) ([⟨.rowCount, none⟩, ⟨.nonNullCount "b", none⟩,
            ⟨.rowCount, none⟩] : List Descriptor)[i] = .error e) ∧
        ∀ acc, Accumulator.compile (RowView.index []) ([⟨.rowCount, none⟩,
            ⟨.nonNullCount "b", none⟩, ⟨.rowCount, none⟩] : List Descriptor)[i] = .ok acc →
          ∃ states, (plan.distribute ([[[]], [[], []]].map plan.scan))[i]? = some (.ok states) ∧
            states.length = 2 ∧
            ∀ j (hj : j < 2), states[j]? = some (scanRows (RowView.index []) plan.filter acc.probe
              (Aggregate.empty ([⟨.rowCount, none⟩, ⟨.nonNullCount "b", none⟩,
                ⟨.rowCount, none⟩] : List Descriptor)[i].computation) ([[[]], [[], []]] : List (List Row))[j])) :=
  ⟨_, rfl, @distribute_slots_in_request_order ⟨[]⟩ ⟨⟨.aggregation, none⟩,
    [⟨.rowCount, none⟩, ⟨.nonNullCount "b", none⟩, ⟨.rowCount, none⟩]⟩ _ rfl [[[]], [[], []]]⟩

example :
    (compile ⟨[]⟩ ⟨⟨.aggregation, none⟩,
        [⟨.rowCount, none⟩, ⟨.nonNullCount "b", none⟩, ⟨.rowCount, none⟩]⟩).map
      (fun plan => plan.distribute ([[[]], [[], []]].map plan.scan)) =
      .ok [.ok [.count 1, .count 2], .error (.unknownColumn "b"), .ok [.count 1, .count 2]] := rfl

end ScanPlan

/-- What a scan of partitions computes: the filter resolved, then for each descriptor its probe
resolved and its scan of each partition. -/
theorem scanPartitions_eq (table : Table) (n : Nat) (request : ScanRequest) :
    scanPartitions table n request =
      (request.shape.filter.mapM (compilePredicate (RowView.index table.schema.names))).map
        fun filter => request.descriptors.map fun d =>
          (d.computation.probe (RowView.index table.schema.names)).map fun probe =>
            (table.partitions (max n 1)).map
              (scanRows (RowView.index table.schema.names) filter probe (Aggregate.empty d.computation)) := by
  unfold scanPartitions
  rw [ScanPlan.compile_eq]
  cases hf : request.shape.filter.mapM (compilePredicate (RowView.index table.schema.names)) with
  | error e => rfl
  | ok filter =>
    simp only [Except.map, bind, Except.bind, pure, Except.pure, Except.ok.injEq]
    rw [ScanPlan.distribute_map_scan, fillSlots_compiled, List.map_map]
    -- each descriptor: its accumulator is its probe and the empty aggregate
    refine List.map_congr_left fun d _ => ?_
    simp only [Function.comp_apply, Accumulator.compile_eq]
    cases d.computation.probe (RowView.index table.schema.names) <;> rfl

end DataQuality
