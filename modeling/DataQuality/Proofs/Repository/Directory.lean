import Mathlib
import DataQuality.Repository.Directory
import DataQuality.Proofs.Files.Paths
import DataQuality.Proofs.Files.Disk
import DataQuality.Proofs.Run.Store

/-!
# A directory of entry files answers as the in-memory store

The repository kept in a directory writes each entry to a file named by the digest of its key, and
answers a range query by reading every file the directory lists.  Saved in turn into an empty
directory, entries are held so that the file of each name holds the last entry saved under that
name and the directory lists each name once (`HoldsSaves`, kept by every save:
`HoldsSaves.save`).  Such a directory answers as the in-memory store of the same saves: a load
finds the last entry saved with the key (`HoldsSaves.load`, `bind_lastSavedAt_fileName`), and a
range query, once sorted by key, gives what the store gives, because the names listed are the file
names of the keys of the store (`HoldsSaves.children_perm`) and sorting a permutation of a list
whose keys strictly ascend gives that list back (`mergeSort_eq_of_perm`).

Main statement: `diskRepository_refines_memory`.  It asks that the stored document of each saved
entry read back as the entry, and that distinct saved keys have distinct file names, as they do
unless their digests collide.
-/

namespace DataQuality

open Ordered

/-- Saves entries in turn, stopping at the first that fails. -/
def Repository.saveAll {m : Type → Type} [Monad m] (r : Repository m) :
    List Entry → m (Except RepositoryError Unit)
  | [] => return .ok ()
  | e :: es => do
    match ← r.save e with
    | .ok () => r.saveAll es
    | .error err => return .error err

/-- A step of a state computation whose run is known gives the rest its value and state. -/
lemma stateRun_bind_of_eq {σ α β : Type} {x : StateM σ α} {f : α → StateM σ β} {s s' : σ} {a : α}
    (h : x.run s = (a, s')) : (x >>= f).run s = (f a).run s' := by
  rw [StateT.run_bind, h]
  rfl

lemma Repository.saveAll_cons_of_ok {σ : Type} {r : Repository (StateM σ)} {e : Entry}
    {s s' : σ} (h : (r.save e).run s = (.ok (), s')) (es : List Entry) :
    (r.saveAll (e :: es)).run s = (r.saveAll es).run s' := by
  simp only [Repository.saveAll]
  rw [stateRun_bind_of_eq h]

/-- The repository kept in a directory of a disk that is the state. -/
abbrev diskRepository (root : String) : Repository (StateM Disk) :=
  directoryRepository Disk.stateFileSystem root

/-- The last of some saves whose file has a name. -/
def lastSavedAt (saves : List Entry) (name : String) : Option Entry :=
  (saves.filter (·.key.fileName = name)).getLast?

lemma lastSavedAt_append_singleton (saves : List Entry) (e : Entry) (name : String) :
    lastSavedAt (saves ++ [e]) name =
      if e.key.fileName = name then some e else lastSavedAt saves name := by
  unfold lastSavedAt
  by_cases h : e.key.fileName = name <;> simp [List.filter_append, h]

lemma lastSavedAt_eq_none_iff {saves : List Entry} {name : String} :
    lastSavedAt saves name = none ↔ ∀ e ∈ saves, e.key.fileName ≠ name := by
  simp [lastSavedAt]

lemma mem_of_lastSavedAt {saves : List Entry} {name : String} {e : Entry}
    (h : lastSavedAt saves name = some e) : e ∈ saves ∧ e.key.fileName = name := by
  simpa [lastSavedAt] using List.mem_of_getLast? h

/-! ## A directory that holds the saves made into it -/

/-- A directory holds some saves when it is there, with every directory on the way to it, the
file of each name holds the last entry saved under that name, and it lists each child once. -/
structure HoldsSaves (R : List String) (saves : List Entry) (d : Disk) : Prop where
  dirs : d.DirsTo R
  node : ∀ name, d.node? (R ++ [name]) =
    (lastSavedAt saves name).map fun e => .file (Json.pretty e.stored)
  nodup : (d.children R).Nodup

variable {R : List String} {saves : List Entry} {d : Disk}

/-- The children of a directory that holds some saves are the names of their files. -/
lemma HoldsSaves.mem_children (h : HoldsSaves R saves d) {name : String} :
    name ∈ d.children R ↔ ∃ e ∈ saves, e.key.fileName = name := by
  rw [Disk.mem_children_iff_isSome, h.node, Option.isSome_map]
  cases hlast : lastSavedAt saves name with
  | none => simpa using lastSavedAt_eq_none_iff.mp hlast
  | some e => simpa using ⟨e, mem_of_lastSavedAt hlast⟩

/-- A directory that lists nothing holds no saves. -/
lemma holdsSaves_nil (hdirs : d.DirsTo R) (hempty : d.readDir R = .ok []) : HoldsSaves R [] d := by
  have hnil := Disk.children_eq_nil_of_readDir hdirs hempty
  refine ⟨hdirs, fun name => ?_, by rw [hnil]; exact List.nodup_nil⟩
  -- nothing is listed one part below the directory, so no such path names anything
  have hnone : name ∉ d.children R := by
    rw [hnil]
    exact List.not_mem_nil
  rw [Disk.mem_children_iff_isSome, Option.not_isSome_iff_eq_none] at hnone
  rw [hnone]
  rfl

variable {root : String}

/-- Saving into a directory writes the stored document of the entry to the file of its key. -/
lemma save_diskRepository (hroot : root ≠ "") (hdirs : d.DirsTo (Path.parts root)) {e : Entry}
    (hnode : d.node? (Path.parts root ++ [e.key.fileName]) ≠ some .dir) :
    ((diskRepository root).save e).run d =
      (.ok (), d.put (Path.parts root ++ [e.key.fileName]) (.file (Json.pretty e.stored))) := by
  obtain ⟨hpart, hdots⟩ := e.key.isPart_fileName
  obtain ⟨dir, hparent, hdir, hdirparts⟩ := Path.parent?_join hroot hpart
  have hname := Path.fileName?_join hroot hpart hdots
  have hjoin := Path.parts_join hroot hpart
  have hempty : dir.isEmpty = false := by simpa using hdir
  simp only [diskRepository, directoryRepository, writeAtomic, hparent, hname, hempty,
    if_neg Bool.false_ne_true]
  -- the directory is there already, so only the file is written
  rw [stateRun_bind_of_eq (Disk.createDirAll_run_of_ok
    (by rw [hdirparts]; exact Disk.createDirAll_of_dirsTo hdirs))]
  simp only []
  rw [stateRun_bind_of_eq (Disk.writeText_run_of_ok
    (by rw [hjoin]; exact Disk.writeWith_child hdirs hnode _))]
  rfl

/-- A save into a directory that holds some saves succeeds, and the directory then holds the
saves with this one last. -/
lemma HoldsSaves.save (hroot : root ≠ "") (h : HoldsSaves (Path.parts root) saves d) (e : Entry) :
    ∃ d', ((diskRepository root).save e).run d = (.ok (), d') ∧
      HoldsSaves (Path.parts root) (saves ++ [e]) d' := by
  have hnode : d.node? (Path.parts root ++ [e.key.fileName]) ≠ some .dir := by
    rw [h.node]
    cases lastSavedAt saves e.key.fileName <;> simp
  refine ⟨_, save_diskRepository hroot h.dirs hnode, h.dirs.put_child _ _, fun name => ?_, ?_⟩
  · rw [Disk.node?_put _ (by simp), lastSavedAt_append_singleton]
    by_cases hname : e.key.fileName = name
    · subst hname
      simp
    · rw [if_neg (by simpa using Ne.symm hname), if_neg hname, h.node]
  · -- a new name is listed last; a name listed already is listed as it was
    cases hn : d.node? (Path.parts root ++ [e.key.fileName]) with
    | none =>
      have hnew : e.key.fileName ∉ d.children (Path.parts root) := by
        rw [Disk.mem_children_iff_isSome, hn]
        exact Bool.false_ne_true
      rw [Disk.children_put_child hn, ← List.concat_eq_append]
      exact h.nodup.concat hnew
    | some n =>
      have hlisted : d.nodes.any (·.1 == Path.parts root ++ [e.key.fileName]) = true := by
        rw [← Bool.not_eq_false, ← Disk.node?_eq_none_iff d (by simp), hn]
        exact Option.some_ne_none n
      rw [Disk.children_put_of_listed hlisted]
      exact h.nodup

/-- Saves into a directory that holds some saves all succeed, and the directory then holds them
after the others. -/
lemma HoldsSaves.saveAll (hroot : root ≠ "") (h : HoldsSaves (Path.parts root) saves d)
    (es : List Entry) :
    ∃ d', ((diskRepository root).saveAll es).run d = (.ok (), d') ∧
      HoldsSaves (Path.parts root) (saves ++ es) d' := by
  induction es generalizing saves d with
  | nil => exact ⟨d, rfl, by simpa using h⟩
  | cons e es ih =>
    obtain ⟨d₁, hsave, h₁⟩ := h.save hroot e
    obtain ⟨d', hrest, h'⟩ := ih h₁
    refine ⟨d', ?_, by simpa using h'⟩
    rw [Repository.saveAll_cons_of_ok hsave, hrest]

/-- The entry a query selects among the last saved under a name, projected on its analyzers. -/
def selectedAt (saves : List Entry) (q : RangeQuery) (name : String) : Option Entry :=
  (lastSavedAt saves name).bind fun e => if q.matches e.key then some (q.project e) else none

section Reads

variable (hroot : root ≠ "") (h : HoldsSaves (Path.parts root) saves d)
  (hround : ∀ e ∈ saves, ∀ path, Entry.readStored path (Json.pretty e.stored) = .ok e)
include hroot h hround

/-- Reading the file of a name gives the last entry saved under it. -/
lemma HoldsSaves.readEntryFile {name : String} {e : Entry} (hlast : lastSavedAt saves name = some e) :
    (readEntryFile Disk.stateFileSystem (Path.join root name)).run d = (.ok e, d) := by
  obtain ⟨he, rfl⟩ := mem_of_lastSavedAt hlast
  have hnode : d.node? (Path.parts root ++ [e.key.fileName]) =
      some (.file (Json.pretty e.stored)) := by
    rw [h.node, hlast]
    rfl
  unfold DataQuality.readEntryFile
  rw [stateRun_bind_of_eq Disk.readText_run, Path.parts_join hroot e.key.isPart_fileName.1,
    Disk.readText_child h.dirs hnode]
  simp only []
  rw [hround e he]
  rfl

/-- Loading a key gives the last entry saved under the name of its file, when that entry has the
key. -/
lemma HoldsSaves.load (k : ResultKey) :
    ((diskRepository root).load k).run d =
      (.ok ((lastSavedAt saves k.fileName).bind fun e => if e.key = k then some e else none), d) := by
  have hjoin := Path.parts_join hroot k.isPart_fileName.1
  simp only [diskRepository, directoryRepository]
  rw [stateRun_bind_of_eq Disk.pathExists_run, hjoin, h.node, Option.isSome_map]
  -- no file under the name loads nothing; the entry read from a file is kept when it has the key
  cases hlast : lastSavedAt saves k.fileName with
  | none => rfl
  | some e =>
    simp only [Option.isSome_some, Bool.not_true, Bool.false_eq_true, if_false]
    rw [stateRun_bind_of_eq (h.readEntryFile hroot hround hlast)]
    simp only [beq_iff_eq, Std.LawfulEqCmp.compare_eq_iff_eq]
    rfl

/-- Reading the children of the directory in some order reads, of each, the entry the query
selects among the last saved under its name. -/
lemma HoldsSaves.readEntries (q : RangeQuery) {names : List String}
    (hnames : ∀ name ∈ names, name ∈ d.children (Path.parts root)) :
    (readEntries Disk.stateFileSystem root q names).run d =
      (.ok (names.filterMap (selectedAt saves q)), d) := by
  induction names with
  | nil => rfl
  | cons name rest ih =>
    obtain ⟨e₀, he₀, rfl⟩ := h.mem_children.mp (hnames name List.mem_cons_self)
    obtain ⟨e, hlast⟩ := Option.ne_none_iff_exists'.mp
      fun hnone => lastSavedAt_eq_none_iff.mp hnone e₀ he₀ rfl
    have hrest := ih fun n hn => hnames n (List.mem_cons_of_mem _ hn)
    -- a child is the file name of a saved key, so it ends in `.json` and its file is read
    simp only [DataQuality.readEntries, e₀.key.extension?_fileName, bne_self_eq_false,
      Bool.false_eq_true, if_false]
    rw [stateRun_bind_of_eq (h.readEntryFile hroot hround hlast)]
    simp only []
    rw [stateRun_bind_of_eq hrest]
    simp only [List.filterMap_cons, selectedAt, hlast, Option.bind_some]
    split <;> rfl

/-- Loading a range reads the children of the directory in order of name and sorts what the query
selects among them by key. -/
lemma HoldsSaves.loadRange (q : RangeQuery) :
    ((diskRepository root).loadRange q).run d =
      (.ok ((((d.children (Path.parts root)).mergeSort fun a b => compare a b != .gt).filterMap
        (selectedAt saves q)).mergeSort fun a b => compare a.key b.key != .gt), d) := by
  simp only [diskRepository, directoryRepository]
  rw [stateRun_bind_of_eq Disk.readDir_run, Disk.readDir_of_dirsTo h.dirs]
  simp only []
  rw [stateRun_bind_of_eq (h.readEntries hroot hround q fun _ hn => List.mem_mergeSort.mp hn)]
  rfl

end Reads

/-! ## The in-memory store of the same saves -/

lemma saveAll_memoryRepository (store : MemoryStore) (es : List Entry) :
    (memoryRepository.saveAll es).run store = (.ok (), es.foldl MemoryStore.save store) := by
  induction es generalizing store with
  | nil => rfl
  | cons e es ih =>
    rw [Repository.saveAll_cons_of_ok rfl, ih]
    rfl

lemma sorted_foldl_save (saves : List Entry) : Sorted (saves.foldl MemoryStore.save []) :=
  sorted_foldl_put Entry.key (fun e => e) List.Pairwise.nil saves

/-- A store after saves holds under each key the last entry saved with it. -/
lemma get?_foldl_save (saves : List Entry) (k : ResultKey) :
    get? k (saves.foldl MemoryStore.save []) = (saves.filter (·.key = k)).getLast? := by
  have hfind : ∀ l : List Entry, get? k (l.map fun e => (e.key, e)) = l.find? (·.key = k) := by
    intro l
    induction l with
    | nil => rfl
    | cons e l ih =>
      rw [List.map_cons, get?_cons, ih, List.find?_cons]
      by_cases hk : e.key = k
      · simp [hk, Std.ReflOrd.compare_self]
      · have hne : compare k e.key ≠ .eq := fun heq => hk (Std.LawfulEqCmp.compare_eq_iff_eq.mp heq).symm
        simp [hk, hne]
  rw [show saves.foldl MemoryStore.save [] = saves.foldl (fun acc e => put e.key e acc) [] from rfl,
    get?_foldl_put Entry.key (fun e => e), get?_nil, Option.or_none, List.getLast?_filter, hfind]

lemma mem_of_getLast?_filter_key {saves : List Entry} {k : ResultKey} {e : Entry}
    (h : (saves.filter (·.key = k)).getLast? = some e) : e ∈ saves ∧ e.key = k := by
  simpa using List.mem_of_getLast? h

/-- A store after saves holds an entry under a key exactly when it is the last saved with it. -/
lemma mem_foldl_save_iff {saves : List Entry} {k : ResultKey} {e : Entry} :
    (k, e) ∈ saves.foldl MemoryStore.save [] ↔ (saves.filter (·.key = k)).getLast? = some e := by
  rw [← get?_foldl_save]
  constructor
  · exact get?_of_mem (sorted_foldl_save saves)
  · intro hget
    obtain ⟨k', hk, hmem⟩ := exists_mem_of_get? hget
    rwa [Std.LawfulEqCmp.compare_eq_iff_eq.mp hk]

lemma RangeQuery.key_project (q : RangeQuery) (e : Entry) : (q.project e).key = e.key := by
  unfold RangeQuery.project
  split <;> rfl

/-- The store of some saves answers a query with entries whose keys strictly ascend. -/
lemma pairwise_loadRange_foldl_save (saves : List Entry) (q : RangeQuery) :
    ((saves.foldl MemoryStore.save []).loadRange q).Pairwise fun a b => compare a.key b.key = .lt := by
  unfold MemoryStore.loadRange
  rw [List.pairwise_map]
  refine ((sorted_foldl_save saves).filter _).imp_of_mem fun {p p'} hp hp' hlt => ?_
  obtain ⟨-, hkey⟩ := mem_of_getLast?_filter_key (mem_foldl_save_iff.mp (List.mem_of_mem_filter hp))
  obtain ⟨-, hkey'⟩ :=
    mem_of_getLast?_filter_key (mem_foldl_save_iff.mp (List.mem_of_mem_filter hp'))
  rwa [RangeQuery.key_project, RangeQuery.key_project, hkey, hkey']

/-- The store of some saves answers a query with the last entries saved with the keys it selects,
projected on its analyzers. -/
lemma mem_loadRange_foldl_save {saves : List Entry} {q : RangeQuery} {x : Entry} :
    x ∈ (saves.foldl MemoryStore.save []).loadRange q ↔
      ∃ e, (saves.filter (·.key = e.key)).getLast? = some e ∧ q.matches e.key ∧ x = q.project e := by
  simp only [MemoryStore.loadRange, List.mem_map, List.mem_filter, Prod.exists]
  constructor
  · rintro ⟨k, v, ⟨hp, hmatch⟩, rfl⟩
    have hlast := mem_foldl_save_iff.mp hp
    obtain ⟨-, rfl⟩ := mem_of_getLast?_filter_key hlast
    exact ⟨v, hlast, hmatch, rfl⟩
  · rintro ⟨e, hlast, hmatch, rfl⟩
    exact ⟨e.key, e, ⟨mem_foldl_save_iff.mpr hlast, hmatch⟩, rfl⟩

/-! ## The directory against the store -/

/-- Sorting by key a list of the elements of one whose keys strictly ascend gives that list. -/
lemma mergeSort_eq_of_perm {α κ : Type} [Ord κ] [Std.TransOrd κ] (key : α → κ) {l l' : List α}
    (hperm : l.Perm l') (hsorted : l'.Pairwise fun a b => compare (key a) (key b) = .lt) :
    l.mergeSort (fun a b => compare (key a) (key b) != .gt) = l' := by
  have hle : ∀ a b, (compare (key a) (key b) != .gt) = (compare (key a) (key b)).isLE := by
    intro a b
    cases compare (key a) (key b) <;> rfl
  have hnot : ∀ {a b}, compare (key a) (key b) = .lt → (compare (key b) (key a)).isLE = false := by
    intro a b hlt
    rw [Std.OrientedCmp.gt_of_lt hlt]
    rfl
  -- two elements of the strictly ascending list, each not above the other, are one element
  have hanti : l'.Pairwise fun a b =>
      (compare (key a) (key b)).isLE → (compare (key b) (key a)).isLE → a = b :=
    hsorted.imp fun hlt _ hba => absurd hba (by rw [hnot hlt]; exact Bool.false_ne_true)
  have hanti' : l'.Pairwise (flip fun a b =>
      (compare (key a) (key b)).isLE → (compare (key b) (key a)).isLE → a = b) :=
    hsorted.imp fun hlt hba _ => absurd hba (by rw [hnot hlt]; exact Bool.false_ne_true)
  have hsort := (List.mergeSort_perm l fun a b => compare (key a) (key b) != .gt).trans hperm
  refine List.Perm.eq_of_pairwise (fun a b ha hb hab hba => ?_)
    (List.pairwise_mergeSort (fun a b c hab hbc => ?_) (fun a b => ?_) l)
    (hsorted.imp fun hlt => by rw [hle, hlt]; rfl) hsort
  · rw [hle] at hab hba
    exact hanti.forall_of_forall_of_flip (fun _ _ _ _ => rfl) hanti' (hsort.subset ha) hb hab hba
  · rw [hle] at hab hbc ⊢
    exact Std.TransCmp.isLE_trans hab hbc
  · rw [hle, hle]
    cases hab : compare (key a) (key b)
    · rfl
    · rfl
    · rw [Std.OrientedCmp.lt_of_gt hab]
      rfl

section Names

variable (hinj : ∀ e ∈ saves, ∀ e' ∈ saves, e.key.fileName = e'.key.fileName → e.key = e'.key)
include hinj

/-- When distinct saved keys have distinct file names, the last entry saved under the name of a
key is the last saved with the key. -/
lemma lastSavedAt_fileName {k : ResultKey} {e : Entry}
    (h : (saves.filter (·.key = k)).getLast? = some e) : lastSavedAt saves k.fileName = some e := by
  obtain ⟨he, rfl⟩ := mem_of_getLast?_filter_key h
  unfold lastSavedAt
  rw [← h]
  congr 1
  refine List.filter_congr fun x hx => ?_
  simp only [decide_eq_decide]
  exact ⟨hinj x hx e he, fun hkey => by rw [hkey]⟩

/-- The entry a directory loads under a key is the last saved with the key. -/
lemma bind_lastSavedAt_fileName (k : ResultKey) :
    ((lastSavedAt saves k.fileName).bind fun e => if e.key = k then some e else none) =
      (saves.filter (·.key = k)).getLast? := by
  cases hlast : (saves.filter (·.key = k)).getLast? with
  | some e =>
    rw [lastSavedAt_fileName hinj hlast, Option.bind_some,
      if_pos (mem_of_getLast?_filter_key hlast).2]
  | none =>
    -- no save has the key, so the last under its name, if any, has another
    cases hname : lastSavedAt saves k.fileName with
    | none => rfl
    | some e =>
      rw [Option.bind_some, if_neg]
      intro hkey
      have hmem : e ∈ saves.filter (·.key = k) :=
        List.mem_filter.mpr ⟨(mem_of_lastSavedAt hname).1, by simpa using hkey⟩
      rw [List.getLast?_eq_none_iff] at hlast
      simp [hlast] at hmem

/-- A directory that holds some saves lists the file names of the keys of the store of the same
saves. -/
lemma HoldsSaves.children_perm (h : HoldsSaves R saves d) :
    (d.children R).Perm ((saves.foldl MemoryStore.save []).map (·.1.fileName)) := by
  have hnodup : (saves.foldl MemoryStore.save []).Nodup :=
    (sorted_foldl_save saves).imp fun {x y} hlt heq => by
      rw [heq, Std.ReflOrd.compare_self] at hlt
      cases hlt
  refine (List.perm_ext_iff_of_nodup h.nodup (hnodup.map_on ?_)).mpr fun name => ?_
  · -- distinct stored keys have distinct file names
    rintro ⟨k, v⟩ hp ⟨k', v'⟩ hp' hname
    have hlast := mem_foldl_save_iff.mp hp
    have hlast' := mem_foldl_save_iff.mp hp'
    obtain ⟨hv, rfl⟩ := mem_of_getLast?_filter_key hlast
    obtain ⟨hv', rfl⟩ := mem_of_getLast?_filter_key hlast'
    have hkey := hinj v hv v' hv' hname
    rw [← hkey, hlast] at hlast'
    rw [hkey, Option.some.inj hlast']
  · rw [h.mem_children, List.mem_map]
    constructor
    · rintro ⟨e, he, rfl⟩
      obtain ⟨e', hlast⟩ : ∃ e', (saves.filter (·.key = e.key)).getLast? = some e' := by
        apply Option.ne_none_iff_exists'.mp
        rw [Ne, List.getLast?_eq_none_iff, List.filter_eq_nil_iff]
        exact fun hnone => hnone e he (by simp)
      exact ⟨(e.key, e'), mem_foldl_save_iff.mpr hlast, rfl⟩
    · rintro ⟨⟨k, v⟩, hp, rfl⟩
      obtain ⟨hv, rfl⟩ := mem_of_getLast?_filter_key (mem_foldl_save_iff.mp hp)
      exact ⟨v, hv, rfl⟩

/-- Selecting by file name among the keys of the store of some saves is what the store answers
to the query. -/
lemma filterMap_selectedAt (q : RangeQuery) :
    ((saves.foldl MemoryStore.save []).map (·.1.fileName)).filterMap (selectedAt saves q) =
      (saves.foldl MemoryStore.save []).loadRange q := by
  rw [List.filterMap_map, MemoryStore.loadRange, ← List.filterMap_eq_map', List.filterMap_filter]
  refine List.filterMap_congr ?_
  rintro ⟨k, v⟩ hp
  have hlast := mem_foldl_save_iff.mp hp
  obtain ⟨-, rfl⟩ := mem_of_getLast?_filter_key hlast
  simp [selectedAt, lastSavedAt_fileName hinj hlast]

/-- What a directory that holds some saves answers to a query, sorted by key, is what the store of
the same saves answers. -/
lemma HoldsSaves.sorted_selected (h : HoldsSaves R saves d) (q : RangeQuery) :
    (((d.children R).mergeSort fun a b => compare a b != .gt).filterMap
      (selectedAt saves q)).mergeSort (fun a b => compare a.key b.key != .gt) =
      (saves.foldl MemoryStore.save []).loadRange q := by
  apply mergeSort_eq_of_perm Entry.key _ (pairwise_loadRange_foldl_save saves q)
  rw [← filterMap_selectedAt hinj q]
  exact ((List.mergeSort_perm _ _).trans (h.children_perm hinj)).filterMap _

end Names

/-- Saves made in turn into an empty directory and into an empty in-memory store all succeed, and
afterwards both answer every load and every range query alike, and change nothing: a load gives the
last entry saved with the key, and a range query the last entries saved with the keys it selects,
projected on its analyzers, each key once and in strictly ascending order.  The stored documents of
the entries must read back as the entries, and distinct saved keys must have distinct file names. -/
theorem diskRepository_refines_memory {root : String} (hroot : root ≠ "") {disk : Disk}
    (hdirs : disk.DirsTo (Path.parts root)) (hempty : disk.readDir (Path.parts root) = .ok [])
    {saves : List Entry}
    (hround : ∀ e ∈ saves, ∀ path, Entry.readStored path (Json.pretty e.stored) = .ok e)
    (hinj : ∀ e ∈ saves, ∀ e' ∈ saves, e.key.fileName = e'.key.fileName → e.key = e'.key) :
    ∃ disk', ((diskRepository root).saveAll saves).run disk = (.ok (), disk') ∧
      (memoryRepository.saveAll saves).run [] = (.ok (), saves.foldl MemoryStore.save []) ∧
      (∀ k, ((diskRepository root).load k).run disk' =
          (.ok ((saves.filter (·.key = k)).getLast?), disk') ∧
        (memoryRepository.load k).run (saves.foldl MemoryStore.save []) =
          (.ok ((saves.filter (·.key = k)).getLast?), saves.foldl MemoryStore.save [])) ∧
      ∀ q, ∃ found, ((diskRepository root).loadRange q).run disk' = (.ok found, disk') ∧
        (memoryRepository.loadRange q).run (saves.foldl MemoryStore.save []) =
          (.ok found, saves.foldl MemoryStore.save []) ∧
        found.Pairwise (fun a b => compare a.key b.key = .lt) ∧
        ∀ x, x ∈ found ↔ ∃ e, (saves.filter (·.key = e.key)).getLast? = some e ∧
          q.matches e.key ∧ x = q.project e := by
  obtain ⟨disk', hsaves, hholds⟩ := (holdsSaves_nil hdirs hempty).saveAll hroot saves
  rw [List.nil_append] at hholds
  refine ⟨disk', hsaves, saveAll_memoryRepository [] saves, fun k => ⟨?_, ?_⟩, fun q => ?_⟩
  · rw [hholds.load hroot hround k, bind_lastSavedAt_fileName hinj k]
  · show (Except.ok (get? k (saves.foldl MemoryStore.save [])), _) = _
    rw [get?_foldl_save]
  · refine ⟨_, ?_, rfl, pairwise_loadRange_foldl_save saves q, fun x => mem_loadRange_foldl_save⟩
    rw [hholds.loadRange hroot hround q, hholds.sorted_selected hinj q]

set_option maxRecDepth 20000 in
/-- One entry saved into a directory `repo`, alone on its disk. -/
theorem diskRepository_refines_memory_one_save :
    Disk.DirsTo ⟨[(["repo"], .dir)]⟩ (Path.parts "repo") ∧
      (∀ path, Entry.readStored path (Json.pretty ({ key := { date := 0 } } : Entry).stored) =
        .ok { key := { date := 0 } }) ∧
      ∃ disk', ((diskRepository "repo").saveAll [{ key := { date := 0 } }]).run
        ⟨[(["repo"], .dir)]⟩ = (.ok (), disk') := by
  have hparts : Path.parts "repo" = ["repo"] := by decide
  have hdirs : Disk.DirsTo ⟨[(["repo"], .dir)]⟩ (Path.parts "repo") := by
    rw [hparts]
    intro i hi
    rw [List.length_singleton] at hi
    interval_cases i <;> rfl
  -- the stored document is printed and read back by evaluation
  have hround : ∀ path, Entry.readStored path
      (Json.pretty ({ key := { date := 0 } } : Entry).stored) = .ok { key := { date := 0 } } :=
    fun path => by with_unfolding_all rfl
  have hempty : Disk.readDir ⟨[(["repo"], .dir)]⟩ (Path.parts "repo") = .ok [] := by
    have hchildren : Disk.children ⟨[(["repo"], .dir)]⟩ ["repo"] = [] := rfl
    rw [Disk.readDir_of_dirsTo hdirs, hparts, hchildren, List.mergeSort_nil]
  obtain ⟨disk', hsaves, -⟩ := diskRepository_refines_memory (by decide) hdirs hempty
    (fun e he path => by rw [List.mem_singleton.mp he]; exact hround path)
    (fun e he e' he' _ => by rw [List.mem_singleton.mp he, List.mem_singleton.mp he'])
  exact ⟨hdirs, hround, disk', hsaves⟩

end DataQuality
