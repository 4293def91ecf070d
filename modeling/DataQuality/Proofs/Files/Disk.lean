import Mathlib
import DataQuality.Files.Disk

/-!
# Disks in memory as finite maps of paths

A disk is read through `node?`, the first node listed under a path.  Putting a node at a path
replaces it there and leaves every other path as it was (`Disk.node?_put`), whether the path was
listed or not.

Below a directory whose every ancestor is a directory (`Disk.DirsTo`), the file operations do what
a file system does: the way to any child is clear (`Disk.reach_child`), creating the directory
again changes nothing (`Disk.createDirAll_of_dirsTo`), writing a child that is not a directory puts
the file (`Disk.writeWith_child`), reading a file child gives its text (`Disk.readText_child`), and
listing the directory gives the last parts of its listed children (`Disk.readDir_of_dirsTo`).
-/

namespace DataQuality

namespace Disk

variable (d : Disk)

lemma node?_of_ne_nil {p : List String} (hp : p ≠ []) :
    d.node? p = (d.nodes.find? (·.1 == p)).map (·.2) := by
  simp [node?, hp]

/-- Replacing the node of the entries at one path keeps the path of every entry, so a lookup finds
the entry it found before, with its node replaced. -/
lemma find?_map_replace (p : List String) (n : Node) (q : List String) :
    (d.nodes.map fun x => if x.1 == p then (x.1, n) else (x.1, x.2)).find? (·.1 == q) =
      (d.nodes.find? (·.1 == q)).map fun x => if x.1 == p then (x.1, n) else (x.1, x.2) := by
  rw [List.find?_map]
  congr 1
  exact List.find?_congr fun z _ => by by_cases hz : z.1 = p <;> simp [hz]

/-- A put replaces the node at its path and leaves every other path as it was. -/
lemma node?_put {p : List String} (hp : p ≠ []) (n : Node) (q : List String) :
    (d.put p n).node? q = if q = p then some n else d.node? q := by
  by_cases hq : q = []
  · subst hq
    rw [if_neg (Ne.symm hp)]
    rfl
  rw [node?_of_ne_nil _ hq, node?_of_ne_nil _ hq]
  unfold put
  split_ifs with hany hqp hqp
  · -- the path was listed: the entry found for it is replaced
    subst hqp
    obtain ⟨x, hx, hxp⟩ := List.any_eq_true.mp hany
    obtain ⟨y, hy⟩ := Option.isSome_iff_exists.mp
      (List.find?_isSome.mpr ⟨x, hx, hxp⟩ : (d.nodes.find? (·.1 == q)).isSome)
    have hyq : y.1 = q := by simpa using List.find?_some hy
    rw [find?_map_replace, hy]
    simp [hyq]
  · rw [find?_map_replace]
    cases hy : d.nodes.find? (·.1 == q) with
    | none => rfl
    | some y =>
      have hyq : y.1 = q := by simpa using List.find?_some hy
      simp [hyq, hqp]
  · -- the path was not listed: the node is added last
    subst hqp
    have hnone : d.nodes.find? (·.1 == q) = none :=
      List.find?_eq_none.mpr fun x hx hxq => hany (List.any_eq_true.mpr ⟨x, hx, hxq⟩)
    simp [List.find?_append, hnone]
  · have hlast : [(p, n)].find? (·.1 == q) = none := by simp [Ne.symm hqp]
    simp [List.find?_append, hlast]

/-- A node is listed under a path other than the root exactly when the path names something. -/
lemma node?_eq_none_iff {p : List String} (hp : p ≠ []) :
    d.node? p = none ↔ (d.nodes.any (·.1 == p)) = false := by
  rw [node?_of_ne_nil _ hp, Option.map_eq_none_iff, List.find?_eq_none, Bool.eq_false_iff,
    Ne, List.any_eq_true]
  simp only [beq_iff_eq, not_exists, not_and]

/-! ## Below a directory -/

/-- Every directory on the way to a path, and the path itself, is a directory. -/
def DirsTo (R : List String) : Prop := ∀ i ≤ R.length, d.node? (R.take i) = some .dir

variable {d}

/-- A check that succeeds at every step of a list succeeds. -/
lemma forM_eq_ok {α ε : Type} {f : α → Except ε Unit} :
    ∀ l : List α, (∀ a ∈ l, f a = .ok ()) → l.forM f = .ok ()
  | [], _ => rfl
  | a :: l, h => by
    simp only [List.forM, h a List.mem_cons_self]
    exact forM_eq_ok l fun b hb => h b (List.mem_cons_of_mem _ hb)

lemma reach_of_dirsTo {p : List String} (h : d.DirsTo p.dropLast) : d.reach p = .ok () := by
  unfold reach
  refine forM_eq_ok _ fun i hi => ?_
  rw [h (i + 1) (List.mem_range.mp hi)]

lemma DirsTo.dropLast {R : List String} (h : d.DirsTo R) : d.DirsTo R.dropLast := by
  intro i hi
  have hi' : i ≤ R.length - 1 := by simpa using hi
  rw [List.dropLast_eq_take, List.take_take, Nat.min_eq_left hi']
  exact h i (hi'.trans (Nat.sub_le _ _))

/-- The way to a child of a directory is clear. -/
lemma reach_child {R : List String} (h : d.DirsTo R) (name : String) :
    d.reach (R ++ [name]) = .ok () :=
  reach_of_dirsTo (by rwa [List.dropLast_concat])

lemma node?_of_dirsTo {R : List String} (h : d.DirsTo R) : d.node? R = some .dir := by
  simpa using h R.length le_rfl

/-- Creating a directory that is there, with every directory on the way, changes nothing. -/
lemma createDirAll_of_dirsTo {R : List String} (h : d.DirsTo R) : d.createDirAll R = .ok d := by
  unfold createDirAll
  cases R with
  | nil => rfl
  | cons r rs =>
    -- making the directory again is refused as existing, and the directory is there
    have hmake : d.makeDir (r :: rs) = .error .alreadyExists := by
      simp only [makeDir, reach_of_dirsTo h.dropLast, node?_of_dirsTo h]
      rfl
    simp only [List.length_cons, createDirAllWith, hmake, isDir, node?_of_dirsTo h]
    rfl

/-- Writing a child of a directory that is not a directory puts the file there. -/
lemma writeWith_child {R : List String} (h : d.DirsTo R) {name : String}
    (hnode : d.node? (R ++ [name]) ≠ some .dir) (text : String) :
    d.writeWith (fun _ => text) (R ++ [name]) = .ok (d.put (R ++ [name]) (.file text)) := by
  unfold writeWith
  rw [reach_child h]
  cases hn : d.node? (R ++ [name]) with
  | none => rfl
  | some n =>
    cases n with
    | dir => exact absurd hn hnode
    | file t => rfl

/-- Reading a file child of a directory gives its text. -/
lemma readText_child {R : List String} (h : d.DirsTo R) {name text : String}
    (hnode : d.node? (R ++ [name]) = some (.file text)) :
    d.readText (R ++ [name]) = .ok text := by
  unfold readText
  rw [reach_child h, hnode]
  rfl

variable (d)

/-- The last parts of the listed children of a directory, in the order they are listed. -/
def children (R : List String) : List String :=
  d.nodes.filterMap fun x =>
    if x.1.length == R.length + 1 && R.isPrefixOf x.1 then x.1.getLast? else none

variable {d}

/-- Listing a directory gives the names of its listed children, in order of name. -/
lemma readDir_of_dirsTo {R : List String} (h : d.DirsTo R) :
    d.readDir R = .ok ((d.children R).mergeSort fun a b => compare a b != .gt) := by
  unfold readDir
  rw [reach_of_dirsTo h.dropLast, node?_of_dirsTo h]
  rfl

/-- The children of a directory are the last parts of the paths one part below it. -/
lemma mem_children {R : List String} {name : String} :
    name ∈ d.children R ↔ ∃ n, (R ++ [name], n) ∈ d.nodes := by
  unfold children
  rw [List.mem_filterMap]
  constructor
  · rintro ⟨x, hx, hname⟩
    split_ifs at hname with hchild
    simp only [Bool.and_eq_true, beq_iff_eq, List.isPrefixOf_iff_prefix] at hchild
    obtain ⟨⟨t, ht⟩, hlen⟩ := hchild.symm
    -- a path one part below the directory is the directory and one name
    obtain ⟨a, rfl⟩ : ∃ a, t = [a] := by
      rw [← ht, List.length_append] at hlen
      exact List.length_eq_one_iff.mp (by omega)
    rw [← ht, List.getLast?_concat, Option.some.injEq] at hname
    subst hname
    exact ⟨x.2, by rw [ht]; exact hx⟩
  · rintro ⟨n, hn⟩
    exact ⟨(R ++ [name], n), hn, by simp⟩

/-- Replacing a listed node keeps the children of every directory. -/
lemma children_put_of_listed {p : List String} (hlisted : d.nodes.any (·.1 == p) = true)
    (n : Node) (R : List String) : (d.put p n).children R = d.children R := by
  simp only [put, hlisted, if_true, children, List.filterMap_map]
  congr 1
  funext x
  by_cases hx : x.1 = p <;> simp [hx]

/-- Putting a new child of a directory adds its name last. -/
lemma children_put_child {R : List String} {name : String} (hnone : d.node? (R ++ [name]) = none)
    (n : Node) : (d.put (R ++ [name]) n).children R = d.children R ++ [name] := by
  have hlisted := (node?_eq_none_iff d (by simp)).mp hnone
  simp only [put, hlisted, Bool.false_eq_true, if_false, children, List.filterMap_append]
  simp

/-- A name is a child of a directory exactly when the path one part below names something. -/
lemma mem_children_iff_isSome {R : List String} {name : String} :
    name ∈ d.children R ↔ (d.node? (R ++ [name])).isSome := by
  rw [mem_children, Option.isSome_iff_ne_none, Ne, node?_eq_none_iff d (by simp),
    Bool.not_eq_false, List.any_eq_true]
  constructor
  · rintro ⟨n, hn⟩
    exact ⟨_, hn, by simp⟩
  · rintro ⟨x, hx, hxp⟩
    rw [beq_iff_eq] at hxp
    exact ⟨x.2, by rw [← hxp]; exact hx⟩

/-- A directory that lists nothing has no children. -/
lemma children_eq_nil_of_readDir {R : List String} (h : d.DirsTo R) (hempty : d.readDir R = .ok []) :
    d.children R = [] := by
  rw [readDir_of_dirsTo h, Except.ok.injEq] at hempty
  have hperm := List.mergeSort_perm (d.children R) fun a b => compare a b != .gt
  rw [hempty] at hperm
  exact hperm.symm.eq_nil

/-- Putting a node below a directory keeps every directory on the way to it. -/
lemma DirsTo.put_child {R : List String} (h : d.DirsTo R) (name : String) (n : Node) :
    (d.put (R ++ [name]) n).DirsTo R := by
  intro i hi
  rw [node?_put d (show R ++ [name] ≠ [] by simp), if_neg, h i hi]
  intro heq
  have hlen := congrArg List.length heq
  simp only [List.length_take, List.length_append, List.length_singleton] at hlen
  omega

/-! ## The file operations of a disk kept as the state -/

section FileSystem

variable {d d' : Disk} {path text : String}

/-- The file operations on the disk a state keeps. -/
abbrev stateFileSystem : FileSystem (StateM Disk) := fileSystem get set

lemma readText_run : (stateFileSystem.readText path).run d = (d.readText (Path.parts path), d) :=
  rfl

lemma readDir_run : (stateFileSystem.readDir path).run d = (d.readDir (Path.parts path), d) :=
  rfl

lemma pathExists_run :
    (stateFileSystem.pathExists path).run d = ((d.node? (Path.parts path)).isSome, d) :=
  rfl

lemma createDirAll_run_of_ok (h : d.createDirAll (Path.parts path) = .ok d') :
    (stateFileSystem.createDirAll path).run d = (.ok (), d') := by
  simp only [stateFileSystem, fileSystem, StateT.run_bind, StateT.run_get, pure_bind]
  rw [h]
  rfl

lemma writeText_run_of_ok (h : d.writeWith (fun _ => text) (Path.parts path) = .ok d') :
    (stateFileSystem.writeText path text).run d = (.ok (), d') := by
  simp only [stateFileSystem, fileSystem, StateT.run_bind, StateT.run_get, pure_bind]
  rw [h]
  rfl

end FileSystem

end Disk

end DataQuality
