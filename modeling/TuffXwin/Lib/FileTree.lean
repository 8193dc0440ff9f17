import Mathlib.Data.List.Infix
import Mathlib.Tactic.Common

/-! A tree of directories, regular files and symbolic links, and the kernel's walk along a path
of it. What lies behind a link is the environment's choice. A path is found in the tree itself
only where each of its names but the last one is that of a real directory. -/

namespace Lib

/-- What the name of a directory entry can be. -/
def IsFileName (name : List Char) : Prop :=
  name ≠ [] ∧ name ≠ ['.'] ∧ name ≠ ['.', '.'] ∧ '/' ∉ name ∧ '\x00' ∉ name

instance : DecidablePred IsFileName := fun name => by
  unfold IsFileName
  infer_instance

abbrev FileName := {name : List Char // IsFileName name}

inductive FileTree
  | regular (bytes : List UInt8)
  | directory (entry : FileName → Option FileTree)
  | symlink (target : List Char)

namespace FileTree

def isDirectory : FileTree → Bool
  | .directory _ => true
  | _ => false

def isSymlink : FileTree → Bool
  | .symlink _ => true
  | _ => false

def child (tree : FileTree) (name : List Char) : Option FileTree :=
  match tree with
  | .directory entry => if h : IsFileName name then entry ⟨name, h⟩ else none
  | _ => none

/-- What lies at the end of a path of real directories. -/
def get? (tree : FileTree) : List (List Char) → Option FileTree
  | [] => some tree
  | name :: rest => (tree.child name).bind fun below => below.get? rest

variable {tree node : FileTree} {name : List Char} {place rest : List (List Char)}

theorem isDirectory_of_child (h : (tree.child name).isSome) : tree.isDirectory = true := by
  cases tree with
  | directory => rfl
  | regular => cases h
  | symlink => cases h

theorem isFileName_of_child (h : (tree.child name).isSome) : IsFileName name := by
  unfold child at h
  split at h
  · split_ifs at h with hname
    · exact hname
    · cases h
  · cases h

theorem get?_append (tree : FileTree) (place rest : List (List Char)) :
    tree.get? (place ++ rest) = (tree.get? place).bind fun below => below.get? rest := by
  induction place generalizing tree with
  | nil => rfl
  | cons name place ih =>
    simp only [List.cons_append, get?, Option.bind_assoc, ih]

theorem get?_concat (tree : FileTree) (place : List (List Char)) (name : List Char) :
    tree.get? (place ++ [name]) = (tree.get? place).bind fun below => below.child name := by
  rw [get?_append]
  simp [get?]

/-- Every place above one of the tree is a real directory. -/
theorem isDirectory_above {names : List (List Char)} (h : (tree.get? place).isSome)
    (hnames : names <+: place) (hne : names ≠ place) :
    ∃ below, tree.get? names = some below ∧ below.isDirectory = true := by
  obtain ⟨rest, rfl⟩ := hnames
  cases rest with
  | nil => exact absurd (List.append_nil names).symm hne
  | cons name rest =>
    rw [get?_append] at h
    cases hbelow : tree.get? names with
    | none =>
      rw [hbelow] at h
      cases h
    | some below =>
      refine ⟨below, rfl, isDirectory_of_child (?_ : (below.child name).isSome)⟩
      rw [hbelow, Option.bind_some] at h
      simp only [get?] at h
      cases hchild : below.child name with
      | none =>
        rw [hchild] at h
        cases h
      | some _ => rfl

/-- No link lies at a place or on the way to it. -/
def Real (tree : FileTree) (place : List (List Char)) : Prop :=
  ∀ above, above <+: place → ∃ node, tree.get? above = some node ∧ node.isSymlink = false

theorem real_of_get? (h : tree.get? place = some node) (hlink : node.isSymlink = false) :
    tree.Real place := by
  intro above habove
  by_cases hplace : above = place
  · rw [hplace]
    exact ⟨node, h, hlink⟩
  · have hsome : (tree.get? place).isSome := by rw [h]; rfl
    obtain ⟨below, hbelow, hdirectory⟩ := isDirectory_above hsome habove hplace
    refine ⟨below, hbelow, ?_⟩
    cases below with
    | directory => rfl
    | regular => cases hdirectory
    | symlink => cases hdirectory

end FileTree

/-! The walk. `follow` says where a link leads, given its place and its target. -/

structure OpenFlags where
  directory : Bool := false
  noFollow : Bool := false
  deriving DecidableEq, Repr

structure FileSystem where
  tree : FileTree
  follow : List (List Char) → List Char → Option (List (List Char))

namespace FileSystem

variable (files : FileSystem)

/-- Links on the way are followed; whether the last one is, `noFollow` says. -/
def walk (noFollow : Bool) : List (List Char) → List (List Char) → Option (List (List Char))
  | start, [] => some start
  | start, part :: rest =>
    match files.tree.get? start with
    | some (.directory _) =>
      if part = [] ∨ part = ['.'] then walk noFollow start rest
      else if part = ['.', '.'] then walk noFollow start.dropLast rest
      else
        match files.tree.get? (start ++ [part]) with
        | none => none
        | some (.symlink target) =>
          if noFollow = true ∧ rest = [] then none
          else (files.follow (start ++ [part]) target).bind fun next => walk noFollow next rest
        | some _ => walk noFollow (start ++ [part]) rest
    | _ => none

/-- `openat`, for reading. An absolute path does not depend on the directory. -/
def openat (start : List (List Char)) (path : List Char) (flags : OpenFlags) :
    Option (List (List Char)) :=
  if path = [] then none
  else
    (files.walk flags.noFollow (if path.head? = some '/' then [] else start)
      (path.splitOn '/')).bind fun place =>
    match files.tree.get? place with
    | some (.symlink _) => none
    | some node => if flags.directory && !node.isDirectory then none else some place
    | none => none

variable {files} {start place : List (List Char)} {name path : List Char} {flags : OpenFlags}

/-- Whatever is opened is there, and it is no link. -/
theorem openat_node (h : files.openat start path flags = some place) :
    ∃ node, files.tree.get? place = some node ∧ node.isSymlink = false ∧
      (flags.directory = true → node.isDirectory = true) := by
  unfold openat at h
  split_ifs at h
  all_goals
    obtain ⟨reached, -, hreached⟩ := Option.bind_eq_some_iff.mp h
    split at hreached
    · cases hreached
    · rename_i node hlink hnode
      split_ifs at hreached with hflag
      injection hreached with hplace
      subst hplace
      refine ⟨node, hnode, ?_, ?_⟩
      · cases node with
        | symlink target => exact absurd rfl (hlink target)
        | regular => rfl
        | directory => rfl
      · simpa using hflag
    · cases hreached

/-- A single name that is not followed leads to the entry of the directory, or nowhere. -/
theorem openat_name (hname : IsFileName name) (hflags : flags.noFollow = true) :
    files.openat start name flags = some place ↔
      place = start ++ [name] ∧
        ∃ node, files.tree.get? (start ++ [name]) = some node ∧ node.isSymlink = false ∧
          (flags.directory = true → node.isDirectory = true) := by
  obtain ⟨hne, hdot, hparent, hslash, -⟩ := hname
  have hhead : name.head? ≠ some '/' := by
    intro h
    exact hslash (List.mem_of_head? h)
  have hparts : name.splitOn '/' = [name] := List.splitOn_eq_singleton hslash
  have hwalk : files.walk true start [name] =
      (files.tree.get? (start ++ [name])).bind fun node =>
        if node.isSymlink then none else some (start ++ [name]) := by
    unfold walk
    rw [FileTree.get?_concat]
    cases hstart : files.tree.get? start with
    | none => rfl
    | some directory =>
      cases directory with
      | regular => rfl
      | symlink => rfl
      | directory entry =>
        simp only [hne, hdot, hparent, or_self, if_false, Option.bind_some, true_and]
        cases hchild : (FileTree.directory entry).child name with
        | none => rfl
        | some node => cases node <;> simp [FileTree.isSymlink, walk]
  unfold openat
  rw [if_neg hne, if_neg hhead, hparts, hflags, hwalk]
  cases hnode : files.tree.get? (start ++ [name]) with
  | none => simp
  | some node =>
    cases hdirectory : flags.directory <;>
      cases node <;>
        simp [FileTree.isSymlink, FileTree.isDirectory, hnode, eq_comm (a := place)]

end FileSystem

end Lib
