import TuffXwin.Common.Ipc

/-! Names and places of the files that the services leave in the runtime directory. The name of
a session artifact holds letters, digits, dots, underscores and hyphens, whatever it is made
of, so that it names an entry of the directory itself. -/

namespace TuffXwin

variable {c : Char}

abbrev PathBuf := List Char

def maxArtifactFilenameBytes : Nat := 128

def isArtifactChar (c : Char) : Bool :=
  c.isAlphanum || c = '.' || c = '_' || c = '-'

/-- The replaced characters are single bytes, so that the cut counts characters. -/
def sanitizeName (fallback name : List Char) : List Char :=
  let sanitized := name.map fun c => if isArtifactChar c then c else '_'
  let sanitized := if sanitized = [] then fallback else sanitized
  let sanitized := if sanitized = ['.'] ∨ sanitized = ['.', '.'] then '_' :: sanitized
    else sanitized
  sanitized.take maxArtifactFilenameBytes

def sanitizeArtifactFilename (name : List Char) : List Char :=
  sanitizeName "artifact".toList name

def sanitizeSessionInstanceId (id : List Char) : List Char :=
  sanitizeName "default".toList id

/-- The last component of `session_artifact_path`. -/
def sessionArtifactName (sessionInstanceId artifactName : List Char) : List Char :=
  "session-".toList ++ sanitizeSessionInstanceId sessionInstanceId ++ '-' ::
    sanitizeArtifactFilename artifactName ++ ".json".toList

theorem sanitizeName_chars {fallback name : List Char} (hfallback : fallback.all isArtifactChar)
    (h : c ∈ sanitizeName fallback name) : isArtifactChar c = true := by
  have hmapped : ∀ d ∈ name.map (fun c => if isArtifactChar c then c else '_'),
      isArtifactChar d = true := by
    intro d hd
    obtain ⟨e, -, rfl⟩ := List.mem_map.mp hd
    split_ifs with he
    · exact he
    · decide
  have hchosen : ∀ d ∈ (if name.map (fun c => if isArtifactChar c then c else '_') = [] then
      fallback else name.map fun c => if isArtifactChar c then c else '_'),
      isArtifactChar d = true := by
    split_ifs
    · exact List.all_eq_true.mp hfallback
    · exact hmapped
  have hc := List.mem_of_mem_take h
  split_ifs at hc hchosen
  all_goals
    first
    | exact hchosen c hc
    | rcases List.mem_cons.mp hc with rfl | hc
      · decide
      · exact hchosen c hc

theorem sanitizeArtifactFilename_chars {name : List Char} (h : c ∈ sanitizeArtifactFilename name) :
    isArtifactChar c = true := by
  have hfallback : "artifact".toList.all isArtifactChar = true := by decide +kernel
  exact sanitizeName_chars hfallback h

theorem sanitizeSessionInstanceId_chars {id : List Char} (h : c ∈ sanitizeSessionInstanceId id) :
    isArtifactChar c = true := by
  have hfallback : "default".toList.all isArtifactChar = true := by decide +kernel
  exact sanitizeName_chars hfallback h

theorem sessionArtifactName_chars {sessionInstanceId artifactName : List Char}
    (h : c ∈ sessionArtifactName sessionInstanceId artifactName) : isArtifactChar c = true := by
  have hsession : "session-".toList.all isArtifactChar = true := by decide +kernel
  have hjson : ".json".toList.all isArtifactChar = true := by decide +kernel
  unfold sessionArtifactName at h
  rw [List.append_assoc, List.append_assoc, List.mem_append, List.mem_append] at h
  rcases h with h | h | h
  · exact List.all_eq_true.mp hsession c h
  · exact sanitizeSessionInstanceId_chars h
  · rw [List.cons_append, List.mem_cons, List.mem_append] at h
    rcases h with rfl | h | h
    · decide
    · exact sanitizeArtifactFilename_chars h
    · exact List.all_eq_true.mp hjson c h

theorem sessionArtifactName_cons (sessionInstanceId artifactName : List Char) :
    ∃ tail, sessionArtifactName sessionInstanceId artifactName = 's' :: tail :=
  ⟨['e', 's', 's', 'i', 'o', 'n', '-'] ++ sanitizeSessionInstanceId sessionInstanceId ++ '-' ::
    sanitizeArtifactFilename artifactName ++ ".json".toList, rfl⟩

/-! The components of a path, as the standard library reads them. -/

inductive Component
  | rootDir | curDir | parentDir
  | normal (name : List Char)
  deriving DecidableEq, Repr

def component : List Char → Option Component
  | [] | ['.'] => none
  | ['.', '.'] => some .parentDir
  | name => some (.normal name)

def components (path : PathBuf) : List Component :=
  let parts := path.splitOn '/'
  let rest := parts.filterMap component
  if path.head? = some '/' then .rootDir :: rest
  else if parts.head? = some ['.'] then .curDir :: rest
  else rest

def isAbsolute (path : PathBuf) : Bool := path.head? = some '/'

theorem components_name {head : Char} {tail : List Char} (hdot : head ≠ '.')
    (hslash : '/' ∉ head :: tail) : components (head :: tail) = [.normal (head :: tail)] := by
  have hparts : (head :: tail).splitOn '/' = [head :: tail] := List.splitOn_eq_singleton hslash
  have hcomponent : component (head :: tail) = some (.normal (head :: tail)) := by
    unfold component
    split
    · contradiction
    · rename_i heq
      injection heq with hhead
      exact absurd hhead hdot
    · rename_i heq
      injection heq with hhead
      exact absurd hhead hdot
    · rfl
  have hroot : head ≠ '/' := fun hcontra => hslash (hcontra ▸ List.mem_cons_self)
  unfold components
  rw [hparts]
  simp [hcomponent, hroot, hdot]

/-- A session artifact lies in the runtime directory itself. -/
theorem components_sessionArtifactName (sessionInstanceId artifactName : List Char) :
    components (sessionArtifactName sessionInstanceId artifactName) =
      [.normal (sessionArtifactName sessionInstanceId artifactName)] := by
  obtain ⟨tail, htail⟩ := sessionArtifactName_cons sessionInstanceId artifactName
  rw [htail]
  refine components_name (by decide) fun h => ?_
  rw [← htail] at h
  have hslash : isArtifactChar '/' = true := sessionArtifactName_chars h
  exact absurd hslash (by decide)

/-! What the disk holds: under the canonical path of a directory, its files and the
directories below it. -/

inductive Entry
  | file (bytes : List UInt8)
  | directory
  deriving DecidableEq

structure Disk where
  canonicalize : PathBuf → Option PathBuf := fun _ => none
  entry : PathBuf → List (List Char) → Option Entry := fun _ _ => none

namespace Disk

variable (disk : Disk)

/-- `fs::write` of an entry of a directory. -/
def write (directory : PathBuf) (name : List Char) (bytes : List UInt8) :
    Except String Disk :=
  match disk.canonicalize directory with
  | none => .error "No such file or directory (os error 2)"
  | some root =>
    if disk.entry root [name] = some .directory then .error "Is a directory (os error 21)"
    else
      .ok { disk with
        entry := fun root' names =>
          if root' = root ∧ names = [name] then some (.file bytes) else disk.entry root' names }

def file (directory : PathBuf) (name : List Char) : Option (List UInt8) :=
  match (disk.canonicalize directory).bind fun root => disk.entry root [name] with
  | some (.file bytes) => some bytes
  | _ => none

variable {disk} {disk' : Disk} {directory : PathBuf} {name : List Char} {bytes : List UInt8}

theorem write_ok (h : disk.write directory name bytes = .ok disk') :
    disk'.canonicalize = disk.canonicalize ∧
      ∃ root, disk.canonicalize directory = some root ∧
        disk'.entry root [name] = some (.file bytes) := by
  unfold write at h
  split at h
  · cases h
  · rename_i root hroot
    split_ifs at h
    injection h with h
    subst h
    exact ⟨rfl, root, hroot, by simp⟩

theorem write_file (h : disk.write directory name bytes = .ok disk') :
    disk'.file directory name = some bytes := by
  obtain ⟨hcanonicalize, root, hroot, hentry⟩ := write_ok h
  unfold file
  rw [hcanonicalize, hroot]
  simp only [Option.bind_some, hentry]

end Disk

end TuffXwin
