import TuffXwin.Lib.FileTree
import TuffXwin.Lib.Outcome
import TuffXwin.Screenshot.Artifact

/-! The reader of capture artifacts on a file system with links. The path comes from displayd;
it is checked as text, and then descended into with one `openat` for each component. The state
of a run is the list of the places that it opened. -/

namespace TuffXwin

variable {path : List Char}
variable {part : List Char} {height width : Nat} {rest : List (List Char)} {α : Type}

def Component.asOsStr : Component → List Char
  | .rootDir => ['/']
  | .curDir => ['.']
  | .parentDir => ['.', '.']
  | .normal name => name

theorem component_eq_normal {name : List Char} (h : component part = some (.normal name)) :
    part = name ∧ name ≠ [] ∧ name ≠ ['.'] ∧ name ≠ ['.', '.'] := by
  unfold component at h
  split at h
  · cases h
  · cases h
  · cases h
  · rename_i hempty hdot hparent
    injection h with h
    injection h with h
    subst h
    exact ⟨rfl, hempty, hdot, hparent⟩

theorem not_mem_of_mem_splitOn (h : part ∈ path.splitOn '/') : '/' ∉ part := by
  induction path generalizing part with
  | nil =>
    rw [List.splitOn_nil, List.mem_singleton] at h
    simp [h]
  | cons c path ih =>
    rw [List.splitOn_cons_eq_if_modifyHead] at h
    split_ifs at h with hc
    · rcases List.mem_cons.mp h with rfl | h
      · simp
      · exact ih h
    · obtain ⟨first, parts, hparts⟩ := List.exists_cons_of_ne_nil (List.splitOn_ne_nil '/' path)
      rw [hparts, List.modifyHead_cons] at h
      have hfirst : '/' ∉ first := ih (by simp [hparts])
      rcases List.mem_cons.mp h with rfl | h
      · have hne : '/' ≠ c := fun heq => hc (by simp [← heq])
        simp [hne, hfirst]
      · exact ih (by simp [hparts, h])

/-- The normal components of a path are names of entries, but for a NUL byte. -/
theorem isFileName_of_component {path : PathBuf} {name : List Char}
    (h : Component.normal name ∈ components path) (hnul : '\x00' ∉ name) : Lib.IsFileName name := by
  have hrest : Component.normal name ∈ (path.splitOn '/').filterMap component := by
    simp only [components] at h
    split_ifs at h
    · exact (List.mem_cons.mp h).resolve_left (by simp)
    · exact (List.mem_cons.mp h).resolve_left (by simp)
    · exact h
  obtain ⟨part, hpart, hcomponent⟩ := List.mem_filterMap.mp hrest
  obtain ⟨rfl, hempty, hdot, hparent⟩ := component_eq_normal hcomponent
  exact ⟨hempty, hdot, hparent, not_mem_of_mem_splitOn hpart, hnul⟩

namespace Screenshot
open Lib

variable {flags : OpenFlags} {node : FileTree}

abbrev Place := List (List Char)

variable {start : Place} {E : String → List Place → Prop}

/-- Programs that open files. -/
abbrev Opening := EStateM String (List Place)

def orElseBail {α : Type} : Except String α → Opening α
  | .ok a => pure a
  | .error e => throw e

namespace FileCaptureArtifactReader

variable (reader : FileCaptureArtifactReader) (files : FileSystem)

/-- `libc::openat` of a C string, with what its caller says of a failure. -/
def openFd (start : Place) (path : List Char) (flags : OpenFlags) (context : String) :
    Opening Place :=
  if '\x00' ∈ path then throw context
  else
    match files.openat start path flags with
    | none => throw context
    | some place => do
      modify (· ++ [place])
      pure place

def openDirectoryFd : Opening Place :=
  openFd files [] reader.allowedRoot.path { directory := true, noFollow := true }
    ("failed to open artifact root " ++ .ofList reader.allowedRoot.path)

def openArtifactDirFd (label : List Char) (dirFd : Place) (component : Component) :
    Opening Place :=
  openFd files dirFd component.asOsStr { directory := true, noFollow := true }
    ("failed to descend into artifact directory component " ++ .ofList component.asOsStr ++
      " for " ++ .ofList label)

def openArtifactFileFd (label : List Char) (dirFd : Place) (component : Component) :
    Opening Place :=
  openFd files dirFd component.asOsStr { noFollow := true }
    ("failed to open displayd artifact " ++ .ofList label ++ " under " ++
      .ofList reader.allowedRoot.path)

/-- The loop over the components of `label`. -/
def descend (label : List Char) : Place → List Component → Opening Place
  | dirFd, [] => pure dirFd
  | dirFd, [component] => openArtifactFileFd reader files label dirFd component
  | dirFd, component :: rest => do
    let next ← openArtifactDirFd files label dirFd component
    descend label next rest

def openArtifactFd (artifactPath : PathBuf) : Opening Place := do
  orElseBail (validateRelativeArtifactPath artifactPath)
  let dirFd ← openDirectoryFd reader files
  descend reader files artifactPath dirFd (components artifactPath)

def readExpectedRgbaBytes (file : List UInt8) (expectedLen : Nat) :
    Except String (List UInt8) :=
  if file.length ≠ expectedLen then
    .error ("displayd artifact size mismatch after read: expected " ++ toString expectedLen ++
      ", got " ++ toString file.length)
  else .ok file

def readFrameAt (artifact : DisplaydCaptureArtifact) : Opening CapturedFrame := do
  orElseBail (validateDisplaydArtifactFormat artifact.format)
  if artifact.width = 0 ∨ artifact.height = 0 then
    throw "displayd artifact dimensions must be non-zero"
  else
    let expectedLen ← orElseBail (expectedRgbaByteLen artifact.width artifact.height)
    orElseBail (validateRelativeArtifactPath artifact.artifactPath)
    let fd ← openArtifactFd reader files artifact.artifactPath
    match files.tree.get? fd with
    | some (.regular file) =>
      if file.length ≠ expectedLen then
        throw ("displayd artifact size mismatch: expected " ++ toString expectedLen ++ ", got " ++
          toString file.length)
      else
        let rgba ← orElseBail (readExpectedRgbaBytes file expectedLen)
        orElseBail (validateRgbaBufferSize artifact.width artifact.height rgba.length)
        orElseBail (CapturedFrame.new artifact.width artifact.height rgba)
    | _ => throw "displayd artifact path must point to a file"

/-- Where the allowed root is. -/
def rootPlace : Option Place :=
  match openDirectoryFd reader files [] with
  | .ok root _ => some root
  | .error _ _ => none

/-- What a run of the reader has opened, however it ended. -/
def openedBy {α : Type} : EStateM.Result String (List Place) α → List Place
  | .ok _ opened => opened
  | .error _ opened => opened

variable {reader files} {root dirFd place : Place} {names passed : List (List Char)}
  {opened opened' : List Place} {artifactPath : PathBuf} {artifact : DisplaydCaptureArtifact}
  {frame : CapturedFrame}

/-- A place on the way along `names`, with no link before it. -/
def OnTheWay (files : FileSystem) (root : Place) (names : List (List Char)) (place : Place) :
    Prop :=
  ∃ passed, passed <+: names ∧ place = root ++ passed ∧ files.tree.Real place

/-- All parts are names when a test that only names pass holds of all of them. -/
theorem all_normal {isNormal : Component → Bool}
    (hnormal : ∀ part, isNormal part = true ↔ ∃ name, part = .normal name)
    {parts : List Component} :
    parts.all isNormal = true ↔ ∃ names : List (List Char), parts = names.map .normal := by
  induction parts with
  | nil => simp
  | cons part parts ih =>
    rw [List.all_cons, Bool.and_eq_true, ih, hnormal]
    constructor
    · rintro ⟨⟨name, rfl⟩, names, rfl⟩
      exact ⟨name :: names, rfl⟩
    · rintro ⟨names, hnames⟩
      cases names with
      | nil => cases hnames
      | cons name names =>
        rw [List.map_cons] at hnames
        injection hnames with hpart hparts
        exact ⟨⟨name, hpart⟩, names, hparts⟩

theorem validateRelativeArtifactPath_ok :
    validateRelativeArtifactPath artifactPath = .ok () ↔
      artifactPath ≠ [] ∧ isAbsolute artifactPath = false ∧
        ∃ names : List (List Char), components artifactPath = names.map .normal := by
  unfold validateRelativeArtifactPath
  rw [← all_normal fun part => ?_]
  · by_cases hempty : artifactPath = []
    · simp [hempty]
    · cases isAbsolute artifactPath with
      | true => simp [hempty]
      | false =>
        simp only [hempty, if_false, Bool.false_eq_true, ne_eq, not_false_iff, true_and]
        split_ifs with hall
        · exact iff_of_true rfl hall
        · exact iff_of_false (fun h => by cases h) hall
  · cases part <;> simp

theorem expectedRgbaByteLen_ok {expected : Nat} :
    expectedRgbaByteLen width height = .ok expected ↔
      4 * width * height ≤ maxScreenshotArtifactBytes ∧ expected = 4 * width * height := by
  have hu64 : u64Max = 18446744073709551615 := rfl
  have hmax : maxScreenshotArtifactBytes = 268435456 := rfl
  have hbytes : 4 * width * height = width * height * 4 := by rw [Nat.mul_assoc, Nat.mul_comm]
  unfold expectedRgbaByteLen
  rw [hbytes]
  generalize width * height = pixels
  by_cases hpixels : pixels ≤ u64Max
  · rw [usizeChecked_eq_some.mpr ⟨hpixels, rfl⟩, Option.bind_some]
    by_cases hsize : pixels * 4 ≤ u64Max
    · rw [usizeChecked_eq_some.mpr ⟨hsize, rfl⟩]
      by_cases hlarge : pixels * 4 > maxScreenshotArtifactBytes
      · simp only [if_pos hlarge]
        constructor
        · intro h
          cases h
        · omega
      · simp only [if_neg hlarge, Except.ok.injEq]
        omega
    · simp only [usizeChecked, if_neg hsize]
      constructor
      · intro h
        cases h
      · omega
  · simp only [usizeChecked, if_neg hpixels, Option.bind_none]
    constructor
    · intro h
      cases h
    · omega

theorem validateDisplaydArtifactFormat_ok {format : String} :
    validateDisplaydArtifactFormat format = .ok () ↔
      format = displaydScreenshotFormatRgba8888 := by
  have hblank : isBlank displaydScreenshotFormatRgba8888 = false := by decide +kernel
  unfold validateDisplaydArtifactFormat
  by_cases hformat : format = displaydScreenshotFormatRgba8888
  · simp [hformat, hblank]
  · cases isBlank format <;> simp [hformat]

/-- The frame is what was read, once the size is right. -/
theorem capturedFrame_new {rgba : List UInt8} (hwidth : width ≠ 0) (hheight : height ≠ 0)
    (hsize : 4 * width * height ≤ maxScreenshotArtifactBytes)
    (hlen : rgba.length = 4 * width * height) :
    validateRgbaBufferSize width height rgba.length = .ok () ∧
      CapturedFrame.new width height rgba = .ok ⟨width, height, rgba⟩ := by
  have hu32 : u32Max = 4294967295 := rfl
  have hmax : maxScreenshotArtifactBytes = 268435456 := rfl
  have hbytes : 4 * width * height = width * height * 4 := by rw [Nat.mul_assoc, Nat.mul_comm]
  have hzero : ¬ (width = 0 ∨ height = 0) := by omega
  have hvalid : validateRgbaBufferSize width height rgba.length = .ok () := by
    unfold validateRgbaBufferSize
    rw [if_neg hzero, u32Checked_eq_some.mpr ⟨by omega, rfl⟩, Option.bind_some,
      u32Checked_eq_some.mpr ⟨by omega, rfl⟩, hlen, hbytes]
    exact if_neg fun h => h rfl
  refine ⟨hvalid, ?_⟩
  unfold CapturedFrame.new
  rw [hvalid]
  rfl

/-! What is opened. -/

theorem ends_openFd {context : String} {Q : Place → List Place → Prop} :
    Ends E (openFd files start path flags context) opened Q ↔
      (('\x00' ∈ path ∨ files.openat start path flags = none) → E context opened) ∧
        ∀ place, '\x00' ∉ path → files.openat start path flags = some place →
          Q place (opened ++ [place]) := by
  unfold openFd
  by_cases hnul : '\x00' ∈ path
  · simp [hnul]
  · cases hopen : files.openat start path flags with
    | none => simp [hnul]
    | some place => simp only [hnul, if_false, ends_bind, ends_modify, ends_pure]; simp

theorem openFd_some (context : String) (hnul : '\x00' ∉ path)
    (hopen : files.openat start path flags = some place) :
    openFd files start path flags context opened = .ok place (opened ++ [place]) := by
  unfold openFd
  rw [if_neg hnul, hopen]
  rfl

theorem isDirectory_rootPlace (h : reader.rootPlace files = some root) :
    ∃ node, files.tree.get? root = some node ∧ node.isSymlink = false ∧
      node.isDirectory = true := by
  have hends : Ends (fun _ _ => True) (openDirectoryFd reader files) [] fun root _ =>
      ∃ node, files.tree.get? root = some node ∧ node.isSymlink = false ∧
        node.isDirectory = true := by
    unfold openDirectoryFd
    rw [ends_openFd]
    refine ⟨fun _ => trivial, fun place _ hopen => ?_⟩
    obtain ⟨node, hnode, hlink, hdirectory⟩ := FileSystem.openat_node hopen
    exact ⟨node, hnode, hlink, hdirectory rfl⟩
  unfold rootPlace at h
  split at h
  · rename_i root' log hrun
    injection h with h
    rw [← h]
    exact hends.ok hrun
  · cases h

/-- One component after the other, and no place that is not on the way. -/
theorem ends_descend (reader : FileCaptureArtifactReader) (label : List Char)
    (hnames : ∀ name ∈ rest, '\x00' ∉ name → IsFileName name)
    (hopened : ∀ place ∈ opened, OnTheWay files root (passed ++ rest) place) :
    Ends (fun _ opened => ∀ place ∈ opened, OnTheWay files root (passed ++ rest) place)
      (descend reader files label (root ++ passed) (rest.map .normal)) opened
      fun place opened => (∀ place ∈ opened, OnTheWay files root (passed ++ rest) place) ∧
        place = root ++ (passed ++ rest) := by
  induction rest generalizing passed opened with
  | nil => exact ⟨hopened, by rw [List.append_nil]⟩
  | cons name rest ih =>
    have hshift : passed ++ name :: rest = passed ++ [name] ++ rest := by simp
    -- the place that a successful `openat` of the next name opens
    have hnext : ∀ flags : OpenFlags, flags.noFollow = true → ∀ place, '\x00' ∉ name →
        files.openat (root ++ passed) name flags = some place →
        place = root ++ (passed ++ [name]) ∧
          ∀ place' ∈ opened ++ [place], OnTheWay files root (passed ++ name :: rest) place' := by
      intro flags hflags place hnul hopen
      obtain ⟨rfl, node, hnode, hlink, -⟩ := (FileSystem.openat_name
        (hnames name List.mem_cons_self hnul) hflags).mp hopen
      rw [List.append_assoc] at hnode ⊢
      refine ⟨rfl, fun place' hplace' => ?_⟩
      rcases List.mem_append.mp hplace' with hold | hnew
      · exact hopened place' hold
      · rw [List.mem_singleton.mp hnew, hshift]
        exact ⟨passed ++ [name], List.prefix_append _ _, rfl, FileTree.real_of_get? hnode hlink⟩
    cases rest with
    | nil =>
      simp only [List.map_cons, List.map_nil, descend, openArtifactFileFd, ends_openFd,
        Component.asOsStr]
      refine ⟨fun _ => hopened, fun place hnul hopen => ?_⟩
      obtain ⟨hplace, hall⟩ := hnext _ rfl place hnul hopen
      exact ⟨hall, hplace⟩
    | cons second rest =>
      simp only [List.map_cons, descend, openArtifactDirFd, ends_bind, ends_openFd,
        Component.asOsStr]
      refine ⟨fun _ => hopened, fun place hnul hopen => ?_⟩
      obtain ⟨rfl, hall⟩ := hnext _ rfl place hnul hopen
      rw [hshift] at hall ⊢
      exact ih (fun name' hname' => hnames name' (List.mem_cons_of_mem _ hname')) hall

theorem isFileName_of_get? {tree : FileTree} (h : tree.get? names = some node) :
    ∀ name ∈ names, IsFileName name := by
  induction names generalizing tree with
  | nil => simp
  | cons first names ih =>
    obtain ⟨below, hbelow, hrest⟩ := Option.bind_eq_some_iff.mp h
    intro name hname
    rcases List.mem_cons.mp hname with rfl | hname
    · have hchild : (tree.child name).isSome := by rw [hbelow]; rfl
      exact FileTree.isFileName_of_child hchild
    · exact ih hrest name hname

/-- Whatever lies below real directories is reached. -/
theorem descend_reaches (reader : FileCaptureArtifactReader) (label : List Char)
    (opened : List Place) (hdir : ∃ below, files.tree.get? dirFd = some below)
    (hnode : files.tree.get? (dirFd ++ rest) = some node) (hlink : node.isSymlink = false) :
    ∃ opened', descend reader files label dirFd (rest.map .normal) opened =
      .ok (dirFd ++ rest) opened' := by
  induction rest generalizing dirFd opened with
  | nil => exact ⟨opened, by simp [descend]; rfl⟩
  | cons name rest ih =>
    have hshift : dirFd ++ name :: rest = dirFd ++ [name] ++ rest := by simp
    obtain ⟨below, hbelow⟩ := hdir
    have hnames : IsFileName name := by
      rw [FileTree.get?_append, hbelow] at hnode
      exact isFileName_of_get? hnode name List.mem_cons_self
    have hnul : '\x00' ∉ name := hnames.2.2.2.2
    have hreal := FileTree.real_of_get? hnode hlink
    cases rest with
    | nil =>
      have hopen : files.openat dirFd name { noFollow := true } = some (dirFd ++ [name]) :=
        (FileSystem.openat_name hnames rfl).mpr ⟨rfl, node, hnode, hlink, fun h => by cases h⟩
      exact ⟨_, openFd_some _ hnul hopen⟩
    | cons second rest =>
      rw [hshift] at hnode ⊢
      have hsome : (files.tree.get? (dirFd ++ [name] ++ second :: rest)).isSome := by
        rw [hnode]; rfl
      obtain ⟨next, hnext, hdirectory⟩ := FileTree.isDirectory_above hsome
        (List.prefix_append (dirFd ++ [name]) (second :: rest)) (by simp)
      have hnotLink : next.isSymlink = false := by
        cases next with
        | directory => rfl
        | regular => cases hdirectory
        | symlink => cases hdirectory
      have hopen : files.openat dirFd name { directory := true, noFollow := true } =
          some (dirFd ++ [name]) :=
        (FileSystem.openat_name hnames rfl).mpr ⟨rfl, next, hnext, hnotLink, fun _ => hdirectory⟩
      have hstep : openArtifactDirFd files label dirFd (.normal name) opened =
          .ok (dirFd ++ [name]) (opened ++ [dirFd ++ [name]]) := openFd_some _ hnul hopen
      obtain ⟨opened', hrest⟩ := ih (opened ++ [dirFd ++ [name]]) ⟨next, hnext⟩ hnode
      refine ⟨opened', ?_⟩
      change (openArtifactDirFd files label dirFd (.normal name) >>= fun next =>
        descend reader files label next ((second :: rest).map .normal)) opened = _
      rw [bind_of_ok hstep]
      exact hrest

theorem ends_orElseBail {result : Except String α} {Q : α → List Place → Prop} :
    Ends E (orElseBail result) opened Q ↔
      (∀ e, result = .error e → E e opened) ∧ ∀ a, result = .ok a → Q a opened := by
  cases result with
  | ok a => simp [orElseBail]
  | error e => simp [orElseBail]

theorem orElseBail_bind {β : Type} (a : α) (f : α → Opening β) :
    (orElseBail (.ok a) >>= f) = f a := rfl

/-- What reading an artifact may open. -/
def MayOpen (reader : FileCaptureArtifactReader) (files : FileSystem) (artifactPath : PathBuf)
    (place : Place) : Prop :=
  ∃ root names, reader.rootPlace files = some root ∧
    components artifactPath = names.map .normal ∧ OnTheWay files root names place

/-- The artifact is a picture of its size, in a file of the root that no link leads to. -/
structure Shows (reader : FileCaptureArtifactReader) (files : FileSystem)
    (artifact : DisplaydCaptureArtifact) (frame : CapturedFrame) : Prop where
  format : artifact.format = displaydScreenshotFormatRgba8888
  width : artifact.width ≠ 0
  height : artifact.height ≠ 0
  size : 4 * artifact.width * artifact.height ≤ maxScreenshotArtifactBytes
  nonempty : artifact.artifactPath ≠ []
  relative : isAbsolute artifact.artifactPath = false
  file : ∃ root names rgba, reader.rootPlace files = some root ∧
    components artifact.artifactPath = names.map .normal ∧
    files.tree.get? (root ++ names) = some (.regular rgba) ∧
    rgba.length = 4 * artifact.width * artifact.height ∧
    frame = ⟨artifact.width, artifact.height, rgba⟩

theorem ends_openArtifactFd : Ends
    (fun _ opened => ∀ place ∈ opened, reader.MayOpen files artifactPath place)
    (openArtifactFd reader files artifactPath) []
    fun fd opened => (∀ place ∈ opened, reader.MayOpen files artifactPath place) ∧
      ∃ root names, reader.rootPlace files = some root ∧
        components artifactPath = names.map .normal ∧ fd = root ++ names := by
  unfold openArtifactFd
  rw [ends_bind, ends_orElseBail]
  refine ⟨fun _ _ => by simp, fun _ hvalid => ?_⟩
  obtain ⟨-, -, names, hnames⟩ := validateRelativeArtifactPath_ok.mp hvalid
  have hopen : Ends (fun _ opened => opened = []) (openDirectoryFd reader files) []
      fun root opened => opened = [root] := by
    unfold openDirectoryFd
    rw [ends_openFd]
    exact ⟨fun _ => rfl, fun _ _ _ => rfl⟩
  refine ((hopen.run.mono_error fun _ opened hnone => ?_).then fun root opened hroot => ?_)
  · simp [hnone]
  · obtain ⟨hrun, rfl⟩ := hroot
    have hplace : reader.rootPlace files = some root := by
      unfold rootPlace
      rw [hrun]
    obtain ⟨directory, hdirectory, hlink, -⟩ := isDirectory_rootPlace hplace
    have hfirst : ∀ place ∈ [root], OnTheWay files root ([] ++ names) place := by
      intro place hmem
      rw [List.mem_singleton.mp hmem]
      exact ⟨[], List.nil_prefix, (List.append_nil root).symm,
        FileTree.real_of_get? hdirectory hlink⟩
    have hfileNames : ∀ name ∈ names, '\x00' ∉ name → IsFileName name := by
      intro name hmem hnul
      have hcomponent : Component.normal name ∈ components artifactPath := by
        rw [hnames]
        exact List.mem_map_of_mem hmem
      exact isFileName_of_component hcomponent hnul
    have hdescend := ends_descend reader artifactPath hfileNames hfirst
    rw [List.append_nil, List.nil_append] at hdescend
    rw [hnames]
    refine (hdescend.mono_error fun _ opened hall place hmem => ?_).mono fun fd opened hdone => ?_
    · exact ⟨root, names, hplace, hnames, hall place hmem⟩
    · exact ⟨fun place hmem => ⟨root, names, hplace, hnames, hdone.1 place hmem⟩,
        root, names, hplace, rfl, hdone.2⟩

/-- All that `readFrameAt` opens, and what it has checked when it returns a frame. -/
theorem ends_readFrameAt (reader : FileCaptureArtifactReader) (files : FileSystem)
    (artifact : DisplaydCaptureArtifact) : Ends
    (fun _ opened => ∀ place ∈ opened, reader.MayOpen files artifact.artifactPath place)
    (readFrameAt reader files artifact) []
    fun frame opened =>
      (∀ place ∈ opened, reader.MayOpen files artifact.artifactPath place) ∧
        reader.Shows files artifact frame := by
  unfold readFrameAt
  rw [ends_bind, ends_orElseBail]
  refine ⟨fun _ _ => by simp, fun _ hformat => ends_ite.mpr ⟨fun _ => by simp, fun hzero => ?_⟩⟩
  rw [not_or] at hzero
  rw [ends_bind, ends_orElseBail]
  refine ⟨fun _ _ => by simp, fun expectedLen hexpected => ?_⟩
  obtain ⟨hsize, rfl⟩ := expectedRgbaByteLen_ok.mp hexpected
  rw [ends_bind, ends_orElseBail]
  refine ⟨fun _ _ => by simp, fun _ hvalid => ?_⟩
  obtain ⟨hnonempty, hrelative, -⟩ := validateRelativeArtifactPath_ok.mp hvalid
  refine ends_openArtifactFd.then fun fd opened hopen => ?_
  obtain ⟨hall, root, names, hroot, hnames, rfl⟩ := hopen
  split
  · rename_i file hfile
    refine ends_ite.mpr ⟨fun _ => hall, fun hlen => ?_⟩
    rw [not_not] at hlen
    have hread : readExpectedRgbaBytes file (4 * artifact.width * artifact.height) = .ok file :=
      if_neg fun h => h hlen
    obtain ⟨hbuffer, hframe⟩ := capturedFrame_new hzero.1 hzero.2 hsize hlen
    rw [hread, orElseBail_bind, hbuffer, hframe]
    exact ⟨hall, validateDisplaydArtifactFormat_ok.mp hformat, hzero.1, hzero.2, hsize, hnonempty,
      hrelative, root, names, file, hroot, hnames, hfile, hlen, rfl⟩
  · exact hall

/-- A frame that is shown is read. -/
theorem readFrameAt_shows (h : reader.Shows files artifact frame) :
    ∃ opened, readFrameAt reader files artifact [] = .ok frame opened := by
  obtain ⟨root, names, rgba, hroot, hnames, hfile, hlen, rfl⟩ := h.file
  have hformat := validateDisplaydArtifactFormat_ok.mpr h.format
  have hexpected := expectedRgbaByteLen_ok.mpr ⟨h.size, rfl⟩
  have hvalid := validateRelativeArtifactPath_ok.mpr ⟨h.nonempty, h.relative, names, hnames⟩
  have hzero : ¬ (artifact.width = 0 ∨ artifact.height = 0) := not_or.mpr ⟨h.width, h.height⟩
  obtain ⟨hbuffer, hframe⟩ := capturedFrame_new h.width h.height h.size hlen
  have hread : readExpectedRgbaBytes rgba (4 * artifact.width * artifact.height) = .ok rgba :=
    if_neg fun h => h hlen
  obtain ⟨opened, hopen⟩ : ∃ opened, openArtifactFd reader files artifact.artifactPath [] =
      .ok (root ++ names) opened := by
    obtain ⟨directory, hdirectory, -, -⟩ := isDirectory_rootPlace hroot
    unfold rootPlace at hroot
    split at hroot
    · rename_i root' log hrun
      injection hroot with hroot
      subst hroot
      obtain ⟨opened, hdescend⟩ := descend_reaches reader artifact.artifactPath log
        ⟨directory, hdirectory⟩ hfile rfl
      refine ⟨opened, ?_⟩
      unfold openArtifactFd
      rw [hvalid, hnames]
      change (openDirectoryFd reader files >>= _) [] = _
      rw [bind_of_ok hrun]
      exact hdescend
    · cases hroot
  refine ⟨opened, ?_⟩
  unfold readFrameAt
  rw [hformat, if_neg hzero, hexpected, hvalid]
  change (openArtifactFd reader files artifact.artifactPath >>= _) [] = _
  rw [bind_of_ok hopen]
  simp only [hfile, hlen, ne_eq, not_true, if_false]
  rw [hread, orElseBail_bind, hbuffer, hframe]
  rfl

/-- The reader returns the frames that are shown and no others, and opens nothing but real
places on the way to their files. -/
theorem readFrameAt_exact (reader : FileCaptureArtifactReader) (files : FileSystem)
    (artifact : DisplaydCaptureArtifact) :
    (∀ frame, (∃ opened, readFrameAt reader files artifact [] = .ok frame opened) ↔
      reader.Shows files artifact frame) ∧
    ∀ place ∈ openedBy (readFrameAt reader files artifact []),
      reader.MayOpen files artifact.artifactPath place := by
  have hends := ends_readFrameAt reader files artifact
  refine ⟨fun frame => ⟨?_, readFrameAt_shows⟩, ?_⟩
  · rintro ⟨opened, hrun⟩
    exact (hends.ok hrun).2
  · cases hrun : readFrameAt reader files artifact [] with
    | ok frame opened => exact (hends.ok hrun).1
    | error e opened => exact hends.error hrun

end FileCaptureArtifactReader

end Screenshot

end TuffXwin
