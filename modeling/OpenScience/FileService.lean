-- The file service (files/service.py): which path a request may name. The check
-- compares the names of the path as they are written, so a dot-dot behind the
-- working directory passes it and leads out.
import OpenScience.PosixPath

open posix

namespace ainrf.files

variable {path workdir : String} {cwd : WorkingDirectory} {names : List Name}

/-! ## The service -/

inductive FileBrowserError where
  | path_not_found (message : String)
deriving DecidableEq, Repr

/-- What the process around the service gives: the directory it stands in, and the text of
`Path(workdir).expanduser().resolve()`. -/
structure Host where
  cwd : WorkingDirectory
  expanduser : String → String

structure EnvironmentRegistryEntry where
  default_workdir : Option String

structure WorkspaceRecord where
  default_workdir : Option String

/-- Python's `a or b` on an optional text: an empty text counts as none. -/
def orText (a : Option String) (b : String) : String :=
  match a with
  | some text => if text = "" then b else text
  | none => b

/-- The working directory of a request, `_EnvironmentResolver.resolve`. -/
def resolve (host : Host) (environment : EnvironmentRegistryEntry)
    (workspace : Option WorkspaceRecord) : String :=
  let workdir := match workspace with
    | some workspace => orText workspace.default_workdir (orText environment.default_workdir "/")
    | none => orText environment.default_workdir "/"
  if workdir.toList.head? = some '~' then host.expanduser workdir else workdir

def resolve_path (cwd : WorkingDirectory) (workdir path : String) :
    Except FileBrowserError String :=
  if path = "" then .ok workdir
  else
    let resolved :=
      if path.toList.head? = some '/' then (parse path.toList).absolute cwd
      else (parse (join workdir.toList path.toList)).absolute cwd
    let workdir_resolved := (parse workdir.toList).absolute cwd
    if resolved.isRelativeTo workdir_resolved then .ok (String.ofList resolved.format)
    else .error (.path_not_found "Path is outside the workspace directory")

/-- The path that `list_directory`, `read_file`, `upload_file` and `resolve_stream_target`
hand to the file system: they all begin with these two steps. -/
def resolved_path (host : Host) (environment : EnvironmentRegistryEntry)
    (workspace : Option WorkspaceRecord) (path : String) : Except FileBrowserError String :=
  resolve_path host.cwd (resolve host environment workspace) path

/-! ## What the check is for -/

/-- The place that a path text names, symbolic links apart. -/
def placeOf (cwd : WorkingDirectory) (text : String) : PosixPath :=
  ((parse text.toList).absolute cwd).normal

/-- Whatever path a listing, a read or an upload is given, the path that it opens lies in the
working directory of the request. -/
def Contained (host : Host) (environment : EnvironmentRegistryEntry)
    (workspace : Option WorkspaceRecord) (path : String) : Prop :=
  ∀ resolved, resolved_path host environment workspace path = .ok resolved →
    (placeOf host.cwd resolved).Below (placeOf host.cwd (resolve host environment workspace))

/-- The names of a request behind the working directory, or none when the check refuses. -/
def namesBelow (cwd : WorkingDirectory) (workdir path : String) : Option (List Name) :=
  let base := (parse workdir.toList).absolute cwd
  if path = "" then some []
  else if path.toList.head? = some '/' then
    let named := parse path.toList
    if named.Below base then some (named.names.drop base.names.length) else none
  else some (namesOf path.toList)

/-- The dot-dots of these names that climb above the working directory are followed by the
very names that they climbed over. -/
def ComesBack (cwd : WorkingDirectory) (workdir : String) (names : List Name) : Prop :=
  let home := (placeOf cwd workdir).names
  home.drop (home.length - (climb names).1) <+: (climb names).2
  deriving Decidable

/-! ## The laws -/

lemma absolute_root (cwd : WorkingDirectory) (p : PosixPath) :
    (p.absolute cwd).root ≠ .relative := by
  unfold PosixPath.absolute
  split
  · exact cwd.rooted
  · assumption

lemma absolute_of_root {p : PosixPath} (cwd : WorkingDirectory) (h : p.root ≠ .relative) :
    p.absolute cwd = p := by
  simp [PosixPath.absolute, h]

lemma absolute_names_ok (cwd : WorkingDirectory) (text : List Char) :
    ∀ n ∈ ((parse text).absolute cwd).names, NameOk n := by
  intro n hn
  unfold PosixPath.absolute at hn
  split at hn
  · rcases List.mem_append.mp hn with hn | hn
    · exact cwd.names_ok n hn
    · exact parse_names_ok text n hn
  · exact parse_names_ok text n hn

/-- A relative request path is always accepted: its names come after the working directory. -/
lemma absolute_parse_join (cwd : WorkingDirectory) (workdir path : List Char)
    (h : path.head? ≠ some '/') :
    (parse (join workdir path)).absolute cwd =
      ⟨((parse workdir).absolute cwd).root,
        ((parse workdir).absolute cwd).names ++ namesOf path⟩ := by
  rw [parse_join workdir path h]
  unfold PosixPath.absolute
  split <;> simp

/-- A rooted text is its own absolute path. -/
lemma absolute_parse_rooted (cwd : WorkingDirectory) {path : List Char}
    (h : path.head? = some '/') : (parse path).absolute cwd = parse path := by
  apply absolute_of_root
  cases path with
  | nil => simp at h
  | cons c path =>
    simp only [parse]
    unfold splitroot
    split <;> simp_all

lemma namesBelow_ok (h : namesBelow cwd workdir path = some names) : ∀ n ∈ names, NameOk n := by
  intro n hn
  simp only [namesBelow] at h
  split at h
  · obtain rfl : names = [] := (Option.some.inj h).symm
    simp at hn
  split at h
  · split at h
    · obtain rfl := Option.some.inj h
      exact parse_names_ok _ n (List.mem_of_mem_drop hn)
    · cases h
  · rename_i hroot
    obtain rfl := Option.some.inj h
    have := parse_names_ok path.toList n
    rw [parse, splitroot_relative hroot] at this
    exact this hn

/-- The working directory and the names behind it, as an absolute path. -/
def acceptedPath (cwd : WorkingDirectory) (workdir : String) (names : List Name) : PosixPath :=
  ⟨((parse workdir.toList).absolute cwd).root,
    ((parse workdir.toList).absolute cwd).names ++ names⟩

/-- A nonempty request path is accepted as the working directory and the names behind it. -/
lemma resolve_path_nonempty (cwd : WorkingDirectory) (workdir : String) (hemp : path ≠ "") :
    resolve_path cwd workdir path = match namesBelow cwd workdir path with
      | some names => .ok (String.ofList (acceptedPath cwd workdir names).format)
      | none => .error (.path_not_found "Path is outside the workspace directory") := by
  simp only [resolve_path, namesBelow, if_neg hemp, acceptedPath]
  by_cases hroot : path.toList.head? = some '/'
  · simp only [if_pos hroot, absolute_parse_rooted cwd hroot, isRelativeTo_iff]
    by_cases hbel : (parse path.toList).Below ((parse workdir.toList).absolute cwd)
    · have hnam := List.prefix_iff_eq_append.mp hbel.2
      simp [if_pos hbel, hnam, hbel.1]
    · simp [if_neg hbel]
  · simp only [if_neg hroot, absolute_parse_join cwd _ _ hroot, isRelativeTo_iff]
    rw [if_pos ⟨rfl, List.prefix_append _ _⟩]

/-- The place of what was accepted. -/
lemma placeOf_resolved (hnam : namesBelow cwd workdir path = some names)
    (h : resolve_path cwd workdir path = .ok resolved) :
    placeOf cwd resolved = ⟨(placeOf cwd workdir).root, names.foldl normStep (placeOf cwd workdir).names⟩ := by
  by_cases hemp : path = ""
  · obtain rfl : workdir = resolved := by simpa [resolve_path, hemp] using h
    obtain rfl : names = [] := by simpa [namesBelow, hemp] using hnam
    rfl
  · rw [resolve_path_nonempty cwd workdir hemp, hnam] at h
    obtain rfl := Except.ok.inj h
    have hok : ∀ n ∈ (acceptedPath cwd workdir names).names, NameOk n := by
      intro n hn
      rcases List.mem_append.mp hn with hn | hn
      · exact absolute_names_ok cwd _ n hn
      · exact namesBelow_ok hnam n hn
    have hroot : (acceptedPath cwd workdir names).root ≠ .relative := absolute_root cwd _
    unfold placeOf
    rw [String.toList_ofList, parse_format hok, absolute_of_root cwd hroot]
    simp [PosixPath.normal, acceptedPath, normalise_append]

lemma exists_names_of_ok (h : resolve_path cwd workdir path = .ok resolved) :
    ∃ names, namesBelow cwd workdir path = some names := by
  by_cases hemp : path = ""
  · exact ⟨[], by simp [namesBelow, hemp]⟩
  · rw [resolve_path_nonempty cwd workdir hemp] at h
    cases hnam : namesBelow cwd workdir path with
    | none => simp [hnam] at h
    | some names => exact ⟨names, rfl⟩

lemma ok_of_namesBelow (h : namesBelow cwd workdir path = some names) :
    ∃ resolved, resolve_path cwd workdir path = .ok resolved := by
  by_cases hemp : path = ""
  · exact ⟨workdir, by simp [resolve_path, hemp]⟩
  · exact ⟨_, by rw [resolve_path_nonempty cwd workdir hemp, h]⟩

/-- What the service accepts stays in the working directory exactly when the dot-dots behind
the working directory lead back into it. -/
theorem contained_iff_comes_back (host : Host) (environment : EnvironmentRegistryEntry)
    (workspace : Option WorkspaceRecord) (path : String) :
    Contained host environment workspace path ↔
      ∀ names ∈ namesBelow host.cwd (resolve host environment workspace) path,
        ComesBack host.cwd (resolve host environment workspace) names := by
  unfold Contained resolved_path
  constructor
  · intro h names hnam
    obtain ⟨resolved, hok⟩ := ok_of_namesBelow hnam
    have hbel := h _ hok
    rw [placeOf_resolved hnam hok] at hbel
    exact (prefix_normalise_iff _ names).mp hbel.2
  · intro h resolved hok
    obtain ⟨names, hnam⟩ := exists_names_of_ok hok
    rw [placeOf_resolved hnam hok]
    exact ⟨rfl, (prefix_normalise_iff _ names).mpr (h names hnam)⟩

/-- A process that stands in the root directory, and an environment that works in `/work`. -/
def atRoot : Host := ⟨⟨⟨.slash, []⟩, by decide, by simp⟩, id⟩

def workEnvironment : EnvironmentRegistryEntry := ⟨some "/work"⟩

/-- One dot-dot behind the working directory leads out of it. -/
theorem dotdot_leads_out :
    resolved_path atRoot workEnvironment none "../etc/passwd" = .ok "/work/../etc/passwd" ∧
    placeOf atRoot.cwd "/work/../etc/passwd" = placeOf atRoot.cwd "/etc/passwd" ∧
    ¬ Contained atRoot workEnvironment none "../etc/passwd" := by
  have hok : resolved_path atRoot workEnvironment none "../etc/passwd" =
      .ok "/work/../etc/passwd" := by decide
  refine ⟨hok, by decide, fun h => ?_⟩
  have hbel := h _ hok
  revert hbel
  decide

end ainrf.files
