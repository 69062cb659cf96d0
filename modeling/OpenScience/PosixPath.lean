-- Pure POSIX paths as pathlib has them: parsing, joining, printing, the lexical
-- relative_to, and what a path names once its dot-dots are worked off.
import Mathlib

namespace posix

/-! ## Paths -/

abbrev Name := List Char

/-- What a path starts with: nothing, one slash, or exactly two. -/
inductive Root where
  | relative
  | slash
  | twoSlashes
deriving DecidableEq, Repr

/-- A parsed path: its root and the names after it. -/
structure PosixPath where
  root : Root
  names : List Name
deriving DecidableEq, Repr

/-- How `posixpath.splitroot` cuts a text: two slashes are a root of their own, three or
more are one slash and a rest. -/
def splitroot : List Char → Root × List Char
  | '/' :: '/' :: '/' :: rest => (.slash, '/' :: '/' :: rest)
  | '/' :: '/' :: rest => (.twoSlashes, rest)
  | '/' :: rest => (.slash, rest)
  | text => (.relative, text)

/-- The names of a text: empty pieces and single dots are dropped, dot-dots are kept. -/
def namesOf (text : List Char) : List Name :=
  (text.splitOn '/').filter fun n => n ≠ [] ∧ n ≠ ['.']

def parse (text : List Char) : PosixPath := ⟨(splitroot text).1, namesOf (splitroot text).2⟩

def Root.text : Root → List Char
  | .relative => []
  | .slash => ['/']
  | .twoSlashes => ['/', '/']

/-- What `str(path)` gives. -/
def PosixPath.format (p : PosixPath) : List Char :=
  if p.root = .relative ∧ p.names = [] then ['.']
  else p.root.text ++ ['/'].intercalate p.names

/-- How `posixpath.join` puts two texts together. -/
def join (a b : List Char) : List Char :=
  if b.head? = some '/' then b
  else if a = [] ∨ a.getLast? = some '/' then a ++ b
  else a ++ '/' :: b

/-- A name as a parsed path has it. -/
def NameOk (n : Name) : Prop := n ≠ [] ∧ n ≠ ['.'] ∧ '/' ∉ n

/-- The directory a process stands in. -/
structure WorkingDirectory where
  path : PosixPath
  rooted : path.root ≠ .relative
  names_ok : ∀ n ∈ path.names, NameOk n

/-- What `path.absolute()` gives: a relative path goes below the working directory. -/
def PosixPath.absolute (cwd : WorkingDirectory) (p : PosixPath) : PosixPath :=
  if p.root = .relative then ⟨cwd.path.root, cwd.path.names ++ p.names⟩ else p

/-- The directories above a path, nearest first. -/
def PosixPath.parents (p : PosixPath) : List PosixPath :=
  (List.range p.names.length).reverse.map fun i => ⟨p.root, p.names.take i⟩

/-- Whether `p.relative_to(base)` gives a path; otherwise it raises `ValueError`. The test
compares names and never looks at what a dot-dot means. -/
def PosixPath.isRelativeTo (p base : PosixPath) : Bool := base = p ∨ base ∈ p.parents

/-! ## Lexical normalisation -/

def dotdot : Name := ['.', '.']

/-- One name more: a dot-dot takes the last name away, and stays at the root. -/
def normStep (stack : List Name) (n : Name) : List Name :=
  if n = dotdot then stack.dropLast else stack ++ [n]

def normalise (names : List Name) : List Name := names.foldl normStep []

/-- The directory that a path names once every dot-dot is worked off. -/
def PosixPath.normal (p : PosixPath) : PosixPath := ⟨p.root, normalise p.names⟩

/-- A path lies at or below another one. -/
def PosixPath.Below (p base : PosixPath) : Prop := base.root = p.root ∧ base.names <+: p.names
  deriving Decidable

/-- Names read from an unknown directory: how many levels they climb in all, and the names
that are left after the climb. -/
def climbStep (s : Nat × List Name) (n : Name) : Nat × List Name :=
  if n = dotdot then
    if s.2 = [] then (s.1 + 1, []) else (s.1, s.2.dropLast)
  else (s.1, s.2 ++ [n])

def climb (names : List Name) : Nat × List Name := names.foldl climbStep (0, [])

/-! ## Laws of parsing -/

lemma namesOf_ok {text : List Char} {n : Name} (h : n ∈ namesOf text) :
    n ≠ [] ∧ n ≠ ['.'] := by
  simpa using (List.mem_filter.mp h).2

/-- Splitting at a slash gives the names on both sides of it. -/
lemma namesOf_append_slash (a b : List Char) :
    namesOf (a ++ '/' :: b) = namesOf a ++ namesOf b := by
  simp [namesOf, List.splitOn_append_cons_self]

lemma splitOn_no_sep (text : List Char) : ∀ n ∈ text.splitOn '/', '/' ∉ n := by
  induction text with
  | nil => simp
  | cons c text ih =>
    intro n hn
    rw [List.splitOn_cons_eq_if_modifyHead] at hn
    split at hn
    · rcases List.mem_cons.mp hn with rfl | hn
      · simp
      · exact ih n hn
    · rename_i hc
      cases hs : text.splitOn '/' with
      | nil => exact absurd hs (List.splitOn_ne_nil _ _)
      | cons m ms =>
        rw [hs] at hn ih
        simp only [List.modifyHead_cons, List.mem_cons] at hn
        rcases hn with rfl | hn
        · have := ih m List.mem_cons_self
          simp only [beq_iff_eq] at hc
          simp only [List.mem_cons, not_or]
          exact ⟨fun h => hc h.symm, this⟩
        · exact ih n (List.mem_cons_of_mem _ hn)

lemma parse_names_ok (text : List Char) : ∀ n ∈ (parse text).names, NameOk n := by
  intro n hn
  have hok := namesOf_ok hn
  exact ⟨hok.1, hok.2, splitOn_no_sep _ n (List.mem_filter.mp hn).1⟩

lemma filter_names_ok {names : List Name} (h : ∀ n ∈ names, NameOk n) :
    names.filter (fun n => n ≠ [] ∧ n ≠ ['.']) = names := by
  rw [List.filter_eq_self]
  intro n hn
  simpa using ⟨(h n hn).1, (h n hn).2.1⟩

lemma namesOf_intercalate {names : List Name} (h : ∀ n ∈ names, NameOk n) :
    namesOf (['/'].intercalate names) = names := by
  cases names with
  | nil => simp [namesOf]
  | cons m ms =>
    unfold namesOf
    rw [List.splitOn_intercalate '/' (fun n hn => (h n hn).2.2) (List.cons_ne_nil m ms)]
    exact filter_names_ok h

lemma head_intercalate {names : List Name} (h : ∀ n ∈ names, NameOk n) :
    (['/'].intercalate names).head? ≠ some '/' := by
  cases names with
  | nil => simp
  | cons m ms =>
    have hm := h m List.mem_cons_self
    cases m with
    | nil => exact absurd rfl hm.1
    | cons c m =>
      have hc : c ≠ '/' := by
        rintro rfl
        exact hm.2.2 List.mem_cons_self
      cases ms <;> simpa using hc

lemma splitroot_relative {text : List Char} (h : text.head? ≠ some '/') :
    splitroot text = (.relative, text) := by
  unfold splitroot
  split <;> simp_all

lemma splitroot_slash {text : List Char} (h : text.head? ≠ some '/') :
    splitroot ('/' :: text) = (.slash, text) := by
  cases text with
  | nil => rfl
  | cons c text =>
    unfold splitroot
    split <;> simp_all

lemma splitroot_twoSlashes {text : List Char} (h : text.head? ≠ some '/') :
    splitroot ('/' :: '/' :: text) = (.twoSlashes, text) := by
  cases text with
  | nil => rfl
  | cons c text =>
    have : c ≠ '/' := by simpa using h
    simp [splitroot, this]

/-- A printed path is parsed as itself. -/
lemma parse_format {p : PosixPath} (h : ∀ n ∈ p.names, NameOk n) : parse p.format = p := by
  have hhead := head_intercalate h
  have hnam := namesOf_intercalate h
  obtain ⟨root, names⟩ := p
  unfold PosixPath.format
  split
  · rename_i hemp
    obtain ⟨rfl, rfl⟩ : root = .relative ∧ names = [] := hemp
    decide
  · cases root with
    | relative => simp only [parse, Root.text, List.nil_append, splitroot_relative hhead, hnam]
    | slash =>
      simp [parse, Root.text, List.nil_append, splitroot_slash hhead, hnam]
    | twoSlashes =>
      simp [parse, Root.text, List.nil_append, splitroot_twoSlashes hhead,
        hnam]

lemma join_cons {a b : List Char} (c : Char) (ha : a ≠ []) (hb : b.head? ≠ some '/') :
    join (c :: a) b = c :: join a b := by
  have hlast : (c :: a).getLast? = a.getLast? := by
    cases a with
    | nil => exact absurd rfl ha
    | cons d a => rfl
  simp only [join, if_neg hb, reduceCtorEq, ha, hlast]
  split <;> rfl

lemma join_head {a b : List Char} (ha : a ≠ []) (hb : b.head? ≠ some '/') :
    (join a b).head? = a.head? := by
  cases a with
  | nil => exact absurd rfl ha
  | cons c a =>
    simp only [join, if_neg hb]
    split <;> rfl

/-- Joining keeps the root and works on the text after it. -/
lemma splitroot_join (a b : List Char) (hb : b.head? ≠ some '/') :
    splitroot (join a b) = ((splitroot a).1, join (splitroot a).2 b) := by
  have hnil : join [] b = b := by simp [join]
  by_cases h1 : a.head? = some '/'
  · obtain ⟨a, rfl⟩ : ∃ a', a = '/' :: a' := by
      cases a with
      | nil => simp at h1
      | cons c a => exact ⟨a, by simpa using h1⟩
    by_cases ha : a = []
    · subst ha
      have : join ['/'] b = '/' :: b := by simp [join, hb]
      rw [this, splitroot_slash hb]
      simp [splitroot, hnil]
    by_cases h2 : a.head? = some '/'
    · obtain ⟨a, rfl⟩ : ∃ a', a = '/' :: a' := by
        cases a with
        | nil => simp at h2
        | cons c a => exact ⟨a, by simpa using h2⟩
      by_cases ha' : a = []
      · subst ha'
        have : join ['/', '/'] b = '/' :: '/' :: b := by simp [join, hb]
        rw [this, splitroot_twoSlashes hb]
        simp [splitroot, hnil]
      rw [join_cons '/' (List.cons_ne_nil _ _) hb, join_cons '/' ha' hb]
      by_cases h3 : a.head? = some '/'
      · obtain ⟨a, rfl⟩ : ∃ a', a = '/' :: a' := by
          cases a with
          | nil => simp at h3
          | cons c a => exact ⟨a, by simpa using h3⟩
        -- three slashes are one slash and a rest that starts with two
        have hj : ∃ more, join ('/' :: a) b = '/' :: more := by
          have := join_head (List.cons_ne_nil '/' a) hb
          cases hjoin : join ('/' :: a) b with
          | nil => simp [hjoin] at this
          | cons c more => exact ⟨more, by rw [hjoin] at this; simpa using this⟩
        obtain ⟨more, hmore⟩ := hj
        rw [hmore]
        simp only [splitroot]
        rw [join_cons '/' (List.cons_ne_nil _ _) hb, hmore]
      · rw [splitroot_twoSlashes (by rw [join_head ha' hb]; exact h3), splitroot_twoSlashes h3]
    · rw [join_cons '/' ha hb, splitroot_slash (by rw [join_head ha hb]; exact h2),
        splitroot_slash h2]
  · by_cases ha : a = []
    · subst ha
      rw [hnil, splitroot_relative hb]
      simp [splitroot, hnil]
    · rw [splitroot_relative (by rw [join_head ha hb]; exact h1), splitroot_relative h1]

lemma namesOf_join (a b : List Char) (hb : b.head? ≠ some '/') :
    namesOf (join a b) = namesOf a ++ namesOf b := by
  have hnil : namesOf [] = [] := by simp [namesOf]
  simp only [join, if_neg hb]
  split
  · rename_i hend
    rcases hend with rfl | hend
    · simp [hnil]
    · obtain ⟨a, rfl⟩ := List.getLast?_eq_some_iff.mp hend
      rw [List.append_assoc, List.singleton_append, namesOf_append_slash, namesOf_append_slash,
        hnil, List.append_nil]
  · exact namesOf_append_slash a b

/-- Joining a text that is not rooted adds its names. -/
lemma parse_join (a b : List Char) (hb : b.head? ≠ some '/') :
    parse (join a b) = ⟨(parse a).root, (parse a).names ++ namesOf b⟩ := by
  simp [parse, splitroot_join a b hb, namesOf_join _ b hb]

lemma isRelativeTo_iff (p base : PosixPath) : p.isRelativeTo base = true ↔ p.Below base := by
  obtain ⟨root, names⟩ := p
  obtain ⟨root', names'⟩ := base
  simp only [PosixPath.isRelativeTo, PosixPath.parents, decide_eq_true_eq,
    PosixPath.mk.injEq, List.mem_map, List.mem_reverse, List.mem_range]
  constructor
  · rintro (⟨rfl, rfl⟩ | ⟨i, -, rfl, rfl⟩)
    · exact ⟨rfl, List.prefix_refl _⟩
    · exact ⟨rfl, List.take_prefix _ _⟩
  · rintro ⟨rfl, hpre⟩
    rcases Nat.lt_or_ge names'.length names.length with hlt | hge
    · exact .inr ⟨names'.length, hlt, rfl, (List.prefix_iff_eq_take.mp hpre).symm⟩
    · exact .inl ⟨rfl, List.IsPrefix.eq_of_length_le hpre hge⟩

/-! ## Laws of normalisation -/

lemma normalise_append (a b : List Name) :
    normalise (a ++ b) = b.foldl normStep (normalise a) := by
  simp [normalise]

/-- One name more, seen from a stack that the names before it have climbed. -/
lemma normStep_climbed (stack : List Name) (s : Nat × List Name) (n : Name) :
    normStep (stack.take (stack.length - s.1) ++ s.2) n =
      stack.take (stack.length - (climbStep s n).1) ++ (climbStep s n).2 := by
  unfold normStep climbStep
  split
  · split
    · rename_i hemp
      rw [hemp, List.append_nil, List.append_nil, List.dropLast_eq_take, List.take_take]
      congr 1
      simp only [List.length_take]
      omega
    · rename_i hkept
      rw [List.dropLast_append_of_ne_nil hkept]
  · simp

/-- Names climb off the end of the stack they start from, and leave their own names. -/
lemma foldl_normStep_eq (stack names : List Name) :
    names.foldl normStep stack =
      stack.take (stack.length - (climb names).1) ++ (climb names).2 := by
  have h : ∀ (names : List Name) (s : Nat × List Name),
      names.foldl normStep (stack.take (stack.length - s.1) ++ s.2) =
        stack.take (stack.length - (names.foldl climbStep s).1) ++ (names.foldl climbStep s).2 := by
    intro names
    induction names with
    | nil => intro s; rfl
    | cons n names ih =>
      intro s
      rw [List.foldl_cons, List.foldl_cons, normStep_climbed, ih]
  simpa [climb] using h names (0, [])

/-- Going on from a directory ends below it exactly when the climb comes back through the
names it went up. -/
lemma prefix_normalise_iff (stack names : List Name) :
    stack <+: names.foldl normStep stack ↔
      stack.drop (stack.length - (climb names).1) <+: (climb names).2 := by
  rw [foldl_normStep_eq]
  conv_lhs => lhs; rw [← List.take_append_drop (stack.length - (climb names).1) stack]
  exact List.prefix_append_right_inj _

end posix
