import Visor.Machine.Words

/-! Paths as byte strings, with the rules of the standard library for joining them, for splitting
them into components and for comparing them by components. -/

namespace Visor.Fs
abbrev Path := List U8
def separator : U8 := 0x2f

inductive Component where
  | rootDir
  | curDir
  | parentDir
  | normal (name : List U8)
deriving DecidableEq

namespace Path
variable (path : Path)

def isAbsolute : Bool := path.head? == some separator

/-- `path.join(name)`: an absolute name replaces the path. -/
def join (path name : Path) : Path :=
  if isAbsolute name then name
  else if path.isEmpty || path.getLast? == some separator then path ++ name
  else path ++ separator :: name

def split : List (List U8) := path.splitOn separator

/-- A part of the path between separators; empty parts and dots are skipped. -/
def component (part : List U8) : Option Component :=
  if part.isEmpty then none
  else if part = [0x2e] then none
  else if part = [0x2e, 0x2e] then some .parentDir
  else some (.normal part)

/-- The components of a path. A dot counts only at the front of a relative path. -/
def components : List Component :=
  let parts := split path
  let first :=
    if isAbsolute path then [.rootDir]
    else if parts.head? = some [0x2e] then [.curDir]
    else []
  first ++ parts.filterMap component

/-- Paths are equal when their components are. -/
def sameAs (first second : Path) : Bool := decide (components first = components second)

end Path

/-- `std::str::from_utf8` accepts the bytes. -/
def isUtf8 : List U8 → Bool
  | [] => true
  | a :: rest =>
    if a ≤ 0x7f then isUtf8 rest
    else
      match rest with
      | [] => false
      | b :: rest =>
        if 0xc2 ≤ a ∧ a ≤ 0xdf then continuation b && isUtf8 rest
        else
          match rest with
          | [] => false
          | c :: rest =>
            if (a = 0xe0 ∧ 0xa0 ≤ b ∧ b ≤ 0xbf) ∨ (0xe1 ≤ a ∧ a ≤ 0xec ∧ continuation b) ∨
              (a = 0xed ∧ 0x80 ≤ b ∧ b ≤ 0x9f) ∨ (0xee ≤ a ∧ a ≤ 0xef ∧ continuation b) then
              continuation c && isUtf8 rest
            else
              match rest with
              | [] => false
              | d :: rest =>
                if (a = 0xf0 ∧ 0x90 ≤ b ∧ b ≤ 0xbf) ∨ (0xf1 ≤ a ∧ a ≤ 0xf3 ∧ continuation b) ∨
                  (a = 0xf4 ∧ 0x80 ≤ b ∧ b ≤ 0x8f) then
                  continuation c && continuation d && isUtf8 rest
                else false
where
  continuation (byte : U8) : Bool := decide (0x80 ≤ byte ∧ byte ≤ 0xbf)

/-! Joining a relative name appends its components, and an absolute name replaces the path. A
path lies inside a directory, by its text alone, when it continues it with normal components. -/

open List
namespace Path
def appended (name : Path) : List Component := (split name).filterMap component

theorem split_append (first second : Path) :
    split (first ++ separator :: second) = split first ++ split second :=
  splitOnP_append_cons first second (beq_self_eq_true separator)

theorem split_ne_nil (path : Path) : split path ≠ [] := splitOnP_ne_nil _ path

variable {path name dir : Path}

theorem components_append (nonempty : path ≠ []) (name : Path) :
    components (path ++ separator :: name) = components path ++ appended name := by
  obtain ⟨byte, rest, rfl⟩ := exists_cons_of_ne_nil nonempty
  obtain ⟨part, parts, split_eq⟩ := exists_cons_of_ne_nil (split_ne_nil (byte :: rest))
  unfold components appended
  rw [split_append, split_eq]
  simp only [isAbsolute, cons_append, head?_cons, append_assoc]
  rw [← cons_append, filterMap_append]
  rfl

theorem components_append_separator (nonempty : path ≠ []) :
    components (path ++ [separator]) = components path := by
  rw [components_append nonempty]
  rw [show appended [] = [] from by decide, append_nil]

private theorem components_absolute (name : Path) :
    components (separator :: name) = .rootDir :: appended name := by
  unfold components appended
  rw [show separator :: name = [] ++ separator :: name from rfl, split_append]
  rfl

theorem components_join (nonempty : path ≠ []) (relative : isAbsolute name = false) :
    components (join path name) = components path ++ appended name := by
  unfold join
  rw [relative, if_neg (by decide)]
  split
  next trailing =>
    -- The path ends with a separator already: what stands before it may be nothing.
    have last : path.getLast? = some separator := by simpa [nonempty] using trailing
    obtain ⟨before, rfl⟩ := getLast?_eq_some_iff.mp last
    rw [append_assoc, singleton_append]
    cases before with
    | nil =>
      show components (separator :: name) = components [separator] ++ appended name
      rw [components_absolute, components_absolute]
      rfl
    | cons => rw [components_append (cons_ne_nil _ _), components_append_separator (cons_ne_nil _ _)]
  · exact components_append nonempty name

theorem join_absolute (path : Path) (absolute : isAbsolute name = true) : join path name = name :=
  if_pos absolute

theorem mem_appended {part : Component} (member : part ∈ appended name) :
    part = .parentDir ∨ ∃ text, part = .normal text := by
  obtain ⟨text, _, made⟩ := mem_filterMap.mp member
  unfold component at made
  split at made
  · cases made
  · split at made
    · cases made
    · split at made
      · cases made
        exact .inl rfl
      · cases made
        exact .inr ⟨text, rfl⟩

/-- The path continues the directory with normal components only. -/
def Inside (dir path : Path) : Prop :=
  ∃ names : List (List U8), components path = components dir ++ names.map .normal

theorem inside_refl (dir : Path) : Inside dir dir := ⟨[], (append_nil _).symm⟩

/-- A name that leads from the directory, or from any place in it, to a place in it. -/
def Harmless (dir name : Path) : Prop :=
  if isAbsolute name then Inside dir name else .parentDir ∉ appended name

private theorem exists_names_iff (parts : List Component) :
    (∃ names : List (List U8), parts = names.map .normal) ↔
    ∀ part ∈ parts, ∃ text, part = Component.normal text := by
  constructor
  · rintro ⟨names, rfl⟩ part member
    obtain ⟨text, _, rfl⟩ := mem_map.mp member
    exact ⟨text, rfl⟩
  · intro normal
    induction parts with
    | nil => exact ⟨[], rfl⟩
    | cons part rest ih =>
      obtain ⟨text, rfl⟩ := normal part (.head _)
      obtain ⟨names, rfl⟩ := ih fun later member => normal later (.tail _ member)
      exact ⟨text :: names, rfl⟩

theorem inside_iff {rest : List Component} (continues : components path = components dir ++ rest) :
    Inside dir path ↔ ∀ part ∈ rest, ∃ text, part = Component.normal text := by
  unfold Inside
  rw [← exists_names_iff, continues]
  simp only [append_cancel_left_eq]

theorem inside_join_iff (nonempty : path ≠ []) (inside : Inside dir path) :
    Inside dir (join path name) ↔ Harmless dir name := by
  unfold Harmless
  cases absolute : isAbsolute name with
  | true => rw [join_absolute path absolute, if_pos rfl]
  | false =>
    obtain ⟨names, continues⟩ := inside
    have joined : components (join path name) = components dir ++ (names.map .normal ++ appended name) := by
      rw [components_join nonempty absolute, continues, append_assoc]
    rw [inside_iff joined, if_neg (by decide)]
    constructor
    · intro normal climbs
      obtain ⟨text, impossible⟩ := normal _ (mem_append_right _ climbs)
      cases impossible
    · intro stays part member
      rcases mem_append.mp member with earlier | later
      · obtain ⟨text, _, rfl⟩ := mem_map.mp earlier
        exact ⟨text, rfl⟩
      · rcases mem_appended later with rfl | isNormal
        · exact absurd later stays
        · exact isNormal

def IsEntryName (name : Path) : Prop := separator ∉ name ∧ name ≠ [] ∧ name ≠ [0x2e] ∧ name ≠ [0x2e, 0x2e]

theorem harmless_entryName (isEntry : IsEntryName name) : Harmless dir name := by
  obtain ⟨plain, nonempty, notDot, notDots⟩ := isEntry
  have relative : isAbsolute name = false := by
    cases name with
    | nil => rfl
    | cons byte =>
      have other : byte ≠ separator := fun same => plain (same ▸ .head _)
      simp [isAbsolute, other]
  have whole : split name = [name] := by
    apply splitOnP_eq_singleton
    intro byte member
    have other : byte ≠ separator := fun same => plain (same ▸ member)
    simpa using other
  have single : appended name = [.normal name] := by
    unfold appended
    rw [whole, filterMap_cons_some
      (show component name = some (.normal name) by
        unfold component
        rw [if_neg (by simpa using nonempty), if_neg notDot, if_neg notDots])]
    rfl
  unfold Harmless
  rw [relative, if_neg (by decide), single]
  simp

end Path
end Visor.Fs
