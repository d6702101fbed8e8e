import Mathlib.Data.List.Infix
import SwiftExistential.Proofs.FileTree.Walk
import SwiftExistential.Proofs.Text.Tokens
import SwiftExistential.Sources

/-!
# Canonical locations and paths below a root

A path that leads somewhere has a canonical location: directories all the way, no link at its end,
and names that mean nothing else (`isCanonical_of_canonicalize`). The absolute path of such a
location is read back as its names, whatever became of the tree, as long as no link came in between
(`location_of_locate_render`), and as a path it is the root with these names behind it
(`components_render`).

A path below a root is the root with names behind it, one after the other. However the root is
written, with separators at its end or without, the components of such a path are those of the root
and the names (`components_pathOf`), and what is walked for it is what is walked for the root and
then the names (`parts_pathOf`).

So the two ways to look at a path, as a text that is walked and as a list of components, agree for
all paths that the program makes itself.
-/

set_option autoImplicit false

namespace SwiftExistential

theorem Text.not_mem_of_mem_splitOn {sep : Char} {t part : Text} (h : part ∈ splitOn sep t) :
    sep ∉ part := by
  induction t generalizing part with
  | nil =>
      rw [splitOn, List.mem_singleton] at h
      rw [h]
      exact List.not_mem_nil
  | cons c rest ih =>
      rw [splitOn] at h
      split at h
      · rcases List.mem_cons.mp h with rfl | h
        · exact List.not_mem_nil
        · exact ih h
      · rename_i hc
        cases hrest : splitOn sep rest with
        | nil => exact absurd hrest (splitOn_ne_nil sep rest)
        | cons first others =>
            rw [hrest] at h
            rcases List.mem_cons.mp h with rfl | h
            · have hfirst : sep ∉ first := ih (by rw [hrest]; exact List.mem_cons_self)
              exact fun hmem => (List.mem_cons.mp hmem).elim (fun he => hc he.symm) hfirst
            · exact ih (by rw [hrest]; exact List.mem_cons_of_mem _ h)

namespace FileTree

variable {t : FileTree} {follow : Bool} {n : Nat} {location : Location} {place : Place}

/-! ## Names

A plain name is not empty, holds no separator, and is neither of the two names with a meaning of
their own. -/

/-- A part that can only be read as one name. -/
def IsPlain (part : Text) : Prop := part ≠ [] ∧ '/' ∉ part ∧ IsName part

theorem splitOn_names {name : Text} {names : List Text} (hname : '/' ∉ name)
    (hnames : ∀ other ∈ names, '/' ∉ other) :
    Text.splitOn '/' (name ++ names.flatMap ('/' :: ·)) = name :: names := by
  induction names generalizing name with
  | nil => rw [List.flatMap_nil, List.append_nil, Text.splitOn_of_not_mem hname]
  | cons next names ih =>
      rw [List.flatMap_cons, List.cons_append, Text.splitOn_append_cons hname,
        ih (hnames next List.mem_cons_self) fun other h => hnames other (List.mem_cons_of_mem _ h)]

/-- The path of a location splits into its names, behind an empty part. -/
theorem splitOn_render {name : Text} {names : List Text}
    (h : ∀ other ∈ name :: names, '/' ∉ other) :
    Text.splitOn '/' (render (name :: names)) = [] :: name :: names := by
  rw [render, List.flatMap_cons, List.cons_append, ← List.nil_append ('/' :: _),
    Text.splitOn_append_cons List.not_mem_nil,
    splitOn_names (h name List.mem_cons_self) fun other ho => h other (List.mem_cons_of_mem _ ho)]
  exact List.cons_ne_nil _ _

theorem isAbsolute_render (location : Location) : Path.isAbsolute (render location) = true := by
  cases location with
  | nil => rfl
  | cons name names =>
      rw [render, List.flatMap_cons, List.cons_append]
      · rfl
      · exact List.cons_ne_nil _ _

theorem parts_render (h : ∀ name ∈ location, IsPlain name) (hne : location ≠ []) :
    parts (render location) = location := by
  obtain ⟨name, names, rfl⟩ := List.exists_cons_of_ne_nil hne
  have hlast : ([] :: name :: names).getLast? ≠ some [] := by
    rw [List.getLast?_cons_cons]
    intro hempty
    exact (h [] (List.mem_of_getLast? hempty)).1 rfl
  have hfilter : (name :: names).filter (· != []) = name :: names :=
    List.filter_eq_self.mpr fun other ho => by simpa using (h other ho).1
  rw [parts, splitOn_render fun other ho => (h other ho).2.1]
  simp only [if_neg hlast, List.append_nil, List.filter_cons, bne_self_eq_false,
    Bool.false_eq_true, if_false]
  simpa only [List.filter_cons] using hfilter

theorem component?_of_isPlain {name : Text} (h : IsPlain name) :
    Path.component? name = some (.named name) := by
  obtain ⟨hne, -, hdot, hup, -⟩ := h
  rw [Path.component?, if_neg (not_or.mpr ⟨hne, hdot⟩), if_neg hup]

/-- **The components of the path of a location** are the root and its names. -/
theorem components_render (h : ∀ name ∈ location, IsPlain name) :
    Path.components (render location) = .root :: location.map .named := by
  cases location with
  | nil => rfl
  | cons name names =>
      have hnames : (name :: names).filterMap Path.component? = (name :: names).map .named :=
        List.filterMap_eq_map_iff_forall_eq_some.mpr fun other ho => component?_of_isPlain (h other ho)
      rw [Path.components, if_pos (isAbsolute_render _),
        splitOn_render fun other ho => (h other ho).2.1]
      simpa [Path.component?] using hnames

/-- What is walked holds no separator, and nothing is empty. -/
theorem mem_parts {path part : Text} (h : part ∈ parts path) : part ≠ [] ∧ '/' ∉ part := by
  rw [parts] at h
  rcases List.mem_append.mp h with h | h
  · obtain ⟨hmem, hne⟩ := List.mem_filter.mp h
    exact ⟨by simpa using hne, Text.not_mem_of_mem_splitOn hmem⟩
  · split at h
    · rw [List.mem_singleton.mp h]
      decide
    · cases h

/-! ## Canonical locations

That a location is canonical speaks about the tree at one time. `HasNoLink` is the part of it that
later operations need, and the part that they keep. -/

/-- **A location that is its own canonical form**: plain names, directories on the way, and no link
at the end. -/
structure IsCanonical (t : FileTree) (location : Location) : Prop where
  isPlain : ∀ name ∈ location, IsPlain name
  isWalkable : IsWalkable t location.dropLast
  ne_link : ∀ target, t.get? location ≠ some (.link target)

/-- No link stands at a location or above it. -/
def HasNoLink (t : FileTree) (location : Location) : Prop :=
  ∀ above, above <+: location → ∀ target, t.get? above ≠ some (.link target)

theorem prefix_dropLast_of_ne {above : Location} (h : above <+: location) (hne : above ≠ location) :
    above <+: location.dropLast := by
  rcases List.eq_nil_or_concat location with rfl | ⟨names, name, rfl⟩
  · exact absurd (List.prefix_nil.mp h) hne
  · rw [List.concat_eq_append] at h hne ⊢
    rw [List.dropLast_concat]
    exact (List.prefix_concat_iff.mp h).resolve_left hne

theorem IsCanonical.hasNoLink (h : IsCanonical t location) : HasNoLink t location := by
  intro above habove target hlink
  by_cases heq : above = location
  · exact h.ne_link target (heq ▸ hlink)
  · rw [h.isWalkable above (prefix_dropLast_of_ne habove heq)] at hlink
    cases hlink

/-- A walk that follows links ends at a canonical location. -/
theorem Walks.isCanonical {ps : List Text} (h : Walks t true n location ps place)
    (hwalkable : IsWalkable t location) (hplain : ∀ name ∈ location, IsPlain name)
    (hps : ∀ part ∈ ps, part ≠ [] ∧ '/' ∉ part) : IsCanonical t place.location := by
  -- A part that is a name of its own, put behind plain names.
  have hconcat : ∀ {location : Location} {part : Text}, (∀ name ∈ location, IsPlain name) →
      part ≠ [] ∧ '/' ∉ part → IsName part → ∀ name ∈ location ++ [part], IsPlain name := by
    intro location part hplain hpart hname name hmem
    rcases List.mem_append.mp hmem with hmem | hmem
    · exact hplain name hmem
    · rw [List.mem_singleton.mp hmem]
      exact ⟨hpart.1, hpart.2, hname⟩
  -- Along the walk: it goes through directories only, and it does not stop at a link since links
  -- are followed to the end.
  induction h with
  | here n location =>
      refine ⟨hplain, hwalkable.dropLast, fun target hlink => ?_⟩
      rw [hwalkable.get?] at hlink
      cases hlink
  | dot tail ih => exact ih hwalkable hplain fun part h => hps part (List.mem_cons_of_mem _ h)
  | up tail ih =>
      exact ih hwalkable.dropLast (fun name h => hplain name (List.mem_of_mem_dropLast h))
        fun part h => hps part (List.mem_cons_of_mem _ h)
  | last n location hname hend =>
      refine ⟨hconcat hplain (hps _ List.mem_cons_self) hname, ?_, fun target hlink => ?_⟩
      · rw [List.dropLast_concat]
        exact hwalkable
      · rw [hlink] at hend
        cases hend
  | enter hname hget tail ih =>
      exact ih (hwalkable.concat hget) (hconcat hplain (hps _ List.mem_cons_self) hname)
        fun part h => hps part (List.mem_cons_of_mem _ h)
  | jump hname hget hon htarget tail ih =>
      refine ih (hwalkable.linkBase _) (fun name h => ?_) fun part h => ?_
      · rw [linkBase] at h
        split at h
        · cases h
        · exact hplain name h
      · rcases List.mem_append.mp h with h | h
        · exact mem_parts h
        · exact hps part (List.mem_cons_of_mem _ h)

/-- A walk over the names of a location ends there, if there are no links on the way. -/
theorem Walks.location_eq {ps : List Text} (h : Walks t follow n location ps place)
    (hnames : ∀ part ∈ ps, IsName part) (hlink : HasNoLink t (location ++ ps)) :
    place.location = location ++ ps := by
  induction h with
  | here n location => rw [List.append_nil]
  | dot tail ih => exact absurd rfl (hnames _ List.mem_cons_self).1
  | up tail ih => exact absurd rfl (hnames _ List.mem_cons_self).2.1
  | last n location hname hend => rfl
  | @enter n location part rest place hname hget tail ih =>
      rw [ih (fun part h => hnames part (List.mem_cons_of_mem _ h))
        (by rwa [List.append_assoc, List.singleton_append]), List.append_assoc, List.singleton_append]
  | @jump n location part target rest place hname hget hon htarget tail ih =>
      refine absurd hget (hlink (location ++ [part]) ⟨rest, ?_⟩ target)
      rw [List.append_assoc, List.singleton_append]

/-! ## Looking up paths -/

theorem locate_eq_ok_iff {path : Text} :
    t.locate follow path = .ok place ↔ path ≠ [] ∧ ¬ byteCount path > maxPath ∧
      Walks t follow maxLinks (if Path.isAbsolute path then [] else t.current) (parts path) place := by
  rw [locate, ← walk_eq_ok_iff]
  by_cases hempty : path = []
  · simp [hempty]
  · by_cases hlong : byteCount path > maxPath
    · simp [hempty, hlong]
    · simp [hempty, hlong]

theorem find_eq_ok_iff {path : Text} {node : Node} :
    t.find path = .ok (location, node) ↔ t.locate true path = .ok ⟨location, some node⟩ := by
  rw [find]
  split
  · rename_i e he
    simp [he]
  · rename_i location' he
    simp [he]
  · rename_i location' node' he
    simp [he]

theorem canonicalize_eq_ok_iff {path : Text} :
    t.canonicalize path = .ok location ↔ ∃ node, t.find path = .ok (location, node) := by
  rw [canonicalize]
  cases t.find path with
  | error e => simp [Except.map]
  | ok found =>
      obtain ⟨location', node⟩ := found
      simp [Except.map]

/-- **What an absolute path leads to is canonical.** -/
theorem isCanonical_of_canonicalize {path : Text} (habsolute : Path.isAbsolute path = true)
    (h : t.canonicalize path = .ok location) : IsCanonical t location := by
  obtain ⟨node, hfind⟩ := canonicalize_eq_ok_iff.mp h
  obtain ⟨-, -, hwalks⟩ := locate_eq_ok_iff.mp (find_eq_ok_iff.mp hfind)
  rw [if_pos habsolute] at hwalks
  exact hwalks.isCanonical isWalkable_nil (fun name h => by cases h) fun part h => mem_parts h

/-- **The path of a location without links leads to the location itself**, if it leads anywhere. -/
theorem location_of_locate_render (hplain : ∀ name ∈ location, IsPlain name)
    (hlink : HasNoLink t location) (h : t.locate follow (render location) = .ok place) :
    place.location = location := by
  obtain ⟨-, -, hwalks⟩ := locate_eq_ok_iff.mp h
  rw [if_pos (isAbsolute_render location)] at hwalks
  by_cases hne : location = []
  · subst hne
    -- the path of the root is a separator alone, which stands for a dot
    have htail : Walks t follow maxLinks [] [] place := Walks.of_dot hwalks
    cases htail
    rfl
  · rw [parts_render hplain hne] at hwalks
    exact hwalks.location_eq (fun name h => (hplain name h).2.2) hlink

theorem isAbsolute_join_render (path : Text) :
    Path.isAbsolute (Path.join (render location) path) = true := by
  rw [Path.join]
  split
  · assumption
  · have habsolute := isAbsolute_render location
    cases hrender : render location with
    | nil => rw [hrender] at habsolute; cases habsolute
    | cons c rest =>
        rw [hrender] at habsolute
        split <;> exact habsolute

end FileTree

open SwiftExistential.Path (Component)

/-! ## Names behind a path

A path is put together with one separator between its parts, and none is added where one is already
there. -/

theorem Text.splitOn_append_sep (sep : Char) (l r : Text) :
    splitOn sep (l ++ sep :: r) = splitOn sep l ++ splitOn sep r := by
  induction l with
  | nil => simp [splitOn]
  | cons c l ih =>
      rw [List.cons_append, splitOn, splitOn, ih]
      split
      · rfl
      · cases hl : splitOn sep l with
        | nil => exact absurd hl (splitOn_ne_nil sep l)
        | cons first rest => rfl

namespace FileTree

open Sources (pathOf)

variable {name : Text} {names : List Text}

theorem isAbsolute_eq_false (hname : '/' ∉ name) : Path.isAbsolute name = false := by
  cases name with
  | nil => rfl
  | cons c rest =>
      have hc : c ≠ '/' := fun heq => hname (heq ▸ List.mem_cons_self)
      simpa [Path.isAbsolute] using hc

/-- A path with a name behind it has the parts that it had, without an empty one at its end, and the
name. -/
theorem splitOn_join (hname : '/' ∉ name) (base : Text) :
    ∃ before, Text.splitOn '/' (Path.join base name) = before ++ [name] ∧
      (Text.splitOn '/' base = before ∨ Text.splitOn '/' base = before ++ [[]]) := by
  have hsingle := Text.splitOn_of_not_mem hname
  rw [Path.join, isAbsolute_eq_false hname, if_neg Bool.false_ne_true]
  rcases List.eq_nil_or_concat base with rfl | ⟨start, c, rfl⟩
  · exact ⟨[], hsingle, .inr rfl⟩
  · rw [List.concat_eq_append, List.getLast?_concat]
    by_cases hc : c = '/'
    · subst hc
      refine ⟨Text.splitOn '/' start, ?_, .inr (Text.splitOn_append_sep '/' start [])⟩
      rw [if_pos (by simp), List.append_assoc, List.singleton_append, Text.splitOn_append_sep,
        hsingle]
    · refine ⟨_, ?_, .inl rfl⟩
      rw [if_neg (by simpa using hc), Text.splitOn_append_sep, hsingle]

/-- The parts of a path that are names or dots. -/
def inner (path : Text) : List Text := (Text.splitOn '/' path).filter (· != [])

theorem inner_join (hname : '/' ∉ name) (hne : name ≠ []) (base : Text) :
    inner (Path.join base name) = inner base ++ [name] := by
  obtain ⟨before, hjoin, hbase⟩ := splitOn_join hname base
  have hsame : inner base = before.filter (· != []) := by
    rcases hbase with h | h <;> simp [inner, h]
  rw [inner, hjoin, hsame]
  simpa using hne

/-- What is walked for a path is its parts, and a dot for a separator at its end. -/
theorem parts_eq_inner (path : Text) :
    parts path = inner path ∨ parts path = inner path ++ [['.']] := by
  rw [parts, inner]
  split
  · exact .inr rfl
  · exact .inl (List.append_nil _)

theorem parts_join (hname : '/' ∉ name) (hne : name ≠ []) (base : Text) :
    parts (Path.join base name) = inner base ++ [name] := by
  obtain ⟨before, hjoin, -⟩ := splitOn_join hname base
  have hlast : (Text.splitOn '/' (Path.join base name)).getLast? ≠ some [] := by
    rw [hjoin, List.getLast?_concat]
    exact fun h => hne (Option.some.inj h)
  rw [← inner_join hname hne, parts, if_neg hlast, List.append_nil, inner]

/-- A path that is not empty keeps its start when a name comes behind it. -/
theorem isAbsolute_join (hname : '/' ∉ name) (base : Text) :
    Path.isAbsolute (Path.join base name) = Path.isAbsolute base := by
  rw [Path.join, isAbsolute_eq_false hname, if_neg Bool.false_ne_true]
  cases base with
  | nil => exact isAbsolute_eq_false hname
  | cons c rest => split <;> rfl

theorem head?_splitOn_join (hsep : '/' ∉ name) (hdot : name ≠ ['.']) (base : Text) :
    (Text.splitOn '/' (Path.join base name)).head? = some ['.'] ↔
      (Text.splitOn '/' base).head? = some ['.'] := by
  obtain ⟨before, hjoin, hbase⟩ := splitOn_join hsep base
  rw [hjoin]
  cases before with
  | nil =>
      rcases hbase with hbase | hbase
      · exact absurd hbase (Text.splitOn_ne_nil '/' base)
      · simp [hbase, hdot]
  | cons first before => rcases hbase with hbase | hbase <;> simp [hbase]

/-- **A part behind a path** is one more component, if it means something. -/
theorem components_join_part {part : Text} {c : Component} (hsep : '/' ∉ part)
    (hc : Path.component? part = some c) (base : Text) :
    Path.components (Path.join base part) = Path.components base ++ [c] := by
  have hdot : part ≠ ['.'] := by
    rintro rfl
    cases hc
  have hinner : (Text.splitOn '/' (Path.join base part)).filterMap Path.component? =
      (Text.splitOn '/' base).filterMap Path.component? ++ [c] := by
    obtain ⟨before, hjoin, hbase⟩ := splitOn_join hsep base
    have hnone : Path.component? [] = none := rfl
    rw [hjoin]
    rcases hbase with hbase | hbase <;> simp [hbase, List.filterMap_append, hc, hnone]
  rw [Path.components, Path.components, isAbsolute_join hsep, hinner]
  simp only [head?_splitOn_join hsep hdot]
  split
  · rfl
  · split <;> rfl

theorem components_join (hname : IsPlain name) (base : Text) :
    Path.components (Path.join base name) = Path.components base ++ [.named name] :=
  components_join_part hname.2.1 (component?_of_isPlain hname) base

/-! ## Paths below a root -/

theorem pathOf_concat (root : Text) (names : List Text) (name : Text) :
    pathOf root (names ++ [name]) = Path.join (pathOf root names) name := List.foldl_append

theorem isAbsolute_pathOf (hnames : ∀ name ∈ names, IsPlain name) (root : Text) :
    Path.isAbsolute (pathOf root names) = Path.isAbsolute root := by
  induction names using List.reverseRecOn with
  | nil => rfl
  | append_singleton names name ih =>
      obtain ⟨hbefore, hname⟩ := List.forall_mem_append.mp hnames
      rw [pathOf_concat, isAbsolute_join (hname name (List.mem_singleton_self name)).2.1,
        ih hbefore]

theorem inner_pathOf (hnames : ∀ name ∈ names, IsPlain name) (root : Text) :
    inner (pathOf root names) = inner root ++ names := by
  induction names using List.reverseRecOn with
  | nil => exact (List.append_nil _).symm
  | append_singleton names name ih =>
      obtain ⟨hbefore, hname⟩ := List.forall_mem_append.mp hnames
      obtain ⟨hne, hsep, -⟩ := hname name (List.mem_singleton_self name)
      rw [pathOf_concat, inner_join hsep hne, ih hbefore, List.append_assoc]

/-- **What is walked for a path below a root** are the parts of the root and the names. -/
theorem parts_pathOf (hnames : ∀ name ∈ names, IsPlain name) (hne : names ≠ []) (root : Text) :
    parts (pathOf root names) = inner root ++ names := by
  rcases List.eq_nil_or_concat names with rfl | ⟨before, name, rfl⟩
  · exact absurd rfl hne
  · rw [List.concat_eq_append] at hnames ⊢
    obtain ⟨hbefore, hname⟩ := List.forall_mem_append.mp hnames
    obtain ⟨hne, hsep, -⟩ := hname name (List.mem_singleton_self name)
    rw [pathOf_concat, parts_join hsep hne, inner_pathOf hbefore, List.append_assoc]

/-- **The components of a path below a root** are those of the root and the names. -/
theorem components_pathOf (hnames : ∀ name ∈ names, IsPlain name) (root : Text) :
    Path.components (pathOf root names) = Path.components root ++ names.map .named := by
  induction names using List.reverseRecOn with
  | nil => exact (List.append_nil _).symm
  | append_singleton names name ih =>
      obtain ⟨hbefore, hname⟩ := List.forall_mem_append.mp hnames
      rw [pathOf_concat, components_join (hname name (List.mem_singleton_self name)), ih hbefore,
        List.map_append, List.append_assoc]
      rfl

/-- **The path below a root, seen from there**, is that of the names. -/
theorem relativeTo?_pathOf (hnames : ∀ name ∈ names, IsPlain name) (root : Text) :
    Path.relativeTo? (pathOf root names) root = some (pathOf [] names) := by
  have hbelow : (Path.components root).isPrefixOf
      (Path.components root ++ names.map .named) = true :=
    List.isPrefixOf_iff_prefix.mpr (List.prefix_append _ _)
  rw [Path.relativeTo?, components_pathOf hnames]
  simp only [hbelow, if_true, List.drop_left, Path.ofComponents, List.foldl_map]
  rfl

end FileTree

end SwiftExistential
