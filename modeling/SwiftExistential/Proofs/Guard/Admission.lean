import SwiftExistential.Guard
import SwiftExistential.Proofs.FileTree.Canonical

/-!
# Which files the guard admits, and as files of which package

The guard decides by the canonical location of a path alone (`validate_eq_ok_iff`): what lies in a
checkout is admitted, and otherwise what lies in the project and in no forbidden directory. The
check for a checkout comes first, so a directory that is forbidden as a toolchain keeps out
everything but the checkouts in it, or around it (`validate_in_toolchain_iff`).

The package of an admitted file is found in its path. The components are scanned for the first
package in a directory of checkouts, and the path of the package is put together again from the
components up to there. So the package of a file is the shortest beginning of its path that ends in
a package, and this beginning is all that it depends on: whatever stands behind it, other checkouts
too, leads to the same package (`dependencyPackage?_outermost`).
-/

set_option autoImplicit false

namespace SwiftExistential

open SwiftExistential.Path (Component components ofComponents)
open FileTree (IsPlain locationOf)

/-! ## Checkouts

A location lies in a checkout if its names have a directory of checkouts in one of the directories
that hold them, and the name of a package behind it. -/

/-- A location of a package in a directory of checkouts, or below one. -/
def InCheckout (location : Location) : Prop :=
  ∃ before holder package after,
    location = before ++ holder :: "checkouts".toList :: package :: after ∧ holder ∈ checkoutParents

theorem packageComponents?_isSome_iff (cs : List Component) :
    (packageComponents? cs).isSome = true ↔
      ∃ before a b c after, cs = before ++ a :: b :: c :: after ∧ isCheckout a b c = true := by
  fun_induction packageComponents? cs with
  | case1 a b c rest h => exact ⟨fun _ => ⟨[], a, b, c, rest, rfl, h⟩, fun _ => rfl⟩
  | case2 a b c rest h ih =>
      rw [Option.isSome_map, ih]
      constructor
      · rintro ⟨before, a', b', c', after, heq, hcheckout⟩
        exact ⟨a :: before, a', b', c', after, by rw [heq]; rfl, hcheckout⟩
      · rintro ⟨before, a', b', c', after, heq, hcheckout⟩
        cases before with
        | nil =>
            -- the first three components are no package
            simp only [List.nil_append, List.cons.injEq] at heq
            obtain ⟨rfl, rfl, rfl, rfl⟩ := heq
            exact absurd hcheckout h
        | cons first before =>
            exact ⟨before, a', b', c', after, (List.cons.inj heq).2, hcheckout⟩
  | case3 cs hshort =>
      refine ⟨fun h => absurd h Bool.false_ne_true, ?_⟩
      rintro ⟨before, a, b, c, after, rfl, -⟩
      cases before with
      | nil => exact absurd rfl (hshort a b c after)
      | cons x before =>
          cases before with
          | nil => exact absurd rfl (hshort x a b (c :: after))
          | cons y before =>
              cases before with
              | nil => exact absurd rfl (hshort x y a (b :: c :: after))
              | cons z before => exact absurd rfl (hshort x y z (before ++ a :: b :: c :: after))

theorem isCheckout_named_iff {holder middle package : Text} :
    isCheckout (.named holder) (.named middle) (.named package) = true ↔
      middle = "checkouts".toList ∧ holder ∈ checkoutParents := by
  simp [isCheckout, Component.text]

/-- **A canonical location belongs to a package if and only if it lies in a checkout.** -/
theorem dependencyPackage?_isSome_iff {location : Location} (h : ∀ name ∈ location, IsPlain name) :
    (dependencyPackage? (FileTree.render location)).isSome = true ↔ InCheckout location := by
  rw [dependencyPackage?, Option.isSome_map, FileTree.components_render h,
    packageComponents?_isSome_iff]
  constructor
  · rintro ⟨before, a, b, c, after, heq, hcheckout⟩
    cases before with
    | nil =>
        -- the root is no directory of checkouts
        simp only [List.nil_append, List.cons.injEq] at heq
        rw [← heq.1] at hcheckout
        simp [isCheckout, Component.text, checkoutParents] at hcheckout
    | cons first before =>
        rw [List.cons_append, List.cons.injEq] at heq
        obtain ⟨names, behind, rfl, -, hbehind⟩ := List.map_eq_append_iff.mp heq.2
        obtain ⟨holder, behind, rfl, rfl, hmiddle⟩ := List.map_eq_cons_iff.mp hbehind
        obtain ⟨middle, behind, rfl, rfl, hpackage⟩ := List.map_eq_cons_iff.mp hmiddle
        obtain ⟨package, behind, rfl, rfl, -⟩ := List.map_eq_cons_iff.mp hpackage
        obtain ⟨rfl, hholder⟩ := isCheckout_named_iff.mp hcheckout
        exact ⟨names, holder, package, behind, rfl, hholder⟩
  · rintro ⟨before, holder, package, after, rfl, hholder⟩
    refine ⟨.root :: before.map .named, .named holder, .named "checkouts".toList, .named package,
      after.map .named, ?_, isCheckout_named_iff.mpr ⟨rfl, hholder⟩⟩
    simp only [List.map_append, List.map_cons, List.cons_append]

namespace Guard

/-! ## Admission

Everything that the guard says about a path it says about the location that the path leads to. A
path that leads nowhere is refused. -/

variable {guard : Guard} {tree : FileTree} {path : Text} {location : Location} {owner : FileOwner}

theorem find?_forbidden_eq_none_iff :
    guard.forbidden.find? (·.isPrefixOf location) = none ↔
      ∀ directory ∈ guard.forbidden, ¬ directory <+: location := by
  simp only [List.find?_eq_none, List.isPrefixOf_iff_prefix]

/-- **What the guard admits**: a file of a checkout, or a file of the project that no forbidden
directory holds, at its canonical location. -/
theorem validate_eq_ok_iff :
    guard.validate tree path = .ok (location, owner) ↔
      tree.canonicalize (Path.join (FileTree.render guard.root) path) = .ok location ∧
        ((∃ package, dependencyPackage? (FileTree.render location) = some package ∧
            owner = .dependency package) ∨
          dependencyPackage? (FileTree.render location) = none ∧ owner = .project ∧
            guard.root <+: location ∧ ∀ directory ∈ guard.forbidden, ¬ directory <+: location) := by
  constructor
  -- Along the branches of the check: the path is found, then a dependency is admitted before the
  -- root and the forbidden directories are looked at.
  · intro h
    rw [validate] at h
    split at h
    · cases h
    · rename_i found hfound
      split at h
      · rename_i package hpackage
        cases h
        exact ⟨hfound, .inl ⟨package, hpackage, rfl⟩⟩
      · rename_i hpackage
        split at h
        · cases h
        · rename_i hroot
          split at h
          · cases h
          · rename_i hforbidden
            cases h
            rw [Bool.not_eq_true', Bool.not_eq_false, List.isPrefixOf_iff_prefix] at hroot
            exact ⟨hfound, .inr ⟨hpackage, rfl, hroot, find?_forbidden_eq_none_iff.mp hforbidden⟩⟩
  · rintro ⟨hfound, ⟨package, hpackage, rfl⟩ | ⟨hpackage, rfl, hroot, hfree⟩⟩
    · simp only [validate, hfound, hpackage]
    · simp only [validate, hfound, hpackage, List.isPrefixOf_iff_prefix.mpr hroot, Bool.not_true,
        Bool.false_eq_true, if_false, find?_forbidden_eq_none_iff.mpr hfree]

theorem isCanonical_of_validate (h : guard.validate tree path = .ok (location, owner)) :
    FileTree.IsCanonical tree location :=
  FileTree.isCanonical_of_canonicalize (FileTree.isAbsolute_join_render path)
    (validate_eq_ok_iff.mp h).1

/-! ## Toolchains -/

/-- The canonical directory of a toolchain, as the guard of a project knows it: the one it was
given, or the one of the downloaded toolchains. -/
def IsToolchain (tree : FileTree) (home toolchain : Option Text) (directory : Location) : Prop :=
  (∃ path, toolchain = some path ∧ tree.canonicalize path = .ok directory) ∨
    ∃ path, home = some path ∧
      tree.canonicalize (Path.join path downloadedToolchains) = .ok directory

theorem mem_forbidden_of_isToolchain {home toolchain : Option Text} {project : Text}
    {directory : Location} (hguard : Guard.make tree home project toolchain = .ok guard)
    (h : IsToolchain tree home toolchain directory) : directory ∈ guard.forbidden := by
  rw [Guard.make] at hguard
  cases hroot : tree.canonicalize project with
  | error cause => rw [hroot] at hguard; cases hguard
  | ok root =>
      rw [hroot] at hguard
      cases hguard
      simp only [forbiddenDirectories, List.mem_filterMap, List.mem_cons, List.not_mem_nil,
        or_false]
      rcases h with ⟨path, rfl, hpath⟩ | ⟨path, rfl, hpath⟩
      · exact ⟨some path, .inl rfl, by simp only [Option.bind_some, hpath]; rfl⟩
      · exact ⟨some (Path.join path downloadedToolchains), .inr (.inl rfl),
          by simp only [Option.bind_some, hpath]; rfl⟩

/-- **Which files of a toolchain are admitted**: those in a checkout, and only as files of a
dependency. -/
theorem validate_in_toolchain_iff (tree later : FileTree) (home toolchain : Option Text)
    (project : Text) (guard : Guard) (directory : Location) (path : Text) (location : Location)
    (hguard : Guard.make tree home project toolchain = .ok guard)
    (htoolchain : IsToolchain tree home toolchain directory)
    (hpath : later.canonicalize (Path.join (FileTree.render guard.root) path) = .ok location)
    (hbelow : directory <+: location) :
    ((∃ admitted, guard.validate later path = .ok admitted) ↔ InCheckout location) ∧
      ∀ admitted, guard.validate later path = .ok admitted →
        ∃ package, admitted = (location, .dependency package) := by
  have hforbidden := mem_forbidden_of_isToolchain hguard htoolchain
  -- In a forbidden directory only the first test of the guard can admit, the one for checkouts.
  have honly : ∀ admitted, guard.validate later path = .ok admitted →
      ∃ package, dependencyPackage? (FileTree.render location) = some package ∧
        admitted = (location, .dependency package) := by
    rintro ⟨found, owner⟩ hadmitted
    obtain ⟨hfound, hcases⟩ := validate_eq_ok_iff.mp hadmitted
    rw [hpath, Except.ok.injEq] at hfound
    subst hfound
    rcases hcases with ⟨package, hpackage, rfl⟩ | ⟨-, -, -, hfree⟩
    · exact ⟨package, hpackage, rfl⟩
    · exact absurd hbelow (hfree directory hforbidden)
  have hplain := (FileTree.isCanonical_of_canonicalize
    (FileTree.isAbsolute_join_render path) hpath).isPlain
  rw [← dependencyPackage?_isSome_iff hplain]
  refine ⟨⟨?_, fun hsome => ?_⟩, fun admitted hadmitted => ?_⟩
  · rintro ⟨admitted, hadmitted⟩
    obtain ⟨package, hpackage, -⟩ := honly admitted hadmitted
    rw [hpackage, Option.isSome_some]
  · obtain ⟨package, hpackage⟩ := Option.isSome_iff_exists.mp hsome
    exact ⟨(location, .dependency package),
      validate_eq_ok_iff.mpr ⟨hpath, .inl ⟨package, hpackage, rfl⟩⟩⟩
  · obtain ⟨package, -, hadmitted⟩ := honly admitted hadmitted
    exact ⟨package, hadmitted⟩

/-! ### A checkout in a toolchain -/

/-- The directory of a toolchain that a project holds. -/
def toolchainDirectory : Location := locationOf "proj/Xcode.app"

def toolchainFile : Location := toolchainDirectory ++ ["F.swift".toList]

def checkoutFile : Location :=
  toolchainDirectory ++ locationOf "SourcePackages/checkouts/Dep/F.swift"

/-- The project with these files. -/
def treeWithToolchain : FileTree :=
  .ofEntries [(toolchainFile, .file .empty 0o644), (checkoutFile, .file .empty 0o644)]

def guardWithToolchain : Guard := ⟨toolchainDirectory.dropLast, [toolchainDirectory]⟩

/-- A file of the toolchain that lies in no checkout is refused. -/
theorem validate_in_toolchain_iff_of_plain_file :
    Guard.make treeWithToolchain none (FileTree.render toolchainDirectory.dropLast)
      (some (FileTree.render toolchainDirectory)) = .ok guardWithToolchain ∧
    IsToolchain treeWithToolchain none (some (FileTree.render toolchainDirectory))
      toolchainDirectory ∧
    treeWithToolchain.canonicalize (Path.join (FileTree.render guardWithToolchain.root)
      (FileTree.render toolchainFile)) = .ok toolchainFile ∧
    ¬ ∃ admitted, guardWithToolchain.validate treeWithToolchain (FileTree.render toolchainFile) =
      .ok admitted := by
  have hfound : Guard.make treeWithToolchain none (FileTree.render toolchainDirectory.dropLast)
        (some (FileTree.render toolchainDirectory)) = .ok guardWithToolchain ∧
      treeWithToolchain.canonicalize (FileTree.render toolchainDirectory) = .ok toolchainDirectory ∧
      treeWithToolchain.canonicalize (Path.join (FileTree.render guardWithToolchain.root)
        (FileTree.render toolchainFile)) = .ok toolchainFile ∧
      "checkouts".toList ∉ toolchainFile := by
    unfold guardWithToolchain treeWithToolchain checkoutFile toolchainFile toolchainDirectory
      locationOf
    repeat rewrite [String.toList_ofList]
    decide
  obtain ⟨hguard, hdirectory, hpath, hplain⟩ := hfound
  have htoolchain : IsToolchain treeWithToolchain none (some (FileTree.render toolchainDirectory))
      toolchainDirectory := .inl ⟨_, rfl, hdirectory⟩
  refine ⟨hguard, htoolchain, hpath, ?_⟩
  rw [(validate_in_toolchain_iff treeWithToolchain treeWithToolchain none _ _ _ _ _ _ hguard
    htoolchain hpath (List.prefix_append _ _)).1]
  rintro ⟨before, holder, package, after, heq, -⟩
  -- no name of the path is that of a directory of checkouts
  exact hplain (by simp [heq])

/-- A file in a checkout of the toolchain is admitted. -/
theorem checkout_in_toolchain_is_admitted :
    Guard.make treeWithToolchain none (FileTree.render toolchainDirectory.dropLast)
      (some (FileTree.render toolchainDirectory)) = .ok guardWithToolchain ∧
    treeWithToolchain.canonicalize (FileTree.render toolchainDirectory) = .ok toolchainDirectory ∧
    guardWithToolchain.validate treeWithToolchain (FileTree.render checkoutFile) =
      .ok (checkoutFile, .dependency (FileTree.render checkoutFile.dropLast)) ∧
    toolchainDirectory <+: checkoutFile := by
  unfold guardWithToolchain treeWithToolchain checkoutFile toolchainFile toolchainDirectory
    locationOf
  repeat rewrite [String.toList_ofList]
  decide

end Guard

/-! ## The first package among components

The scan looks at two components at a time. A beginning is described by the list of its components,
so that "shortest" can be said of prefixes. -/

/-- **Components that end in a package**: a directory of checkouts, and a name in it. -/
def EndsInPackage (cs : List Component) : Prop :=
  ∃ before holder name,
    cs = before ++ [Component.named holder, .named "checkouts".toList, .named name] ∧ holder ∈ checkoutParents

/-- **The first package among components**: the shortest beginning that ends in one. -/
structure IsFirstPackage (cs package : List Component) : Prop where
  below : package <+: cs
  ends : EndsInPackage package
  shortest : ∀ other, other <+: cs → EndsInPackage other → package <+: other

variable {cs cs' package package' : List Component}

theorem exists_named_of_mem_checkoutParents {a : Component} (h : a.text ∈ checkoutParents) :
    ∃ holder, a = .named holder := by
  unfold checkoutParents at h
  repeat rewrite [String.toList_ofList] at h
  cases a with
  | root => simp [Component.text] at h
  | current => simp [Component.text] at h
  | parent => simp [Component.text] at h
  | named holder => exact ⟨holder, rfl⟩

theorem eq_named_of_text_eq_checkouts {b : Component} (h : b.text = "checkouts".toList) :
    b = .named "checkouts".toList := by
  rewrite [String.toList_ofList] at h ⊢
  cases b with
  | root => simp [Component.text] at h
  | current => simp [Component.text] at h
  | parent => simp [Component.text] at h
  | named middle => exact congrArg Component.named h

/-- Only names can be a package and the directories that hold it. -/
theorem isCheckout_iff {a b c : Component} :
    isCheckout a b c = true ↔ ∃ holder name, holder ∈ checkoutParents ∧
      [a, b, c] = [.named holder, .named "checkouts".toList, .named name] := by
  constructor
  · intro h
    simp only [isCheckout, Bool.and_eq_true, beq_iff_eq, List.contains_iff_mem] at h
    obtain ⟨⟨hmiddle, hholder⟩, hpackage⟩ := h
    obtain ⟨holder, rfl⟩ := exists_named_of_mem_checkoutParents hholder
    rw [eq_named_of_text_eq_checkouts hmiddle]
    cases c with
    | root => cases hpackage
    | current => cases hpackage
    | parent => cases hpackage
    | named name => exact ⟨holder, name, hholder, rfl⟩
  · rintro ⟨holder, name, hholder, heq⟩
    simp only [List.cons.injEq, and_true] at heq
    obtain ⟨rfl, rfl, rfl⟩ := heq
    exact isCheckout_named_iff.mpr ⟨rfl, hholder⟩

theorem exists_endsInPackage_iff :
    (∃ other, other <+: cs ∧ EndsInPackage other) ↔ (packageComponents? cs).isSome = true := by
  rw [packageComponents?_isSome_iff]
  constructor
  · rintro ⟨-, ⟨after, rfl⟩, before, holder, name, rfl, hholder⟩
    exact ⟨before, .named holder, .named "checkouts".toList, .named name, after, by simp,
      isCheckout_named_iff.mpr ⟨rfl, hholder⟩⟩
  · rintro ⟨before, a, b, c, after, rfl, hcheckout⟩
    obtain ⟨holder, name, hholder, heq⟩ := isCheckout_iff.mp hcheckout
    exact ⟨before ++ [a, b, c], ⟨after, by simp⟩, before, holder, name, by rw [heq], hholder⟩

theorem IsFirstPackage.unique (h : IsFirstPackage cs package) (h' : IsFirstPackage cs package') :
    package = package' := by
  have hle : package <+: package' := h.shortest package' h'.below h'.ends
  have hge : package' <+: package := h'.shortest package h.below h.ends
  exact hle.eq_of_length (Nat.le_antisymm hle.length_le hge.length_le)

/-- **What stands behind a package is of no account.** -/
theorem IsFirstPackage.of_below (h : IsFirstPackage cs package) (hbelow : package <+: cs') :
    IsFirstPackage cs' package := by
  refine ⟨hbelow, h.ends, fun other hother hends => ?_⟩
  rcases List.prefix_or_prefix_of_prefix hbelow hother with hle | hle
  · exact hle
  · -- a shorter one would have come first before, too
    exact h.shortest other (hle.trans h.below) hends

/-- The scan goes one component further where no package stands. -/
theorem IsFirstPackage.cons {a b c : Component} {rest : List Component}
    (hcheckout : ¬ isCheckout a b c = true) (h : IsFirstPackage (b :: c :: rest) package) :
    IsFirstPackage (a :: b :: c :: rest) (a :: package) := by
  obtain ⟨before, holder, name, heq, hholder⟩ := h.ends
  refine ⟨List.cons_prefix_cons.mpr ⟨rfl, h.below⟩, ⟨a :: before, holder, name, by rw [heq]; rfl, hholder⟩,
    fun other hother hends => ?_⟩
  obtain ⟨before', holder', name', rfl, hholder'⟩ := hends
  cases before' with
  | nil =>
      -- the first three components would be a package
      obtain ⟨after, hafter⟩ := hother
      simp only [List.nil_append, List.cons_append, List.cons.injEq] at hafter
      obtain ⟨rfl, rfl, rfl, -⟩ := hafter
      exact absurd (isCheckout_named_iff.mpr ⟨rfl, hholder'⟩) hcheckout
  | cons d before' =>
      rw [List.cons_append] at hother ⊢
      obtain ⟨rfl, hrest⟩ := List.cons_prefix_cons.mp hother
      exact List.cons_prefix_cons.mpr
        ⟨rfl, h.shortest _ hrest ⟨before', holder', name', rfl, hholder'⟩⟩

theorem isFirstPackage_of_packageComponents? (h : packageComponents? cs = some package) :
    IsFirstPackage cs package := by
  fun_induction packageComponents? cs generalizing package with
  | case1 a b c rest hcheckout =>
      cases h
      obtain ⟨holder, name, hholder, heq⟩ := isCheckout_iff.mp hcheckout
      refine ⟨⟨rest, rfl⟩, ⟨[], holder, name, heq, hholder⟩, fun other hother hends => ?_⟩
      obtain ⟨before', holder', name', rfl, -⟩ := hends
      refine List.prefix_of_prefix_length_le ⟨rest, rfl⟩ hother ?_
      simp
  | case2 a b c rest hcheckout ih =>
      obtain ⟨found, hfound, rfl⟩ := Option.map_eq_some_iff.mp h
      exact (ih hfound).cons hcheckout
  | case3 cs hshort => cases h

/-- **The scan finds the first package.** -/
theorem packageComponents?_eq_some_iff :
    packageComponents? cs = some package ↔ IsFirstPackage cs package := by
  constructor
  · exact isFirstPackage_of_packageComponents?
  · intro h
    have hsome : (packageComponents? cs).isSome = true :=
      exists_endsInPackage_iff.mp ⟨package, h.below, h.ends⟩
    obtain ⟨found, hfound⟩ := Option.isSome_iff_exists.mp hsome
    rw [hfound, (isFirstPackage_of_packageComponents? hfound).unique h]

/-! ## Paths put together from components

Components are texts with a mark for the root, and a beginning of a path is written again with
separators between them. -/

theorem text_of_component? {part : Text} {c : Component} (h : Path.component? part = some c) :
    c.text = part := by
  unfold Path.component? at h
  split at h
  · cases h
  · split at h
    · rename_i hup
      cases h
      exact hup.symm
    · cases h
      rfl

/-- Behind its first component, a path has what its parts mean. -/
theorem exists_part_of_mem_tail {path : Text} {c : Component} (h : c ∈ (components path).tail) :
    ∃ part, '/' ∉ part ∧ Path.component? part = some c := by
  have hinner : c ∈ (Text.splitOn '/' path).filterMap Path.component? := by
    rw [components] at h
    split at h
    · exact h
    · split at h
      · exact h
      · exact List.mem_of_mem_tail h
  obtain ⟨part, hpart, hc⟩ := List.mem_filterMap.mp hinner
  exact ⟨part, Text.not_mem_of_mem_splitOn hpart, hc⟩

/-- The first component of a path is the root, a dot, or what a part means. -/
theorem head?_components {path : Text} {c : Component} (h : (components path).head? = some c) :
    c = .root ∨ c = .current ∨ ∃ part, '/' ∉ part ∧ Path.component? part = some c := by
  rw [components] at h
  split at h
  · exact .inl (Option.some.inj h).symm
  · split at h
    · exact .inr (.inl (Option.some.inj h).symm)
    · obtain ⟨part, hpart, hc⟩ := List.mem_filterMap.mp (List.mem_of_head? h)
      exact .inr (.inr ⟨part, Text.not_mem_of_mem_splitOn hpart, hc⟩)

/-- **A beginning of a path, put together from its components,** has these components. -/
theorem components_ofComponents {path : Text} (h : cs <+: components path) :
    components (ofComponents cs) = cs := by
  -- From the last component backwards, as `ofComponents` joins one more at the end.
  induction cs using List.reverseRecOn with
  | nil => rfl
  | append_singleton before c ih =>
      have hbefore : components (ofComponents before) = before :=
        ih ((List.prefix_append before [c]).trans h)
      have hjoin : ofComponents (before ++ [c]) = Path.join (ofComponents before) c.text := by
        rw [ofComponents, List.foldl_append]
        rfl
      have hpart : ∀ part, '/' ∉ part → Path.component? part = some c →
          components (ofComponents (before ++ [c])) = before ++ [c] := by
        intro part hsep hc
        rw [hjoin, text_of_component? hc, FileTree.components_join_part hsep hc, hbefore]
      obtain ⟨after, hafter⟩ := h
      -- The first component may be the root or a leading dot; every later one is a part between
      -- separators.
      cases before with
      | nil =>
          have hhead : (components path).head? = some c := by
            rw [← hafter]
            rfl
          rcases head?_components hhead with rfl | rfl | ⟨part, hsep, hc⟩
          · rfl
          · rfl
          · exact hpart part hsep hc
      | cons first before =>
          have htail : c ∈ (components path).tail := by
            rw [← hafter]
            simp
          obtain ⟨part, hsep, hc⟩ := exists_part_of_mem_tail htail
          exact hpart part hsep hc

/-! ## The package of a file -/

theorem dependencyPackage?_eq_some_iff {path package : Text} :
    dependencyPackage? path = some package ↔
      IsFirstPackage (components path) (components package) ∧
        package = ofComponents (components package) := by
  rw [dependencyPackage?, Option.map_eq_some_iff]
  constructor
  · rintro ⟨found, hfound, rfl⟩
    have hfirst := packageComponents?_eq_some_iff.mp hfound
    have hsame : components (ofComponents found) = found := components_ofComponents hfirst.below
    rw [hsame]
    exact ⟨hfirst, rfl⟩
  · rintro ⟨hfirst, hpath⟩
    exact ⟨components package, packageComponents?_eq_some_iff.mpr hfirst, hpath.symm⟩

theorem eq_of_packageManifest_eq {path path' package package' : Text}
    (h : dependencyPackage? path = some package) (h' : dependencyPackage? path' = some package')
    (heq : packageManifest package = packageManifest package') : package = package' := by
  have hname : FileTree.IsPlain "Package.swift".toList := by
    unfold FileTree.IsPlain FileTree.IsName
    decide
  have hcomponents : components package ++ [.named "Package.swift".toList] =
      components package' ++ [.named "Package.swift".toList] := by
    rw [← FileTree.components_join hname, ← FileTree.components_join hname]
    exact congrArg components heq
  have hsame : components package = components package' := List.append_cancel_right hcomponents
  obtain ⟨-, hpackage⟩ := dependencyPackage?_eq_some_iff.mp h
  obtain ⟨-, hpackage'⟩ := dependencyPackage?_eq_some_iff.mp h'
  rw [hpackage, hpackage', hsame]

/-- **The package of a file is the outermost one that its path leads through**: the shortest
beginning of the path that ends in a package. A file has this package, or its manifest, if and only
if its path begins with the package. A file has no package if and only if no beginning of its path
ends in one. -/
theorem dependencyPackage?_outermost (path : Text) :
    (∀ package, dependencyPackage? path = some package →
      IsFirstPackage (components path) (components package) ∧
        ∀ other,
          (dependencyPackage? other = some package ↔ components package <+: components other) ∧
          ((dependencyPackage? other).map packageManifest = some (packageManifest package) ↔
            components package <+: components other)) ∧
      (dependencyPackage? path = none ↔ ∀ cs, cs <+: components path → ¬ EndsInPackage cs) := by
  refine ⟨fun package hpackage => ?_, ?_⟩
  · obtain ⟨hfirst, hpath⟩ := dependencyPackage?_eq_some_iff.mp hpackage
    -- The shortest prefix that ends in a package is the same one for every path below it.
    have hsame : ∀ other, dependencyPackage? other = some package ↔
        components package <+: components other := by
      intro other
      constructor
      · intro hother
        exact (dependencyPackage?_eq_some_iff.mp hother).1.below
      · intro hbelow
        exact dependencyPackage?_eq_some_iff.mpr ⟨hfirst.of_below hbelow, hpath⟩
    refine ⟨hfirst, fun other => ⟨hsame other, ?_⟩⟩
    rw [← hsame other, Option.map_eq_some_iff]
    constructor
    · rintro ⟨package', hother, hmanifest⟩
      rw [hother, eq_of_packageManifest_eq hother hpackage hmanifest]
    · intro hother
      exact ⟨package, hother, rfl⟩
  · rw [dependencyPackage?, Option.map_eq_none_iff, ← Option.not_isSome_iff_eq_none,
      ← exists_endsInPackage_iff]
    simp only [not_exists, not_and]

/-- Of two packages that stand in each other, the outer one counts. -/
theorem dependencyPackage?_of_nested :
    dependencyPackage? "/p/.build/checkouts/A/SourcePackages/checkouts/B/F.swift".toList =
        some "/p/.build/checkouts/A".toList ∧
      IsFirstPackage (components "/p/.build/checkouts/A/SourcePackages/checkouts/B/F.swift".toList)
        (components "/p/.build/checkouts/A".toList) := by
  have hpackage :
      dependencyPackage? "/p/.build/checkouts/A/SourcePackages/checkouts/B/F.swift".toList =
      some "/p/.build/checkouts/A".toList := by
    repeat rewrite [String.toList_ofList]
    decide
  exact ⟨hpackage, ((dependencyPackage?_outermost _).1 _ hpackage).1⟩

end SwiftExistential
