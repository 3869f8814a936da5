import JsonClasses.Proofs.Disk.Files
import JsonClasses.Proofs.Disk.Parent
import JsonClasses.Proofs.Generator.Outcome

/-!
# Where a source file goes

Packages and class names that are accepted are made of identifiers, and an identifier is no path
but one name. So a source file lies below the directory that was asked for, and its path tells the
package and the class.
-/
namespace JsonClasses

namespace Java

/-- The directories of a package, outermost first; the empty package has none. -/
def packageDirectories (package : String) : List String :=
  if package = "" then [] else packageSegments package

/-- What a source file adds to the path of its directory. -/
def sourceNames (package className : String) : List String :=
  packageDirectories package ++ [className ++ ".java"]

variable {package className : String}

theorem isName_of_isIdentifier {name : String} (h : isIdentifier name = true) :
    Path.IsName name := by
  have hdot : continuesIdentifier '.' = false := by decide
  have hslash : continuesIdentifier '/' = false := by decide
  refine ⟨?_, ?_, ?_, not_mem_of_isIdentifier h hslash⟩
  · rintro rfl
    exact absurd h (by decide)
  all_goals
    rintro rfl
    exact not_mem_of_isIdentifier h hdot (by decide)

theorem isName_sourceFile (h : isIdentifier className = true) :
    Path.IsName (className ++ ".java") := by
  have hslash : '/' ∉ className.toList := (isName_of_isIdentifier h).no_slash
  have hlong : ∀ short : String, short.toList.length < 5 → className ++ ".java" ≠ short := by
    rintro short hshort rfl
    rw [String.toList_append, List.length_append] at hshort
    have hjava : ".java".toList.length = 5 := rfl
    omega
  refine ⟨hlong "" (by decide), hlong "." (by decide), hlong ".." (by decide), ?_⟩
  rw [String.toList_append, List.mem_append, not_or]
  exact ⟨hslash, by decide⟩

theorem isIdentifier_of_mem_packageDirectories (h : isPackage package = true) :
    ∀ segment ∈ packageDirectories package, isIdentifier segment = true := by
  unfold packageDirectories
  split
  · exact List.forall_mem_nil _
  · rename_i hne
    rw [isPackage, Bool.or_eq_true, String.isEmpty_iff, List.all_eq_true] at h
    exact h.resolve_left hne

theorem isName_of_mem_sourceNames (hpackage : isPackage package = true)
    (hname : isIdentifier className = true) :
    ∀ name ∈ sourceNames package className, Path.IsName name := by
  rw [sourceNames, List.forall_mem_append, List.forall_mem_singleton]
  exact ⟨fun segment hsegment => isName_of_isIdentifier
    (isIdentifier_of_mem_packageDirectories hpackage segment hsegment), isName_sourceFile hname⟩

theorem sourceNames_ne_nil (package className : String) : sourceNames package className ≠ [] :=
  List.concat_ne_nil _ _

theorem intercalate_packageDirectories (package : String) :
    String.intercalate "." (packageDirectories package) = package := by
  unfold packageDirectories
  split
  · rename_i hempty
    rw [hempty, String.intercalate_nil]
  · exact Text.intercalate_separated '.' package

/-- In an accepted package no segment is empty, so the path leaves none out. -/
theorem filter_packageSegments (h : isPackage package = true) :
    (packageSegments package).filter (fun segment => !segment.isEmpty) =
      packageDirectories package := by
  have hidentifiers := isIdentifier_of_mem_packageDirectories h
  unfold packageDirectories at hidentifiers ⊢
  -- The empty package has one segment, which is empty; any other has none of those.
  split
  · rename_i hempty
    rw [hempty]
    rfl
  · rename_i hne
    rw [if_neg hne] at hidentifiers
    rw [List.filter_eq_self]
    intro segment hsegment
    have hname := isName_of_isIdentifier (hidentifiers segment hsegment)
    simpa using hname.ne_empty

theorem sourcePath_eq (hpackage : isPackage package = true) (hname : isIdentifier className = true)
    (directory : String) :
    sourcePath directory package className =
      (sourceNames package className).foldl Path.join directory := by
  have hfile := isName_sourceFile hname
  have hsegments : ∀ segment ∈ packageDirectories package, Path.IsName segment :=
    fun segment hsegment => isName_of_isIdentifier
      (isIdentifier_of_mem_packageDirectories hpackage segment hsegment)
  rw [sourcePath, packageDirectory, filter_packageSegments hpackage, sourceNames,
    List.foldl_append, List.foldl_cons, List.foldl_nil]
  have hrelative : Path.isAbsolute ((packageDirectories package).foldl Path.join "") = false := by
    rw [Path.isAbsolute_foldl_join hsegments]
    rfl
  rw [Path.join_of_relative hrelative]
  by_cases hnone : packageDirectories package = []
  -- The empty package leaves a slash behind, which the file stands behind anyway.
  · rw [hnone, List.foldl_nil, List.foldl_nil, String.append_empty,
      Path.join_of_relative hfile.isAbsolute_eq_false,
      Path.join_of_relative hfile.isAbsolute_eq_false, Path.stem_stem]
  · have hstem : Path.stem "" = "" := if_pos (.inl rfl)
    rw [Path.foldl_join hnone hsegments "", Path.foldl_join hnone hsegments directory, hstem,
      String.empty_append]

/-- The last part of the path is a name, so there is a parent. -/
theorem exists_parent_sourcePath (hpackage : isPackage package = true)
    (hname : isIdentifier className = true) (directory : String) :
    ∃ parent, Path.parent? (sourcePath directory package className) = some parent := by
  obtain ⟨front, hparts, _⟩ := Path.exists_parts_foldl_join (sourceNames_ne_nil package className)
    (isName_of_mem_sourceNames hpackage hname) directory
  have hfile := isName_sourceFile hname
  have hlast : Path.isVoid (className ++ ".java") = false := by
    rw [Bool.eq_false_iff, ne_eq, Path.isVoid_iff, not_or]
    exact ⟨hfile.ne_empty, hfile.ne_here⟩
  have hkept : Path.dropVoidEnd (Path.parts (sourcePath directory package className)) =
      front ++ packageDirectories package ++ [className ++ ".java"] := by
    rw [sourcePath_eq hpackage hname, hparts, sourceNames, ← List.append_assoc,
      Path.dropVoidEnd_of_not_isVoid hlast]
  exact ⟨_, Path.parent?_eq hkept (Path.concat_ne_of_not_isVoid hlast _)⟩

end Java

variable {reader : String → Except Json.SyntaxError Json} {settings : Settings}
  {package className text source : String}

theorem isPackage_of_render {tree : ClassTree} (h : Java.render package tree = .ok source) :
    Java.isPackage package = true := by
  unfold Java.render Java.checkPackage at h
  cases hpackage : Java.isPackage package with
  | true => rfl
  | false =>
    rw [hpackage] at h
    cases h

theorem accepted_of_generate
    (h : (Generator.ofReader reader settings).generate package className text = .ok source) :
    Java.isPackage package = true ∧ Java.isIdentifier className = true := by
  obtain ⟨sample, tree, _, htree, hrender⟩ := exists_of_generate h
  obtain ⟨_, hname, _⟩ := ClassTree.ofSample_eq_ok_iff.mp htree
  exact ⟨isPackage_of_render hrender, hname⟩

/-- The last part looks at a second generation, with any reader and settings of its own. -/
theorem generate_sourcePath
    (h : (Generator.ofReader reader settings).generate package className text = .ok source)
    (directory : String) :
    Java.sourcePath directory package className =
        Path.stem directory ++ String.intercalate "/" (Java.sourceNames package className) ∧
      (∀ name ∈ Java.sourceNames package className, Path.IsName name) ∧
      String.intercalate "." (Java.packageDirectories package) = package ∧
      (∀ (disk : Disk) (location : Location),
        disk.follow (disk.startOf (Java.sourcePath directory package className))
            (Path.parts (Java.sourcePath directory package className)) = .ok location →
          ∃ base, disk.follow (disk.startOf directory) (Path.parts directory) = .ok base ∧
            location = base ++ Java.sourceNames package className) ∧
      ∀ reader' settings' package' className' text' source',
        (Generator.ofReader reader' settings').generate package' className' text' = .ok source' →
          Java.sourcePath directory package' className' =
              Java.sourcePath directory package className →
            package' = package ∧ className' = className := by
  obtain ⟨hpackage, hclass⟩ := accepted_of_generate h
  have hnames := Java.isName_of_mem_sourceNames hpackage hclass
  have hne := Java.sourceNames_ne_nil package className
  have hpath := Java.sourcePath_eq hpackage hclass directory
  refine ⟨?_, hnames, Java.intercalate_packageDirectories package, ?_, ?_⟩
  · rw [hpath, Path.foldl_join hne hnames]
  · intro disk location hfollow
    rw [hpath] at hfollow
    exact Disk.exists_base_of_follow_joined hne hnames hfollow
  · intro reader' settings' package' className' text' source' h' hsame
    obtain ⟨hpackage', hclass'⟩ := accepted_of_generate h'
    have hnames' := Java.isName_of_mem_sourceNames hpackage' hclass'
    have hne' := Java.sourceNames_ne_nil package' className'
    rw [hpath, Java.sourcePath_eq hpackage' hclass'] at hsame
    -- The path behind the directory gives back its names.
    have hboth : Java.sourceNames package' className' = Java.sourceNames package className :=
      Path.foldl_join_injective hne' hne hnames' hnames hsame
    obtain ⟨hsegments, hfile⟩ := List.append_inj' hboth rfl
    constructor
    · rw [← Java.intercalate_packageDirectories package', hsegments,
        Java.intercalate_packageDirectories]
    · exact (String.append_left_inj ".java").mp (List.cons.inj hfile).1

theorem generate_sourcePath_in_package :
    (∃ source source', (Generator.ofReader Json.read {}).generate "com.example" "User"
        "\x7b\x7d" = .ok source ∧
      (Generator.ofReader Json.read {}).generate "com" "User" "\x7b\x7d" = .ok source') ∧
      Java.sourcePath "out/" "com.example" "User" = "out/com/example/User.java" ∧
      (∀ name ∈ ["com", "example", "User.java"], Path.IsName name) ∧
      Java.sourcePath "out/" "com" "User" ≠ Java.sourcePath "out/" "com.example" "User" := by
  have hread : Json.read "\x7b\x7d" = .ok (.object []) := by cbv
  obtain ⟨tree, htree⟩ : ∃ tree, ClassTree.ofSample (.ofSpellings {}) ({} : Settings).style "User"
      (.object []) = .ok tree := ⟨_, rfl⟩
  have hgenerate : ∀ package, Java.isPackage package = true → ∃ source,
      (Generator.ofReader Json.read {}).generate package "User" "\x7b\x7d" = .ok source := by
    intro package hpackage
    rw [generate_of_read hread, htree, Except.bind, Java.render, Java.checkPackage, hpackage]
    exact ⟨_, rfl⟩
  obtain ⟨source, hsource⟩ := hgenerate "com.example" (by decide +kernel)
  obtain ⟨source', hsource'⟩ := hgenerate "com" (by decide +kernel)
  have hsplit : Java.sourceNames "com.example" "User" = ["com", "example", "User.java"] := by
    decide +kernel
  obtain ⟨hpath, hnames, _, _, hother⟩ := generate_sourcePath hsource "out/"
  rw [hsplit] at hpath hnames
  refine ⟨⟨source, source', hsource, hsource'⟩, hpath.trans (by decide +kernel), hnames, ?_⟩
  intro hsame
  have hpackages := (hother Json.read {} "com" "User" "\x7b\x7d" source' hsource' hsame).1
  exact absurd hpackages (by decide)

end JsonClasses
