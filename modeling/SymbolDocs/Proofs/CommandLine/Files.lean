/-
What is written at a path is read there afterwards.

Writing changes one file of a tree. It may make directories that were not there, since a
directory is where a file lies, but it takes none away; so a path that leads to a place
before that place is written leads to it still (`follow_put`). On its way there the path
passes through directories of the tree, and none of them is the place itself: where a
file is, or could be made, no directory is.
-/
import SymbolDocs.CommandLine.Files

set_option autoImplicit false

namespace SymbolDocs.CommandLine.FileTree

/-! ## One file of a tree -/

theorem lookup_put_self (place : List String) (bytes : List UInt8) (tree : FileTree) :
    (put place bytes tree).lookup place = some bytes := by
  induction tree with
  | nil => rw [put, List.lookup_cons, beq_self_eq_true]
  | cons file rest ih =>
    rw [put]
    split
    · rw [List.lookup_cons, beq_self_eq_true]
    · rename_i hplace
      rw [List.lookup_cons, beq_false_of_ne (Ne.symm hplace), ih]

theorem lookup_put_of_ne {place other : List String} (h : other ≠ place) (bytes : List UInt8)
    (tree : FileTree) : (put place bytes tree).lookup other = tree.lookup other := by
  induction tree with
  | nil => rw [put, List.lookup_cons, beq_false_of_ne h]
  | cons file rest ih =>
    rw [put]
    split
    · rename_i hplace
      have hne : (other == file.1) = false := by
        rw [hplace]
        exact beq_false_of_ne h
      rw [List.lookup_cons, List.lookup_cons, beq_false_of_ne h, hne]
    · rw [List.lookup_cons, List.lookup_cons, ih]

/-- A file keeps its place when one is written. -/
theorem any_put (found : List String → Bool) {tree : FileTree} (place : List String)
    (bytes : List UInt8) (h : (tree.any fun f => found f.1) = true) :
    ((put place bytes tree).any fun f => found f.1) = true := by
  induction tree with
  | nil => exact absurd h Bool.false_ne_true
  | cons file rest ih =>
    rw [List.any_cons, Bool.or_eq_true] at h
    rw [put]
    split
    · rename_i hplace
      rw [List.any_cons, Bool.or_eq_true, ← hplace]
      exact h
    · rw [List.any_cons, Bool.or_eq_true]
      exact h.imp_right ih

/-- No directory is lost when a file is written. -/
theorem isDirectory_put {tree : FileTree} {directory : List String} (place : List String)
    (bytes : List UInt8) (h : isDirectory tree directory = true) :
    isDirectory (put place bytes tree) directory = true := by
  rw [isDirectory, Bool.or_eq_true] at h ⊢
  refine h.imp_right fun hinside => ?_
  exact any_put (fun name => directory.isPrefixOf name && directory.length < name.length) place
    bytes hinside

/-! ## Following a path -/

/-- The place of a file that a path leads to, or of one that could be made there. -/
def Target.place? : Target → Option (List String)
  | .file place _ => some place
  | .free place => some place
  | _ => none

/-- Where a path leads to, there is a file or there is no directory. -/
theorem no_directory_of_follow {tree : FileTree} {place : List String}
    {start : Option (List String)} {parts : List String}
    (h : (follow tree start parts).place? = some place) :
    (tree.lookup place).isSome = true ∨ isDirectory tree place = false := by
  fun_induction follow tree start parts with
  | case1 | case3 | case5 | case6 | case9 => cases h
  | case2 start rest ih => exact ih h
  | case4 part rest hpart start next bytes hlookup hrest =>
    obtain rfl := Option.some.inj h
    exact .inl (Option.isSome_iff_exists.mpr ⟨bytes, hlookup⟩)
  | case7 part rest hpart start next hlookup hlength hdirectory ih => exact ih h
  | case8 part rest hpart start next hlookup hlength hdirectory hrest =>
    obtain rfl := Option.some.inj h
    exact .inr (Bool.eq_false_iff.mpr hdirectory)

/-- Once the place that a path leads to is written, the path leads to what was written. The
induction follows the path through the tree as it was: every directory on the way is one
still, and none of them is the place. -/
theorem follow_put {tree : FileTree} {place : List String} (bytes : List UInt8)
    {start : Option (List String)} {parts : List String}
    (h : (follow tree start parts).place? = some place) :
    follow (put place bytes tree) start parts = .file place bytes := by
  fun_induction follow tree start parts with
  | case1 | case3 | case5 | case6 | case9 => cases h
  | case2 start rest ih =>
    rw [follow]
    exact ih h
  | case4 part rest hpart start next old hlookup hrest =>
    obtain rfl := Option.some.inj h
    rw [follow]
    · simp only [lookup_put_self, hrest, if_true, next]
    · exact hpart
  | case7 part rest hpart start next hlookup hlength hdirectory ih =>
    have hne : next ≠ place := by
      intro hnext
      rw [hnext] at hlookup hdirectory
      rcases no_directory_of_follow h with hsome | hnone
      · rw [hlookup] at hsome
        exact absurd hsome Bool.false_ne_true
      · exact absurd hdirectory (Bool.eq_false_iff.mp hnone)
    have hlookup' : (put place bytes tree).lookup next = none :=
      (lookup_put_of_ne hne bytes tree).trans hlookup
    rw [follow]
    · simp only [next] at hlookup' hlength hdirectory ih
      simp only [hlookup', hlength, isDirectory_put place bytes hdirectory, if_true, if_false]
      exact ih h
    · exact hpart
  | case8 part rest hpart start next hlookup hlength hdirectory hrest =>
    obtain rfl := Option.some.inj h
    rw [follow]
    · simp only [lookup_put_self, hrest, if_true, next]
    · exact hpart

/-! ## Writing and reading -/

/-- Writing puts the bytes at the place that the path leads to. -/
theorem write_eq_ok_iff {tree later : FileTree} {path : Path} {bytes : List UInt8} :
    tree.write path bytes = .ok later
      ↔ ∃ place, (target tree path).place? = some place ∧ later = put place bytes tree := by
  rw [write]
  cases target tree path <;> simp [Target.place?, eq_comm]

/-- **What was written is read.** -/
theorem read_of_write {tree later : FileTree} {path : Path} {bytes : List UInt8}
    (h : tree.write path bytes = .ok later) : later.read path = .ok bytes := by
  obtain ⟨place, hplace, rfl⟩ := write_eq_ok_iff.mp h
  have htarget : target (put place bytes tree) path = .file place bytes := by
    rw [target] at hplace ⊢
    split
    · rename_i hnull
      rw [if_pos hnull] at hplace
      cases hplace
    · rename_i hnull
      rw [if_neg hnull] at hplace
      split
      · rename_i hlong
        rw [if_pos hlong] at hplace
        cases hplace
      · rename_i hlong
        rw [if_neg hlong] at hplace
        exact follow_put bytes hplace
  rw [read, htarget]

/-- Whether a file can be written at a path: there is one, or one could be made. -/
def isWritable (tree : FileTree) (path : Path) : Bool :=
  (target tree path).place?.isSome

/-- Where a file can be written, any bytes can. -/
theorem write_of_isWritable {tree : FileTree} {path : Path} (h : tree.isWritable path = true)
    (bytes : List UInt8) : ∃ later, tree.write path bytes = .ok later := by
  obtain ⟨place, hplace⟩ := Option.isSome_iff_exists.mp h
  exact ⟨put place bytes tree, write_eq_ok_iff.mpr ⟨place, hplace, rfl⟩⟩

/-- Where no file can be written, the path is at fault and not the bytes. -/
theorem write_of_not_isWritable {tree : FileTree} {path : Path}
    (h : tree.isWritable path = false) : ∃ fault, ∀ bytes, tree.write path bytes = .error fault := by
  simp only [write]
  rw [isWritable] at h
  cases htarget : target tree path with
  | file place bytes | free place =>
    rw [htarget] at h
    cases h
  | _ => exact ⟨_, fun _ => rfl⟩

end SymbolDocs.CommandLine.FileTree
