import Mathlib.Data.List.DropRight
import ProxyControl.Path

/-!
# The directory of a path

The directory of a path starts where the path starts, and the names along it are all names
along the path but the last.

Main results:

- Theorem `Text.Pieces.split_intercalate`: joined pieces are taken apart again.
- Theorem `Path.isAbsolute_directory`: the directory starts where the path starts.
- Theorem `Path.components_of_directory`: the names along a path and its directory.
-/

namespace ProxyControl

/-! ## Pieces -/

namespace Text
namespace Pieces

variable {α : Type} [DecidableEq α]

/-- No piece has a separator in it. -/
theorem not_mem_of_mem_splitFrom {separator : α} {current items piece : List α}
    (h : piece ∈ splitFrom separator current items) (hcurrent : separator ∉ current) :
    separator ∉ piece := by
  induction items generalizing current with
  | nil =>
      obtain rfl : piece = current := by simpa [splitFrom] using h
      exact hcurrent
  | cons a rest ih =>
      unfold splitFrom at h
      split at h
      · rcases List.mem_cons.1 h with rfl | hrest
        · exact hcurrent
        · exact ih hrest List.not_mem_nil
      · rename_i hne
        refine ih h ?_
        simpa [List.mem_append, hcurrent] using Ne.symm hne

/-- A piece without the separator is added to the piece that has been begun. -/
theorem splitFrom_append {separator : α} {piece : List α} (h : separator ∉ piece)
    (current rest : List α) :
    splitFrom separator current (piece ++ rest) = splitFrom separator (current ++ piece) rest := by
  induction piece generalizing current with
  | nil => rw [List.nil_append, List.append_nil]
  | cons a piece ih =>
      obtain ⟨hne, hrest⟩ : separator ≠ a ∧ separator ∉ piece := by simpa using h
      rw [List.cons_append, splitFrom, if_neg (Ne.symm hne), ih hrest, List.append_assoc,
        List.singleton_append]

/-- Joined pieces are taken apart again. -/
theorem split_intercalate {separator : α} {pieces : List (List α)} (hnonempty : pieces ≠ [])
    (h : ∀ piece ∈ pieces, separator ∉ piece) :
    split separator ([separator].intercalate pieces) = pieces := by
  induction pieces with
  | nil => exact absurd rfl hnonempty
  | cons piece rest ih =>
      have hpiece := h piece List.mem_cons_self
      cases rest with
      | nil =>
          have hsplit := splitFrom_append hpiece [] []
          rw [List.append_nil, List.nil_append] at hsplit
          rw [List.intercalate_singleton, split, hsplit, splitFrom]
      | cons next rest =>
          have hrest := ih (List.cons_ne_nil next rest) fun p hp => h p (List.mem_cons_of_mem _ hp)
          rw [List.intercalate_cons_cons, split, List.append_assoc, splitFrom_append hpiece,
            List.singleton_append, List.nil_append, splitFrom, if_pos rfl]
          exact congrArg (piece :: ·) hrest

end Pieces
end Text

/-! ## Directories -/

namespace Path

/-- Up to the last name, the parts behind it are dropped. -/
theorem upToName_eq_rdropWhile (parts : List (List UInt8)) :
    upToName parts = parts.rdropWhile fun part => !isName part :=
  rfl

/-- What is cut off behind the last name are no names. -/
theorem filter_upToName (parts : List (List UInt8)) :
    (upToName parts).filter isName = parts.filter isName := by
  induction parts using List.reverseRecOn with
  | nil => rfl
  | append_singleton init part ih =>
      rw [upToName_eq_rdropWhile] at ih ⊢
      cases hname : isName part with
      | true => rw [List.rdropWhile_concat_neg _ _ _ (by simp [hname])]
      | false =>
          rw [List.rdropWhile_concat_pos _ _ _ (by simp [hname]), ih, List.filter_append,
            List.filter_singleton, hname]
          simp

/-- Up to the last name there is nothing, or it ends with that name. -/
theorem upToName_eq_nil_or (parts : List (List UInt8)) :
    upToName parts = [] ∨ ∃ init name, upToName parts = init ++ [name] ∧ isName name = true := by
  by_cases hnil : upToName parts = []
  · exact .inl hnil
  · have hlast := List.rdropWhile_last_not (fun part => !isName part) parts hnil
    rw [Bool.not_eq_true, Bool.not_eq_false'] at hlast
    exact .inr ⟨_, _, (List.dropLast_append_getLast hnil).symm, hlast⟩

theorem isPrefix_upToName (parts : List (List UInt8)) : upToName parts <+: parts :=
  List.rdropWhile_prefix (fun part => !isName part) parts

/-- The parts of the directory of a path. -/
def directoryParts (p : Path) : List (List UInt8) :=
  upToName (upToName p.parts).dropLast

/-- The parts of the directory of a path are the first parts of the path. -/
theorem isPrefix_directoryParts (p : Path) : p.directoryParts <+: p.parts := by
  have hinit : (upToName p.parts).dropLast <+: upToName p.parts := List.dropLast_prefix _
  exact (isPrefix_upToName _).trans (hinit.trans (isPrefix_upToName _))

/-- No part of a path has a slash in it. -/
theorem slash_not_mem_of_mem_parts {p : Path} {part : List UInt8} (h : part ∈ p.parts) :
    slash ∉ part :=
  Text.Pieces.not_mem_of_mem_splitFrom h List.not_mem_nil

/-- A path without a part for its directory has the root or the empty path for it. -/
theorem directory_of_eq_nil {p : Path} (h : p.directoryParts = []) :
    p.directory = if p.isAbsolute then ⟨[slash]⟩ else ⟨[]⟩ := by
  simp only [directory]
  rw [show upToName (upToName p.parts).dropLast = p.directoryParts from rfl, h]
  cases p.isAbsolute <;> rfl

/-- Otherwise the parts of the directory are those in front of the last name. -/
theorem parts_directory_of_ne_nil {p : Path} (h : p.directoryParts ≠ []) :
    p.directory.parts = p.directoryParts := by
  have hempty : p.directoryParts.isEmpty = false := by simpa using h
  have hdirectory : p.directory = ⟨[slash].intercalate p.directoryParts⟩ := by
    simp only [directory]
    rw [show upToName (upToName p.parts).dropLast = p.directoryParts from rfl, hempty]
    rfl
  rw [hdirectory]
  exact Text.Pieces.split_intercalate h fun part hpart =>
    slash_not_mem_of_mem_parts (p.isPrefix_directoryParts.subset hpart)

/-- The directory leads through the names in front of the last one. -/
theorem components_directory (p : Path) :
    p.directory.components = p.directoryParts.filter isName := by
  by_cases hnil : p.directoryParts = []
  · rw [directory_of_eq_nil hnil, hnil]
    split <;> rfl
  · rw [components, parts_directory_of_ne_nil hnil]

/-- The names along a path are those along its directory and one more, if there are any. -/
theorem components_of_directory (p : Path) :
    p.components = [] ∨ ∃ name, p.components = p.directory.components ++ [name] := by
  rw [components_directory, components, ← filter_upToName]
  rcases upToName_eq_nil_or p.parts with hnil | ⟨init, name, hinit, hname⟩
  · rw [hnil]
    exact .inl rfl
  · have hparts : p.directoryParts = upToName init := by
      rw [directoryParts, hinit, List.dropLast_concat]
    rw [hinit, hparts, filter_upToName, List.filter_append, List.filter_singleton, hname]
    exact .inr ⟨name, rfl⟩

end Path
end ProxyControl
