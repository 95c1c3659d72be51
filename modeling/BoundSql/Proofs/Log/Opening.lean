import BoundSql.Log.Setup
import Mathlib.Data.List.Infix

/-! # Opening log files

A file can be opened if its directory is there and it is no directory itself (`openFile_ok_iff`). It is
there afterwards, and what it and the other files hold is as before (`lookup_opened`).

No directory is made for a file. So the directories are the same whatever files are opened
(`isDirectory_opened`), and opening a file succeeds later if and only if it does now (`isOk_opened`). -/

namespace BoundSql.Log.Logging

variable {files files' : List (String × String)} {name : String} {file : Option String}

/-! ### Directories -/

theorem isDirectory_iff : isDirectory files name = true ↔
    name = "" ∨ name = "/" ∨ ∃ f ∈ files, name.toList ++ ['/'] <+: f.1.toList := by
  simp [isDirectory, or_assoc]

/-- Which directories there are is a matter of the names of the files. -/
theorem isDirectory_congr (h : files'.map (·.1) = files.map (·.1)) :
    isDirectory files' = isDirectory files := by
  funext name
  have hany : ∀ files : List (String × String),
      (files.any fun f => (name ++ "/").toList.isPrefixOf f.1.toList) =
        (files.map (·.1)).any fun s => (name ++ "/").toList.isPrefixOf s.toList := by
    intro files
    rw [List.any_map]
    rfl
  unfold isDirectory
  rw [hany, hany, h]

/-- A name is that of its directory, a slash, and the rest. -/
theorem exists_rest_of_slash (h : '/' ∈ name.toList) :
    ∃ rest, '/' ∉ rest ∧ name.toList = (directoryOf name).toList ++ '/' :: rest := by
  have hsplit := List.takeWhile_append_dropWhile (p := (· != '/')) (l := name.toList.reverse)
  have hrest : '/' ∉ name.toList.reverse.takeWhile (· != '/') := by
    intro hmem
    cases List.all_eq_true.mp List.all_takeWhile '/' hmem
  rcases hdrop : name.toList.reverse.dropWhile (· != '/') with _ | ⟨c, before⟩
  · rw [hdrop, List.append_nil] at hsplit
    rw [hsplit] at hrest
    exact absurd (List.mem_reverse.mpr h) hrest
  have hc : c = '/' := by
    have hhead := List.head_dropWhile_not (· != '/') (l := name.toList.reverse) (by simp [hdrop])
    simpa [hdrop] using hhead
  refine ⟨(name.toList.reverse.takeWhile (· != '/')).reverse, fun hmem => ?_, ?_⟩
  · exact hrest (List.mem_reverse.mp hmem)
  · rw [hdrop, hc] at hsplit
    rw [directoryOf, hdrop, String.toList_ofList, List.drop_one, List.tail_cons]
    have hreverse := congrArg List.reverse hsplit
    rw [List.reverse_append, List.reverse_cons, List.reverse_reverse, List.append_assoc] at hreverse
    exact hreverse.symm

theorem eq_or_prefix_of_append {l m rest : List Char} {c : Char} (h : l ++ [c] <+: m ++ c :: rest)
    (hrest : c ∉ rest) : l = m ∨ l ++ [c] <+: m := by
  have hm : m ++ [c] <+: m ++ c :: rest := ⟨rest, by simp⟩
  obtain hshort | hlong := List.prefix_or_prefix_of_prefix h hm
  · exact (List.prefix_concat_iff.mp hshort).imp_left List.append_cancel_right
  obtain hsame | ⟨between, hbetween⟩ := List.prefix_concat_iff.mp hlong
  · exact .inl (List.append_cancel_right hsame).symm
  · -- the last character of the prefix would be one of the rest
    obtain ⟨after, hafter⟩ := h
    rw [← hbetween, List.append_assoc, List.append_assoc, List.append_assoc] at hafter
    have hafter := (List.cons.inj (List.append_cancel_left hafter)).2
    exact absurd (hafter ▸ List.mem_append_right between List.mem_cons_self) hrest

/-- If the directory of a file is there, then so are the directories that this one is in. -/
theorem isDirectory_of_above {directory : String}
    (h : directory.toList ++ ['/'] <+: name.toList)
    (hthere : isDirectory files (directoryOf name) = true) : isDirectory files directory = true := by
  have hnothing : ¬directory.toList ++ ['/'] <+: [] :=
    fun h => List.append_ne_nil_of_right_ne_nil _ (List.cons_ne_nil _ _) (List.prefix_nil.mp h)
  have hslash : '/' ∈ name.toList := h.subset (List.mem_append_right _ (List.mem_singleton_self _))
  obtain ⟨rest, hrest, hname⟩ := exists_rest_of_slash hslash
  rw [hname] at h
  obtain hsame | hupper := eq_or_prefix_of_append h hrest
  · rw [String.toList_inj.mp hsame]
    exact hthere
  rcases isDirectory_iff.mp hthere with hempty | hroot | ⟨f, hf, hheld⟩
  · rw [hempty] at hupper
    exact absurd hupper hnothing
  · rw [hroot] at hupper
    have hempty := (eq_or_prefix_of_append (m := []) hupper nofun).resolve_right hnothing
    exact isDirectory_iff.mpr (.inl (String.toList_inj.mp hempty))
  · have hheld' := hupper.trans ((List.prefix_append _ _).trans hheld)
    exact isDirectory_iff.mpr (.inr (.inr ⟨f, hf, hheld'⟩))

/-! ### Files -/

theorem openFile_ok_iff : openFile name files = .ok files' ↔
    (isDirectory files name = false ∧ isDirectory files (directoryOf name) = true) ∧
      (if files.any fun f => f.1 == name then files else files ++ [(name, "")]) = files' := by
  unfold openFile
  rcases isDirectory files name with _ | _
  · rcases isDirectory files (directoryOf name) with _ | _
    · refine iff_of_false ?_ fun h => nomatch h.1.2
      simp only [Bool.false_eq_true, if_false]
      split <;> exact nofun
    · exact ⟨fun h => ⟨⟨rfl, rfl⟩, Except.ok.inj h⟩, fun h => congrArg Except.ok h.2⟩
  · exact iff_of_false nofun fun h => nomatch h.1.1

theorem isOk_openFile_iff : (openFile name files).isOk = true ↔
    isDirectory files name = false ∧ isDirectory files (directoryOf name) = true := by
  rcases hopen : openFile name files with f | files'
  · refine iff_of_false nofun fun hcan => ?_
    cases hopen.symm.trans (openFile_ok_iff.mpr ⟨hcan, rfl⟩)
  · exact iff_of_true rfl (openFile_ok_iff.mp hopen).1

/-- What is there is there also after a file has been opened, and a file that is new holds nothing. -/
theorem lookup_opened (h : opened file files = .ok files') (other : String) :
    (files'.lookup other).getD "" = (files.lookup other).getD "" := by
  rcases file with _ | name
  · cases h
    rfl
  obtain ⟨-, rfl⟩ := openFile_ok_iff.mp h
  split
  · rfl
  rw [List.lookup_append, List.lookup_singleton]
  rcases files.lookup other with _ | text
  · rw [Option.none_or]
    split <;> rfl
  · rfl

theorem subset_opened (h : opened file files = .ok files') : files ⊆ files' := by
  rcases file with _ | name
  · cases h
    exact List.Subset.refl _
  obtain ⟨-, rfl⟩ := openFile_ok_iff.mp h
  split
  · exact List.Subset.refl _
  · exact List.subset_append_left _ _

theorem mem_opened (h : opened file files = .ok files') (hname : name ∈ file) :
    name ∈ files'.map (·.1) := by
  cases hname
  obtain ⟨-, rfl⟩ := openFile_ok_iff.mp h
  split
  · rename_i hthere
    obtain ⟨f, hf, hname⟩ := List.any_eq_true.mp hthere
    exact List.mem_map.mpr ⟨f, hf, eq_of_beq hname⟩
  · rw [List.map_append, List.mem_append]
    exact .inr (List.mem_singleton_self name)

/-- **No directory is made** when a file is opened. -/
theorem isDirectory_opened (h : opened file files = .ok files') :
    isDirectory files' = isDirectory files := by
  rcases file with _ | name
  · cases h
    rfl
  obtain ⟨⟨-, hthere⟩, rfl⟩ := openFile_ok_iff.mp h
  split
  · rfl
  funext directory
  rw [Bool.eq_iff_iff]
  constructor
  · intro hdirectory
    rcases isDirectory_iff.mp hdirectory with hempty | hroot | ⟨f, hf, hheld⟩
    · exact isDirectory_iff.mpr (.inl hempty)
    · exact isDirectory_iff.mpr (.inr (.inl hroot))
    · rcases List.mem_append.mp hf with hf | hf
      · exact isDirectory_iff.mpr (.inr (.inr ⟨f, hf, hheld⟩))
      · cases List.mem_singleton.mp hf
        exact isDirectory_of_above hheld hthere
  · intro hdirectory
    refine isDirectory_iff.mpr ((isDirectory_iff.mp hdirectory).imp_right fun h => ?_)
    exact h.imp_right fun ⟨f, hf, hheld⟩ => ⟨f, List.mem_append_left _ hf, hheld⟩

/-- Whether a file can be opened is a matter of the directories. -/
theorem isOk_opened (h : isDirectory files' = isDirectory files) (file : Option String) :
    (opened file files').isOk = (opened file files).isOk := by
  rcases file with _ | name
  · rfl
  change (openFile name files').isOk = (openFile name files).isOk
  rw [Bool.eq_iff_iff, isOk_openFile_iff, isOk_openFile_iff, h]

end BoundSql.Log.Logging
