import Federation.Files
import Federation.Proofs.Lookup

/-!
# Files below a directory

The path of a name in a directory is the name behind what leads into the directory, so a file that
is written in a directory is one more name below it, and every other path keeps its content.

    files.full (join d name) = files.lead d ++ name
    (files.write p s).entries.lookup q = if q = files.full p then some (text s) else …
    n ∈ (files.write (join d name) s).namesBelow d  ↔  n = name ∨ n ∈ files.namesBelow d
-/

namespace Federation.Files

/-! ## Ends of texts -/

theorem startsWith_slash (s : String) : s.startsWith "/" = true ↔ s.toList.head? = some '/' := by
  rw [String.startsWith_string_iff]
  cases s.toList <;> simp [List.cons_prefix_cons, eq_comm]

theorem endsWith_slash (s : String) : s.endsWith "/" = true ↔ s.toList.getLast? = some '/' := by
  have hsuffix : s.endsWith "/" = true ↔ "/".toList <:+ s.toList := by
    show s.toSlice.endsWith "/" = true ↔ _
    rw [String.Slice.endsWith_string_iff, String.copy_toSlice]
  rw [hsuffix, List.getLast?_eq_some_iff]
  exact ⟨fun ⟨l, hl⟩ => ⟨l, hl.symm⟩, fun ⟨l, hl⟩ => ⟨l, hl.symm⟩⟩

/-- A path that does not begin with a slash. -/
def Relative (path : String) : Prop := path.startsWith "/" = false

theorem relative_iff (path : String) : Relative path ↔ path.toList.head? ≠ some '/' := by
  unfold Relative
  rw [← Bool.not_eq_true, startsWith_slash]

/-! ## Paths -/

/-- What stands before the names in a directory. -/
def into (directory : String) : String :=
  if directory = "" ∨ directory.endsWith "/" then directory else directory ++ "/"

/-- What stands before the full paths of the names in a directory. -/
def lead (files : Files) (directory : String) : String := into (files.full directory)

theorem join_of_relative (directory name : String) (h : Relative name) :
    join directory name = into directory ++ name := by
  unfold join into
  rw [h, if_neg Bool.false_ne_true]
  split
  · rfl
  · rfl

theorem join_empty (directory : String) : join directory "" = into directory := by
  have hrelative : Relative "" := (relative_iff "").2 nofun
  rw [join_of_relative directory "" hrelative, String.append_empty]

theorem into_empty : into "" = "" := if_pos (Or.inl rfl)

theorem into_of_ne (directory : String) (h : directory ≠ "") :
    into directory = if directory.endsWith "/" then directory else directory ++ "/" := by
  unfold into
  simp only [h, false_or]

theorem into_into (directory : String) : into (into directory) = into directory := by
  by_cases hempty : directory = ""
  · rw [hempty, into_empty, into_empty]
  · rw [into_of_ne directory hempty]
    split
    · next hslash => rw [into_of_ne directory hempty, if_pos hslash]
    · exact if_pos (Or.inr ((endsWith_slash _).2 (by simp)))

theorem into_append (w d : String) : into (into w ++ d) = into w ++ into d := by
  by_cases hempty : d = ""
  · rw [hempty, into_empty, String.append_empty, into_into]
  · have hlist : d.toList ≠ [] := fun h => hempty (String.toList_eq_nil_iff.1 h)
    have hne : into w ++ d ≠ "" := by
      intro h
      have := congrArg String.toList h
      simp [hlist] at this
    have hends : (into w ++ d).endsWith "/" = d.endsWith "/" := by
      rw [Bool.eq_iff_iff, endsWith_slash, endsWith_slash, String.toList_append,
        List.getLast?_append, List.getLast?_eq_some_getLast hlist, Option.some_or]
    rw [into_of_ne _ hne, into_of_ne d hempty, hends]
    split
    · rfl
    · exact String.append_assoc

theorem relative_into_append (d name : String) (hname : Relative name) :
    Relative (into d ++ name) ↔ Relative d := by
  by_cases hempty : d = ""
  · rw [hempty, into_empty, String.empty_append]
    exact iff_of_true hname ((relative_iff "").2 nofun)
  · have hhead : (into d ++ name).toList.head? = d.toList.head? := by
      have hlist : d.toList ≠ [] := fun h => hempty (String.toList_eq_nil_iff.1 h)
      obtain ⟨c, rest, hd⟩ := List.exists_cons_of_ne_nil hlist
      rw [into_of_ne d hempty]
      split <;> simp [hd]
    rw [relative_iff, relative_iff, hhead]

/-- The full path of a name in a directory. -/
theorem full_join (files : Files) (d name : String) (hname : Relative name) :
    files.full (join d name) = files.lead d ++ name := by
  rw [join_of_relative d name hname]
  unfold lead full
  by_cases hd : Relative d
  · rw [join_of_relative _ _ ((relative_into_append d name hname).2 hd), join_of_relative _ d hd,
      into_append, String.append_assoc]
  · have habsolute : (into d ++ name).startsWith "/" = true := by
      rw [← Bool.not_eq_false]
      exact fun h => hd ((relative_into_append d name hname).1 h)
    have hstart : d.startsWith "/" = true := by
      rw [← Bool.not_eq_false]
      exact hd
    unfold join
    rw [if_pos habsolute, if_pos hstart]

theorem append_right_inj (lead s t : String) : lead ++ s = lead ++ t ↔ s = t := by
  rw [← String.toList_inj, String.toList_append, String.toList_append, List.append_cancel_left_eq,
    String.toList_inj]

/-! ## Reading and writing -/

theorem lookup_write (files : Files) (path content q : String) :
    (files.write path content).entries.lookup q
      = if q = files.full path then some (.text content) else files.entries.lookup q := by
  show List.lookup q ((files.full path, Reading.text content) :: List.filter _ _) = _
  rw [List.lookup_cons]
  by_cases hq : q = files.full path
  · rw [if_pos hq, beq_iff_eq.2 hq]
  · rw [if_neg hq, beq_eq_false_iff_ne.2 hq]
    exact lookup_filter files.entries (fun entry => entry.1 != files.full path) q
      fun _ => bne_iff_ne.2 hq

theorem mem_namesBelow (files : Files) (directory name : String) :
    name ∈ files.namesBelow directory ↔
      ∃ r, (files.lead directory ++ name, r) ∈ files.entries := by
  unfold namesBelow
  rw [join_empty]
  show name ∈ List.filterMap (fun entry =>
    if (files.lead directory).toList.isPrefixOf entry.1.toList then
      some (String.ofList (entry.1.toList.drop (files.lead directory).toList.length)) else none)
      files.entries ↔ _
  rw [List.mem_filterMap]
  constructor
  · rintro ⟨⟨path, r⟩, hmem, h⟩
    dsimp only at h
    rw [Option.ite_none_right_eq_some] at h
    obtain ⟨hbegins, h⟩ := h
    obtain ⟨rest, hrest⟩ := List.isPrefixOf_iff_prefix.1 hbegins
    rw [← hrest, List.drop_left] at h
    have hpath : files.lead directory ++ name = path := by
      rw [← String.toList_inj, String.toList_append, ← Option.some.inj h, String.toList_ofList,
        hrest]
    exact ⟨r, hpath ▸ hmem⟩
  · rintro ⟨r, hmem⟩
    refine ⟨_, hmem, ?_⟩
    dsimp only
    rw [String.toList_append, if_pos (List.isPrefixOf_iff_prefix.2 (List.prefix_append _ _)),
      List.drop_left, String.ofList_toList]

/-- A file that is written is one more name in its directory. -/
theorem mem_namesBelow_write (files : Files) (d name content : String) (hname : Relative name)
    (n : String) : n ∈ (files.write (join d name) content).namesBelow d ↔
      n = name ∨ n ∈ files.namesBelow d := by
  have hlead : (files.write (join d name) content).lead d = files.lead d := rfl
  have hplace : files.full (join d name) = files.lead d ++ name := full_join files d name hname
  rw [mem_namesBelow, mem_namesBelow, hlead]
  show (∃ r, (files.lead d ++ n, r) ∈ (files.full (join d name), Reading.text content)
    :: List.filter _ _) ↔ _
  simp only [hplace, List.mem_cons, Prod.mk.injEq, List.mem_filter, bne_iff_ne, ne_eq,
    append_right_inj]
  by_cases hn : n = name
  · exact iff_of_true ⟨_, Or.inl ⟨hn, rfl⟩⟩ (Or.inl hn)
  · simp only [hn, false_and, false_or, not_false_eq_true, and_true]

end Federation.Files
