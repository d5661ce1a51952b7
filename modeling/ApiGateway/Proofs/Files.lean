import ApiGateway.Files
import ApiGateway.Proofs.Keyed

/-! # Names in folders and on files

The names of a folder ascend, and putting and removing entries keeps them so. A file name with an
extension is its stem, a dot and the extension.
-/

set_option autoImplicit false

namespace ApiGateway

namespace Folder

/-- The names of a folder ascend strictly. -/
def Ascending (folder : Folder) : Prop := (folder.map (·.1)).Pairwise (· < ·)

theorem mem_names_put {name : String} {entry : Entry} {folder : Folder} {x : String} :
    x ∈ (put name entry folder).map (·.1) ↔ x = name ∨ x ∈ folder.map (·.1) := by
  induction folder with
  | nil => simp [put]
  | cons q folder ih =>
      obtain ⟨n, e⟩ := q
      rw [put]
      split
      · simp
      · split
        · rename_i hn
          simp [hn]
        · rw [List.map_cons, List.mem_cons, ih, List.map_cons, List.mem_cons]
          exact or_left_comm

theorem Ascending.put {folder : Folder} (h : folder.Ascending) (name : String) (entry : Entry) :
    (Folder.put name entry folder).Ascending := by
  unfold Ascending at h ⊢
  induction folder with
  | nil => simp [Folder.put]
  | cons q folder ih =>
      obtain ⟨n, e⟩ := q
      rw [List.map_cons, List.pairwise_cons] at h
      rw [Folder.put]
      split
      · rename_i hlt
        rw [List.map_cons, List.pairwise_cons, List.map_cons, List.pairwise_cons]
        refine ⟨fun x hx => ?_, h⟩
        rcases List.mem_cons.1 hx with rfl | hx
        · exact hlt
        · exact String.lt_trans hlt (h.1 x hx)
      · split
        · rename_i hn
          rw [List.map_cons, List.pairwise_cons, hn]
          exact h
        · rename_i hlt hne
          rw [List.map_cons, List.pairwise_cons]
          refine ⟨fun x hx => ?_, ih h.2⟩
          rcases mem_names_put.1 hx with rfl | hx
          · refine Classical.byContradiction fun hge => hne ?_
            exact String.le_antisymm (String.not_lt.1 hge) (String.not_lt.1 hlt)
          · exact h.1 x hx

theorem remove_of_lookup_eq_none {name : String} {folder : Folder}
    (h : folder.lookup name = none) : folder.remove name = folder := by
  rw [lookup_eq_none_iff_not_mem] at h
  refine List.filter_eq_self.2 fun q hq => decide_eq_true fun hname => h ?_
  exact List.mem_map.2 ⟨q, hq, hname⟩

end Folder

namespace FilePath

/-- The name of a file with an extension is made of its stem and the extension. -/
theorem name_of_stemAndExtension {name stem extension : String}
    (h : stemAndExtension name = (stem, some extension)) :
    name.toList = stem.toList ++ '.' :: extension.toList := by
  unfold stemAndExtension at h
  dsimp only at h
  split at h
  · rename_i c rest hrest
    split at h
    · cases h
    · cases h
      have hsplit := List.takeWhile_append_dropWhile (p := (fun x => decide (x ≠ '.')))
        (l := name.toList.reverse)
      rw [hrest] at hsplit
      have hname := congrArg List.reverse hsplit
      rw [List.reverse_reverse] at hname
      refine hname.symm.trans ?_
      simp
  · cases h

/-- A stem that is not empty and an extension without a dot are found in the name of their file. -/
theorem stemAndExtension_append {stem extension : List Char} (hstem : stem ≠ [])
    (hextension : '.' ∉ extension) (hne : extension ≠ []) :
    stemAndExtension (String.ofList (stem ++ '.' :: extension)) =
      (String.ofList stem, some (String.ofList extension)) := by
  have hname : (String.ofList (stem ++ '.' :: extension)).toList.reverse =
      extension.reverse ++ '.' :: stem.reverse := by simp
  have hall : ∀ x ∈ extension.reverse, decide (x ≠ '.') = true := by
    intro x hx
    refine decide_eq_true fun hdot => hextension ?_
    exact hdot ▸ List.mem_reverse.1 hx
  have hparent : String.ofList (stem ++ '.' :: extension) ≠ ".." := by
    intro heq
    -- the last character of the name would be a dot of the extension
    have hlast := congrArg (fun s : String => s.toList.getLast?) heq
    obtain ⟨inside, c, rfl⟩ := (List.eq_nil_or_concat extension).resolve_left hne
    have hc : c = '.' := by
      rw [String.toList_ofList, List.concat_eq_append, ← List.cons_append, ← List.append_assoc,
        List.getLast?_concat] at hlast
      simpa using hlast
    exact hextension (by simp [hc])
  obtain ⟨c, rest, hrest⟩ := List.exists_cons_of_ne_nil (mt List.reverse_eq_nil_iff.1 hstem)
  unfold stemAndExtension
  dsimp only
  rw [hname, List.takeWhile_append_of_pos hall, List.dropWhile_append_of_pos hall, hrest]
  simp only [ne_eq, decide_not, decide_true, Bool.not_true, Bool.false_eq_true,
    not_false_eq_true, List.takeWhile_cons_of_neg, List.dropWhile_cons_of_neg, if_neg hparent]
  rw [← hrest]
  simp

end FilePath

end ApiGateway
