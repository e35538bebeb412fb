import BlockConsole.Block.Belief
import BlockConsole.Proofs.Text.Lowercase

/-!
# Canonical names

A canonical name is left alone by `BlockName.canonical` (`canonical_canonical`): it has no blanks at
its ends, it is in small letters, and it has a namespace. The namespace that a name is given may
as well be written in front of it (`canonical_namespaced`). A name that is cut off at a blank is
another one (`canonical_ne_of_cut`), and so is one with more text after it
(`canonical_ne_of_extended`). A container goes by a canonical name, so its own name and states make
it again (`Container.ofName_self`).
-/

namespace BlockConsole

open Text

namespace BlockName

/-- A trimmed name in small letters with a namespace is canonical. -/
theorem canonical_eq_self {name : String} (htrim : Trimmed name.toList)
    (hsettled : ∀ c ∈ name.toList, settled c = true) (hcolon : name.toList.contains ':' = true) :
    canonical name = name := by
  rw [canonical]
  simp only [htrim.trim_eq, lowercase_of_settled hsettled, hcolon, if_true, String.ofList_toList]

/-- A canonical name is a trimmed text in small letters, after the default namespace if it has no
namespace of its own. -/
theorem toList_canonical (name : String) :
    (canonical name).toList =
      (if (lowercase (trim name.toList)).contains ':' then [] else defaultNamespace.toList) ++
        lowercase (trim name.toList) := by
  rw [canonical]
  split
  · rw [String.toList_ofList, List.nil_append]
  · rw [String.toList_append, String.toList_ofList]

theorem trimmed_canonical (name : String) : Trimmed (canonical name).toList := by
  have htrim : Trimmed (lowercase (trim name.toList)) := (trimmed_trim _).lowercase
  rw [toList_canonical]
  split
  · exact htrim
  · exact (trimmed_of_forall (by decide)).append htrim

theorem settled_of_mem_canonical {name : String} {c : Char} (h : c ∈ (canonical name).toList) :
    settled c = true := by
  have hnamespace : ∀ d ∈ defaultNamespace.toList, settled d = true := by decide +kernel
  rw [toList_canonical, List.mem_append] at h
  rcases h with h | h
  · split at h
    · exact absurd h (by simp)
    · exact hnamespace c h
  · exact settled_of_mem_lowerAfter h

theorem colon_mem_canonical (name : String) : ':' ∈ (canonical name).toList := by
  rw [toList_canonical]
  split
  · next hcolon => exact List.mem_append_right _ (List.contains_iff_mem.mp hcolon)
  · exact List.mem_append_left _ (by decide)

theorem toList_canonical_ne_nil (name : String) : (canonical name).toList ≠ [] :=
  List.ne_nil_of_mem (colon_mem_canonical name)

/-- The canonical form of a name has a canonical form of its own: itself. -/
theorem canonical_canonical (name : String) : canonical (canonical name) = canonical name :=
  canonical_eq_self (trimmed_canonical name) (fun _ => settled_of_mem_canonical)
    (List.contains_iff_mem.mpr (colon_mem_canonical name))

/-- Writing the default namespace in front of a name that has none changes nothing, if there is no
capital sigma in the name: that one may end a word only after the namespace. -/
theorem canonical_namespaced {name : String} (hcolon : ':' ∉ name.toList)
    (hsigma : '\u03A3' ∉ name.toList) :
    canonical (defaultNamespace ++ String.ofList (trim name.toList)) = canonical name := by
  have htrimmed : Trimmed (defaultNamespace.toList ++ trim name.toList) :=
    (trimmed_of_forall (by decide)).append (trimmed_trim name.toList)
  have hlower : lowercase (defaultNamespace.toList ++ trim name.toList) =
      defaultNamespace.toList ++ lowercase (trim name.toList) := by
    rw [lowercase_append (by decide) (fun h => hsigma (mem_of_mem_trim h)),
      lowercase_of_settled (by decide +kernel)]
  -- Lower-casing brings no colon in, so the name gets its namespace here, too.
  have hnone : (lowercase (trim name.toList)).contains ':' = false := by
    rw [List.contains_eq_mem, decide_eq_false_iff_not]
    exact fun h => hcolon (mem_of_mem_trim (mem_of_mem_lowerAfter h (by decide)))
  have hsome : (defaultNamespace.toList ++ lowercase (trim name.toList)).contains ':' = true :=
    List.contains_iff_mem.mpr (List.mem_append_left _ (by decide))
  refine String.toList_inj.mp ?_
  rw [toList_canonical, toList_canonical, String.toList_append, String.toList_ofList,
    htrimmed.trim_eq, hlower, hsome, hnone]
  rfl

/-! ### Other names -/

/-- A canonical name that is cut off at a blank does not name the same block. -/
theorem canonical_ne_of_cut {name : String} {word rest : List Char} {b : Char}
    (h : (canonical name).toList = word ++ b :: rest) (hb : isBlank b = true)
    (hword : Trimmed word) : canonical (String.ofList word) ≠ canonical name := by
  have hsettled : ∀ c ∈ word, settled c = true := by
    intro c hc
    have hmem : c ∈ (canonical name).toList := h ▸ List.mem_append_left _ hc
    exact settled_of_mem_canonical hmem
  intro heq
  have hlist := congrArg String.toList heq
  rw [toList_canonical, String.toList_ofList, hword.trim_eq, lowercase_of_settled hsettled,
    h] at hlist
  split at hlist
  · have := congrArg List.length hlist
    simp at this
  · next hcolon =>
    -- The namespace in front of the word would be the rest behind it: but it has no blanks.
    have hnot : ':' ∉ word := fun hmem => hcolon (List.contains_iff_mem.mpr hmem)
    have hblank : ∀ c ∈ defaultNamespace.toList, isBlank c = false := by decide
    rcases List.append_eq_append_iff.mp hlist with ⟨more, hmore, -⟩ | ⟨more, hmore, htail⟩
    · exact hnot (hmore ▸ List.mem_append_left _ (by decide))
    · cases more with
      | nil =>
        rw [List.append_nil] at hmore
        exact hnot (hmore ▸ by decide)
      | cons d more =>
        obtain ⟨rfl, -⟩ := List.cons.inj htail
        have hbmem : b ∈ defaultNamespace.toList := by simp [hmore]
        rw [hblank b hbmem] at hb
        exact absurd hb (by simp)

/-- A canonical name with more text after it does not name the same block. -/
theorem canonical_ne_of_extended {name : String} {c : Char} (hc : isBlank c = false)
    (between more : List Char) :
    canonical (String.ofList ((canonical name).toList ++ (between ++ c :: more))) ≠
      canonical name := by
  have hhead : ∀ d ∈ ((canonical name).toList ++ (between ++ c :: more)).head?,
      isBlank d = false := fun d hd => by
    rw [List.head?_append_of_ne_nil _ (toList_canonical_ne_nil name)] at hd
    exact (trimmed_canonical name).head d hd
  have htrim : trim ((canonical name).toList ++ (between ++ c :: more)) =
      (canonical name).toList ++ (between ++ c :: trimEnd more) := by
    rw [trim, trimStart_eq_self hhead, ← List.append_assoc, trimEnd_append_cons hc,
      List.append_assoc]
  intro hsame
  have hlist := congrArg (fun s : String => s.toList.length) hsame
  have hlower := length_le_lowerAfter [] ((canonical name).toList ++
    (between ++ c :: trimEnd more))
  simp only [toList_canonical (String.ofList _), String.toList_ofList, htrim, lowercase,
    List.length_append, List.length_cons] at hlist hlower
  omega

end BlockName

/-! ### Containers -/

namespace Container

theorem name_ofName (name : String) (states : BlockStates) :
    (ofName name states).name = BlockName.canonical name := by
  simp only [ofName]
  split <;> rfl

theorem states_ofName (name : String) (states : BlockStates) :
    (ofName name states).states = states := by
  simp only [ofName]
  split <;> rfl

/-- A container that was made from a name is made from its own name as well. -/
theorem ofName_self (name : String) (states : BlockStates) :
    ofName (ofName name states).name (ofName name states).states = ofName name states := by
  rw [name_ofName, states_ofName]
  simp only [ofName, BlockName.canonical_canonical]

end Container

end BlockConsole
