import Mathlib.Data.List.Infix
import Mathlib.Logic.ExistsUnique
import Wakeful.Proofs.Text.Boundary
import Wakeful.SharedLibrary.Name

/-!
The file name of a library gets its usual ending exactly if
its own octets do not have it, text or not.
-/

namespace Wakeful

/-- A stretch occurs within octets exactly if something stands before and behind it. -/
theorem Octets.hasPart_iff {part octets : Octets} :
    hasPart part octets = true ↔ part <:+: octets := by
  -- By induction on the octets. A stretch begins here or occurs later.
  induction octets with
  | nil => simp [hasPart]
  | cons octet rest ih =>
    rw [hasPart, Bool.or_eq_true, ih, List.isPrefixOf_iff_prefix, List.infix_cons_iff]

namespace SharedLibrary

variable {name : Octets}

/-- A name has the ending exactly if its own octets have it. -/
theorem hasEnding_iff : hasEnding name = true ↔ ending <:+: name := by
  -- The ending is text, and what is shown for broken octets is no part of it.
  rw [hasEnding, Octets.hasPart_iff]
  exact Utf8.infix_lossy_iff (by decide) (by decide)

/-- A name that has the ending is the file name itself. -/
theorem fileName_of_has (has : ending <:+: name) : fileName name = name :=
  if_pos (hasEnding_iff.mpr has)

/-- A name that has no ending gets one. -/
theorem fileName_of_lacks (lacks : ¬ ending <:+: name) : fileName name = name ++ ending :=
  if_neg fun has => lacks (hasEnding_iff.mp has)

/-- A file name has the ending. -/
theorem infix_fileName (name : Octets) : ending <:+: fileName name := by
  -- The ending is there already or has been put behind the name.
  by_cases has : ending <:+: name
  · rwa [fileName_of_has has]
  · rw [fileName_of_lacks has]
    exact (List.suffix_append name ending).isInfix

/-- A file name begins with the name. -/
theorem prefix_fileName (name : Octets) : name <+: fileName name := by
  -- Nothing is ever put before the name.
  by_cases has : ending <:+: name
  · exact ⟨[], by rw [fileName_of_has has, List.append_nil]⟩
  · rw [fileName_of_lacks has]
    exact List.prefix_append name ending

/--
A name is its own file name if its octets have the ending
somewhere, and else gets the ending behind it.

What is looked at is the text that is shown for the name, and for that it makes no
difference which octets are no text: the ending is shown between two texts exactly
where the octets have it between what is shown as these, at one place only. So a file
name has the ending, begins with the name and is its own file name.
-/
theorem fileName_keeps_ending (name : Octets) :
    (∀ before after : String, Utf8.lossy name = before ++ ".so" ++ after ↔ ∃! earlier, ∃ later,
      name = earlier ++ ending ++ later ∧ Utf8.lossy earlier = before ∧ Utf8.lossy later = after) ∧
    (hasEnding name = true ↔ ending <:+: name) ∧
    fileName name = (if ending <:+: name then name else name ++ ending) ∧
    fileName (fileName name) = fileName name ∧ ending <:+: fileName name ∧
    name <+: fileName name := by
  -- What is shown around the ending comes from octets around it, and
  -- these are determined by what they are shown as.
  refine ⟨fun before after => ?_, hasEnding_iff, ?_, fileName_of_has (infix_fileName name),
    infix_fileName name, prefix_fileName name⟩
  · rw [Utf8.lossy_eq_append_iff (by decide) (by decide)]
    constructor
    · rintro ⟨earlier, later, whole, left, right⟩
      refine ⟨earlier, ⟨later, whole, left, right⟩, ?_⟩
      rintro other ⟨others, again, same, -⟩
      exact Utf8.front_unique ".so" (by decide) (again.symm.trans whole) (same.trans left.symm)
    · exact ExistsUnique.exists
  · -- The definition looks at the ending as well.
    split
    · rename_i has
      exact fileName_of_has has
    · rename_i lacks
      exact fileName_of_lacks lacks

-- A broken character just before the ending does not hide it, and one in its midst makes it none.
example : fileName [0xE2, 0x82, 0x2E, 0x73, 0x6F] = [0xE2, 0x82, 0x2E, 0x73, 0x6F] := by cbv

example : fileName [0x2E, 0xE2, 0x73, 0x6F] = [0x2E, 0xE2, 0x73, 0x6F, 0x2E, 0x73, 0x6F] := by cbv

end SharedLibrary

end Wakeful
