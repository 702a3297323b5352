import Mathlib.Data.List.Nodup
import Wakeful.Child.Block
import Wakeful.Proofs.Text.Order

/-!
A variable has the value that was given to it last, and makes one line of those that a child gets.
-/

namespace Wakeful.Environment

variable {environment : Environment} {pairs : List (Octets × Octets)}
  {name other value line : Octets}

/-- The names of the variables. -/
def names (environment : Environment) : List Octets :=
  environment.bindings.map Prod.fst

/-- Every variable has one value only. -/
def Distinct (environment : Environment) : Prop :=
  environment.names.Nodup

/-- Without any variables none has two values. -/
theorem distinct_empty : empty.Distinct := List.nodup_nil

/-- When a variable is removed, the others keep their one value. -/
theorem Distinct.remove (distinct : environment.Distinct) (name : Octets) :
    (environment.remove name).Distinct :=
  List.Nodup.sublist (List.filter_sublist.map Prod.fst) distinct

/-- A variable that is set has one value then, whatever it had before. -/
theorem Distinct.set (distinct : environment.Distinct) (name value : Octets) :
    (environment.set name value).Distinct := by
  -- The name is removed first and then put behind the others.
  have kept := distinct.remove name
  have gone : name ∉ (environment.remove name).names := by simp [names, Environment.remove]
  unfold Distinct names Environment.set at *
  rw [List.map_append, List.map_singleton]
  refine List.nodup_append.mpr ⟨kept, List.nodup_singleton name, fun key among last single => ?_⟩
  rw [List.mem_singleton.mp single]
  rintro rfl
  exact gone among

/-- Variables that are set in turn have one value each. -/
theorem Distinct.setAll (distinct : environment.Distinct) (pairs : List (Octets × Octets)) :
    (environment.setAll pairs).Distinct := by
  -- By induction on the pairs, each of which is set into distinct variables.
  induction pairs generalizing environment with
  | nil => exact distinct
  | cons pair pairs ih => exact ih (distinct.set pair.1 pair.2)

/-- Variables that pairs describe have one value each. -/
theorem distinct_ofPairs (pairs : List (Octets × Octets)) : (ofPairs pairs).Distinct :=
  distinct_empty.setAll pairs

/-- The values that pairs give to a variable, in order. -/
def given (pairs : List (Octets × Octets)) (name : Octets) : List Octets :=
  (pairs.filter (·.1 == name)).map Prod.snd

/-- A pair gives its value to the variable that it names. -/
theorem given_cons_self (name value : Octets) (pairs : List (Octets × Octets)) :
    given ((name, value) :: pairs) name = value :: given pairs name := by
  -- The pair is kept, since it has the name itself.
  simp [given]

/-- A pair gives nothing to the other variables. -/
theorem given_cons_of_ne (value : Octets) (pairs : List (Octets × Octets))
    (different : other ≠ name) : given ((other, value) :: pairs) name = given pairs name := by
  -- The pair is left out, since it has another name.
  simp [given, different]

/--
After variables have been set in turn, each one has the last
value that was given to it, or else its former one.
-/
theorem get?_setAll (environment : Environment) (pairs : List (Octets × Octets)) (name : Octets) :
    (environment.setAll pairs).get? name =
      (given pairs name).getLast?.or (environment.get? name) := by
  -- The first pair changes what the others find, and counts only if none of them has its name.
  induction pairs generalizing environment with
  | nil => rfl
  | cons pair pairs ih =>
    obtain ⟨key, value⟩ := pair
    refine (ih (environment.set key value)).trans ?_
    by_cases same : key = name
    · subst same
      rw [given_cons_self, get?_set_self, List.getLast?_cons]
      cases (given pairs key).getLast? <;> rfl
    · rw [given_cons_of_ne _ _ same, get?_set_of_ne environment value (Ne.symm same)]

/-- A variable that pairs describe has the last value that they give to it. -/
theorem get?_ofPairs (pairs : List (Octets × Octets)) (name : Octets) :
    (ofPairs pairs).get? name = (given pairs name).getLast? := by
  -- There is no former value.
  rw [ofPairs, get?_setAll]
  exact Option.or_none

/--
A variable that is removed from a block is left without values there, and the others keep theirs.
-/
theorem given_remove (block : Block) (name other : Octets) :
    given (block.remove name).entries other = if name = other then []
      else given block.entries other := by
  -- An entry that has the one name is kept if the other one is not the same.
  simp only [given, Block.remove, List.filter_filter]
  split
  · rename_i same
    simp [same]
  · rename_i different
    congr 2
    funext pair
    by_cases named : pair.1 = other
    · simp [named, Ne.symm different]
    · simp [named]

/--
A variable that is set in a block gets its value in the place of
the first one there, and the others keep theirs.
-/
theorem given_set (block : Block) (name value other : Octets) :
    given (block.set name value).entries other =
      if name = other then
        value :: (given block.entries other).tail
      else
        given block.entries other := by
  -- The entries are passed over up to the first one with the name.
  obtain ⟨entries⟩ := block
  simp only [Block.set]
  induction entries with
  | nil =>
    split
    · rename_i same
      rw [same]
      exact given_cons_self other value []
    · rename_i different
      exact given_cons_of_ne value [] different
  | cons entry entries ih =>
    obtain ⟨key, held⟩ := entry
    rw [Block.setIn]
    by_cases found : key = name
    · subst found
      rw [if_pos rfl]
      split
      · rename_i same
        rw [same, given_cons_self, given_cons_self, List.tail_cons]
      · rename_i different
        rw [given_cons_of_ne _ _ different, given_cons_of_ne _ _ different]
    · rw [if_neg found]
      by_cases asked : key = other
      · subst asked
        rw [given_cons_self, given_cons_self, ih, if_neg (Ne.symm found), if_neg (Ne.symm found)]
      · rw [given_cons_of_ne _ _ asked, given_cons_of_ne _ _ asked, ih]

/-- Variables of which none is there already are put behind the others. -/
theorem bindings_setAll (environment : Environment) (pairs : List (Octets × Octets))
    (fresh : (environment.names ++ pairs.map Prod.fst).Nodup) :
    (environment.setAll pairs).bindings = environment.bindings ++ pairs := by
  -- By induction on the pairs. A name that is not there yet removes nothing when it is set.
  induction pairs generalizing environment with
  | nil => exact (List.append_nil environment.bindings).symm
  | cons pair pairs ih =>
    obtain ⟨key, value⟩ := pair
    rw [List.map_cons] at fresh
    have absent : key ∉ environment.names :=
      fun among => (List.nodup_cons.mp (List.nodup_middle.mp fresh)).1
        (List.mem_append_left _ among)
    have kept : environment.bindings.filter (·.1 != key) = environment.bindings := by
      refine List.filter_eq_self.mpr fun pair among => ?_
      have differs : pair.1 ≠ key := fun same => absent (List.mem_map.mpr ⟨pair, among, same⟩)
      simpa using differs
    have added : (environment.set key value).bindings = environment.bindings ++ [(key, value)] := by
      simp only [set, remove, kept]
    have onward := ih (environment.set key value) (by rw [names, added]; simpa [names] using fresh)
    rw [added, List.append_assoc] at onward
    exact onward

/-- An environment is described by its own variables with their values. -/
theorem Distinct.ofPairs_bindings (distinct : environment.Distinct) :
    ofPairs environment.bindings = environment := by
  -- Distinct variables put one after the other into nothing are all fresh.
  have described := bindings_setAll empty environment.bindings distinct
  exact congrArg Environment.mk described

/-- A variable has a value exactly if it is there with that value. -/
theorem Distinct.get?_eq_some_iff (distinct : environment.Distinct) :
    environment.get? name = some value ↔ (name, value) ∈ environment.bindings := by
  -- The first variable of a name is found, and distinct names have no second one.
  rw [get?, List.lookup_eq_some_iff]
  constructor
  · rintro ⟨before, after, whole, -⟩
    rw [whole]
    exact List.mem_append_right _ List.mem_cons_self
  · intro among
    obtain ⟨before, after, whole⟩ := List.append_of_mem among
    refine ⟨before, after, whole, fun pair earlier => ?_⟩
    unfold Distinct names at distinct
    rw [whole, List.map_append, List.map_cons, List.nodup_middle, List.nodup_cons] at distinct
    have differs : name ≠ pair.1 :=
      fun same => distinct.1 (List.mem_append_left _ (List.mem_map.mpr ⟨pair, earlier, same.symm⟩))
    simpa using differs

/-- Every variable makes one of the lines that are handed to a child, and there are no others. -/
theorem Distinct.mem_entries_iff (distinct : environment.Distinct) :
    line ∈ environment.entries ↔
      ∃ name value, environment.get? name = some value ∧ line = name ++ equals :: value := by
  -- Sorting and spelling keep the variables as they are.
  simp only [entries, List.mem_map, (List.mergeSort_perm _ _).mem_iff, distinct.get?_eq_some_iff,
    Prod.exists, eq_comm]

/--
A line that begins with a name and the sign behind it is made
by that variable or by one whose name goes on so.
-/
theorem prefix_line (plain : equals ∉ name)
    (begins : name ++ [equals] <+: other ++ equals :: value) :
    other = name ∨ name ++ [equals] <+: other := by
  -- If the other name is not longer, the sign behind it stands where the one behind the name does.
  by_cases longer : (name ++ [equals]).length ≤ other.length
  · exact .inr (List.prefix_of_prefix_length_le begins (List.prefix_append other _) longer)
  · have shorter : other.length ≤ name.length := by simpa [Nat.lt_succ_iff] using longer
    have front : other <+: name :=
      List.prefix_of_prefix_length_le (List.prefix_append other _)
        ((List.prefix_append name _).trans begins) shorter
    obtain ⟨rest, rfl⟩ := front
    rw [List.append_assoc, List.prefix_append_right_inj] at begins
    cases rest with
    | nil => exact .inl (List.append_nil other).symm
    | cons sign rest =>
      obtain ⟨rfl, -⟩ := List.cons_prefix_cons.mp begins
      exact absurd (by simp) plain

/-- The lines are made of the variables in the order of their names. -/
theorem exists_sorted (environment : Environment) :
    ∃ sorted : List (Octets × Octets), sorted.Perm environment.bindings ∧
      sorted.Pairwise (fun left right => Octets.before right.1 left.1 = false) ∧
      environment.entries = sorted.map fun pair => pair.1 ++ equals :: pair.2 := by
  -- The order is one that sorting respects: of two names one does not come after the other.
  refine ⟨_, List.mergeSort_perm _ _, ?_, rfl⟩
  refine (List.pairwise_mergeSort ?_ ?_ _).imp fun ordered => by simpa using ordered
  · intro left middle right first second
    simp only [Bool.not_eq_true'] at first second ⊢
    exact Octets.not_after_trans first second
  · exact fun left right => Octets.not_after_total left.1 right.1

/-- Variables that are in the order of their names already make their lines in this order. -/
theorem entries_of_ordered
    (ordered : environment.bindings.Pairwise fun left right =>
      Octets.before right.1 left.1 = false) :
    environment.entries = environment.bindings.map fun pair => pair.1 ++ equals :: pair.2 := by
  -- Sorting leaves what is in order as it is.
  rw [entries, List.mergeSort_of_pairwise (ordered.imp fun follows => by simp [follows])]

/--
The line of a variable comes before those of all variables
whose names go on from its name with the sign.
-/
theorem Distinct.find?_entries (distinct : environment.Distinct) (plain : equals ∉ name)
    (has : environment.get? name = some value) :
    environment.entries.find? (name ++ [equals]).isPrefixOf = some (name ++ equals :: value) := by
  -- The lines are parted where that of the variable is.
  obtain ⟨sorted, perm, ordered, lines⟩ := environment.exists_sorted
  obtain ⟨earlier, later, rfl⟩ :=
    List.append_of_mem (perm.mem_iff.mpr (distinct.get?_eq_some_iff.mp has))
  have unique : ((earlier ++ (name, value) :: later).map Prod.fst).Nodup :=
    (perm.map Prod.fst).nodup_iff.mpr distinct
  refine List.find?_eq_some_iff_append.mpr ⟨?_, _,
    _, by rw [lines, List.map_append, List.map_cons], ?_⟩
  · exact List.isPrefixOf_iff_prefix.mpr ⟨value, by simp⟩
  · -- An earlier name is neither the same nor one that goes on, since that would come later.
    intro line among
    obtain ⟨⟨other, held⟩, before, rfl⟩ := List.mem_map.mp among
    rw [Bool.not_eq_true', Bool.eq_false_iff, ne_eq, List.isPrefixOf_iff_prefix]
    intro begins
    rcases prefix_line plain begins with rfl | ⟨rest, rfl⟩
    · rw [List.map_append, List.map_cons, List.nodup_append] at unique
      exact unique.2.2 _ (List.mem_map.mpr ⟨_, before, rfl⟩) _ List.mem_cons_self rfl
    · have first := (List.pairwise_append.mp ordered).2.2 _ before _ List.mem_cons_self
      have goesOn : Octets.before name (name ++ ([equals] ++ rest)) = true :=
        Octets.before_append _ _ (by simp)
      rw [List.append_assoc, goesOn] at first
      cases first

end Wakeful.Environment
