import Wakeful.Child.Launch
import Wakeful.Proofs.Child.Environment
import Wakeful.Proofs.FileTree.Approach

/-!
What comes of a name without a separator is what comes of the
first path that it has where programs are looked for.
-/

namespace Wakeful

variable {α : Type} {attempt : Octets → Except Errno α} {name directory : Octets} {result : α}
variable {refusal : Errno} {directories lines : List Octets}

/-- A search goes on behind a directory in which the program is missing or cannot be reached. -/
def PassesOver (attempt : Octets → Except Errno α) (name directory : Octets) : Prop :=
  ∃ reason ∈ [Errno.permissionDenied, .notFound, .notADirectory],
    attempt (candidate name directory) = .error reason

/--
Something comes of the path that a name has in the first of
several directories that is not passed over.
-/
def FoundIn (attempt : Octets → Except Errno α) (name : Octets) (directories : List Octets)
    (result : α) : Prop :=
  ∃ before directory after, directories = before ++ directory :: after ∧
    (∀ passed ∈ before, PassesOver attempt name passed) ∧
    attempt (candidate name directory) = .ok result

/-- A directory that comes first is either the one with the program or passed over. -/
theorem foundIn_cons_iff : FoundIn attempt name (directory :: directories) result ↔
    attempt (candidate name directory) = .ok result ∨
      PassesOver attempt name directory ∧ FoundIn attempt name directories result := by
  -- Either nothing is before the one with the program, or the first directory is.
  constructor
  · rintro ⟨before, found, after, whole, passed, works⟩
    cases before with
    | nil =>
      cases whole
      exact .inl works
    | cons first before =>
      cases whole
      obtain ⟨here, later⟩ := List.forall_mem_cons.mp passed
      exact .inr ⟨here, before, found, after, rfl, later, works⟩
  · rintro (works | ⟨here, before, found, after, rfl, later, works⟩)
    · exact ⟨[], directory, directories, rfl, nofun, works⟩
    · exact ⟨directory :: before, found, after, rfl, List.forall_mem_cons.mpr ⟨here, later⟩, works⟩

/-- A directory in which nothing comes of the program is passed over for three reasons only. -/
theorem passesOver_iff {reason : Errno}
    (failed : attempt (candidate name directory) = .error reason) :
    PassesOver attempt name directory ↔
      reason = .permissionDenied ∨ reason = .notFound ∨ reason = .notADirectory := by
  -- The reason is the only one for which it can be passed over.
  simp [PassesOver, failed]

/--
What a search comes to is what comes of the first directory
that has it, whatever has been refused before.
-/
theorem tryIn_eq_ok_iff :
    tryIn attempt name refusal directories = .ok result ↔
      FoundIn attempt name directories result := by
  -- The induction is over the directories, of which each is tried once.
  induction directories generalizing refusal with
  | nil => simp [tryIn, FoundIn]
  | cons directory directories ih =>
    rw [foundIn_cons_iff, tryIn]
    cases tried : attempt (candidate name directory) with
    | ok other =>
      have stops : ¬ PassesOver attempt name directory := by simp [PassesOver, tried]
      exact (or_iff_left fun further => stops further.1).symm
    | error reason =>
      rw [passesOver_iff tried, or_iff_right (by simp)]
      dsimp only
      by_cases denied : reason = .permissionDenied
      · rw [if_pos denied, ih, and_iff_right (.inl denied)]
      · rw [if_neg denied]
        by_cases absent : reason = .notFound ∨ reason = .notADirectory
        · rw [if_pos absent, ih, and_iff_right (.inr absent)]
        · rw [if_neg absent]
          exact iff_of_false (by simp) fun further => further.1.elim denied absent

/-- A name with a separator is a path. -/
theorem tryNamed_of_mem (separated : Octets.slash ∈ name) :
    tryNamed attempt lines name = attempt name := by
  -- Such a name is not empty.
  have filled : ¬ name.isEmpty = true := by
    rw [List.isEmpty_iff]
    rintro rfl
    cases separated
  rw [tryNamed, if_neg filled, if_pos (by simpa using separated)]

/-- In whatever directory it is looked for, a name ends the path that it has there. -/
theorem names_candidate (filled : name ≠ []) (plain : Octets.slash ∉ name) (directory : Octets) :
    Path.names (candidate name directory) = Path.names directory ++ [name] := by
  -- Only in the working directory is there nothing before it.
  unfold candidate
  split
  · rename_i empty
    rw [List.isEmpty_iff.mp empty, Path.names_of_not_mem filled plain]
    rfl
  · rw [Path.names_append_slash, Path.names_of_not_mem filled plain]

namespace Workplace

/-- A name that is too long is no program, in whatever directory it is looked for. -/
theorem checkProgram_of_long {workplace : Workplace} (plain : Octets.slash ∉ name)
    (long : nameLimit < name.length) (directory : Octets) :
    workplace.checkProgram (candidate name directory) ≠ .ok () := by
  -- Such a name stands for nothing at the end of a path.
  intro checked
  have filled : name ≠ [] := by
    rintro rfl
    cases long
  have enters : Step.ofName name = .enter name := by
    -- Names made of dots are short.
    have different (dots : Octets) (short : dots.length ≤ nameLimit) : name ≠ dots := by
      rintro rfl
      exact absurd short (Nat.not_le.mpr long)
    rw [Step.ofName, if_neg (different _ (by decide)), if_neg (different _ (by decide))]
  obtain ⟨goal, located, -⟩ := ok_of_bind checked
  obtain ⟨way, approached, stands⟩ := approach_of_locate located
  have ends : (Path.names (candidate name directory)).getLast? = some name := by
    rw [names_candidate filled plain, List.getLast?_concat]
  have named : way.ending = .name name := ending_of_enters ends enters approached
  obtain ⟨node, present⟩ := stands name named
  unfold FileTree.entry? at present
  rw [if_pos long] at present
  split at present <;> cases present

end Workplace

/--
What comes of a name without a separator is what comes of it in the first directory that has it.
-/
theorem tryNamed_eq_ok_iff {workplace : Workplace} (plain : Octets.slash ∉ name)
    (proper : ∀ path, attempt path = .ok result → workplace.checkProgram path = .ok ()) :
    tryNamed attempt lines name = .ok result ↔ name ≠ [] ∧ name.length ≤ nameLimit ∧
      FoundIn attempt name (searched (Octets.parts 0x3A (searchPath lines))) result := by
  -- As much of a name is looked at as shows that it is too long, and all of it otherwise.
  rw [tryNamed]
  by_cases empty : name = []
  · simp [empty]
  · rw [if_neg (by simpa using empty), if_neg (by simpa using plain), and_iff_right empty,
      tryIn_eq_ok_iff]
    by_cases fits : name.length ≤ nameLimit
    · rw [List.take_of_length_le (Nat.le_succ_of_le fits), and_iff_right fits]
    · refine iff_of_false ?_ fun found => fits found.1
      rintro ⟨before, directory, after, -, -, works⟩
      have free : Octets.slash ∉ name.take (nameLimit + 1) :=
        fun among => plain (List.mem_of_mem_take among)
      have long : nameLimit < (name.take (nameLimit + 1)).length := by
        rw [List.length_take]
        omega
      exact Workplace.checkProgram_of_long free long directory (proper _ works)

/-- The variable of the directories, if it has a value, names them in the lines of a child. -/
theorem searchPath_of_get? {environment : Environment} {value : Octets}
    (distinct : environment.Distinct) (has : environment.get? searchVariable = some value) :
    searchPath environment.entries = value := by
  -- Its line comes before all others that begin so, and the value is what follows the beginning.
  have plain : Environment.equals ∉ searchVariable := by decide
  have first : environment.entries.find? searchLine.isPrefixOf = some (searchLine ++ value) := by
    rw [searchLine, distinct.find?_entries plain has, List.append_assoc]
    rfl
  rw [searchPath, first, Option.map_some, List.drop_left, Option.getD_some]

/-- Where no line names the directories, they are the usual ones. -/
theorem searchPath_of_lacks (lacks : ∀ line ∈ lines, ¬ searchLine <+: line) :
    searchPath lines = searchDefault := by
  -- No line is found that begins so.
  have none : lines.find? searchLine.isPrefixOf = none := by simpa using lacks
  rw [searchPath, none]
  rfl

namespace Launch

variable {launch : Launch} {execute : Executor} {workplace : Workplace} {path : Octets}
  {ended : ExitStatus × Octets}

/-- Something comes of a path only if a program is there. -/
theorem attempt_eq_ok_iff : launch.attempt execute workplace path = .ok ended ↔
    workplace.checkProgram path = .ok () ∧
      execute workplace path launch.program launch.arguments launch.environment.entries =
        .ok ended := by
  -- The program is looked at before it is executed.
  unfold attempt
  rcases workplace.checkProgram path with reason | ⟨⟨⟩⟩ <;> simp

/--
A child runs if no text holds the octet that ends texts, and
if something comes of its program where it is.
-/
theorem run_eq_ok_iff :
    launch.run execute workplace = .ok ended ↔ (∀ text ∈ launch.texts, 0 ∉ text) ∧
    (Octets.slash ∈ launch.program ∧ launch.attempt execute workplace launch.program = .ok ended ∨
      Octets.slash ∉ launch.program ∧ launch.program ≠ [] ∧ launch.program.length ≤ nameLimit ∧
        FoundIn (launch.attempt execute workplace) launch.program
          (searched (Octets.parts 0x3A (searchPath launch.environment.entries))) ended) := by
  -- The texts are looked at first, and a program with a separator is not searched for.
  unfold run
  by_cases nought : launch.texts.any (·.contains 0) = true
  · rw [if_pos nought]
    refine iff_of_false nofun fun both => ?_
    obtain ⟨text, among, holds⟩ := List.any_eq_true.mp nought
    exact both.1 text among (by simpa using holds)
  · have clear : ∀ text ∈ launch.texts, 0 ∉ text := by simpa using nought
    rw [if_neg nought, mapError_eq_ok_iff, and_iff_right clear]
    by_cases separated : Octets.slash ∈ launch.program
    · rw [tryNamed_of_mem separated]
      simp [separated]
    · rw [tryNamed_eq_ok_iff separated fun path works => (attempt_eq_ok_iff.mp works).1]
      simp [separated]

end Launch

end Wakeful
