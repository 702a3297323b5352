import Mathlib.Data.List.Induction
import Wakeful.Child.Parent
import Wakeful.Proofs.Child.Environment
import Wakeful.Proofs.Child.Search

/-!
A child has the variables that were current when it was
prepared, or those it was given, and no others.
-/

namespace Wakeful

/-- A child gets what is prepared for it, whatever its parent has. -/
theorem Launch.handed_spawn {launch : Launch} (distinct : launch.environment.Distinct)
    (parent : Environment) : launch.spawn.handed parent = launch := by
  -- The parent's variables are cleared away, and those that are set then describe themselves.
  have described : Environment.empty.setAll launch.environment.bindings = launch.environment :=
    distinct.ofPairs_bindings
  simp only [spawn, Spawn.new, Spawn.withArguments, Spawn.clear, Spawn.setAll, Spawn.handed,
    described, List.nil_append, if_true]

namespace ParentStep

/-- The holder into which a step puts something. -/
def fills : ParentStep → Option Nat
  | prepare holder _ _ | refit holder _ | copy _ holder => some holder
  | _ => none

/-- Whether a step runs a child. -/
def runs : ParentStep → Bool
  | run _ _ => true
  | _ => false

end ParentStep

namespace Parent

/-- What a step makes of the values that a variable of the program has. -/
def change (name : Octets) (values : List Octets) : ParentStep → List Octets
  -- Setting it exchanges the first value, and removing it gives up all of them.
  | .set other value => if other = name then value :: values.tail else values
  | .remove other => if other = name then [] else values
  | _ => values

/-- The values that a variable of the program has after steps. -/
def valuesAfter (start : List (Octets × Octets)) (steps : List ParentStep)
    (name : Octets) : List Octets :=
  -- The program may have been started with several of them.
  steps.foldl (change name) (Environment.given start name)

/-- Where something prepared has its variables from. -/
inductive Source where
  /-- They are those that the program had after certain steps. -/
  | snapshot (steps : List ParentStep)
  /-- They were given as pairs. -/
  | given (pairs : List (Octets × Octets))

/--
The value that a variable has by its source, where the last one that it has been given counts.
-/
def Source.value (start : List (Octets × Octets)) (name : Octets) : Source → Option Octets
  | snapshot steps => (valuesAfter start steps name).getLast?
  | given pairs => (Environment.given pairs name).getLast?

/-- What something prepared is made of. -/
structure Origin where
  /-- The name or the path of its program. -/
  program : Octets
  /-- Its arguments. -/
  arguments : List Octets
  /-- Where it has its variables from. -/
  source : Source

/-- What the one is made of that a holder has after steps. -/
inductive Stems : List ParentStep → Nat → Origin → Prop where
  /-- It has just been prepared, with the variables of this moment. -/
  | prepared {steps : List ParentStep} {holder : Nat} {program : Octets} {arguments : List Octets} :
      Stems (steps ++ [.prepare holder program arguments]) holder
        ⟨program, arguments, .snapshot steps⟩
  /-- It has just been given other variables. -/
  | refitted {steps : List ParentStep} {holder : Nat} {pairs : List (Octets × Octets)}
      {origin : Origin} (stems : Stems steps holder origin) :
      Stems (steps ++ [.refit holder pairs]) holder { origin with source := .given pairs }
  /-- It is a copy that has just been made. -/
  | copied {steps : List ParentStep} {holder target : Nat} {origin : Origin}
      (stems : Stems steps holder origin) : Stems (steps ++ [.copy holder target]) target origin
  /-- The last step has put nothing into its holder. -/
  | kept {steps : List ParentStep} {step : ParentStep} {holder : Nat} {origin : Origin}
      (stems : Stems steps holder origin) (other : step.fills ≠ some holder) :
        Stems (steps ++ [step]) holder origin

/--
What is prepared is what its origin says: its program, its arguments, and each of its variables.
-/
structure Carries (start : List (Octets × Octets)) (launch : Launch) (origin : Origin) : Prop where
  /-- The program is the one that has been prepared. -/
  program : launch.program = origin.program
  /-- So are the arguments. -/
  arguments : launch.arguments = origin.arguments
  /-- Every variable has one value. -/
  distinct : launch.environment.Distinct
  /-- It is the one of the source. -/
  values : ∀ name, launch.environment.get? name = origin.source.value start name

/--
A program after steps has the variables that these have made, and holds what they have prepared.
-/
structure Sound (start : List (Octets × Octets)) (steps : List ParentStep)
    (parent : Parent) : Prop where
  /-- Every variable has the values that the steps have left to it. -/
  current : ∀ name, Environment.given parent.block.entries name = valuesAfter start steps name
  /-- Whatever is prepared is what it stems from. -/
  held : ∀ holder launch, parent.launches holder = some launch →
    ∃ origin, Stems steps holder origin ∧ Carries start launch origin

variable {execute : Executor} {parent next : Parent} {start : List (Octets × Octets)}
  {steps : List ParentStep}
variable {step : ParentStep} {holder : Nat} {name value : Octets} {launch : Launch}
  {origin : Origin}

/-- A run can be parted anywhere. -/
theorem run_append (execute : Executor) (parent : Parent) (steps later : List ParentStep) :
    parent.run execute (steps ++ later) = (parent.run execute steps).bind (·.run execute later) :=
  -- Steps that follow each other are taken as one fold.
  List.foldlM_append

/-- A run begins with its first step. -/
theorem run_cons (execute : Executor) (parent : Parent) (step : ParentStep)
    (later : List ParentStep) :
    parent.run execute (step :: later) = (parent.step execute step).bind (·.run execute later) :=
  -- A fold begins with the first of what it goes through.
  List.foldlM_cons

/-- A run ends with its last step. -/
theorem run_snoc (execute : Executor) (parent : Parent) (steps : List ParentStep)
    (step : ParentStep) :
    parent.run execute (steps ++ [step]) =
      (parent.run execute steps).bind (·.step execute step) := by
  -- A run of one step is that step.
  rw [run_append]
  congr 1
  funext before
  rw [run_cons]
  exact Option.bind_fun_some (before.step execute step)

/-- The last step changes the values that the others have left. -/
theorem valuesAfter_snoc (start : List (Octets × Octets)) (steps : List ParentStep)
    (step : ParentStep) (name : Octets) :
    valuesAfter start (steps ++ [step]) name = change name (valuesAfter start steps name) step := by
  -- It is the last one that is folded in.
  rw [valuesAfter, List.foldl_append]
  rfl

/--
What a holder has after one more step: something that the
step has put into it, or what it had before.
-/
theorem stems_snoc_iff : Stems (steps ++ [step]) holder origin ↔
    (∃ program arguments,
      step = .prepare holder program arguments ∧ origin = ⟨program, arguments, .snapshot steps⟩) ∨
    (∃ pairs former, step = .refit holder pairs ∧ Stems steps holder former ∧
      origin = { former with source := .given pairs }) ∨
    (∃ source, step = .copy source holder ∧ Stems steps source origin) ∨
    step.fills ≠ some holder ∧ Stems steps holder origin := by
  -- What is in a holder was put there by the last step or was there before.
  constructor
  · generalize whole : steps ++ [step] = all
    intro stems
    cases stems with
    | prepared =>
      obtain ⟨rfl, same⟩ := List.append_inj' whole rfl
      cases same
      exact .inl ⟨_, _, rfl, rfl⟩
    | refitted stems =>
      obtain ⟨rfl, same⟩ := List.append_inj' whole rfl
      cases same
      exact .inr (.inl ⟨_, _, rfl, stems, rfl⟩)
    | copied stems =>
      obtain ⟨rfl, same⟩ := List.append_inj' whole rfl
      cases same
      exact .inr (.inr (.inl ⟨_, rfl, stems⟩))
    | kept stems other =>
      obtain ⟨rfl, same⟩ := List.append_inj' whole rfl
      cases same
      exact .inr (.inr (.inr ⟨other, stems⟩))
  · rintro (⟨program, arguments, rfl, rfl⟩ | ⟨pairs, former, rfl, stems, rfl⟩ |
      ⟨source, rfl, stems⟩ | ⟨other, stems⟩)
    · exact .prepared
    · exact .refitted stems
    · exact .copied stems
    · exact .kept stems other

/-- Before the first step nothing is prepared. -/
theorem not_stems_nil : ¬ Stems [] holder origin := by
  -- Every way to come into a holder ends with a step.
  generalize none : [] = steps
  intro stems
  cases stems <;> simp at none

/-- What a holder has stems from one origin only. -/
theorem Stems.unique {other : Origin} (one : Stems steps holder origin)
    (two : Stems steps holder other) : other = origin := by
  -- The last step decides between the ways in which something
  -- comes into a holder, so it is the last one first.
  induction steps using List.reverseRecOn generalizing holder origin other with
  | nil => exact absurd one not_stems_nil
  | append_singleton steps step ih =>
    rw [stems_snoc_iff] at one two
    rcases one with ⟨program, arguments, rfl, rfl⟩ | ⟨pairs, former, rfl, stems,
      rfl⟩ | ⟨source, rfl, stems⟩ | ⟨off, stems⟩
    · simpa [ParentStep.fills, eq_comm] using two
    · obtain ⟨former', stems', rfl⟩ : ∃ former,
        Stems steps holder former ∧ other = { former with source := .given pairs } := by
        simpa [ParentStep.fills, eq_comm] using two
      rw [ih stems stems']
    · exact ih stems (by simpa [ParentStep.fills, eq_comm] using two)
    · rcases two with ⟨_, _, rfl, -⟩ | ⟨_, _, rfl, -⟩ | ⟨_, rfl, -⟩ | ⟨-, stems'⟩
      · exact absurd rfl off
      · exact absurd rfl off
      · exact absurd rfl off
      · exact ih stems stems'

/-- What a holder has stays there as long as nothing else is put into it. -/
theorem Stems.kept_along {later : List ParentStep} (stems : Stems steps holder origin)
    (others : ∀ step ∈ later, step.fills ≠ some holder) : Stems (steps ++ later) holder origin := by
  -- By induction on the later steps, none of which fills the holder.
  induction later generalizing steps with
  | nil => rwa [List.append_nil]
  | cons step later ih =>
    obtain ⟨here, onward⟩ := List.forall_mem_cons.mp others
    rw [List.append_cons]
    exact ih (stems.kept here) onward

/-- A program that has just been started has the variables it was started with. -/
theorem sound_new (start : List (Octets × Octets)) : Sound start [] (new start) where
  current _ := rfl
  held := nofun

/--
What leaves the program's variables alone and puts something into a holder leaves the program sound.
-/
theorem Sound.hold (sound : Sound start steps parent)
    (own : ∀ name values, change name values step = values) (fills : step.fills = some holder)
    (stems : Stems (steps ++ [step]) holder origin) (carries : Carries start launch origin) :
    Sound start (steps ++ [step]) (parent.hold holder launch) where
  current name := by rw [valuesAfter_snoc, own]; exact sound.current name
  held other found has := by
    -- Only the holder that is filled has something else than before.
    by_cases same : other = holder
    · have put : launch = found := by simpa [Parent.hold, same] using has
      exact ⟨origin, same ▸ stems, put ▸ carries⟩
    · have had : parent.launches other = some found := by simpa [Parent.hold, same] using has
      obtain ⟨former, stems, carries⟩ := sound.held other found had
      exact ⟨former, .kept stems fun filled => same (Option.some.inj (filled.symm.trans fills)),
        carries⟩

/--
What puts nothing into a holder leaves the program sound if its variables are as they should be.
-/
theorem Sound.pass {children : List Child} {block : Block} (sound : Sound start steps parent)
    (fills : step.fills = none)
    (own : ∀ name, Environment.given block.entries name =
      change name (Environment.given parent.block.entries name) step) :
    Sound start (steps ++ [step]) { parent with block := block, children := children } where
  current name := by rw [valuesAfter_snoc, ← sound.current]; exact own name
  held holder launch has := by
    -- Nothing is held that was not held before.
    obtain ⟨origin, stems, carries⟩ := sound.held holder launch has
    exact ⟨origin, .kept stems (by simp [fills]), carries⟩

/-- What is prepared at some time has the variables of this time. -/
theorem Sound.carries_new (sound : Sound start steps parent) (program : Octets)
    (arguments : List Octets) :
    Carries start (.new program arguments parent.block.environment)
      ⟨program, arguments, .snapshot steps⟩ where
  program := rfl
  arguments := rfl
  distinct := Environment.distinct_ofPairs _
  values name := by
    -- The environment has the last of the values that the block has.
    refine (Environment.get?_ofPairs _ name).trans ?_
    rw [sound.current]
    rfl

/-- What is given other variables has these. -/
theorem Carries.refit (carries : Carries start launch origin) (pairs : List (Octets × Octets)) :
    Carries start (launch.withEnvironment pairs) { origin with source := .given pairs } where
  program := carries.program
  arguments := carries.arguments
  distinct := Environment.distinct_ofPairs pairs
  values := Environment.get?_ofPairs pairs

/-- Every step keeps a program sound. -/
theorem Sound.kept (sound : Sound start steps parent)
    (stepped : parent.step execute step = some next) : Sound start (steps ++ [step]) next := by
  -- The steps either change the variables, or fill a holder, or run what is in one.
  cases step with
  | set name value =>
    simp only [Parent.step, Option.ite_none_right_eq_some, Option.some.injEq] at stepped
    obtain ⟨-, rfl⟩ := stepped
    -- No holder changes, and a variable that is set has the value that the history gives it.
    refine sound.pass rfl fun other => ?_
    rw [Environment.given_set]
    rfl
  | remove name =>
    simp only [Parent.step, Option.ite_none_right_eq_some, Option.some.injEq] at stepped
    obtain ⟨-, rfl⟩ := stepped
    -- So it is for one that is removed, which has none.
    refine sound.pass rfl fun other => ?_
    rw [Environment.given_remove]
    rfl
  | prepare holder program arguments =>
    -- What is prepared carries the variables of this moment.
    obtain rfl := Option.some.inj stepped
    exact sound.hold (fun _ _ => rfl) rfl .prepared (sound.carries_new program arguments)
  | refit holder pairs =>
    obtain ⟨launch, has, rfl⟩ := Option.map_eq_some_iff.mp stepped
    -- Other pairs take the place of the variables, and program and arguments stay.
    obtain ⟨origin, stems, carries⟩ := sound.held holder launch has
    exact sound.hold (fun _ _ => rfl) rfl (.refitted stems) (carries.refit pairs)
  | copy source target =>
    obtain ⟨launch, has, rfl⟩ := Option.map_eq_some_iff.mp stepped
    -- A copy carries what its source does.
    obtain ⟨origin, stems, carries⟩ := sound.held source launch has
    exact sound.hold (fun _ _ => rfl) rfl (.copied stems) carries
  | run holder workplace =>
    obtain ⟨launch, has, rfl⟩ := Option.map_eq_some_iff.mp stepped
    -- A run leaves its holder and the variables alone.
    exact sound.pass rfl fun _ => rfl

/-- Every run keeps a program sound. -/
theorem sound_run (ran : (new start).run execute steps = some parent) :
    Sound start steps parent := by
  -- The induction is over the steps from the last one on, since a history grows at its end.
  induction steps using List.reverseRecOn generalizing parent with
  | nil =>
    obtain rfl := Option.some.inj ran
    exact sound_new start
  | append_singleton steps step ih =>
    rw [run_snoc, Option.bind_eq_some_iff] at ran
    obtain ⟨before, earlier, stepped⟩ := ran
    exact (ih earlier).kept stepped

/--
A step that runs a child adds one behind those that have
been run before, and no other step adds any.
-/
theorem children_of_step (stepped : parent.step execute step = some next) :
    ∃ born, next.children = parent.children ++ born ∧ born.length = if step.runs then 1 else 0 := by
  -- A step that can be taken tells what it leaves.
  cases step with
  | set | remove =>
    simp only [Parent.step, Option.ite_none_right_eq_some, Option.some.injEq] at stepped
    obtain ⟨-, rfl⟩ := stepped
    exact ⟨[], (List.append_nil _).symm, rfl⟩
  | prepare =>
    obtain rfl := Option.some.inj stepped
    exact ⟨[], (List.append_nil _).symm, rfl⟩
  | refit | copy =>
    obtain ⟨launch, -, rfl⟩ := Option.map_eq_some_iff.mp stepped
    exact ⟨[], (List.append_nil _).symm, rfl⟩
  | run =>
    obtain ⟨launch, -, rfl⟩ := Option.map_eq_some_iff.mp stepped
    exact ⟨[_], rfl, rfl⟩

/-- Children join those that have been run before, one with each step that runs one. -/
theorem children_of_run {steps : List ParentStep} (ran : parent.run execute steps = some next) :
    ∃ born, next.children = parent.children ++ born ∧
      born.length = steps.countP ParentStep.runs := by
  -- What the first step adds comes before what the others add.
  induction steps generalizing parent with
  | nil =>
    obtain rfl := Option.some.inj ran
    exact ⟨[], (List.append_nil _).symm, rfl⟩
  | cons step steps ih =>
    rw [run_cons, Option.bind_eq_some_iff] at ran
    obtain ⟨between, stepped, onward⟩ := ran
    obtain ⟨here, began, size⟩ := children_of_step stepped
    obtain ⟨born, joined, length⟩ := ih onward
    refine ⟨here ++ born, by rw [joined, began, List.append_assoc], ?_⟩
    rw [List.length_append, size, length, List.countP_cons, Nat.add_comm]

/--
Running what is prepared adds a child that gets just this, whatever variables the program has then.
-/
theorem step_run (distinct : launch.environment.Distinct)
    (has : parent.launches holder = some launch) (workplace : Workplace) (block : Block) :
    { parent with block := block }.step execute (.run holder workplace) = some { parent with
      block := block
      children := parent.children ++ [⟨launch, launch.run execute workplace⟩] } := by
  -- The child is handed what is prepared for it, and nothing of the block.
  simp only [Parent.step, has, Option.map_some, spawn, Launch.handed_spawn distinct]

/--
A child has the variables that were current when it was
prepared, or those it was given, and no others.

However a program sets and removes variables of its own while it prepares children, gives them
other variables, copies and runs them: what is run stems from one origin. Its program gets the
arguments of that, with one line for each variable of the source, and it comes to what the program
at its path comes to, or, without a separator in its name, the first such program in the
directories that its own lines name. Neither does it matter what variables the parent has when it
runs the child, nor does running change anything but the list of those that have been run.
-/
theorem child_gets_own_environment (execute : Executor) (start : List (Octets × Octets))
    (earlier later : List ParentStep) (holder : Nat) (workplace : Workplace) (final : Parent)
    (ran : (new start).run execute (earlier ++ .run holder workplace :: later) = some final) :
    ∃ origin before launch,
      (∀ other, Stems earlier holder other ↔ other = origin) ∧ Carries start launch origin ∧
      (new start).run execute earlier = some before ∧ before.launches holder = some launch ∧
      (∀ block, { before with block := block }.step execute (.run holder workplace) =
        some { before with
        block := block
        children := before.children ++ [⟨launch, launch.run execute workplace⟩] }) ∧
      final.children[earlier.countP ParentStep.runs]? =
        some ⟨launch, launch.run execute workplace⟩ ∧
      (∀ line, line ∈ launch.environment.entries ↔
        ∃ name value, origin.source.value start name = some value ∧
          line = name ++ Environment.equals :: value) ∧
      (∀ value, origin.source.value start searchVariable = some value →
        searchPath launch.environment.entries = value) ∧
      ((∀ line ∈ launch.environment.entries, ¬ searchLine <+: line) →
        searchPath launch.environment.entries = searchDefault) ∧
      (∀ path ended, launch.attempt execute workplace path = .ok ended ↔
        workplace.checkProgram path = .ok () ∧
        execute workplace path origin.program origin.arguments launch.environment.entries =
          .ok ended) ∧
      ∀ ended, launch.run execute workplace = .ok ended ↔ (∀ text ∈ launch.texts, 0 ∉ text) ∧
        (Octets.slash ∈ origin.program ∧
          launch.attempt execute workplace origin.program = .ok ended ∨
          Octets.slash ∉ origin.program ∧ origin.program ≠ [] ∧ origin.program.length ≤ nameLimit ∧
            FoundIn (launch.attempt execute workplace) origin.program
              (searched (Octets.parts 0x3A (searchPath launch.environment.entries))) ended) := by
  -- The run is parted before and behind the step that runs the child.
  obtain ⟨before, began, onward⟩ :=
    Option.bind_eq_some_iff.mp ((run_append execute (new start) earlier _).symm.trans ran)
  obtain ⟨after, stepped, ended⟩ :=
    Option.bind_eq_some_iff.mp ((run_cons execute before _ later).symm.trans onward)
  obtain ⟨launch, has, -⟩ := Option.map_eq_some_iff.mp stepped
  obtain ⟨origin, stems, carries⟩ := (sound_run began).held holder launch has
  have born : ∀ block,
      { before with block := block }.step execute (.run holder workplace) = some { before with
      block := block
      children := before.children ++ [⟨launch, launch.run execute workplace⟩] } :=
    step_run carries.distinct has workplace
  refine ⟨origin, before, launch, fun other => ⟨stems.unique, fun same => same ▸ stems⟩, carries,
    began, has, born, ?_, fun line => ?_, fun value current => ?_, searchPath_of_lacks,
    fun path ended => ?_, fun ended => ?_⟩
  · -- As many children have been run before as there are earlier steps that run one.
    obtain ⟨others, first, count⟩ := children_of_run began
    obtain ⟨younger, last, -⟩ := children_of_run ended
    obtain rfl := Option.some.inj ((born before.block).symm.trans stepped)
    have number : before.children.length = earlier.countP ParentStep.runs := by
      rw [first, ← count]
      rfl
    rw [last, ← number]
    simp
  · rw [carries.distinct.mem_entries_iff]
    simp only [carries.values]
  · exact searchPath_of_get? carries.distinct ((carries.values searchVariable).trans current)
  · rw [Launch.attempt_eq_ok_iff, carries.program, carries.arguments]
  · rw [Launch.run_eq_ok_iff, carries.program]

/-- What comes of a program that writes out the lines of its environment. -/
def listing : Executor := fun _ _ _ _ lines => .ok (.exited 0, lines.flatMap (· ++ [0x0A]))

/-- A workplace with a program at `/b/env`. -/
def stocked : Workplace :=
  ⟨FileTree.empty.plant (Place.ofPath (Octets.ofText "/b/env")) (.file 0o755 []), .root, 0o022, []⟩

/-- The variables of a program that has a home. -/
def housed : List (Octets × Octets) :=
  [(Octets.ofText "HOME", Octets.ofText "/old"), (Octets.ofText "PATH", Octets.ofText "/b")]

/--
The steps of a program that moves after it has prepared a
child, and runs a copy that is to live elsewhere.
-/
def moving : List ParentStep :=
  [.prepare 0 (Octets.ofText "env") [], .copy 0 1,
    .set (Octets.ofText "HOME") (Octets.ofText "/new"),
    .refit 1 [(Octets.ofText "HOME", Octets.ofText "/a"),
      (Octets.ofText "HOME", Octets.ofText "/c")], .run 1 stocked]

/-- A child that was prepared before its parent moved writes out the former home. -/
theorem former_home_kept :
    ∃ final launch, (new housed).run listing (moving ++ .run 0 stocked :: []) = some final ∧
      Environment.given final.block.entries (Octets.ofText "HOME") = [Octets.ofText "/new"] ∧
      final.children[1]? =
        some ⟨launch, .ok (.exited 0, Octets.ofText "HOME=/old\nPATH=/b\n")⟩ := by
  -- What is held is known from the run, and what comes of it from its two lines.
  obtain ⟨origin, before, launch, -, -, began, has, -, child, -⟩ :=
    child_gets_own_environment listing housed moving [] 0 stocked _ rfl
  obtain rfl := Option.some.inj began
  obtain rfl := Option.some.inj has
  have lines : (new housed).block.environment.entries =
      [Octets.ofText "HOME=/old", Octets.ofText "PATH=/b"] :=
        Environment.entries_of_ordered (by decide)
  have wrote : (Launch.new (Octets.ofText "env") [] (new housed).block.environment).run listing
      stocked = .ok (.exited 0, Octets.ofText "HOME=/old\nPATH=/b\n") := by
    refine Launch.run_eq_ok_iff.mpr ⟨?_, .inr ⟨by decide, by decide, by decide, ?_⟩⟩
    · simp only [Launch.texts, Launch.new, lines]
      decide
    · simp only [Launch.new, lines]
      exact ⟨[], Octets.ofText "/b", [], rfl, nofun,
        Launch.attempt_eq_ok_iff.mpr ⟨rfl, by rw [lines]; rfl⟩⟩
  exact ⟨_, _, rfl, rfl, child.trans (by rw [wrote])⟩

end Parent

end Wakeful
