import Wakeful.FileTree.Walk
import Wakeful.Proofs.Attempt

/-!
What lies at a place where no walk goes on makes no difference to the walks that lead elsewhere.
-/

namespace Wakeful

/-- No name asks for a directory by itself. -/
theorem Step.ofName_ne_insist (name : Octets) : Step.ofName name ≠ .insist := by
  -- A dot, two dots and anything else are the three things a name can be.
  unfold Step.ofName
  split
  · simp
  · split <;> simp

namespace FileTree

/-- Whether a place holds neither a directory nor a link, so that no walk goes on from there. -/
def Shut (tree : FileTree) (place : Place) : Prop :=
  -- A free place is shut too.
  ∀ node, tree.node? place = some node → node.isDirectory = false ∧ node.isLink = false

/-- Whether trees have the same nodes everywhere but at one place. -/
def AgreeBut (place : Place) (tree other : FileTree) : Prop :=
  ∀ elsewhere, elsewhere ≠ place → other.node? elsewhere = tree.node? elsewhere

variable {tree other : FileTree} {place : Place} {spot start : Spot} {followLast : Bool}

/-- A node that is put in the stead of another one changes nothing elsewhere. -/
theorem agreeBut_insert (tree : FileTree) (place : Place) (node : Node) :
    AgreeBut place tree (tree.insert place node) :=
  fun _ different => tree.node?_insert_of_ne node different

/-- A node that is taken away changes nothing elsewhere. -/
theorem agreeBut_erase (tree : FileTree) (place : Place) : AgreeBut place tree (tree.erase place) :=
  fun _ different => tree.node?_erase_of_ne different

/-- A free place is shut. -/
theorem shut_of_free (free : tree.node? place = none) : tree.Shut place := by
  -- Nothing is held at a free place, so nothing has to be shown of it.
  intro node held
  cases free.symm.trans held

/-- No directory is at a shut place. -/
theorem Shut.not_directory (shut : tree.Shut place) (mode : Nat) :
    tree.at? (.ofPlace place) ≠ some (.directory mode) := by
  -- Whatever a shut place holds is no directory.
  intro held
  have closed := (shut _ held).1
  cases closed

/-- A directory in one tree is one in the other, wherever it is. -/
theorem AgreeBut.directory (agree : AgreeBut place tree other) (shut : tree.Shut place) {mode : Nat}
    (held : tree.at? start = some (.directory mode)) :
    other.at? start = some (.directory mode) := by
  -- A removed directory does not depend on the tree, and any other one is not at the shut place.
  obtain ⟨site, lost⟩ := start
  cases lost with
  | cons inner outer => exact held
  | nil =>
    have different : site ≠ place := by
      rintro rfl
      exact shut.not_directory mode held
    exact (agree site different).trans held

/-- Only a directory can be searched. -/
theorem directory_of_checkSearch (searched : tree.checkSearch start = .ok ()) :
    ∃ mode, tree.at? start = some (.directory mode) := by
  -- The check passes in its first case only.
  unfold checkSearch at searched
  split at searched
  · exact ⟨_, ‹_›⟩
  · cases searched
  · cases searched

/-- A spot that can be searched in one tree can be searched in the other. -/
theorem AgreeBut.checkSearch (agree : AgreeBut place tree other) (shut : tree.Shut place)
    (searched : tree.checkSearch start = .ok ()) : other.checkSearch start = .ok () := by
  -- What can be searched is a directory, and every directory is the same in both trees.
  obtain ⟨mode, held⟩ := directory_of_checkSearch searched
  have same := agree.directory shut held
  unfold FileTree.checkSearch at searched ⊢
  rw [held] at searched
  rw [same]
  exact searched

/-- A name that leads elsewhere stands for the same in both trees. -/
theorem AgreeBut.entry? (agree : AgreeBut place tree other) {name : Octets}
    (apart : name :: start.place ≠ place) : other.entry? start name = tree.entry? start name := by
  -- Looking a name up asks one place only, and the trees agree there.
  unfold FileTree.entry?
  rw [agree _ apart]

/-- What a name stands for if it stands for anything. -/
theorem node_of_entry {name : Octets} {node : Node}
    (held : tree.entry? start name = .ok (some node)) :
    tree.node? (name :: start.place) = some node := by
  -- Both early answers are refusals or nothing at all.
  unfold FileTree.entry? at held
  split at held
  · cases held
  · split at held
    · cases held
    · exact Except.ok.inj held

/-- A walk that has come to a shut place is at its end. -/
theorem advance_shut (shut : tree.Shut place)
    {follow : Spot → Octets → List Step → Except Errno Spot} {steps : List Step}
    (walked : tree.advance followLast follow (.ofPlace place) steps = .ok spot) :
    spot = .ofPlace place := by
  -- Every further step would need a directory there.
  have closed : tree.checkSearch (.ofPlace place) ≠ .ok () := by
    intro searched
    obtain ⟨mode, held⟩ := directory_of_checkSearch searched
    exact shut.not_directory mode held
  cases steps with
  | nil =>
    cases walked
    rfl
  | cons step rest =>
    cases step with
    | insist =>
      simp only [advance] at walked
      split at walked
      · exact absurd ‹_› (shut.not_directory _)
      · cases walked
    | stay =>
      obtain ⟨⟨⟩, searched, -⟩ := ok_of_bind walked
      exact absurd searched closed
    | rise =>
      obtain ⟨⟨⟩, searched, -⟩ := ok_of_bind walked
      exact absurd searched closed
    | enter name =>
      obtain ⟨⟨⟩, searched, -⟩ := ok_of_bind walked
      exact absurd searched closed

/-- Steps that lead elsewhere in one tree lead to the same spot in the other. -/
theorem AgreeBut.advance (agree : AgreeBut place tree other) (shut : tree.Shut place)
    (elsewhere : spot ≠ .ofPlace place)
    {follow follow' : Spot → Octets → List Step → Except Errno Spot} (follows : ∀ here target rest,
      follow here target rest = .ok spot → follow' here target rest = .ok spot)
    {steps : List Step} (walked : tree.advance followLast follow start steps = .ok spot) :
    other.advance followLast follow' start steps = .ok spot := by
  -- The induction is over the steps, none of which enters the shut place.
  induction steps generalizing start with
  | nil => exact walked
  | cons step rest ih =>
    cases step with
    | insist =>
      simp only [FileTree.advance] at walked ⊢
      split at walked
      · rename_i mode held
        rw [agree.directory shut held]
        exact ih walked
      · cases walked
    | stay =>
      obtain ⟨⟨⟩, searched, walked⟩ := ok_of_bind walked
      simp only [FileTree.advance, agree.checkSearch shut searched]
      exact ih walked
    | rise =>
      obtain ⟨⟨⟩, searched, walked⟩ := ok_of_bind walked
      simp only [FileTree.advance, agree.checkSearch shut searched]
      exact ih walked
    | enter name =>
      obtain ⟨⟨⟩, searched, walked⟩ := ok_of_bind walked
      obtain ⟨held, found, walked⟩ := ok_of_bind walked
      have apart : name :: start.place ≠ place := by
        rintro rfl
        -- What has the name can only be the end of the walk, which is elsewhere.
        cases held with
        | none => cases walked
        | some node =>
          have plain := shut node (node_of_entry found)
          cases node with
          | directory mode => cases plain.1
          | link target => cases plain.2
          | _ => exact elsewhere (advance_shut shut walked)
      simp only [FileTree.advance, agree.checkSearch shut searched, agree.entry? apart, found]
      cases held with
      | none => cases walked
      | some node =>
        cases node with
        | link target =>
          show (if rest.isEmpty && !followLast then _ else _) = _
          simp only at walked
          split at walked
          · rename_i last
            rw [if_pos last]
            exact walked
          · rename_i last
            rw [if_neg last]
            exact follows _ _ _ walked
        | _ => exact ih walked

/-- A walk that leads elsewhere in one tree leads to the same spot in the other. -/
theorem AgreeBut.walk (agree : AgreeBut place tree other) (shut : tree.Shut place)
    (elsewhere : spot ≠ .ofPlace place) {links : Nat} {steps : List Step}
    (walked : tree.walk followLast links start steps = .ok spot) :
    other.walk followLast links start steps = .ok spot := by
  -- The induction is over the links that may still be followed.
  induction links generalizing start steps with
  | zero => exact agree.advance shut elsewhere (fun _ _ _ refused => by cases refused) walked
  | succ links ih => exact agree.advance shut elsewhere (fun here target rest => ih) walked

variable {parent goal : Spot}

/-- Where a single step can lead from a spot. -/
inductive Reaches (tree : FileTree) (start : Spot) : Spot → Prop where
  /-- To the spot itself. -/
  | stay : Reaches tree start start
  /-- Up, if the spot may be searched. -/
  | rise (searched : tree.checkSearch start = .ok ()) : Reaches tree start start.above
  /-- To what has a name there and is no link, if the spot may be searched. -/
  | enter {name : Octets} {node : Node} (searched : tree.checkSearch start = .ok ())
      (held : tree.entry? start name = .ok (some node)) (plain : node.isLink = false) :
      Reaches tree start (.ofPlace (name :: start.place))

/-- What a step from a spot comes to, whatever else is to be done. -/
inductive Takes (tree : FileTree) (start : Spot) (step : Step) : Prop where
  /-- It fails. -/
  | fails (reason : Errno) (same : ∀ followLast follow rest,
      tree.advance followLast follow start (step :: rest) = .error reason) : Takes tree start step
  /-- It leads to a spot, from which the other steps are taken. -/
  | leads {next : Spot} (reaches : Reaches tree start next) (same : ∀ followLast follow rest,
      tree.advance followLast follow start (step :: rest) =
        tree.advance followLast follow next rest) :
      Takes tree start step
  /--
  It meets a link, which is followed unless it is the last
  step and the link at the end counts by itself.
  -/
  | meets {name target : Octets} (searched : tree.checkSearch start = .ok ())
      (held : tree.entry? start name = .ok (some (.link target))) (same : ∀ followLast follow rest,
      tree.advance followLast follow start (step :: rest) =
        if rest.isEmpty && !followLast then
          .ok (.ofPlace (name :: start.place))
        else
          follow start target rest) :
      Takes tree start step

/-- Every step comes to one of these cases. -/
theorem takes (tree : FileTree) (start : Spot) (step : Step) : Takes tree start step := by
  -- Each step is a guard followed by a lookup, and each outcome of the two is one case.
  cases step with
  | insist =>
    -- No lookup follows here: the spot is a directory or it is not.
    cases held : tree.at? start with
    | none => exact .fails .notADirectory fun _ _ _ => by simp only [advance, held]
    | some node =>
      cases node with
      | directory mode => exact .leads .stay fun _ _ _ => by simp only [advance, held]
      | _ => exact .fails .notADirectory fun _ _ _ => by simp only [advance, held]
  | stay =>
    cases searched : tree.checkSearch start with
    | error reason => exact .fails reason fun _ _ _ => by simp only [advance, searched, error_bind]
    | ok _ => exact .leads .stay fun _ _ _ => by simp only [advance, searched, ok_bind]
  | rise =>
    cases searched : tree.checkSearch start with
    | error reason => exact .fails reason fun _ _ _ => by simp only [advance, searched, error_bind]
    | ok _ => exact .leads (.rise searched) fun _ _ _ => by simp only [advance, searched, ok_bind]
  | enter name =>
    -- Only a name is looked up, and only what it stands for can be a link.
    cases searched : tree.checkSearch start with
    | error reason => exact .fails reason fun _ _ _ => by simp only [advance, searched, error_bind]
    | ok _ =>
      cases held : tree.entry? start name with
      | error reason =>
        exact .fails reason fun _ _ _ => by simp only [advance, searched, held, ok_bind, error_bind]
      | ok found =>
        cases found with
        | none =>
          exact .fails .notFound fun _ _ _ => by simp only [advance, searched, held, ok_bind]
        | some node =>
          cases node with
          | link target =>
            exact .meets searched held fun _ _ _ => by simp only [advance, searched, held, ok_bind]
          | _ =>
            exact .leads (.enter searched held rfl) fun _ _ _ => by
              simp only [advance, searched, held, ok_bind]

variable {links : Nat} {steps : List Step}

/-- Without steps a walk is at its end. -/
@[simp] theorem walk_nil : tree.walk followLast links start [] = .ok start := by
  cases links <;> rfl

/-- Insisting on a directory where one is changes nothing. -/
theorem walk_insist {mode : Nat} (held : tree.at? start = some (.directory mode)) :
    tree.walk followLast links start (.insist :: steps) =
      tree.walk followLast links start steps := by
  cases links <;> simp only [walk, advance, held]

/-- Insisting on a directory where none is fails. -/
theorem walk_insist_error (other : ∀ mode, tree.at? start ≠ some (.directory mode)) :
    tree.walk followLast links start (.insist :: steps) = .error .notADirectory := by
  cases links <;> unfold walk advance <;> split <;> first | exact absurd ‹_› (other _) | rfl

/-- To stay in a directory that may be searched changes nothing. -/
theorem walk_stay (searched : tree.checkSearch start = .ok ()) :
    tree.walk followLast links start (.stay :: steps) = tree.walk followLast links start steps := by
  cases links <;> simp only [walk, advance, searched, ok_bind]

/-- From a directory that may be searched the walk can go up. -/
theorem walk_rise (searched : tree.checkSearch start = .ok ()) :
    tree.walk followLast links start (.rise :: steps) =
      tree.walk followLast links start.above steps := by
  cases links <;> simp only [walk, advance, searched, ok_bind]

/-- What has a name and is no link is entered. -/
theorem walk_enter {name : Octets} {node : Node} (searched : tree.checkSearch start = .ok ())
    (held : tree.entry? start name = .ok (some node)) (plain : node.isLink = false) :
    tree.walk followLast links start (.enter name :: steps) =
      tree.walk followLast links (.ofPlace (name :: start.place)) steps := by
  -- The guard and the lookup both succeed, so the walk takes exactly this step.
  cases node with
  | link target => cases plain
  | _ => cases links <;> simp only [walk, advance, searched, held, ok_bind]

/-- A name that nothing has is not found. -/
theorem walk_enter_free {name : Octets} (searched : tree.checkSearch start = .ok ())
    (free : tree.entry? start name = .ok none) :
    tree.walk followLast links start (.enter name :: steps) = .error .notFound := by
  cases links <;> simp only [walk, advance, searched, free, ok_bind]

/-- A name that cannot be looked up is not entered. -/
theorem walk_enter_error {name : Octets} {reason : Errno}
    (searched : tree.checkSearch start = .ok ())
    (refused : tree.entry? start name = .error reason) :
    tree.walk followLast links start (.enter name :: steps) = .error reason := by
  cases links <;> simp only [walk, advance, searched, refused, ok_bind, error_bind]

/-- A link cannot be followed when no links are left. -/
theorem walk_link_zero {name target : Octets} (searched : tree.checkSearch start = .ok ())
    (held : tree.entry? start name = .ok (some (.link target)))
    (on : (steps.isEmpty && !followLast) = false) :
    tree.walk followLast 0 start (.enter name :: steps) = .error .tooManyLinks := by
  simp only [walk, advance, searched, held, ok_bind, on, Bool.false_eq_true, if_false]

/-- A link is followed before the other steps are taken. -/
theorem walk_link_succ {name target : Octets} (searched : tree.checkSearch start = .ok ())
    (held : tree.entry? start name = .ok (some (.link target)))
    (on : (steps.isEmpty && !followLast) = false) :
    tree.walk followLast (links + 1) start (.enter name :: steps) =
      tree.walk followLast links (if Path.isAbsolute target then .root else start)
        (Step.ofPath target ++ steps) := by
  simp only [walk, advance, searched, held, ok_bind, on, Bool.false_eq_true, if_false]

/-- From what may not be searched no name, nor any made of dots, leads on. -/
theorem walk_of_checkSearch_error {reason : Errno}
    (refused : tree.checkSearch start = .error reason) {step : Step} (other : step ≠ .insist) :
    tree.walk followLast links start (step :: steps) = .error reason := by
  -- Every such step asks first whether the spot may be searched.
  cases step with
  | insist => exact absurd rfl other
  | _ => cases links <;> simp only [walk, advance, refused, error_bind]

/-- How a walk over some steps goes on over later ones, of which there is at least one. -/
inductive Continues (tree : FileTree) (links : Nat) (walked : Except Errno Spot)
    (on : Bool → Step → List Step → Except Errno Spot) : Prop where
  /-- It has failed already. -/
  | failed {reason : Errno} (stopped : walked = .error reason)
      (same : ∀ followLast next rest, on followLast next rest = .error reason) :
        Continues tree links walked on
  /-- It goes on from where the first steps have led, with the links that are left. -/
  | led {parent : Spot} {left : Nat} (fewer : left ≤ links) (reached : walked = .ok parent)
      (same : ∀ followLast next rest, on followLast next rest =
        tree.walk followLast left parent (next :: rest)) :
      Continues tree links walked on

/-- More links may have been left. -/
theorem Continues.mono {links more : Nat} (fewer : links ≤ more) {walked : Except Errno Spot}
    {on : Bool → Step → List Step → Except Errno Spot}
    (continues : Continues tree links walked on) : Continues tree more walked on := by
  -- Only the case that follows a link counts them.
  cases continues with
  | failed stopped same => exact .failed stopped same
  | led less reached same => exact .led (Nat.le_trans less fewer) reached same

/-- Steps are taken one after the other, whether a link at the very end is followed or not. -/
theorem advance_append {links : Nat} {follow : Spot → Octets → List Step → Except Errno Spot}
    {followOn : Bool → Spot → Octets → List Step → Except Errno Spot}
    (walks : ∀ followLast spot steps,
      tree.walk followLast links spot steps =
        tree.advance followLast (followOn followLast) spot steps)
    (follows : ∀ here target rest, Continues tree links (follow here target rest)
      fun followLast next later => followOn followLast here target (rest ++ next :: later))
    (start : Spot) (steps : List Step) :
    Continues tree links (tree.advance true follow start steps)
      fun followLast next later =>
        tree.advance followLast (followOn followLast) start (steps ++ next :: later) := by
  -- The induction is over the first steps, none of which is at the very end.
  induction steps generalizing start with
  | nil =>
    exact .led (Nat.le_refl _) rfl fun followLast next later =>
      (walks followLast start (next :: later)).symm
  | cons step rest ih =>
    simp only [List.cons_append]
    cases takes tree start step with
    | fails reason same => exact .failed (same _ _ _) fun _ _ _ => same _ _ _
    | leads reaches same =>
      simp only [same]
      exact ih _
    | meets searched held same =>
      -- What comes after it is not empty, so that the link is followed in any case.
      simpa [same] using follows start _ rest

/--
A walk goes on from where its first steps have led, with the
links that are left, or has failed with them.
-/
theorem walk_append (tree : FileTree) (links : Nat) (start : Spot) (steps : List Step) :
    Continues tree links (tree.walk true links start steps)
      fun followLast next later => tree.walk followLast links start (steps ++ next :: later) := by
  -- The steps of a link come before the remaining ones, and use up one link.
  induction links generalizing start steps with
  | zero =>
    exact advance_append (fun _ _ _ => rfl) (fun _ _ _ => .failed rfl fun _ _ _ => rfl) start steps
  | succ links ih =>
    refine advance_append (fun _ _ _ => rfl) (fun here target rest => ?_) start steps
    simp only [← List.append_assoc]
    exact (ih _ _).mono (Nat.le_succ links)

/-- With fewer links left, steps lead to the same spot or through too many links. -/
theorem advance_fewer {follow follow' : Spot → Octets → List Step → Except Errno Spot}
    (follows : ∀ here target rest, follow here target rest = follow' here target rest ∨
      follow here target rest = .error .tooManyLinks) (start : Spot) (steps : List Step) :
    tree.advance followLast follow start steps = tree.advance followLast follow' start steps ∨
      tree.advance followLast follow start steps = .error .tooManyLinks := by
  -- By induction on the steps. Both sides take every step
  -- alike until a link hands over to `follow`.
  induction steps generalizing start with
  | nil => exact .inl rfl
  | cons step rest ih =>
    cases takes tree start step with
    | fails reason same => exact .inl ((same _ _ _).trans (same _ _ _).symm)
    | leads reaches same =>
      -- The remaining steps start from the same spot on both sides.
      simp only [same]
      exact ih _
    | meets searched held same =>
      -- A link at the very end is the goal itself, any other is followed.
      simp only [same]
      split
      · exact .inl rfl
      · exact follows start _ rest

/-- With fewer links left, a walk leads to the same spot or through too many links. -/
theorem walk_fewer {left links : Nat} (fewer : left ≤ links) (start : Spot) (steps : List Step) :
    tree.walk followLast left start steps = tree.walk followLast links start steps ∨
      tree.walk followLast left start steps = .error .tooManyLinks := by
  -- By induction on the links left: without any the smaller walk refuses the first link it meets.
  induction left generalizing links start steps with
  | zero =>
    cases links with
    | zero => exact .inl rfl
    | succ links => exact advance_fewer (fun _ _ _ => .inr rfl) start steps
  | succ left ih =>
    cases links with
    | zero => exact absurd fewer (Nat.not_succ_le_zero left)
    | succ links =>
      exact advance_fewer (fun _ _ _ => ih (Nat.le_of_succ_le_succ fewer) _ _) start steps

/-- Steps that lead somewhere also lead somewhere if a link at the very end is not followed. -/
theorem advance_stops {follow follow' : Spot → Octets → List Step → Except Errno Spot}
    (follows : ∀ {here target rest goal}, follow here target rest = .ok goal →
      ∃ there, follow' here target rest = .ok there)
    {steps : List Step} (walked : tree.advance true follow start steps = .ok goal) :
    ∃ there, tree.advance false follow' start steps = .ok there := by
  -- By induction on the steps. Only a link at the very end is treated differently.
  induction steps generalizing start with
  | nil => exact ⟨start, rfl⟩
  | cons step rest ih =>
    cases takes tree start step with
    | fails reason same => cases (same _ _ _).symm.trans walked
    | leads reaches same =>
      simp only [same] at walked ⊢
      exact ih walked
    | meets searched held same =>
      -- The walk that stops has its goal right here if nothing comes after the link.
      rw [same, if_neg (by simp)] at walked
      rw [same]
      split
      · exact ⟨_, rfl⟩
      · exact follows walked

/-- A walk that leads somewhere also leads somewhere if a link at the very end is not followed. -/
theorem walk_stops {links : Nat} {steps : List Step}
    (walked : tree.walk true links start steps = .ok goal) :
    ∃ there, tree.walk false links start steps = .ok there := by
  -- By induction on the links left, as each followed link leaves one fewer.
  induction links generalizing start goal steps with
  | zero => exact advance_stops (fun refused => by cases refused) walked
  | succ links ih => exact advance_stops (fun followed => ih followed) walked

variable {property : Spot → Prop}

/--
What every single step keeps, and every link that is followed, is kept by steps one after the other.
-/
theorem advance_induction {follow : Spot → Octets → List Step → Except Errno Spot}
    (keeps : ∀ {spot next}, Reaches tree spot next → property spot → property next)
    (follows : ∀ {here target rest},
      property here → follow here target rest = .ok goal → property goal)
    {steps : List Step} (holds : property start)
    (walked : tree.advance true follow start steps = .ok goal) : property goal := by
  -- By induction on the steps, with the property carried from spot to spot.
  induction steps generalizing start with
  | nil =>
    cases walked
    exact holds
  | cons step rest ih =>
    cases takes tree start step with
    | fails reason same => cases (same _ _ _).symm.trans walked
    | leads reaches same => exact ih (keeps reaches holds) ((same _ _ _).symm.trans walked)
    | meets searched held same =>
      -- From here on the link is followed, and its own hypothesis takes over.
      rw [same, if_neg (by simp)] at walked
      exact follows holds walked

/--
What holds of the root and is kept by every single step is kept by a walk that follows every link.
-/
theorem walk_induction (root : property .root)
    (keeps : ∀ {spot next}, Reaches tree spot next → property spot → property next)
    {links : Nat} {steps : List Step} (holds : property start)
    (walked : tree.walk true links start steps = .ok goal) : property goal := by
  -- The induction is over the links that may still be followed,
  -- of which an absolute one starts at the root.
  induction links generalizing start steps with
  | zero => exact advance_induction keeps (fun _ refused => by cases refused) holds walked
  | succ links ih =>
    refine advance_induction keeps
      (fun {here target rest} holds followed => ih ?_ followed) holds walked
    split
    · exact root
    · exact holds

end FileTree

end Wakeful
