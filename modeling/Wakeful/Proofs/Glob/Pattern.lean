import Wakeful.Glob.Search
import Wakeful.Proofs.Attempt

/-!
Characters without wildcards mean themselves in a pattern,
and no component reaches across a separator.
-/

namespace Wakeful.Glob

variable {character : Char} {chars rest after name : List Char} {component found : List Token}

/-- Whether a character means itself in a pattern. -/
def IsLiteral (character : Char) : Prop :=
  character ≠ '?' ∧ character ≠ '*' ∧ character ≠ '['

instance (character : Char) : Decidable (IsLiteral character) :=
  inferInstanceAs (Decidable (_ ∧ _))

/-- Nothing is read from nothing. -/
@[simp] theorem readTokens_nil (fuel position : Nat) (before : Option Char) :
    readTokens fuel position before [] = .ok [] := by
  cases fuel <;> rfl

/-- A character that means itself is read as itself. -/
theorem readTokens_literal (literal : IsLiteral character) (fuel position : Nat)
    (before : Option Char) (rest : List Char) :
    readTokens (fuel + 1) position before (character :: rest) =
      (readTokens fuel (position + 1) (some character) rest).map (.literal character :: ·) := by
  -- None of the characters with a meaning of its own is met.
  obtain ⟨one, run, choice⟩ := literal
  rw [readTokens]
  all_goals simp_all

/-- Characters that mean themselves are read as themselves, and then what follows them. -/
theorem readTokens_literals (literal : ∀ character ∈ chars, IsLiteral character)
    (fuel position : Nat) (before : Option Char) (rest : List Char) : ∃ position' before',
    readTokens (chars.length + fuel) position before (chars ++ rest) =
      (readTokens fuel position' before' rest).map (chars.map .literal ++ ·) := by
  -- The induction is over the characters, each of which takes one turn.
  induction chars generalizing position before with
  | nil =>
    refine ⟨position, before, ?_⟩
    cases read : readTokens fuel position before rest <;> simp [read, Except.map]
  | cons character chars ih =>
    obtain ⟨here, later⟩ := List.forall_mem_cons.mp literal
    obtain ⟨position', before', read⟩ := ih later (position + 1) (some character)
    refine ⟨position', before', ?_⟩
    rw [List.length_cons, Nat.add_right_comm, List.cons_append, readTokens_literal here, read]
    cases readTokens fuel position' before' rest <;> simp [Except.map]

/-- A pattern of characters that mean themselves has them as its tokens. -/
theorem tokens_literals (literal : ∀ character ∈ chars, IsLiteral character) :
    tokens chars = .ok (chars.map .literal) := by
  -- Nothing follows them.
  obtain ⟨position, before, read⟩ := readTokens_literals literal 1 0 none []
  rw [List.append_nil] at read
  rw [tokens, read]
  simp [Except.map]

/-- A star at the end of characters that mean themselves is any run of characters. -/
theorem tokens_literals_star (literal : ∀ character ∈ chars, IsLiteral character) :
    tokens (chars ++ ['*']) = .ok (chars.map .literal ++ [.anyRun]) := by
  -- What follows them is a star, behind which nothing is left.
  obtain ⟨position, before, read⟩ := readTokens_literals literal 2 0 none ['*']
  have star : readTokens 2 position before ['*'] = .ok [.anyRun] := by
    simp [readTokens, Except.map]
  rw [star] at read
  rw [tokens, List.length_append, List.length_singleton, Nat.add_assoc, read]
  rfl

/-- A character that means itself is the first one of the name that is spelled. -/
theorem plainName?_literal_cons (character : Char) (component : List Token) :
    plainName? (.literal character :: component) = (plainName? component).map (character :: ·) := by
  -- Whether a name is spelled depends on the tokens behind the character.
  cases spelled : plainName? component <;> unfold plainName? at spelled ⊢ <;>
    rw [List.mapM_cons, spelled] <;> rfl

/-- Tokens that all mean themselves spell a name. -/
theorem plainName?_literals (chars : List Char) : plainName? (chars.map .literal) = some chars := by
  -- The induction is over the characters.
  induction chars with
  | nil => rfl
  | cons character chars ih => rw [List.map_cons, plainName?_literal_cons, ih, Option.map_some]

/-- A name is spelled only by the tokens that mean its characters. -/
theorem eq_of_plainName? (spelled : plainName? component = some name) :
    component = name.map .literal := by
  -- The induction is over the tokens, each of which has to mean itself.
  induction component generalizing name with
  | nil =>
    cases spelled
    rfl
  | cons token component ih =>
    cases token with
    | literal character =>
      rw [plainName?_literal_cons] at spelled
      obtain ⟨later, inner, rfl⟩ := Option.map_eq_some_iff.mp spelled
      rw [List.map_cons, ih inner]
    | _ =>
      unfold plainName? at spelled
      rw [List.mapM_cons] at spelled
      cases spelled

/-- A run of any characters matches every name. -/
theorem matchesName_anyRun (name : List Char) : matchesName [.anyRun] name = true := by
  -- The run may take the whole name, so that nothing is left to be matched.
  -- Nothing is what is left at the end of every name.
  have ends : [] ∈ suffixes name := by
    induction name with
    | nil => exact List.mem_singleton_self []
    | cons character name ih => exact List.mem_cons_of_mem _ ih
  exact List.any_eq_true.mpr ⟨[], ends, rfl⟩

/--
Pieces are those between separators if each separator opens
one, and each other character goes before the first.
-/
theorem foldr_eq_splitOn {put : Char → List (List Char) → List (List Char)}
    (opens : ∀ parts, put '/' parts = [] :: parts)
    (grows : ∀ character first rest,
      character ≠ '/' → put character (first :: rest) = (character :: first) :: rest)
    (pattern : List Char) : pattern.foldr put [[]] = pattern.splitOn '/' := by
  -- The pieces are collected from the end, as the library splits them from the beginning.
  induction pattern with
  | nil => rfl
  | cons character pattern ih =>
    obtain ⟨first, others, split⟩ := List.exists_cons_of_ne_nil (List.splitOn_ne_nil '/' pattern)
    rw [List.foldr_cons, ih, List.splitOn_cons_eq_if_modifyHead, split]
    by_cases separates : character = '/'
    · rw [separates, opens, if_pos (beq_self_eq_true '/')]
    · rw [grows character first others separates, if_neg (by simpa using separates),
        List.modifyHead_cons]

/--
The components of a pattern are its pieces between separators, without an empty one at the end.
-/
theorem components_eq (pattern : List Char) : components pattern =
    if (pattern.splitOn '/').getLast? = some [] then
      (pattern.splitOn '/').dropLast
    else
      pattern.splitOn '/' := by
  -- Both are computed from the end.
  rw [components, foldr_eq_splitOn]
  · exact fun parts => if_pos rfl
  · exact fun character first rest other => if_neg other

/-- A pattern that is not empty has a component. -/
theorem components_ne_nil {pattern : List Char} (nonempty : pattern ≠ []) :
    components pattern ≠ [] := by
  intro empty
  rw [components_eq] at empty
  split at empty
  · rename_i ends
    obtain ⟨front, whole⟩ := List.getLast?_eq_some_iff.mp ends
    rw [whole, List.dropLast_concat] at empty
    -- A single piece without characters is all there would be.
    have joined : ['/'].intercalate (pattern.splitOn '/') = pattern := List.intercalate_splitOn '/'
    rw [whole, empty] at joined
    exact nonempty joined.symm
  · exact List.splitOn_ne_nil '/' pattern empty

/-- No component has a separator. -/
theorem not_mem_of_mem_components {pattern part : List Char} (among : part ∈ components pattern) :
    '/' ∉ part := by
  -- A component is a piece of the pattern, and no piece has a separator.
  have piece : part ∈ pattern.splitOn '/' := by
    rw [components_eq] at among
    split at among
    · exact List.dropLast_subset _ among
    · exact among
  clear among
  -- The induction is over the characters, and a separator goes into no piece.
  induction pattern generalizing part with
  | nil => simp_all
  | cons character pattern ih =>
    obtain ⟨first, others, split⟩ := List.exists_cons_of_ne_nil (List.splitOn_ne_nil '/' pattern)
    rw [split] at ih
    rw [List.splitOn_cons_eq_if_modifyHead, split] at piece
    by_cases separates : character = '/'
    · rw [if_pos (by simpa using separates)] at piece
      rcases List.mem_cons.mp piece with rfl | later
      · exact List.not_mem_nil
      · exact ih later
    · rw [if_neg (by simpa using separates), List.modifyHead_cons] at piece
      rcases List.mem_cons.mp piece with rfl | later
      · rw [List.mem_cons, not_or]
        exact ⟨Ne.symm separates, ih List.mem_cons_self⟩
      · exact ih (List.mem_cons_of_mem _ later)

/-- Names with a separator behind each, and a last one, are the components of what they make up. -/
theorem components_joined {names : List (List Char)} {last : List Char}
    (free : ∀ name ∈ names, '/' ∉ name) (nonempty : last ≠ []) (lastFree : '/' ∉ last) :
    components (names.flatMap (· ++ ['/']) ++ last) = names ++ [last] := by
  -- The pieces are split at each separator, and the last one is not empty.
  -- The induction is over the names, each of which is one piece.
  have pieces : (names.flatMap (· ++ ['/']) ++ last).splitOn '/' = names ++ [last] := by
    induction names with
    | nil => exact List.splitOn_eq_singleton lastFree
    | cons name names ih =>
      obtain ⟨here, later⟩ := List.forall_mem_cons.mp free
      rw [List.flatMap_cons, List.append_assoc, List.append_assoc, List.singleton_append,
        List.splitOn_append_cons_self_of_not_mem here, ih later, List.cons_append]
  rw [components_eq, pieces, List.getLast?_concat]
  exact if_neg (by simpa using nonempty)

/-- The closing bracket has been there, and so has everything that is left behind it. -/
theorem subset_of_bracketed? {inside : List Char}
    (closed : bracketed? chars = some (inside, after)) : ']' :: after ⊆ chars := by
  -- The bracket is the first one behind the first character.
  unfold bracketed? at closed
  cases chars with
  | nil => cases closed
  | cons first rest =>
    simp only at closed
    split at closed
    · cases closed
    · rename_i bracket behind dropped
      cases closed
      have bracket_eq : bracket = ']' := by
        have stops := List.head?_dropWhile_not (· != ']') rest
        simpa [dropped] using stops
      have kept : bracket :: after ⊆ rest := dropped ▸ List.dropWhile_subset _
      exact bracket_eq ▸ List.subset_cons_of_subset first kept

/-- What the token at the beginning of some characters tells of them. -/
structure Begins (before : Option Char) (chars : List Char) (token : Token) (last : Char)
    (after : List Char) : Prop where
  /-- What is left has been there. -/
  left : after ⊆ chars
  /-- So has the last character of the token. -/
  last : last ∈ chars
  /-- A character that means itself is one of them. -/
  literal : ∀ character, token = .literal character → character ∈ chars
  /-- Directories in any number begin a component and end it. -/
  deep : token = .anyDepth → (before = none ∨ before = some '/') ∧ (after = [] ∨ '/' ∈ chars)

/-- Where the rest is read behind a token, that is how the whole is read. -/
theorem Begins.reads {before : Option Char} {token : Token} {last : Char} {fuel position : Nat}
    (begins : Begins before chars token last after)
    (read : (readTokens fuel position (some last) after).map (token :: ·) = .ok found) :
    ∃ token last position after later,
    found = token :: later ∧ Begins before chars token last after ∧
      readTokens fuel position (some last) after = .ok later := by
  -- The token has been read before whatever follows.
  obtain ⟨later, inner, rfl⟩ := map_eq_ok_iff.mp read
  exact ⟨token, last, position, after, later, rfl, begins, inner⟩

/-- Where something is read, it begins with a token, behind which the rest is read. -/
theorem readTokens_cons {fuel position : Nat} {before : Option Char}
    (read : readTokens (fuel + 1) position before (character :: rest) = .ok found) :
    ∃ token last position after later, found = token :: later ∧
      Begins before (character :: rest) token last after ∧
      readTokens fuel position (some last) after = .ok later := by
  -- The cases are those of the reader, of which those that fail come to nothing.
  generalize whole : character :: rest = chars at read ⊢
  generalize turns : fuel + 1 = fuel' at read
  revert read
  fun_cases readTokens fuel' position before chars with
  | case1 => cases turns
  | case2 => cases whole
  | case3 fuel' position before rest' =>
    intro read
    cases turns
    have begins : Begins before ('?' :: rest') .anyOne '?' rest' :=
      ⟨List.subset_cons_self _ _, List.mem_cons_self, nofun, nofun⟩
    exact begins.reads read
  | case5 fuel' position before rest' stars behind few two begins ends =>
    -- Two stars at the end leave nothing.
    intro read
    cases read
    have begins : Begins before ('*' :: rest') .anyDepth '*' [] :=
      ⟨List.nil_subset _, List.mem_cons_self, nofun, fun _ => ⟨by simpa using begins, .inl rfl⟩⟩
    exact ⟨.anyDepth, '*', 0, [], [], rfl, begins, readTokens_nil ..⟩
  | case6 fuel' position before rest' stars behind few two begins left ends =>
    -- Two stars take the separator behind them along.
    intro read
    cases turns
    have kept : '/' :: left ⊆ rest' := ends ▸ List.dropWhile_subset _
    obtain ⟨separates, behind⟩ := List.cons_subset.mp (List.subset_cons_of_subset '*' kept)
    have begins : Begins before ('*' :: rest') .anyDepth '/' left :=
      ⟨behind, separates, nofun, fun _ => ⟨by simpa using begins, .inr separates⟩⟩
    exact begins.reads read
  | case9 fuel' position before rest' stars behind few one =>
    intro read
    cases turns
    have kept : behind ⊆ rest' := List.dropWhile_subset _
    have begins : Begins before ('*' :: rest') .anyRun '*' behind :=
      ⟨List.subset_cons_of_subset _ kept, List.mem_cons_self, nofun, nofun⟩
    exact begins.reads read
  | case10 fuel' position before rest' inside left closed =>
    intro read
    cases turns
    have kept : ']' :: left ⊆ '!' :: rest' :=
      List.subset_cons_of_subset _ (subset_of_bracketed? closed)
    obtain ⟨bracket, behind⟩ := List.cons_subset.mp (List.subset_cons_of_subset '[' kept)
    have begins : Begins before ('[' :: '!' :: rest') (.noneOf (choices inside)) ']' left :=
      ⟨behind, bracket, nofun, nofun⟩
    exact begins.reads read
  | case12 fuel' position before rest' other inside left closed =>
    intro read
    cases turns
    obtain ⟨bracket, behind⟩ :=
      List.cons_subset.mp (List.subset_cons_of_subset '[' (subset_of_bracketed? closed))
    have begins : Begins before ('[' :: rest') (.oneOf (choices inside)) ']' left :=
      ⟨behind, bracket, nofun, nofun⟩
    exact begins.reads read
  | case14 fuel' position before character' rest' =>
    intro read
    cases turns
    have begins : Begins before (character' :: rest') (.literal character') character' rest' :=
      ⟨List.subset_cons_self _ _, List.mem_cons_self, by simp, nofun⟩
    exact begins.reads read
  | _ => nofun

/-- A character is read as itself only where it is. -/
theorem mem_of_literal_mem {fuel position : Nat} {before : Option Char}
    (read : readTokens fuel position before chars = .ok found)
    (among : .literal character ∈ found) : character ∈ chars := by
  -- The induction is over the turns, each of which reads a
  -- token and leaves the end of the characters.
  induction fuel generalizing position before chars found with
  | zero =>
    cases read
    cases among
  | succ fuel ih =>
    cases chars with
    | nil =>
      cases read
      cases among
    | cons first rest =>
      obtain ⟨token, last, position', after, later, rfl, begins, read⟩ := readTokens_cons read
      rcases List.mem_cons.mp among with same | among
      · exact begins.literal character same.symm
      · exact begins.left (ih read among)

/-- Without a separator, directories in any number are not read behind anything. -/
theorem not_deep_mem {fuel position : Nat} {last : Char} (free : '/' ∉ chars) (other : last ≠ '/')
    (read : readTokens fuel position (some last) chars = .ok found) : .anyDepth ∉ found := by
  -- The induction is over the turns, and without a separator there is none before a star.
  induction fuel generalizing position last chars found with
  | zero =>
    cases read
    exact List.not_mem_nil
  | succ fuel ih =>
    cases chars with
    | nil =>
      cases read
      exact List.not_mem_nil
    | cons first rest =>
      obtain ⟨token, last', position', after, later, rfl, begins, read⟩ := readTokens_cons read
      intro among
      rcases List.mem_cons.mp among with same | among
      · have separated := (begins.deep same.symm).1
        simp [other] at separated
      · have here : last' ≠ '/' := fun same => free (same ▸ begins.last)
        exact ih (fun within => free (begins.left within)) here read among

/-- Tokens that can be a component by themselves. -/
structure IsComponent (component : List Token) : Prop where
  /-- The name that it spells has no separator. -/
  single : ∀ name, plainName? component = some name → '/' ∉ name
  /-- Directories in any number stand alone. -/
  alone : isRecursive component = true → component = [.anyDepth]

/-- What is read without a separator can be a component. -/
theorem isComponent_of_tokens (free : '/' ∉ chars) (read : tokens chars = .ok component) :
    IsComponent component where
  single name spelled within := by
    have literal : .literal '/' ∈ component := eq_of_plainName? spelled ▸ List.mem_map_of_mem within
    exact free (mem_of_literal_mem read literal)
  alone deep := by
    have among : .anyDepth ∈ component := List.contains_iff_mem.mp deep
    cases chars with
    | nil =>
      cases read
      cases among
    | cons first rest =>
      obtain ⟨token, last, position, after, later, rfl, begins, read⟩ := readTokens_cons read
      have here : last ≠ '/' := fun same => free (same ▸ begins.last)
      have shallow := not_deep_mem (fun within => free (begins.left within)) here read
      -- Directories in any number come first, and so nothing is left to be read behind them.
      rcases List.mem_cons.mp among with rfl | among
      · rcases (begins.deep rfl).2 with rfl | separated
        · rw [readTokens_nil] at read
          cases read
          rfl
        · exact absurd separated free
      · exact absurd among shallow

/-- A component that means directories in any number spells no name. -/
theorem plainName?_of_recursive (deep : isRecursive component = true) :
    plainName? component = none := by
  -- What spells a name consists of characters that mean themselves.
  cases spelled : plainName? component with
  | none => rfl
  | some name =>
    rw [eq_of_plainName? spelled] at deep
    simp [isRecursive] at deep

/-- A pattern from the root is planned from its components behind the first separator. -/
theorem plan_slash {whole : List Token} {found : List (List Token)} (nonempty : rest ≠ [])
    (fine : tokens ('/' :: rest) = .ok whole)
    (read : (components rest).map tokens = found.map .ok) :
    plan ('/' :: rest) = .ok (true, found) := by
  -- The first separator starts at the root, and the components come after it.
  obtain ⟨first, others, rfl⟩ := List.exists_cons_of_ne_nil nonempty
  simp only [plan, fine, ok_bind, mapM_eq_ok_iff.mpr read, pure_eq_ok]

/--
A pattern that makes sense is planned from the root exactly if
it begins with a separator, and has components.
-/
theorem plan_ok {pattern : List Char} {fromRoot : Bool} {found : List (List Token)}
    (planned : plan pattern = .ok (fromRoot, found)) :
    (fromRoot = true ↔ pattern.head? = some '/') ∧ found ≠ [] ∧
    ∀ component ∈ found, IsComponent component := by
  -- Each component is read by itself, whichever part of the pattern they are taken from.
  have parted {chars : List Char} (nonempty : chars ≠ [])
      (read : (components chars).mapM tokens = .ok found) : found ≠ [] ∧
      ∀ component ∈ found, IsComponent component := by
    rw [mapM_eq_ok_iff] at read
    constructor
    · rintro rfl
      exact components_ne_nil nonempty (List.map_eq_nil_iff.mp read)
    · intro component among
      have read' : .ok component ∈ (components chars).map tokens := read ▸ List.mem_map_of_mem among
      obtain ⟨part, among, read⟩ := List.mem_map.mp read'
      exact isComponent_of_tokens (not_mem_of_mem_components among) read
  have empty : IsComponent [] := isComponent_of_tokens List.not_mem_nil rfl
  obtain ⟨whole, -, chosen⟩ := ok_of_bind planned
  clear planned
  split at chosen
  · cases chosen
    simpa using empty
  · cases chosen
    simpa using empty
  · rename_i rest nonempty
    obtain ⟨between, read, chosen⟩ := ok_of_bind chosen
    cases chosen
    exact ⟨by simp, parted nonempty read⟩
  · rename_i root nonempty relative
    obtain ⟨between, read, chosen⟩ := ok_of_bind chosen
    cases chosen
    refine ⟨?_, parted nonempty read⟩
    cases pattern with
    | nil => exact absurd rfl nonempty
    | cons first rest =>
      have other : first ≠ '/' := by
        rintro rfl
        exact relative rest rfl
      simpa using other

end Wakeful.Glob
