import Wakeful.Path.Basic

/-!
The names of a path are what its separators leave, and after its
last name come only separators and self-references.
-/

namespace Wakeful

namespace Octets

variable {separator octet : UInt8} {octets front rest piece : Octets} {before others : List Octets}

@[simp] theorem parts_nil (separator : UInt8) : parts separator [] = [[]] := rfl

/-- A separator opens a new piece. -/
@[simp] theorem parts_separator (separator : UInt8) (rest : Octets) :
    parts separator (separator :: rest) = [] :: parts separator rest :=
  if_pos rfl

/-- Any other octet belongs to the first piece. -/
theorem parts_cons (other : octet ≠ separator) (split : parts separator rest = piece :: others) :
    parts separator (octet :: rest) = (octet :: piece) :: others := by
  -- The octet is no separator, so that it is put before the first piece.
  unfold parts at split ⊢
  rw [List.foldr_cons, split, if_neg other]

/-- There is always a first piece. -/
theorem parts_ne_nil (separator : UInt8) (octets : Octets) : parts separator octets ≠ [] := by
  -- A separator begins another piece, and any other octet belongs to the first one.
  unfold parts
  cases octets with
  | nil => simp
  | cons octet rest =>
    rw [List.foldr_cons]
    split
    · exact nofun
    · split <;> exact nofun

/-- There is always a first piece, to which the others are added. -/
theorem exists_parts_eq_cons (separator : UInt8) (octets : Octets) :
    ∃ piece others, parts separator octets = piece :: others :=
  List.exists_cons_of_ne_nil (parts_ne_nil separator octets)

/-- Octets without a separator belong to the first piece of what follows them. -/
theorem parts_append (free : separator ∉ front) (split : parts separator rest = piece :: others) :
    parts separator (front ++ rest) = (front ++ piece) :: others := by
  -- The induction is over the octets in front, none of which is a separator.
  induction front with
  | nil => exact split
  | cons octet front ih =>
    rw [List.mem_cons, not_or] at free
    exact parts_cons (Ne.symm free.1) (ih free.2)

/-- Octets without a separator are one piece. -/
theorem parts_of_not_mem (free : separator ∉ octets) : parts separator octets = [octets] := by
  -- Nothing follows them but an empty piece.
  have whole := parts_append free (parts_nil separator)
  rwa [List.append_nil] at whole

/-- At a separator the pieces fall apart into those before it and those after it. -/
theorem parts_append_separator (separator : UInt8) (front rest : Octets) :
    parts separator (front ++ separator :: rest) =
      parts separator front ++ parts separator rest := by
  -- The induction is over the octets before the separator.
  induction front with
  | nil => exact parts_separator separator rest
  | cons octet front ih =>
    -- Another separator only adds an empty piece in front.
    by_cases same : octet = separator
    · subst same
      rw [List.cons_append, parts_separator, parts_separator, ih, List.cons_append]
    · obtain ⟨piece, others, split⟩ := exists_parts_eq_cons separator front
      rw [List.cons_append, parts_cons same split, List.cons_append]
      rw [split, List.cons_append] at ih
      exact parts_cons same ih

/-- No piece has a separator. -/
theorem not_mem_of_mem_parts (among : piece ∈ parts separator octets) : separator ∉ piece := by
  -- The induction is over the octets, of which a separator goes into no piece.
  induction octets generalizing piece with
  | nil => simp_all
  | cons octet rest ih =>
    -- A separator begins a piece that is empty,
    by_cases same : octet = separator
    · subst same
      rw [parts_separator] at among
      rcases List.mem_cons.mp among with rfl | later
      · exact List.not_mem_nil
      · exact ih later
    · -- and any other octet goes into the first one.
      obtain ⟨first, others, split⟩ := exists_parts_eq_cons separator rest
      rw [parts_cons same split] at among
      rcases List.mem_cons.mp among with rfl | later
      · rw [List.mem_cons, not_or]
        exact ⟨Ne.symm same, ih (split ▸ List.mem_cons_self)⟩
      · exact ih (split ▸ List.mem_cons_of_mem _ later)

/-- The pieces with a separator before each but the first one are what has been split. -/
theorem eq_of_parts_eq_cons (split : parts separator octets = piece :: others) :
    octets = piece ++ others.flatMap (separator :: ·) := by
  -- The induction is over the octets, and the first one decides how the rest is split.
  induction octets generalizing piece others with
  | nil =>
    cases split
    rfl
  | cons octet rest ih =>
    obtain ⟨first, more, inner⟩ := exists_parts_eq_cons separator rest
    by_cases same : octet = separator
    · subst same
      rw [parts_separator, inner] at split
      cases split
      rw [List.flatMap_cons, List.nil_append, List.cons_append, ← ih inner]
    · rw [parts_cons same inner] at split
      cases split
      rw [List.cons_append, ← ih inner]

/-- Before any other piece than the first one there is a separator. -/
theorem eq_of_parts_eq_append (split : parts separator octets = before ++ piece :: others) :
    ∃ front, octets = front ++ (piece ++ others.flatMap (separator :: ·)) ∧
      (front = [] ∨ front.getLast? = some separator) := by
  -- The octets are put together again, and the piece stands behind those before it.
  cases before with
  | nil => exact ⟨[], eq_of_parts_eq_cons split, .inl rfl⟩
  | cons first before =>
    have whole := eq_of_parts_eq_cons (split.trans List.cons_append)
    rw [List.flatMap_append, List.flatMap_cons, ← List.append_assoc, List.cons_append,
      List.append_cons] at whole
    exact ⟨_, whole, .inr List.getLast?_concat⟩

end Octets

namespace Path

open Octets (slash)

variable {path front rest name tail : Octets}

@[simp] theorem names_nil : names [] = [] := rfl

/-- At a separator the names fall apart into those before it and those after it. -/
theorem names_append_slash (front rest : Octets) :
    names (front ++ slash :: rest) = names front ++ names rest := by
  -- The pieces fall apart there, and leaving out empty ones does not matter to that.
  rw [names, split, Octets.parts_append_separator, List.filter_append]
  rfl

/-- A separator in front names nothing. -/
@[simp] theorem names_slash (rest : Octets) : names (slash :: rest) = names rest :=
  names_append_slash [] rest

/-- Octets without a separator are one name. -/
theorem names_of_not_mem (nonempty : name ≠ []) (free : slash ∉ name) : names name = [name] := by
  -- The only piece is not empty.
  rw [names, split, Octets.parts_of_not_mem free]
  simp [nonempty]

/-- Octets without a separator do not start at the root. -/
theorem isAbsolute_of_not_mem (free : slash ∉ name) : isAbsolute name = false := by
  -- The first octet would have to be a separator.
  cases name with
  | nil => rfl
  | cons octet rest =>
    rw [List.mem_cons, not_or] at free
    simp [isAbsolute, Ne.symm free.1]

/-- Behind a separator new names begin. -/
theorem names_append_of_ends (ends : front = [] ∨ endsWithSlash front = true) (rest : Octets) :
    names (front ++ rest) = names front ++ names rest := by
  -- With a separator at its end the front has the same names as without it.
  rcases ends with rfl | ends
  · rfl
  · obtain ⟨before, rfl⟩ := List.getLast?_eq_some_iff.mp (eq_of_beq ends)
    have closed : names (before ++ [slash]) = names before := by
      rw [names_append_slash, names_nil, List.append_nil]
    rw [closed, List.append_assoc, List.singleton_append, names_append_slash]

/-- A path that does not start at the root adds its names to those of the path it is joined to. -/
theorem names_join {first second : Octets} (relative : isAbsolute second = false) :
    names (join first second) = names first ++ names second := by
  -- There is a separator between both, or the first path is empty or ends with one.
  unfold join
  rw [if_neg (by simp [relative])]
  split
  · rename_i ends
    simp only [Bool.or_eq_true, List.isEmpty_iff] at ends
    exact names_append_of_ends ends second
  · exact names_append_slash first second

/--
A path that does not start at the root leaves it to the path it is joined to whether the whole does.
-/
theorem isAbsolute_join {first second : Octets} (relative : isAbsolute second = false) :
    isAbsolute (join first second) = isAbsolute first := by
  -- The first octet of the whole is that of the first path, unless that is empty.
  unfold join
  rw [if_neg (by simp [relative])]
  cases first with
  | nil => simpa [isAbsolute] using relative
  | cons octet rest =>
    split
    · rfl
    · rfl

/-- What is joined to a path stands at the end of the whole. -/
theorem suffix_join (first second : Octets) : second <:+ join first second := by
  -- The second path is the whole, or it is put behind the first one.
  unfold join
  split
  · exact List.suffix_rfl
  · split
    · exact List.suffix_append first second
    · exact (List.suffix_cons Octets.slash second).trans (List.suffix_append first _)

/-- What is joined to a path decides whether the whole asks for a directory. -/
theorem endsWithSlash_join {first second : Octets} (nonempty : second ≠ []) :
    endsWithSlash (join first second) = endsWithSlash second := by
  -- The last octet of the whole is that of the second path.
  obtain ⟨front, whole⟩ := suffix_join first second
  rw [← whole]
  simp [endsWithSlash, List.getLast?_append, List.getLast?_eq_some_getLast nonempty]

/-- A path that does not start at the root is put behind the path it is joined to. -/
theorem prefix_join {first second : Octets} (relative : isAbsolute second = false) :
    first <+: join first second := by
  -- With a separator between them or without one, the first path stands in front.
  unfold join
  rw [if_neg (by simp [relative])]
  split <;> exact List.prefix_append first _

/-- Whether octets can be the name of something in a directory. -/
structure IsName (name : Octets) : Prop where
  /-- They are not empty. -/
  nonempty : name ≠ []
  /-- There is no separator among them. -/
  free : slash ∉ name
  /-- They are not what a directory calls itself. -/
  other : name ≠ self
  /-- They are not what a directory calls the one above it. -/
  proper : name ≠ parent

instance (name : Octets) : Decidable (IsName name) :=
  decidable_of_iff (name ≠ [] ∧ slash ∉ name ∧ name ≠ self ∧ name ≠ parent)
    ⟨fun ⟨nonempty, free, other, proper⟩ => ⟨nonempty, free, other, proper⟩,
      fun ⟨nonempty, free, other, proper⟩ => ⟨nonempty, free, other, proper⟩⟩

/-- A name names itself. -/
theorem IsName.names (isName : IsName name) : names name = [name] :=
  names_of_not_mem isName.nonempty isName.free

/-- A name does not start at the root. -/
theorem IsName.relative (isName : IsName name) : isAbsolute name = false :=
  isAbsolute_of_not_mem isName.free

/-- A name does not ask for a directory. -/
theorem IsName.bare (isName : IsName name) : endsWithSlash name = false := by
  -- A separator at its end would be one in it.
  refine Bool.eq_false_iff.mpr fun ends => isName.free ?_
  exact List.mem_of_getLast? (eq_of_beq ends)

/-- A name is put behind a path that does not end with a separator, with one between them. -/
theorem IsName.join (isName : IsName name) (nonempty : path ≠ [])
    (bare : endsWithSlash path = false) : join path name = path ++ slash :: name := by
  -- The path is neither empty nor does it end with a separator.
  unfold Path.join
  rw [if_neg (by simp [isName.relative]), if_neg (by simp [nonempty, bare])]

section Joined

variable {further : List Octets} (isNames : ∀ name ∈ further, IsName name)

include isNames

/-- Names that are joined to a path one after the other are its last ones. -/
theorem names_joined (path : Octets) : names (further.foldl join path) = names path ++ further := by
  -- The induction is over the names, and each is put behind those before it.
  induction further generalizing path with
  | nil => exact (List.append_nil _).symm
  | cons name further ih =>
    obtain ⟨here, later⟩ := List.forall_mem_cons.mp isNames
    rw [List.foldl_cons, ih later, names_join here.relative, here.names, List.append_assoc,
      List.singleton_append]

/-- A path to which names are joined stays where it starts. -/
theorem isAbsolute_joined (path : Octets) :
    isAbsolute (further.foldl join path) = isAbsolute path := by
  -- The induction is over the names, none of which starts at the root.
  induction further generalizing path with
  | nil => rfl
  | cons name further ih =>
    obtain ⟨here, later⟩ := List.forall_mem_cons.mp isNames
    rw [List.foldl_cons, ih later, isAbsolute_join here.relative]

/-- Names are joined behind a path. -/
theorem prefix_joined (path : Octets) : path <+: further.foldl join path := by
  -- The induction is over the names, and each is put behind the path so far.
  induction further generalizing path with
  | nil => exact List.prefix_rfl
  | cons name further ih =>
    obtain ⟨here, later⟩ := List.forall_mem_cons.mp isNames
    exact (prefix_join here.relative).trans (ih later _)

/--
Names that are joined to a path which does not end with a separator have one before each of them.
-/
theorem joined_of_bare (nonempty : path ≠ []) (bare : endsWithSlash path = false) :
    further.foldl join path = path ++ further.flatMap (slash :: ·) ∧
    endsWithSlash (further.foldl join path) = false := by
  -- The induction is over the names, and no name ends with a separator either.
  induction further generalizing path with
  | nil => exact ⟨(List.append_nil path).symm, bare⟩
  | cons name further ih =>
    obtain ⟨here, later⟩ := List.forall_mem_cons.mp isNames
    have whole := here.join nonempty bare
    have ends : endsWithSlash (join path name) = false :=
      (endsWithSlash_join here.nonempty).trans here.bare
    have rest := ih later (by simp [whole]) ends
    rw [List.foldl_cons, List.flatMap_cons]
    rw [whole] at rest ⊢
    simpa using rest

/--
Names that are joined to the root have a separator before
each of them, and none behind the last one.
-/
theorem joined_root (nonempty : further ≠ []) :
    further.foldl join [slash] = further.flatMap (slash :: ·) ∧
    endsWithSlash (further.foldl join [slash]) = false := by
  -- Only the first name needs no separator before it, as the root is one.
  obtain ⟨name, later, rfl⟩ := List.exists_cons_of_ne_nil nonempty
  obtain ⟨here, isNames⟩ := List.forall_mem_cons.mp isNames
  have first : join [slash] name = slash :: name := by
    unfold join
    rw [if_neg (by simp [here.relative])]
    rfl
  have bare : endsWithSlash (slash :: name) = false := by
    rw [← first, endsWithSlash_join here.nonempty, here.bare]
  rw [List.foldl_cons, List.flatMap_cons, first]
  exact joined_of_bare isNames (List.cons_ne_nil slash name) bare

end Joined

/-- A name of a path is not empty and has no separator. -/
theorem single_of_mem_names (among : name ∈ names path) : name ≠ [] ∧ slash ∉ name := by
  -- A name is a piece that has not been left out for being empty.
  obtain ⟨piece, nonempty⟩ := List.mem_filter.mp among
  exact ⟨by simpa using nonempty, Octets.not_mem_of_mem_parts piece⟩

/--
What may follow the last name of a path: separators, and
references of a directory to itself behind them.
-/
inductive Trails : Octets → Prop where
  /-- Nothing follows. -/
  | nil : Trails []
  /-- A separator follows. -/
  | slash {rest : Octets} (trails : Trails rest) : Trails (slash :: rest)
  /-- A self-reference follows. -/
  | self {rest : Octets} (trails : Trails rest) : Trails (slash :: Octets.dot :: rest)

/--
A path ends in a name that is not made of dots if nothing
but separators and self-references follows it.
-/
structure EndsIn (path name : Octets) : Prop where
  /-- The name stands at the beginning or behind a separator. -/
  stands : ∃ front tail,
    path = front ++ (name ++ tail) ∧ (front = [] ∨ endsWithSlash front = true) ∧ Trails tail
  /-- It is one name. -/
  single : name ≠ [] ∧ slash ∉ name
  /-- It is not the name of the directory itself or of the one above. -/
  proper : name ≠ self ∧ name ≠ parent

/-- What follows a last name adds its own names. -/
theorem Trails.names_append (trails : Trails tail) (front : Octets) :
    names (front ++ tail) = names front ++ names tail := by
  -- Whatever follows begins with a separator, if it is not empty.
  cases trails with
  | nil => simp
  | slash trails => rw [names_append_slash, names_slash]
  | self trails => rw [names_append_slash, names_slash]

/-- What follows a last name has no names but self-references. -/
theorem Trails.eq_self (trails : Trails tail) : ∀ other ∈ names tail, other = Path.self := by
  -- The induction is over what follows, where only self-references are names.
  induction trails with
  | nil => simp
  | slash trails ih =>
    rw [names_slash]
    exact ih
  | @self rest trails ih =>
    have dot : names [Octets.dot] = [Path.self] := rfl
    rw [names_slash, ← List.singleton_append, trails.names_append, dot, List.singleton_append]
    exact List.forall_mem_cons.mpr ⟨rfl, ih⟩

/-- Empty pieces and self-references behind separators are what may follow a last name. -/
theorem trails_of_idle {pieces : List Octets} (idle : ∀ piece ∈ pieces, piece = [] ∨ piece = self) :
    Trails (pieces.flatMap (slash :: ·)) := by
  -- The induction is over the pieces, each of which is one more step of what may follow.
  induction pieces with
  | nil => exact .nil
  | cons piece pieces ih =>
    obtain ⟨here, later⟩ := List.forall_mem_cons.mp idle
    rw [List.flatMap_cons]
    rcases here with rfl | rfl
    · exact .slash (ih later)
    · exact .self (ih later)

/-- A path ends in its last name. -/
theorem endsIn_of_lastName (last : lastName path = some name) : EndsIn path name := by
  -- Of all pieces those that are empty or self-references do not count.
  have kept : (names path).filter (· != self) = (split path).filter fun piece =>
      piece != self && !piece.isEmpty := by
    rw [names, List.filter_filter]
  unfold lastName at last
  split at last
  · cases last
  · rename_i found ends
    split at last
    · cases last
    · rename_i proper
      cases last
      rw [kept] at ends
      obtain ⟨earlier, whole⟩ := List.getLast?_eq_some_iff.mp ends
      obtain ⟨before, onward, cut, -, behind⟩ := List.filter_eq_append_iff.mp whole
      obtain ⟨passed, later, rfl, -, counts, rest⟩ := List.filter_eq_cons_iff.mp behind
      rw [← List.append_assoc] at cut
      obtain ⟨front, joined, stands⟩ := Octets.eq_of_parts_eq_append cut
      have idle : ∀ piece ∈ later, piece = [] ∨ piece = self := by
        intro piece among
        have unkept := List.filter_eq_nil_iff.mp rest piece among
        by_cases same : piece = self
        · exact .inr same
        · exact .inl (by simpa [same] using unkept)
      simp only [Bool.and_eq_true, bne_iff_ne, ne_eq, Bool.not_eq_true',
        List.isEmpty_eq_false_iff] at counts
      refine ⟨⟨front, _, joined, ?_, trails_of_idle idle⟩, ⟨counts.2, ?_⟩, counts.1, proper⟩
      · exact stands.imp_right fun closed => by simp [endsWithSlash, closed]
      · exact Octets.not_mem_of_mem_parts (cut ▸ List.mem_append_right _ List.mem_cons_self)

/-- What a path ends in is its last name. -/
theorem EndsIn.lastName (ending : EndsIn path name) : lastName path = some name := by
  -- Without self-references the name is the last one, as none but these follow it.
  obtain ⟨⟨front, tail, rfl, ends, trails⟩, ⟨nonempty, free⟩, other, proper⟩ := ending
  have named : (names (front ++ (name ++ tail))).filter (· != self) =
      (names front).filter (· != self) ++ [name] := by
    rw [names_append_of_ends ends, trails.names_append, names_of_not_mem nonempty free,
      List.filter_append, List.filter_append]
    have none : (names tail).filter (· != self) = [] := by
      simpa [List.filter_eq_nil_iff] using trails.eq_self
    rw [none, List.append_nil]
    simp [other]
  unfold Path.lastName
  rw [named, List.getLast?_concat]
  exact if_neg proper

/-- The last name of a path is the one that the path ends in. -/
theorem lastName_eq_some_iff : lastName path = some name ↔ EndsIn path name :=
  ⟨endsIn_of_lastName, EndsIn.lastName⟩

/-- The last name of a path is one of its pieces. -/
theorem mem_split_of_lastName (last : lastName path = some name) : name ∈ split path := by
  -- Only pieces are left out on the way from them to the last name.
  unfold lastName at last
  split at last
  · cases last
  · rename_i found ends
    split at last
    · cases last
    · cases last
      exact (List.mem_filter.mp (List.mem_filter.mp (List.mem_of_getLast? ends)).1).1

end Path

end Wakeful
