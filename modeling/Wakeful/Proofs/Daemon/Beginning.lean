import Wakeful.Daemon.Startup
import Wakeful.Proofs.Daemon.Replacement

/-!
A daemon that does not start leaves the files as they were,
but for a link on the way to its own path.
-/

namespace Wakeful.Daemon

open FileTree (AgreeBut agreeBut_insert agreeBut_erase)
open Locations (Settings)

variable {workplace after : Workplace} {socket : Octets} {place : Place} {node : Node}

/--
What has become of a workplace when a daemon listens at an address, and nothing else has changed.
-/
inductive Opened (before : Workplace) (socket : Octets) : Workplace → Prop where
  /-- A socket on which it listens has the path. -/
  | path {tree : FileTree} {place : Place} {mode : Nat}
      (elsewhere : AgreeBut place before.tree tree)
      (holds : ({ before with tree := tree } : Workplace).occupant? socket =
        some (place, .socket mode (some (.streams true)))) :
      Opened before socket { before with tree := tree }
  /-- It listens under a name outside the tree that was free. -/
  | outside {name : Octets} (address : socket = 0 :: name)
      (free : before.detached.lookup name = none) :
        Opened before socket { before with detached := (name, true) :: before.detached }
  /-- It listens where nobody can find it, because there is no path. -/
  | nowhere (empty : socket = []) : Opened before socket before

/-- Where a socket is made at once, nothing else changes. -/
theorem opened_of_listen (taken : workplace.listen socket = (.ok (), after)) :
    Opened workplace socket after := by
  -- By the kind of address. Only a path puts anything into the tree.
  rcases Workplace.ofOctets_cases socket with
    ⟨empty, address⟩ | ⟨name, whole, address⟩ | ⟨-, address⟩ | ⟨reason, address, -⟩
  · simp only [Workplace.listen, address] at taken
    cases taken
    exact .nowhere empty
  · simp only [Workplace.listen, address] at taken
    split at taken
    · cases taken
    · rename_i free
      cases taken
      exact .outside whole (Option.not_isSome_iff_eq_none.mp free)
  · simp only [Workplace.listen, address] at taken
    obtain ⟨parent, name, vacant, rfl⟩ := Workplace.bindPath_ok_iff.mp taken
    exact .path (agreeBut_insert _ _ _) (vacant.occupant? _)
  · simp only [Workplace.listen, address] at taken
    cases taken

/-- Where something is replaced by a socket, nothing else changes. -/
theorem Clears.opened (clears : Clears workplace socket place node)
    (stays : ¬ workplace.RestsOn socket place) :
    Opened workplace socket { workplace.without place with
      tree := (workplace.without place).tree.insert place
        (.socket (workplace.granted 0o777) (some (.streams true))) } := by
  obtain ⟨parent, name, rfl, vacant⟩ := clears.removable.vacant stays
  refine .path (fun elsewhere different => ?_) (vacant.occupant? _)
  -- The place is freed first and then filled, and both are seen nowhere else.
  calc _ = (workplace.without
    (name :: parent)).tree.node? elsewhere := agreeBut_insert _ _ _ elsewhere different
    _ = workplace.tree.node? elsewhere := agreeBut_erase _ _ elsewhere different

/-- A daemon that takes a path listens there, and nothing else changes. -/
theorem opened_of_bind (bound : (bind workplace socket).1 = .ok ()) :
    Opened workplace socket (bind workplace socket).2.1 := by
  -- Only a first attempt that succeeds and a replacement come out well.
  have cases := binds workplace socket
  generalize bind workplace socket = outcome at cases bound
  cases cases with
  | takes taken => exact opened_of_listen taken
  | replaces clears stays => exact clears.opened stays
  | _ => cases bound

/-- Whether a daemon removes a link through which the way to its own path leads. -/
def Strands (workplace : Workplace) (socket : Octets) (place : Place) : Prop :=
  Removes workplace socket ∧ (∃ target, workplace.occupant? socket = some (place, .link target)) ∧
    workplace.RestsOn socket place

/-- A way that is lost with what is cleared away has lost a link. -/
theorem Clears.strands (clears : Clears workplace socket place node)
    (rests : workplace.RestsOn socket place) : Strands workplace socket place := by
  -- Only a link can be part of the way that leads to it.
  have linked := Workplace.isLink_of_restsOn clears.removable rests
  refine ⟨removes_iff_clears.mpr ⟨place, node, clears⟩, ?_, rests⟩
  cases node with
  | link target => exact ⟨target, clears.removable.occupies⟩
  | _ => cases linked

/-- A daemon that removes such a link fails, and the link is gone. -/
theorem Strands.bind_fails (strands : Strands workplace socket place) :
    (∃ report, (bind workplace socket).1 = .error report) ∧
      (bind workplace socket).2.1 = workplace.without place := by
  -- The removal succeeds and the second attempt fails, so that only the link is gone.
  obtain ⟨removes, ⟨target, occupies⟩, rests⟩ := strands
  obtain ⟨there, held, clears⟩ := removes_iff_clears.mp removes
  cases clears.removable.occupies.symm.trans occupies
  obtain ⟨reason, again⟩ := clears.lost rests
  have bound : bind workplace socket =
      (.error (failure (.refused reason)), workplace.without place, [replacing socket]) := by
    simp only [bind, clears.listen, clears.silent, clears.unlink, again, Bool.false_eq_true,
      if_false]
    rfl
  rw [bound]
  exact ⟨⟨_, rfl⟩, rfl⟩

/-- What is gone was there. -/
theorem Strands.changes (strands : Strands workplace socket place) :
    workplace.without place ≠ workplace := by
  -- The link was found at the place, which is free afterwards.
  obtain ⟨-, ⟨target, occupies⟩, -⟩ := strands
  obtain ⟨parent, name, slash, -, -, -, held⟩ := Workplace.occupant?_eq_some_iff.mp occupies
  intro same
  have gone : (workplace.without place).tree.node? place = none :=
    workplace.tree.node?_erase_self place
  rw [same, held] at gone
  cases gone

/--
A daemon that cannot take its path changes something exactly if it removes a link on the way there.
-/
theorem bind_changes_iff :
    (∃ report, (bind workplace socket).1 = .error report) ∧
    (bind workplace socket).2.1 ≠ workplace ↔
      ∃ place, Strands workplace socket place := by
  -- Of the ways to take a path only one both fails and changes something.
  constructor
  · rintro ⟨⟨report, failed⟩, changed⟩
    have cases := binds workplace socket
    generalize bind workplace socket = outcome at cases failed changed
    cases cases with
    | takes taken => cases failed
    | replaces clears stays => cases failed
    | strands clears rests => exact ⟨_, clears.strands rests⟩
    | _ => exact absurd rfl changed
  · rintro ⟨place, strands⟩
    obtain ⟨failed, lost⟩ := strands.bind_fails
    exact ⟨failed, lost ▸ strands.changes⟩

/-- The report of another daemon is that of no failure of the system, since it has a cause. -/
theorem failure_ne_rivalReport (reason : IoError) : failure reason ≠ rivalReport := by
  -- One report has a cause and the other has none.
  intro same
  have causes := congrArg Report.causes same
  simp [failure, rivalReport, Report.ofText, Report.within] at causes

/-- A daemon finds another one exactly if its address is in use and somebody answers there. -/
theorem bind_rival_iff :
    (bind workplace socket).1 = .error rivalReport ↔
      workplace.Occupied socket ∧ workplace.answers socket = true := by
  -- That report is made in one case only, after an answer at an address in use.
  constructor
  · intro rival
    have cases := binds workplace socket
    generalize bind workplace socket = outcome at cases rival
    cases cases with
    | finds taken answered => exact ⟨Workplace.occupied_of_answers answered, answered⟩
    | takes taken => cases rival
    | replaces clears stays => cases rival
    | _ => exact absurd (Except.error.inj rival) (failure_ne_rivalReport _)
  · -- Whoever answers has the address, so that the first attempt finds it in use.
    rintro ⟨-, answered⟩
    have taken := Workplace.listen_answered answered
    unfold bind
    rcases first : workplace.listen socket with ⟨result, left⟩
    rw [first] at taken
    cases taken
    simp [answered]

section Start

variable (settings : Settings) (workplace : Workplace) (arguments : List Octets)
  (attempt : Except String BusSession)

/-- The address of a daemon is never empty. -/
theorem socket_ne_nil : settings.socket ≠ [] := by
  have named : Locations.socketName settings.display ≠ [] := by
    intro empty
    -- Octets spell one text only, and the name is not the empty one.
    have spelled :
        Octets.text? [] = some ("nodoze-" ++ Locations.displayName settings.display ++ ".sock") :=
      empty ▸ Octets.text?_ofText _
    have lengths :=
      congrArg String.length (Option.some.inj (spelled.symm.trans (Octets.text?_ofText "")))
    simp at lengths
  unfold Settings.socket Locations.socketPath Path.join
  split
  · exact named
  · split <;> simp [named]

/-- Before its command line and its configuration are known, a daemon touches nothing. -/
theorem start_unprepared {ending : Ending}
    (unprepared : prepare settings workplace arguments = .error ending) :
    start settings workplace arguments attempt = (.error ending, workplace, []) := by
  simp only [start, unprepared]

/--
Once they are known, it does nothing to the files but take its
path, and it starts exactly if that comes out well.
-/
theorem start_prepared {config : Config}
    (prepared : prepare settings workplace arguments = .ok config) :
    (start settings workplace arguments attempt).2.1 = (bind workplace settings.socket).2.1 ∧
    ((∃ ending, (start settings workplace arguments attempt).1 = .error ending) ↔
      ∃ report, (bind workplace settings.socket).1 = .error report) ∧
    ∀ listener, (start settings workplace arguments attempt).1 = .ok listener →
      listener.socket = settings.socket ∧ (bind workplace settings.socket).1 = .ok () := by
  -- What has been prepared leaves only the path to be taken.
  simp only [start, prepared]
  rcases bind workplace settings.socket with ⟨report | ⟨⟨⟩⟩, after, log⟩
  · simp
  · refine ⟨rfl, by simp, ?_⟩
    rintro listener ⟨⟩
    exact ⟨rfl, rfl⟩

/--
A daemon starts as a whole or not at all, unless the way to
its path leads through a link in its place.

If it fails, the files are as they were but for one case, which is when it removes a link
through which the way to its own path leads, so that the path is lost with the link. If it
starts, a socket on which it listens has its path, and nothing else has changed. It reports
another daemon exactly if its address is in use and somebody answers there.
-/
theorem start_changes_iff_strands :
    ((∃ ending, (start settings workplace arguments attempt).1 = .error ending) ∧
        (start settings workplace arguments attempt).2.1 ≠ workplace ↔
      (∃ config, prepare settings workplace arguments = .ok config) ∧
        ∃ place, Strands workplace settings.socket place) ∧
    (∀ listener, (start settings workplace arguments attempt).1 = .ok listener →
      listener.socket = settings.socket ∧ settings.socket ≠ [] ∧
        Opened workplace settings.socket (start settings workplace arguments attempt).2.1) ∧
    ∀ socket,
      ((∃ report, (bind workplace socket).1 = .error report) ∧
        (bind workplace socket).2.1 ≠ workplace ↔
        ∃ place, Strands workplace socket place) ∧
      (∀ place, Strands workplace socket place →
        (bind workplace socket).2.1 = workplace.without place) ∧
      ((bind workplace socket).1 = .ok () → Opened workplace socket (bind workplace socket).2.1) ∧
      ((bind workplace socket).1 = .error rivalReport ↔
        workplace.Occupied socket ∧ workplace.answers socket = true) := by
  -- Nothing is changed before the path is taken, so all is said by what `bind` does.
  refine ⟨?_, ?_, fun socket => ⟨bind_changes_iff, ?_, opened_of_bind, bind_rival_iff⟩⟩
  · cases prepared : prepare settings workplace arguments with
    | error ending => simp [start_unprepared settings workplace arguments attempt prepared]
    | ok config =>
      obtain ⟨files, fails, -⟩ := start_prepared settings workplace arguments attempt prepared
      rw [files, fails, bind_changes_iff]
      simp
  · -- A daemon that listens was prepared and has taken its path.
    intro listener started
    cases prepared : prepare settings workplace arguments with
    | error ending =>
      rw [start_unprepared settings workplace arguments attempt prepared] at started
      cases started
    | ok config =>
      obtain ⟨files, -, listens⟩ := start_prepared settings workplace arguments attempt prepared
      obtain ⟨address, bound⟩ := listens listener started
      exact ⟨address, socket_ne_nil settings, files ▸ opened_of_bind bound⟩
  · intro place strands
    exact strands.bind_fails.2

end Start

/-- A workplace with nothing but a link to the root, which has the name of a daemon's socket. -/
def looping : Workplace :=
  ⟨⟨[([], .directory 0o755), ([Octets.ofText "nodoze-wayland-0.sock"], .link [47])]⟩, .root,
    0o022, []⟩

/-- An environment with a home directory and a runtime directory. -/
def runningIn (runtime : String) : Settings :=
  ⟨some (Octets.ofText runtime), none, none, none, some (Octets.ofText "/home")⟩

/-- A daemon starts in an empty tree, and one whose runtime directory is the link removes it. -/
theorem starts_or_strands :
    Opened ⟨.empty, .root, 0o022, []⟩ (runningIn "/").socket
      (start (runningIn "/") ⟨.empty, .root, 0o022, []⟩ [] (.error "no bus")).2.1 ∧
    ∃ place, Strands looping (runningIn "/nodoze-wayland-0.sock").socket place := by
  -- The link is one name of the way to the socket, and its tree is shorter afterwards.
  constructor
  · exact ((start_changes_iff_strands (runningIn "/") ⟨.empty, .root, 0o022, []⟩ []
      (.error "no bus")).2.1 _ rfl).2.2
  · refine ((start_changes_iff_strands (runningIn "/nodoze-wayland-0.sock") looping []
      (.error "no bus")).1.mp
      ⟨⟨_, rfl⟩, fun same => ?_⟩).2
    cases congrArg (fun workplace => workplace.tree.nodes.length) same

/-- A daemon does not start, and a link that was there is gone. -/
theorem start_loses_link :
    (∃ ending, (start (runningIn "/nodoze-wayland-0.sock") looping [] (.error "no bus")).1 =
      .error ending) ∧
    looping.tree.node? [Octets.ofText "nodoze-wayland-0.sock"] = some (.link [47]) ∧
    (start (runningIn "/nodoze-wayland-0.sock") looping [] (.error "no bus")).2.1.tree.node?
      [Octets.ofText "nodoze-wayland-0.sock"] = none :=
  ⟨⟨_, rfl⟩, rfl, rfl⟩

end Wakeful.Daemon
