import JobShell.Proofs.Shell.Failing

/-!
# What a child asks of the system

Before its program runs, a child asks for its input, for its output and for the program, in this
order (`ChildImage.requests`), and goes on only as long as it is granted what it asks for
(`Request.perform`). This is all that `ChildImage.setUp` does (`ChildImage.setUp_eq`). So where a
request is refused, what stands before it was granted, nothing behind it was asked for, and of the
files at most the target of the output is another one (`ChildImage.stopsAt_of_perform`).

A child that is refused something says so and ends, and which programs there are makes no
difference (`Machine.runChild_of_refused`); any other child runs its program.
-/

namespace JobShell

namespace FileSystem

variable {files files' : FileSystem} {directory path other : Path} {text : String}

theorem node?_put_of_ne (files : FileSystem) (node : Node) (h : other ≠ path) :
    (files.put path node).node? other = files.node? other := by
  have hpath : (path == other) = false := by simpa using Ne.symm h
  rw [put]
  split
  · rw [node?, node?]
    congr 1
    induction files.entries with
    | nil => rfl
    | cons e es ih =>
        rw [List.map_cons, List.find?_cons, List.find?_cons, ih]
        by_cases he : e.1 = path
        · rw [if_pos (beq_iff_eq.2 he), he, hpath]
        · rw [if_neg (by simpa using he)]
  · rw [node?, node?, List.find?_append]
    simp [hpath]

/-- Two steps succeed if the first does, and then the second on its result. -/
theorem bind_eq_ok {α β : Type} {first : Except Errno α} {second : α → Except Errno β} {b : β} :
    first >>= second = .ok b ↔ ∃ a, first = .ok a ∧ second a = .ok b := by
  cases first with
  | error e => exact ⟨nofun, fun ⟨_, hfirst, _⟩ => nomatch hfirst⟩
  | ok a => exact ⟨fun h => ⟨a, rfl, h⟩, fun ⟨_, hfirst, h⟩ => Except.ok.inj hfirst ▸ h⟩

/-- Opening a place for writing touches the path that is opened and no other. -/
theorem node?_openPlace {emptied : Bool} {place : Place}
    (h : files.openPlace emptied place = .ok (path, files')) (hother : other ≠ path) :
    files'.node? other = files.node? other := by
  rw [openPlace] at h
  split at h
  · obtain ⟨_, -, h⟩ := bind_eq_ok.1 h
    cases h
    exact node?_put_of_ne files (.file []) hother
  · obtain ⟨_, -, h⟩ := bind_eq_ok.1 h
    cases h
    split
    · exact node?_put_of_ne files (.file []) hother
    · rfl
  · obtain ⟨_, -, h⟩ := bind_eq_ok.1 h
    cases h
    rfl
  · cases h
  · cases h
  · cases h

theorem node?_openWrite (h : files.openWrite directory text = .ok (path, files'))
    (hother : other ≠ path) : files'.node? other = files.node? other := by
  obtain ⟨place, -, hopen⟩ := bind_eq_ok.1 h
  exact node?_openPlace hopen hother

end FileSystem

/-- What a child asks of the system before its program runs. -/
inductive Request where
  | openInput (path : String)
  | openOutput (path : String)
  | execute (program : String)
deriving DecidableEq, Repr

namespace Request

/-- What is asked for, as it was written. -/
def name : Request → String
  | openInput path | openOutput path => path
  | execute program => program

/-- What a child writes when a request is refused. -/
def complaint (request : Request) (e : Errno) : String :=
  "smallsh: " ++ request.name ++ ": " ++ e.description ++ "\n"

/-- The files after a request that is granted to a process in this directory, or why it is
refused. -/
def answer (directory : Path) (places : List String) (files : FileSystem) :
    Request → Except Errno FileSystem
  | openInput path => (fun _ => files) <$> files.openRead directory path
  | openOutput path => Prod.snd <$> files.openWrite directory path
  | execute program => (fun _ => files) <$> files.findProgram directory places program

/-- Requests one after the other, up to the first that is refused: which one and why, if there is
one, and the files that are left. -/
def perform (directory : Path) (places : List String) :
    FileSystem → List Request → Option (Request × Errno) × FileSystem
  | files, [] => (none, files)
  | files, request :: rest =>
    match request.answer directory places files with
    | .ok files => perform directory places files rest
    | .error e => (some (request, e), files)

variable {directory : Path} {places : List String} {files files' : FileSystem}
  {request : Request} {requests : List Request} {e : Errno}

theorem perform_append (requests later : List Request) :
    perform directory places files (requests ++ later) =
      match perform directory places files requests with
      | (none, files) => perform directory places files later
      | refused => refused := by
  induction requests generalizing files with
  | nil => rfl
  | cons request requests ih =>
      rw [List.cons_append, perform, perform]
      cases request.answer directory places files with
      | ok files => exact ih
      | error e => rfl

/-- What is refused was asked for once all before it was granted, and nothing behind it was asked
for. -/
theorem perform_eq_some :
    perform directory places files requests = (some (request, e), files') ↔
      ∃ granted rest, requests = granted ++ request :: rest ∧
        perform directory places files granted = (none, files') ∧
        request.answer directory places files' = .error e := by
  constructor
  · intro h
    induction requests generalizing files with
    | nil => cases h
    | cons first requests ih =>
        rw [perform] at h
        cases hfirst : first.answer directory places files with
        | ok next =>
            rw [hfirst] at h
            obtain ⟨granted, rest, rfl, hgranted, hrefused⟩ := ih h
            refine ⟨first :: granted, rest, rfl, ?_, hrefused⟩
            rw [perform, hfirst]
            exact hgranted
        | error e =>
            rw [hfirst] at h
            cases h
            exact ⟨[], requests, rfl, rfl, hfirst⟩
  · rintro ⟨granted, rest, rfl, hgranted, hrefused⟩
    rw [perform_append, hgranted]
    dsimp only
    rw [perform, hrefused]

end Request

namespace ChildImage

/-- What a child asks for, in this order. -/
def requests (image : ChildImage) : List Request :=
  image.input.toList.map .openInput ++ image.output.toList.map .openOutput ++
    [.execute image.program]

/-- The answers to the requests of a child on a machine. -/
def perform (image : ChildImage) (m : Machine) : Option (Request × Errno) × FileSystem :=
  Request.perform m.directory m.places m.files image.requests

variable {image : ChildImage} {m : Machine} {request : Request} {e : Errno} {files : FileSystem}

/-- To connect the input is to ask for it, if there is a target. -/
theorem perform_input (image : ChildImage) (m : Machine) :
    Request.perform m.directory m.places m.files (image.input.toList.map .openInput) =
      match image.connectInput m with
      | .ok _ => (none, m.files)
      | .error (text, e) => (some (.openInput text, e), m.files) := by
  rw [connectInput]
  cases image.input with
  | none => rfl
  | some text =>
      simp only [Option.toList_some, List.map_cons, List.map_nil, Request.perform, Request.answer]
      cases m.files.openRead m.directory text with
      | error e => rfl
      | ok found =>
          obtain ⟨path, node⟩ := found
          cases node <;> rfl

theorem perform_output (image : ChildImage) (m : Machine) :
    Request.perform m.directory m.places m.files (image.output.toList.map .openOutput) =
      match image.connectOutput m with
      | .ok (_, files) => (none, files)
      | .error (text, e) => (some (.openOutput text, e), m.files) := by
  rw [connectOutput]
  cases image.output with
  | none => rfl
  | some text =>
      simp only [Option.toList_some, List.map_cons, List.map_nil, Request.perform, Request.answer]
      cases m.files.openWrite m.directory text <;> rfl

/-- A child sets itself up by its requests. It fails at the one that is refused, and starts if all
are granted. -/
theorem setUp_eq (image : ChildImage) (m : Machine) (pid : Pid) (mask : SignalSet) :
    (image.setUp m pid mask).2 = (image.perform m).2 ∧
      match (image.perform m).1 with
      | some (request, e) => (image.setUp m pid mask).1 = .failed request.name e
      | none => ∃ execution, (image.setUp m pid mask).1 = .starts execution ∧
          (image.perform m).2.findProgram m.directory m.places image.program =
            .ok execution.utility := by
  rw [perform, requests, Request.perform_append, Request.perform_append, perform_input, setUp]
  cases image.connectInput m with
  | error refused => exact ⟨rfl, rfl⟩
  | ok input =>
      dsimp only
      rw [perform_output]
      cases image.connectOutput m with
      | error refused => exact ⟨rfl, rfl⟩
      | ok opened =>
          dsimp only
          rw [Request.perform, Request.answer]
          cases hprogram : opened.2.findProgram m.directory m.places image.program with
          | error e => exact ⟨rfl, rfl⟩
          | ok utility => exact ⟨rfl, _, rfl, hprogram⟩

theorem setUp_of_refused (h : image.perform m = (some (request, e), files)) (pid : Pid)
    (mask : SignalSet) : image.setUp m pid mask = (.failed request.name e, files) := by
  have hsetUp := image.setUp_eq m pid mask
  rw [h] at hsetUp
  exact Prod.ext hsetUp.2 hsetUp.1

/-- A child whose requests are granted starts the program that was found, under the arguments of
its image. -/
theorem setUp_of_granted (h : image.perform m = (none, files)) (pid : Pid)
    (mask : SignalSet) :
    ∃ execution, image.setUp m pid mask = (.starts execution, files) ∧
      execution.arguments = image.arguments ∧ image.connectInput m = .ok execution.input ∧
      image.connectOutput m = .ok (execution.output, files) ∧
      files.findProgram m.directory m.places image.program = .ok execution.utility := by
  obtain ⟨hfiles, hstarts⟩ := image.setUp_eq m pid mask
  rw [h] at hfiles hstarts
  obtain ⟨execution, hstarts, hprogram⟩ := hstarts
  have hsetUp : image.setUp m pid mask = (.starts execution, files) :=
    Prod.ext hstarts hfiles
  obtain ⟨utility, input, output, hinput, houtput, rfl⟩ := starts_of_setUp hsetUp
  exact ⟨_, hsetUp, rfl, hinput, houtput, hprogram⟩

theorem files_of_connectOutput {output : Endpoint}
    (h : image.connectOutput m = .ok (output, files)) :
    files = m.files ∨ ∃ text path, image.output = some text ∧
      m.files.openWrite m.directory text = .ok (path, files) := by
  rw [connectOutput] at h
  split at h
  · cases h
    exact Or.inl rfl
  · next text hsome =>
      split at h
      · next path opened hopen =>
          cases h
          exact Or.inr ⟨text, path, hsome, hopen⟩
      · cases h

/-- Up to its program a child changes no file but the output that it has opened, and it has opened
one only if nothing but the program can be refused any more. -/
theorem files_of_perform {refused : Option (Request × Errno)}
    (h : image.perform m = (refused, files)) :
    files = m.files ∨ ∃ text path, image.output = some text ∧
      m.files.openWrite m.directory text = .ok (path, files) ∧
      ∀ request e, refused = some (request, e) → request = .execute image.program := by
  rw [perform, requests, Request.perform_append, Request.perform_append, perform_input] at h
  cases hinput : image.connectInput m with
  | error stopped =>
      rw [hinput] at h
      cases h
      exact Or.inl rfl
  | ok input =>
      rw [hinput] at h
      dsimp only at h
      rw [perform_output] at h
      cases houtput : image.connectOutput m with
      | error stopped =>
          rw [houtput] at h
          cases h
          exact Or.inl rfl
      | ok opened =>
          rw [houtput] at h
          dsimp only at h
          rw [Request.perform, Request.answer] at h
          have hfiles := files_of_connectOutput houtput
          cases hprogram : opened.2.findProgram m.directory m.places image.program with
          | error e =>
              rw [hprogram] at h
              cases h
              refine hfiles.imp_right fun ⟨text, path, hsome, hopen⟩ =>
                ⟨text, path, hsome, hopen, ?_⟩
              rintro _ _ ⟨⟩
              rfl
          | ok utility =>
              rw [hprogram] at h
              cases h
              exact hfiles.imp_right fun ⟨text, path, hsome, hopen⟩ =>
                ⟨text, path, hsome, hopen, nofun⟩

/-- A child is stopped at a request, with these files left. -/
structure StopsAt (image : ChildImage) (m : Machine) (request : Request) (e : Errno)
    (files : FileSystem) : Prop where
  /-- All before the request was granted, and nothing behind it was asked for. -/
  order : ∃ granted rest, image.requests = granted ++ request :: rest ∧
    Request.perform m.directory m.places m.files granted = (none, files) ∧
    request.answer m.directory m.places files = .error e
  /-- If no more than a target was asked for, no file was touched. -/
  untouched : (∀ program, request ≠ .execute program) → files = m.files
  /-- Nothing but the target of the output was touched. -/
  others : ∀ other,
    (∀ text path, image.output = some text →
      m.files.openWrite m.directory text = .ok (path, files) → other ≠ path) →
    files.node? other = m.files.node? other

theorem stopsAt_of_perform (h : image.perform m = (some (request, e), files)) :
    image.StopsAt m request e files where
  order := Request.perform_eq_some.1 h
  untouched hopens := by
    obtain hsame | ⟨text, path, -, -, hlast⟩ := files_of_perform h
    · exact hsame
    · exact absurd (hlast request e rfl) (hopens _)
  others other hother := by
    obtain rfl | ⟨text, path, hsome, hopen, -⟩ := files_of_perform h
    · rfl
    · exact FileSystem.node?_openWrite hopen (hother text path hsome hopen)

end ChildImage

namespace Machine

variable {m : Machine} {image : ChildImage} {request : Request} {e : Errno} {files : FileSystem}

/-- The child of this pid is refused a request: it says so and exits with 1. -/
def failChild (m : Machine) (image : ChildImage) (pid : Pid) (mask : SignalSet)
    (request : Request) (e : Errno) (files : FileSystem) : Machine :=
  { m with
    files
    errors := m.errors ++ Text.encode (request.complaint e)
    kernel := (m.kernel.start pid (.forChild (!image.background) mask)).endChild pid
      (Termination.exitStatus setupFailureCode) }

theorem runChild_of_refused (host : Host) (h : image.perform m = (some (request, e), files))
    (pid : Pid) (mask : SignalSet) :
    m.runChild host image pid mask =
      m.failChild image pid mask request e files := by
  rw [runChild, ChildImage.setUp_of_refused (m := m.mapKernel _) h]
  rfl

theorem runChild_of_starts (host : Host) {pid : Pid} {mask : SignalSet} {execution : Execution}
    (h : image.setUp m pid mask = (.starts execution, files)) :
    m.runChild host image pid mask =
      execute host { m with
        files
        kernel := m.kernel.start pid (.forChild (!image.background) mask) }
        execution := by
  have hstarted : image.setUp (m.mapKernel fun k =>
      k.start pid (.forChild (!image.background) mask)) pid mask =
        (.starts execution, files) := h
  rw [runChild, hstarted]
  rfl

end Machine

end JobShell
