import Mathlib.Control.Monad.Basic
import Uniprocessor.CommandLine
import Uniprocessor.Proofs.Json.Limits
import Uniprocessor.Proofs.Text.Utf8

/-!
What becomes of files that cannot be used.

That the system refuses a file, and that its text is no workload or no configuration, is answered
with a message. Nobody answers for a path that is none or for bytes that are no text
(`FileSystem.Illegible`), nor for a configuration in which there is too much of it
(`FileSystem.TooMuch`). The main statement says that this is all, for every file system and every
path, and what a run makes of it (`unanswered_files`).
-/

namespace Uniprocessor

namespace FileSystem

/-- What no reader answers for: a path that is none, and bytes that are no text. -/
inductive Illegible (fs : FileSystem) (path : String) : Unhandled → Prop where
  | nullInPath (improper : null ∈ path.toList) : Illegible fs path .nullInPath
  | undecodable {bytes : List Nat} {fault : Text.Utf8.Fault} (proper : null ∉ path.toList)
      (holds : fs path = .ok bytes) (first : Text.Utf8.decode bytes = .error fault) :
      Illegible fs path (.undecodable fault)

/-- The text of the file at the path. -/
structure Holds (fs : FileSystem) (path : String) (text : List Char) : Prop where
  proper : null ∉ path.toList
  bytes : fs path = .ok (Text.Utf8.encode text)

/-- The text of a file as it is read. -/
def asRead (text : List Char) : Text := (Text.foldNewlines text).map .char

/-- What a reader of JSON does not answer for in a text: that there is too much of it. -/
inductive TooMuch (fs : FileSystem) (path : String) : Unhandled → Prop where
  | digits {text : List Char} {count : Nat} (holds : fs.Holds path text)
      (stops : Json.ofUnmarked (asRead text) = .error (.tooManyDigits count)) :
      TooMuch fs path (.tooManyDigits count)
  | brackets {text : List Char} {bracket : Json.Bracket} (holds : fs.Holds path text)
      (stops : Json.ofUnmarked (asRead text) = .error (.tooDeep bracket)) :
      TooMuch fs path (.tooDeep bracket)

variable {fs : FileSystem} {path : String} {u : Unhandled} {ε : Type} {refused : String → ε}

theorem illegible_iff :
    (∃ u, fs.Illegible path u) ↔ null ∈ path.toList ∨
      ∃ bytes, fs path = .ok bytes ∧ ∀ text, bytes ≠ Text.Utf8.encode text := by
  constructor
  · rintro ⟨_, improper | ⟨_, holds, first⟩⟩
    · exact .inl improper
    · exact .inr ⟨_, holds, Text.Utf8.decode_fails_iff.mp ⟨_, first⟩⟩
  · rintro (improper | ⟨bytes, holds, none⟩)
    · exact ⟨_, .nullInPath improper⟩
    · by_cases improper : null ∈ path.toList
      · exact ⟨_, .nullInPath improper⟩
      · obtain ⟨fault, first⟩ := Text.Utf8.decode_fails_iff.mpr none
        exact ⟨_, .undecodable improper holds first⟩

theorem TooMuch.excessive (much : fs.TooMuch path u) :
    ∃ text, fs.Holds path text ∧ Json.Excessive (asRead text) := by
  cases much with
  | digits holds stops => exact ⟨_, holds, Json.excessive_of_fault stops nofun⟩
  | brackets holds stops => exact ⟨_, holds, Json.excessive_of_fault stops nofun⟩

/-- What reading the file at a path ends in. -/
inductive Reads (fs : FileSystem) (path : String) : Except ReadError (List Char) → Prop where
  | improper (improper : null ∈ path.toList) : Reads fs path (.error .nullInPath)
  | refused {refusal : Refusal} (proper : null ∉ path.toList) (refuses : fs path = .error refusal) :
      Reads fs path (.error (.refused refusal path))
  | undecodable {bytes : List Nat} {fault : Text.Utf8.Fault} (proper : null ∉ path.toList)
      (holds : fs path = .ok bytes) (first : Text.Utf8.decode bytes = .error fault) :
      Reads fs path (.error (.undecodable fault))
  | text {text : List Char} (holds : fs.Holds path text) :
      Reads fs path (.ok (Text.foldNewlines text))

theorem reads_reader (fs : FileSystem) (path : String) : fs.Reads path (fs.reader path) := by
  unfold reader
  split
  · rename_i improper
    exact .improper (List.contains_iff_mem.mp improper)
  · rename_i proper
    have proper := mt List.contains_iff_mem.mpr proper
    split
    · exact .refused proper ‹_›
    · rename_i bytes holds
      unfold decodeText
      split
      · rename_i text decoded
        exact .text ⟨proper, Text.Utf8.decode_eq_ok_iff.mp decoded ▸ holds⟩
      · exact .undecodable proper holds ‹_›

theorem Reads.eq {x : Except ReadError (List Char)} (reads : fs.Reads path x) :
    fs.reader path = x := by
  unfold reader
  cases reads with
  | improper improper => rw [if_pos (List.contains_iff_mem.mpr improper)]
  | refused proper refuses => rw [if_neg (mt List.contains_iff_mem.mp proper), refuses]
  | undecodable proper holds first =>
      rw [if_neg (mt List.contains_iff_mem.mp proper), holds]
      simp only [decodeText, first]
  | text holds =>
      rw [if_neg (mt List.contains_iff_mem.mp holds.proper), holds.bytes]
      simp only [decodeText, Text.Utf8.decode_encode]

theorem load_reader_unhandled :
    fs.reader.load path refused = .error (.unhandled u) ↔ fs.Illegible path u := by
  unfold Reader.load
  constructor
  · intro failed
    have reads := fs.reads_reader path
    generalize fs.reader path = x at failed reads
    cases reads with
    | improper improper =>
        cases failed
        exact .nullInPath improper
    | undecodable proper holds first =>
        cases failed
        exact .undecodable proper holds first
    | refused proper refuses => cases failed
    | text holds => cases failed
  · rintro (improper | ⟨proper, holds, first⟩)
    · rw [(Reads.improper improper).eq]
    · rw [(Reads.undecodable proper holds first).eq]

theorem load_reader_ok {chars : List Char} :
    fs.reader.load path refused = .ok chars ↔
      ∃ text, fs.Holds path text ∧ Text.foldNewlines text = chars := by
  unfold Reader.load
  constructor
  · intro read
    have reads := fs.reads_reader path
    generalize fs.reader path = x at read reads
    cases reads with
    | text holds =>
        cases read
        exact ⟨_, holds, rfl⟩
    | _ => cases read
  · rintro ⟨text, holds, rfl⟩
    rw [(Reads.text holds).eq]

end FileSystem

open FileSystem

/-! ### Loaders -/

theorem Workload.load_unhandled {fs : FileSystem} {shown path : String} {u : Unhandled} :
    Workload.load fs.reader shown path = .error (.unhandled u) ↔
      fs.Illegible (normalPath path) u := by
  rw [Workload.load, Except.bind_eq_error_iff, load_reader_unhandled]
  constructor
  · rintro (illegible | ⟨chars, _, failed⟩)
    · exact illegible
    · obtain ⟨_, _, ⟨⟩⟩ := Except.mapError_eq_error_iff.mp failed
  · exact .inl

theorem Config.load_unhandled {fs : FileSystem} {path : String} {u : Unhandled} :
    Config.load fs.reader path = .error (.unhandled u) ↔
      fs.Illegible (normalPath path) u ∨ fs.TooMuch (normalPath path) u := by
  unfold Config.load
  dsimp only
  rw [Except.bind_eq_error_iff, load_reader_unhandled]
  simp only [load_reader_ok]
  constructor
  · rintro (illegible | ⟨_, ⟨text, holds, rfl⟩, failed⟩)
    · exact .inl illegible
    · right
      split at failed
      · cases failed
        exact .digits holds ‹_›
      · cases failed
        exact .brackets holds ‹_›
      · cases failed
      · obtain ⟨_, _, ⟨⟩⟩ := Except.mapError_eq_error_iff.mp failed
      · cases failed
  · rintro (illegible | ⟨holds, stops⟩ | ⟨holds, stops⟩)
    · exact .inl illegible
    · refine .inr ⟨_, ⟨_, holds, rfl⟩, ?_⟩
      rw [← asRead, stops]
      rfl
    · refine .inr ⟨_, ⟨_, holds, rfl⟩, ?_⟩
      rw [← asRead, stops]
      rfl

/-! ### Runs -/

namespace CommandLine

/-- How a run ends that cannot use a file: with a message and the status for bad input, or with a
failure that nobody answers. -/
def ended {ε : Type} (message : ε → Text) : LoadError ε → Except Unhandled Outcome
  | .invalid e => .ok (inputError (message e))
  | .unhandled u => .error u

variable {make : MakePolicy} {read : Reader} {arguments : List String} {o : Options}
  {path : String}

theorem run_of_workload (parsed : Options.parse arguments = .ok o) (runs : o.list = false)
    (workload : o.workload = some path) :
    run make read arguments = simulate make read o path := by
  simp only [run, parsed, runs, workload, Bool.false_eq_true, if_false]

theorem simulate_without_config {e : LoadError ConfigError} (failed : configOf read o = .error e) :
    simulate make read o path = ended ConfigError.message e := by
  unfold simulate
  rw [failed]
  cases e <;> rfl

theorem simulate_without_workload {config : Config} {e : LoadError WorkloadError}
    (resolved : configOf read o = .ok config)
    (failed : Workload.load read (normalPath path) path = .error e) :
    simulate make read o path = ended (fun e => e.message) e := by
  unfold simulate
  rw [resolved]
  dsimp only [orMessage, Except.mapError, bind, Except.bind]
  rw [failed]
  cases e <;> rfl

theorem configOf_of_file {file : Text} {e : LoadError ConfigError}
    (named : o.config = some (.str file)) (failed : Config.load read file.string = .error e) :
    configOf read o = .error e := by
  unfold configOf
  rw [named]
  dsimp only
  rw [failed]
  rfl

end CommandLine

open CommandLine

/-- For every file system, the files that nobody answers for are those whose path is none or whose
bytes are no text, and configurations in which there is too much of it. All other files that
cannot be used are answered: the run ends with the status for bad input. -/
theorem unanswered_files (fs : FileSystem) :
    (∀ path, (∃ u, fs.Illegible path u) ↔ null ∈ path.toList ∨
      ∃ bytes, fs path = .ok bytes ∧ ∀ text, bytes ≠ Text.Utf8.encode text) ∧
    (∀ path u, fs.TooMuch path u → ∃ text, fs.Holds path text ∧ Json.Excessive (asRead text)) ∧
    (∀ shown path u, Workload.load fs.reader shown path = .error (.unhandled u) ↔
      fs.Illegible (normalPath path) u) ∧
    (∀ path u, Config.load fs.reader path = .error (.unhandled u) ↔
      fs.Illegible (normalPath path) u ∨ fs.TooMuch (normalPath path) u) ∧
    ∀ make arguments o path, Options.parse arguments = .ok o → o.list = false →
      o.workload = some path →
      (∀ file e, o.config = some (.str file) → Config.load fs.reader file.string = .error e →
        run make fs.reader arguments = ended ConfigError.message e) ∧
      ∀ config e, configOf fs.reader o = .ok config →
        Workload.load fs.reader (normalPath path) path = .error e →
        run make fs.reader arguments = ended (fun e => e.message) e := by
  refine ⟨fun _ => illegible_iff, fun _ _ much => much.excessive,
    fun _ _ _ => Workload.load_unhandled, fun _ _ => Config.load_unhandled, ?_⟩
  intro make arguments o path parsed runs workload
  rw [run_of_workload parsed runs workload]
  exact ⟨fun _ _ named failed => simulate_without_config (configOf_of_file named failed),
    fun _ _ resolved failed => simulate_without_workload resolved failed⟩

/-- A system with a single file, whose only byte begins no character. -/
def FileSystem.garbled : FileSystem := fun path =>
  if path = "w" then .ok [0xff] else .error .missing

theorem parse_garbled :
    ((Options.parse ["-c", "c", "w"]).toOption.any fun o =>
      match o.config with
      | some (.str file) =>
          decide (o.list = false ∧ o.workload = some "w" ∧ file.string = "c")
      | _ => false) = true := by
  decide +kernel

/-- A run that is told of a configuration that is missing ends with the status for bad input. -/
theorem unanswered_files_garbled :
    run registered FileSystem.garbled.reader ["-c", "c", "w"] =
      .ok {
        status := 1
        err := ["py-sched: Cannot load config c: [Errno 2] No such file or directory: 'c'"] } := by
  have named := parse_garbled
  cases parsed : Options.parse ["-c", "c", "w"] with
  | error stop =>
      rw [parsed] at named
      cases named
  | ok o =>
      rw [parsed] at named
      dsimp only [Except.toOption, Option.any] at named
      split at named
      · rename_i file config
        obtain ⟨runs, workload, name⟩ := of_decide_eq_true named
        have missing : Config.load FileSystem.garbled.reader file.string = .error
            (.invalid (.unreadable "c" "[Errno 2] No such file or directory: 'c'")) := by
          rw [name]
          decide +kernel
        obtain ⟨-, -, -, -, answers⟩ := unanswered_files FileSystem.garbled
        have ends := (answers registered _ o "w" parsed runs workload).1 file _ config missing
        rw [ends]
        decide +kernel
      · cases named

/-- Bytes that are no text end the run, be they those of the workload or of the configuration. -/
theorem undecodable_unanswered :
    let u := Unhandled.undecodable ⟨.startByte, 0xff, 0, 1⟩
    let fs := FileSystem.garbled
    Workload.load fs.reader "w" "w" = .error (.unhandled u) ∧
      Config.load fs.reader "w" = .error (.unhandled u) ∧
      run registered fs.reader ["w"] = .error u ∧
      run registered fs.reader ["-c", "w", "w"] = .error u := by
  decide +kernel

end Uniprocessor
