import QueryTyping.Connection.Script
import QueryTyping.Proofs.ClientContract
import QueryTyping.Proofs.InferenceSteps

/-!
# Manifests are written last

Generating checks for collisions, infers all files, and then writes.  The error that
it ends with tells how far it came: only writing has output failures
(`Generation.writeManifests_failsOnly`), and only the check finds collisions
(`Generation.inferFiles_failsOnly`).  So without an output failure nothing was
written, and with a collision nobody was asked (`Generation.generate_writes_last`).
-/

namespace QueryTyping

open Attempt

variable {σ α : Type}

namespace Manifest

/-- The error is one that a check for collisions ends with. -/
def IsCollision (error : Error) : Prop :=
  ∃ queryFiles outputDir failure, checkCollisions queryFiles outputDir = .error failure ∧
    error = .failure failure

/-- The message begins and ends as that of a collision does. -/
def ReadsAsCollision (message : String) : Prop :=
  "Query files ".toList <+: message.toList ∧ message.toList.getLast? = some 's'

theorem IsCollision.exists_message {error : Error} (collision : IsCollision error) :
    ∃ message, error = .failure (.input message) ∧ ReadsAsCollision message := by
  obtain ⟨queryFiles, outputDir, failure, checked, rfl⟩ := collision
  unfold checkCollisions at checked
  split at checked
  · cases checked
  · cases checked
    refine ⟨_, rfl, ?_, ?_⟩
    · simp only [String.append_assoc, String.toList_append]
      exact List.prefix_append _ _
    · simp only [String.toList_append]
      rw [List.getLast?_append_of_ne_nil _ (by decide)]
      rfl

theorem not_isCollision {error : Error}
    (unlike : ∀ message, error = .failure (.input message) → ¬ ReadsAsCollision message) :
    ¬ IsCollision error := by
  intro collision
  obtain ⟨message, same, reads⟩ := collision.exists_message
  exact unlike message same reads

theorem write_fails {tree : FileTree} {outputDir file : FilePath} {queries : List TypedQuery}
    {failure : Failure} (failed : write tree outputDir file queries = .error failure) :
    ∃ message, failure = .output message := by
  unfold write at failed
  dsimp only at failed
  split at failed
  · cases failed
  · cases failed
    exact ⟨_, rfl⟩

end Manifest

theorem getLast?_append_text {front back : String} {last : Char}
    (ends : back.toList.getLast? = some last) : (front ++ back).toList.getLast? = some last := by
  rw [String.toList_append, List.getLast?_append, ends]
  rfl

namespace QueryFile

theorem Fault.exists_last (fault : Fault) :
    ∃ last, fault.message.toList.getLast? = some last ∧ last ≠ 's' := by
  cases fault with
  | unannotated => exact ⟨'n', by decide, by decide⟩
  | invalidName name =>
    refine ⟨Text.quoteFor name.toList, getLast?_append_text ?_, ?_⟩
    · simp only [Text.quoted, String.toList_ofList]
      exact List.getLast?_concat
    · unfold Text.quoteFor
      split <;> decide
  | missingKind query => exact ⟨'c', getLast?_append_text (by decide), by decide⟩
  | unknownKind query kind => exact ⟨'c', getLast?_append_text (by decide), by decide⟩
  | duplicateName query firstLine => exact ⟨')', getLast?_append_text (by decide), by decide⟩
  | noSql query => exact ⟨'L', getLast?_append_text (by decide), by decide⟩
  | openString => exact ⟨'g', by decide, by decide⟩
  | openDollarQuote => exact ⟨'g', by decide, by decide⟩
  | openComment => exact ⟨'t', by decide, by decide⟩

/-- A fault is not worded as a collision, wherever the text came from. -/
theorem LocatedFault.not_readsAsCollision (source : String) (located : LocatedFault) :
    ¬ Manifest.ReadsAsCollision (located.message source) := by
  rintro ⟨-, collides⟩
  obtain ⟨last, ends, differs⟩ := located.fault.exists_last
  have whole : (located.message source).toList.getLast? = some last := getLast?_append_text ends
  rw [whole] at collides
  exact differs (Option.some.inj collides)

end QueryFile

namespace FileTree

variable {tree : FileTree} {path : FilePath} {error : Error}

theorem readBytes_fails (failed : tree.readBytes path = .error error) :
    ∃ cause, error = .unforeseen cause := by
  unfold readBytes at failed
  split at failed
  · cases failed
  · cases failed
    exact ⟨_, rfl⟩

theorem textOfBytes_fails {content : Text.Bytes} (failed : textOfBytes content = .error error) :
    ∃ cause, error = .unforeseen cause := by
  unfold textOfBytes at failed
  split at failed
  · cases failed
  · cases failed
    exact ⟨_, rfl⟩

theorem readText_fails (failed : tree.readText path = .error error) :
    ∃ cause, error = .unforeseen cause := by
  simp only [readText, except_bind_eq_error_iff] at failed
  rcases failed with unread | ⟨content, -, undecoded | ⟨text, -, none⟩⟩
  · exact readBytes_fails unread
  · exact textOfBytes_fails undecoded
  · cases none

theorem readPackedText_fails (failed : tree.readPackedText path = .error error) :
    ∃ cause, error = .unforeseen cause := by
  simp only [readPackedText, except_bind_eq_error_iff] at failed
  rcases failed with unread | ⟨packed, -, rest⟩
  · exact readBytes_fails unread
  split at rest
  · rcases (except_bind_eq_error_iff _ _ _).mp rest with undecoded | ⟨text, -, none⟩
    · exact textOfBytes_fails undecoded
    · cases none
  · cases rest
    exact ⟨_, rfl⟩

theorem not_isCollision_unforeseen (cause : Unforeseen) :
    ¬ Manifest.IsCollision (.unforeseen cause) :=
  Manifest.not_isCollision fun _ same => nomatch same

theorem readQueries_fails (failed : tree.readQueries path = .error error) :
    ¬ Manifest.IsCollision error := by
  unfold readQueries at failed
  split at failed
  · cases failed
    apply Manifest.not_isCollision
    rintro _ ⟨⟩ ⟨begins, -⟩
    simp [String.toList_append] at begins
  · rcases (except_bind_eq_error_iff _ _ _).mp failed with unread | ⟨text, -, rest⟩
    · obtain ⟨cause, rfl⟩ := readText_fails unread
      exact not_isCollision_unforeseen cause
    split at rest
    · cases rest
    next failure parsed =>
      cases rest
      unfold QueryFile.parseText at parsed
      split at parsed
      · cases parsed
      · cases parsed
        apply Manifest.not_isCollision
        rintro _ ⟨⟩
        exact QueryFile.LocatedFault.not_readsAsCollision _ _

theorem readSchema_fails (failed : tree.readSchema path = .error error) :
    ¬ Manifest.IsCollision error := by
  unfold readSchema at failed
  split at failed
  · obtain ⟨cause, rfl⟩ := readPackedText_fails failed
    exact not_isCollision_unforeseen cause
  split at failed
  · obtain ⟨cause, rfl⟩ := readText_fails failed
    exact not_isCollision_unforeseen cause
  · cases failed
    apply Manifest.not_isCollision
    rintro _ ⟨⟩ ⟨begins, -⟩
    simp [String.toList_append] at begins

end FileTree

namespace Attempt.FailsOnly

variable {allowed : Error → Prop}

theorem asking {question : Attempt σ α} (only : FailsOnly allowed question) :
    FailsOnly allowed (Resolving.asking question) :=
  fun state error failed => only state.session error failed

theorem mapM {S β : Type} {action : α → Attempt S β}
    (each : ∀ item, FailsOnly allowed (action item)) (items : List α) :
    FailsOnly allowed (items.mapM action) := by
  induction items with
  | nil => exact .pure []
  | cons item items ih =>
    rw [List.mapM_cons]
    exact .bind (each item) fun _ => .bind ih fun _ => .pure _

end Attempt.FailsOnly

namespace Generation

open Client

variable (server : Server σ) (tree : FileTree)

/-- An inference fails by its server or by its query. -/
theorem failsOnly_stepProperty :
    StepProperty (Client.session server)
      (FailsOnly fun error => OfServer error ∨ error.IsInference) where
  describe sql := by
    refine .asking ((describe_failsOnly server sql).mono ?_)
    rintro error (fault | ⟨failure, same, -⟩)
    · exact .inl fault
    · exact .inr ⟨failure, same⟩
  lookupType oid := .asking ((lookupType_failsOnly server oid).mono fun _ => .inl)
  lookupColumn table number :=
    .asking ((lookupColumn_failsOnly server table number).mono fun _ => .inl)
  alone action state error failed := by
    rcases (action state).2 error failed with inference | rfl
    · exact .inr inference
    · exact .inl trivial
  bind := .bind
  recover one handled passed := by
    refine .tryCatch one fun error fault => ?_
    by_cases inference : error.IsInference
    · exact handled error inference
    · rw [passed error inference]
      exact .throw fault

theorem not_isCollision_of_inference {error : Error} (fault : OfServer error ∨ error.IsInference) :
    ¬ Manifest.IsCollision error := by
  apply Manifest.not_isCollision
  rintro message rfl
  rcases fault with fault | ⟨failure, same⟩
  · cases fault
  · cases same

theorem inferAll_failsOnly (keepGoing : Bool) (files : List FilePath) :
    FailsOnly (¬ Manifest.IsCollision ·)
      (inferAll (Client.session server) tree keepGoing files) := by
  have each (file : FilePath) : FailsOnly (¬ Manifest.IsCollision ·)
      (inferFile (Client.session server) tree keepGoing file) := by
    unfold inferFile
    split
    · exact ((failsOnly_stepProperty server).inferQueries keepGoing _ _).mono
        fun _ => not_isCollision_of_inference
    next failed => exact .throw (FileTree.readQueries_fails failed)
  exact fun client error failed => FailsOnly.mapM each files ⟨client, {}⟩ error failed

theorem script_failsOnly (sql : String) : FailsOnly OfServer (Client.script server sql) :=
  .bind (connect_failsOnly server) fun _ => execute_failsOnly server ofServer_ofScript sql

theorem loadSchema_failsOnly (files : List FilePath) :
    FailsOnly (¬ Manifest.IsCollision ·) (loadSchema server tree files) := by
  induction files with
  | nil => exact .pure ()
  | cons file rest ih =>
    unfold loadSchema
    split
    · refine .bind ((script_failsOnly server _).mono fun _ fault => ?_) fun _ => ih
      exact not_isCollision_of_inference (.inl fault)
    next failed => exact .bind (.throw (FileTree.readSchema_fails failed)) fun _ => ih

/-- No inference ends as a check for collisions does. -/
theorem inferFiles_failsOnly (keepGoing : Bool) (queryFiles schemaFiles : List FilePath) :
    FailsOnly (¬ Manifest.IsCollision ·)
      (inferFiles server tree keepGoing queryFiles schemaFiles) := by
  have inferred := inferAll_failsOnly server tree keepGoing queryFiles
  unfold inferFiles withSchema
  split
  · exact inferred
  · refine .bind ((connect_failsOnly server).mono fun _ fault => ?_) fun _ => ?_
    · exact not_isCollision_of_inference (.inl fault)
    · exact transaction_failsOnly (.bind (loadSchema_failsOnly server tree schemaFiles)
        fun _ => inferred) true

/-- Writing fails only by what it writes to. -/
theorem writeManifests_failsOnly (outputDir : FilePath)
    (outcomes : List (FilePath × FileInference)) :
    FailsOnly (fun error => ∃ message, error = .failure (.output message))
      (writeManifests outputDir outcomes : Attempt (Workplace σ) (List FilePath)) := by
  induction outcomes with
  | nil => exact .pure []
  | cons pair rest ih =>
    obtain ⟨file, outcome⟩ := pair
    unfold writeManifests
    split
    · refine .bind (.of_ok fun _ => ⟨_, rfl⟩) fun workplace => ?_
      split
      · refine .bind (.of_ok fun _ => ⟨_, rfl⟩) fun _ => ?_
        exact .bind ih fun _ => .pure _
      next failed =>
        obtain ⟨message, rfl⟩ := Manifest.write_fails failed
        exact .bind (.of_ok fun _ => ⟨_, rfl⟩) fun _ => .throw ⟨message, rfl⟩
    · exact ih

/-- A file without failures is written before those after it. -/
theorem run_writeManifests_cons {outputDir file : FilePath} {outcome : FileInference}
    (healthy : outcome.ok = true) (rest : List (FilePath × FileInference)) (tree : FileTree)
    (client : Client σ) :
    (writeManifests outputDir ((file, outcome) :: rest)).run ⟨client, tree⟩ =
      match Manifest.write tree outputDir file outcome.queries with
      | .error failure => (.error (.failure failure), ⟨client, tree.leftByMaking outputDir⟩)
      | .ok (target, next) =>
        match (writeManifests outputDir rest).run ⟨client, next⟩ with
        | (.ok others, last) => (.ok (target :: others), last)
        | (.error error, last) => (.error error, last) := by
  rw [writeManifests, if_pos healthy]
  simp only [run_bind, run_get]
  rcases Manifest.write tree outputDir file outcome.queries with failure | ⟨target, next⟩
  · rfl
  have moved : (modify fun workplace => { workplace with tree := next } :
      Attempt (Workplace σ) Unit).run ⟨client, tree⟩ = (.ok (), ⟨client, next⟩) := rfl
  simp only [run_bind, moved]
  rcases (writeManifests outputDir rest).run (⟨client, next⟩ : Workplace σ) with
    ⟨error | others, last⟩ <;> rfl

/-- Nobody is asked while manifests are written. -/
theorem client_writeManifests (outputDir : FilePath) (outcomes : List (FilePath × FileInference))
    (workplace : Workplace σ) :
    ((writeManifests outputDir outcomes).run workplace).2.client = workplace.client := by
  induction outcomes generalizing workplace with
  | nil => rfl
  | cons pair rest ih =>
    obtain ⟨file, outcome⟩ := pair
    by_cases healthy : outcome.ok = true
    · rw [run_writeManifests_cons healthy]
      rcases Manifest.write workplace.tree outputDir file outcome.queries with _ | ⟨target, next⟩
      · rfl
      have others := ih ⟨workplace.client, next⟩
      dsimp only
      rcases ran : (writeManifests outputDir rest).run ⟨workplace.client, next⟩ with
        ⟨error | paths, last⟩ <;> rw [ran] at others <;> exact others
    · rw [writeManifests, if_neg healthy]
      exact ih workplace

variable (keepGoing : Bool) (queryFiles : List FilePath) (outputDir : FilePath)
  (schemaFiles : List FilePath) (workplace : Workplace σ)

/-- Generating is checking, inferring and writing, each only if what is before it succeeds. -/
theorem run_generate :
    (generate server keepGoing queryFiles outputDir schemaFiles).run workplace =
      match Manifest.checkCollisions queryFiles outputDir with
      | .error failure => (.error (.failure failure), workplace)
      | .ok () =>
        match (inferFiles server workplace.tree keepGoing queryFiles schemaFiles).run
          workplace.client with
        | (.error error, client) => (.error error, { workplace with client })
        | (.ok outcomes, client) =>
          (do
            let written ← writeManifests outputDir (queryFiles.zip outcomes)
            return (written, outcomes) : Attempt (Workplace σ) _).run
              { workplace with client } := by
  unfold generate
  rcases Manifest.checkCollisions queryFiles outputDir with failure | ⟨⟩
  · rfl
  have asked (tree : FileTree) : (Workplace.ask
      (inferFiles server tree keepGoing queryFiles schemaFiles)).run workplace =
      (((inferFiles server tree keepGoing queryFiles schemaFiles).run workplace.client).1,
        { workplace with client :=
          ((inferFiles server tree keepGoing queryFiles schemaFiles).run workplace.client).2 }) :=
    rfl
  simp only [run_bind, run_pure, run_get, asked]
  rcases (inferFiles server workplace.tree keepGoing queryFiles schemaFiles).run workplace.client
    with ⟨error | outcomes, client⟩
  · rfl
  · rfl

/-- Whatever a server and the files do, generating writes last: unless it ends with an output
failure, an error leaves all files and directories as they were, and a collision leaves the database
alone as well. -/
theorem generate_writes_last {error : Error}
    (failed : ((generate server keepGoing queryFiles outputDir schemaFiles).run workplace).1 =
      .error error) :
    let after := ((generate server keepGoing queryFiles outputDir schemaFiles).run workplace).2
    ((∀ message, error ≠ .failure (.output message)) → after.tree = workplace.tree) ∧
      (Manifest.IsCollision error → after = workplace) := by
  rw [run_generate] at failed ⊢
  rcases checked : Manifest.checkCollisions queryFiles outputDir with failure | ⟨⟩
  · exact ⟨fun _ => rfl, fun _ => rfl⟩
  rw [checked] at failed
  dsimp only at failed ⊢
  rcases ran : (inferFiles server workplace.tree keepGoing queryFiles schemaFiles).run
    workplace.client with ⟨raised | outcomes, client⟩
  · rw [ran] at failed
    cases failed
    have other := inferFiles_failsOnly server workplace.tree keepGoing queryFiles schemaFiles
      workplace.client error (by rw [ran])
    exact ⟨fun _ => rfl, fun collision => absurd collision other⟩
  · rw [ran] at failed
    have writing := Attempt.FailsOnly.bind
      (writeManifests_failsOnly outputDir (queryFiles.zip outcomes))
      (fun written => .pure (written, outcomes)) { workplace with client } error failed
    obtain ⟨message, rfl⟩ := writing
    refine ⟨fun unwritten => absurd rfl (unwritten message), fun collision => ?_⟩
    obtain ⟨_, same, -⟩ := collision.exists_message
    cases same

/-- Two files of one name in different directories. -/
def namesakes : List FilePath := [⟨0, ["a", "users.sql"]⟩, ⟨0, ["b", "users.sql"]⟩]

def namesakesError : Error :=
  .failure (.input ("Query files a/users.sql and b/users.sql would both write " ++
    "out/users.typed.json; rename one or generate them into separate output dirs"))

/-- Files of one name collide, and neither a file nor the database is touched. -/
theorem generate_writes_last_collision :
    let server := ScriptedServer.server
    let workplace : Workplace ScriptedServer :=
      ⟨{ config := {}, server := { script := {} } },
        { entries := [(["out"], .directory), (["out", "users.typed.json"], .file [])] }⟩
    let run := (generate server true namesakes ⟨0, ["out"]⟩ []).run workplace
    run.1 = .error namesakesError ∧ Manifest.IsCollision namesakesError ∧
      (∀ message, namesakesError ≠ .failure (.output message)) ∧
      run.2.tree = workplace.tree ∧ run.2 = workplace := by
  intro server workplace run
  have checked : Manifest.checkCollisions namesakes ⟨0, ["out"]⟩ =
      .error (.input ("Query files a/users.sql and b/users.sql would both write " ++
        "out/users.typed.json; rename one or generate them into separate output dirs")) := by
    decide +kernel
  have failed : run.1 = .error namesakesError := by
    simp only [run, run_generate, checked]
    rfl
  have collision : Manifest.IsCollision namesakesError := ⟨_, _, _, checked, rfl⟩
  have other : ∀ message, namesakesError ≠ .failure (.output message) := by
    rintro message ⟨⟩
  obtain ⟨unwritten, untouched⟩ :=
    generate_writes_last server true namesakes ⟨0, ["out"]⟩ [] workplace failed
  exact ⟨failed, collision, other, unwritten other, untouched collision⟩

end Generation

end QueryTyping
