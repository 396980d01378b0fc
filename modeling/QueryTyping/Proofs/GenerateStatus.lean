import QueryTyping.CommandLine.Run
import QueryTyping.Proofs.KeepGoing
import QueryTyping.Proofs.ManifestFiles

/-!
# Exit statuses of runs that generate

A command line that generates settles what for before it asks the server
(`CommandLine.Plan`), and its exit status is told by what generating ends with
(`CommandLine.exitStatus_of_generates`).  Whether failures are kept or end the run, it
is the same, except that only a run that keeps them may be unable to write; where
manifests collide, neither run asks the server anything (`CommandLine.policies_agree`).
-/

namespace QueryTyping

open Attempt

namespace CommandLine

/-- What a run that generates has settled before it does. -/
structure Plan where
  queryFiles : List FilePath
  schemaFiles : List FilePath
  outputDir : FilePath
  config : ResolvedConfig
  keepGoing : Bool

namespace Plan

/-- All that is settled without the server; without query patterns that is nothing. -/
def settle (around : Surroundings) (options : RunOptions) (flags : GenFlags)
    (timeout : Option Double) (tree : FileTree) : Except Error (Option Plan) := do
  let found ← tree.loadConfig around.home around.environment options.configFile
  let settings := (found.gen.resolve flags).settings
  if settings.queryGlobs.isEmpty then return none
  let queryFiles ← (tree.expandAll settings.queryGlobs).mapError .failure
  if queryFiles.isEmpty then
    throw (.failure (.input "No query files match --query-glob"))
  let schemaFiles ← (tree.expandAll settings.schemaGlobs).mapError .failure
  let outputDir ← (Manifest.directory queryFiles settings.outputDir).mapError .failure
  let config ← Settings.resolve found around.environment options.profile options.url
    { options.settings with statementTimeout := timeout }
  return some { queryFiles, schemaFiles, outputDir, config, keepGoing := settings.keepGoing }

/-- The command line generates by the plan. -/
def IsOf (plan : Plan) (around : Surroundings) (tree : FileTree) (words : List String) : Prop :=
  ∃ options flags timeout,
    Invocation.ofWords words = .command options (.generate flags timeout) ∧
      settle around options flags timeout tree = .ok (some plan)

variable {σ : Type}

/-- The client that a plan is carried out on. -/
def client (plan : Plan) (start : σ) : Client σ := { config := plan.config, server := start }

/-- Generate by a plan, and tell of it. -/
def follow (server : Server σ) (around : Surroundings) (plan : Plan) : Attempt (Desk σ) Nat := do
  let (written, outcomes) ← Desk.withClient plan.config
    (Generation.generate server plan.keepGoing plan.queryFiles plan.outputDir plan.schemaFiles)
  Desk.say around
    ("gen: out_dir=" ++ plan.outputDir.text ++ " manifests=" ++ toString written.length)
  written.forM fun path => Desk.say around ("  " ++ path.text)
  reportFailures outcomes

end Plan

section Settling

variable {σ : Type} (server : Server σ) (around : Surroundings) (options : RunOptions)

theorem run_ofExcept {α : Type} (result : Except Error α) (state : σ) :
    (ofExcept result : Attempt σ α).run state = (result, state) := by
  cases result <;> rfl

theorem run_loadConfig (desk : Desk σ) :
    (loadConfig around options).run desk =
      (desk.tree.loadConfig around.home around.environment options.configFile, desk) := by
  unfold loadConfig
  rw [run_bind, run_get]
  exact run_ofExcept _ _

theorem run_resolveConfig (timeout : Option Double) {desk : Desk σ} {found : AppConfig}
    (loaded : desk.tree.loadConfig around.home around.environment options.configFile = .ok found) :
    (resolveConfig around options timeout).run desk =
      (Settings.resolve found around.environment options.profile options.url
        { options.settings with statementTimeout := timeout }, desk) := by
  unfold resolveConfig
  rw [run_bind, run_loadConfig, loaded]
  exact run_ofExcept _ _

theorem run_expand (patterns : List String) (desk : Desk σ) :
    (expand patterns).run desk = ((desk.tree.expandAll patterns).mapError .failure, desk) := by
  unfold expand
  rw [run_bind, run_get]
  dsimp only
  cases desk.tree.expandAll patterns <;> rfl

/-- What is settled is carried out. -/
theorem run_generate_of_settled {options : RunOptions} {flags : GenFlags}
    {timeout : Option Double} {desk : Desk σ} {plan : Plan}
    (settled : Plan.settle around options flags timeout desk.tree = .ok (some plan)) :
    (generate server around options flags timeout).run desk =
      (plan.follow server around).run desk := by
  obtain ⟨found, loaded, settled⟩ := (except_bind_eq_ok_iff _ _ _).mp settled
  unfold generate
  rw [run_bind, run_loadConfig, loaded]
  dsimp only at settled ⊢
  split at settled
  · cases settled
  next asked =>
    obtain ⟨queryFiles, expanded, settled⟩ := (except_bind_eq_ok_iff _ _ _).mp settled
    rw [if_neg asked, run_bind, run_expand, expanded]
    dsimp only at settled ⊢
    split at settled
    · cases settled
    next some =>
      obtain ⟨schemaFiles, schema, settled⟩ := (except_bind_eq_ok_iff _ _ _).mp settled
      obtain ⟨outputDir, directory, settled⟩ := (except_bind_eq_ok_iff _ _ _).mp settled
      obtain ⟨config, resolved, same⟩ := (except_bind_eq_ok_iff _ _ _).mp settled
      cases same
      rw [if_neg some, run_bind, run_expand, schema]
      dsimp only
      rcases chosen : Manifest.directory queryFiles (found.gen.resolve flags).settings.outputDir
        with refusal | place <;> rw [chosen] at directory <;> cases directory
      dsimp only
      rw [run_bind, run_pure]
      dsimp only
      rw [run_bind, run_resolveConfig around options timeout loaded, resolved]
      rfl

end Settling

/-- The exit status of a run with these outcomes. -/
def failureStatus (outcomes : List FileInference) : Nat :=
  if Generation.failuresOf outcomes = [] then 0 else 8

/-- The exit status of a run by what generating ends with. -/
def generatingStatus : Except Error (List FilePath × List FileInference) → Nat
  | .ok (_, outcomes) => failureStatus outcomes
  | .error error => error.exitStatus

section Telling

variable {σ : Type} (around : Surroundings)

theorem say_gives (line : String) :
    (Desk.say around line : Attempt (Desk σ) Unit).Gives (fun _ => True) (.ok ()) :=
  fun _ _ => ⟨rfl, trivial⟩

theorem forM_gives {α : Type} {action : α → Attempt σ Unit}
    (each : ∀ item, (action item).Gives (fun _ => True) (.ok ())) (items : List α) :
    (items.forM action).Gives (fun _ => True) (.ok ()) := by
  induction items with
  | nil => exact .pure ()
  | cons item items ih => exact (each item).bind ih

theorem reportFailures_gives (outcomes : List FileInference) :
    (reportFailures outcomes : Attempt (Desk σ) Nat).Gives (fun _ => True)
      (.ok (failureStatus outcomes)) := by
  unfold reportFailures failureStatus Generation.failuresOf
  generalize outcomes.flatMap (·.failures) = failures
  cases failures with
  | nil => exact .pure 0
  | cons failure rest =>
    exact .bind (forM_gives (fun _ _ _ => ⟨rfl, trivial⟩) _) (.pure 8)

/-- A plan is carried out as far as generating goes. -/
theorem run_follow (server : Server σ) (plan : Plan) (desk : Desk σ) :
    ((plan.follow server around).run desk).1 =
      (((Generation.generate server plan.keepGoing plan.queryFiles plan.outputDir
        plan.schemaFiles).run ⟨plan.client desk.server, desk.tree⟩).1).map fun ended =>
          failureStatus ended.2 := by
  have acted : ((Desk.withClient plan.config (Generation.generate server plan.keepGoing
      plan.queryFiles plan.outputDir plan.schemaFiles)).run desk).1 =
      ((Generation.generate server plan.keepGoing plan.queryFiles plan.outputDir
        plan.schemaFiles).run ⟨plan.client desk.server, desk.tree⟩).1 := rfl
  rw [← acted]
  unfold Plan.follow
  rw [run_bind]
  rcases (Desk.withClient plan.config (Generation.generate server plan.keepGoing
    plan.queryFiles plan.outputDir plan.schemaFiles)).run desk with
    ⟨error | ⟨written, outcomes⟩, next⟩
  · rfl
  · have listed : (written.forM fun path =>
        (Desk.say around ("  " ++ path.text) : Attempt (Desk σ) Unit)).Gives (fun _ => True)
          (.ok ()) := forM_gives (fun _ => say_gives around _) written
    have said : (Desk.say around ("gen: out_dir=" ++ plan.outputDir.text ++ " manifests=" ++
        toString written.length) : Attempt (Desk σ) Unit).Gives (fun _ => True) (.ok ()) :=
      say_gives around _
    exact (said.bind (listed.bind (reportFailures_gives outcomes)) next trivial).1

/-- The exit status of a run that generates is told by what generating ends with. -/
theorem exitStatus_of_generates (server : Server σ) {tree : FileTree} {start : σ}
    {words : List String} {plan : Plan} (generates : plan.IsOf around tree words) :
    (run server around tree start words).exitStatus =
      generatingStatus ((Generation.generate server plan.keepGoing plan.queryFiles plan.outputDir
        plan.schemaFiles).run ⟨plan.client start, tree⟩).1 := by
  obtain ⟨options, flags, timeout, asked, settled⟩ := generates
  have obeyed : ((obey server around (Invocation.ofWords words)).run { tree, server := start }).1 =
      (((Generation.generate server plan.keepGoing plan.queryFiles plan.outputDir
        plan.schemaFiles).run ⟨plan.client start, tree⟩).1).map fun ended =>
          failureStatus ended.2 := by
    rw [asked]
    refine (congrArg Prod.fst (run_generate_of_settled server around settled)).trans ?_
    exact run_follow around server plan { tree, server := start }
  unfold run
  dsimp only
  rw [run_tryCatch]
  rcases ran : (obey server around (Invocation.ofWords words)).run
    ({ tree, server := start } : Desk σ) with ⟨result, desk⟩
  rw [ran] at obeyed
  subst obeyed
  rcases ((Generation.generate server plan.keepGoing plan.queryFiles plan.outputDir
    plan.schemaFiles).run ⟨plan.client start, tree⟩).1 with error | ended <;> rfl

/-- The run neither asked the server anything nor wrote a file. -/
def Outcome.Rests (outcome : Outcome σ) (tree : FileTree) (start : σ) : Prop :=
  outcome.desk.events = [] ∧ outcome.desk.server = start ∧ outcome.desk.tree = tree

/-- A client that was not asked anything leaves the desk as it is. -/
theorem run_withClient_of_rests {α : Type} {config : ResolvedConfig}
    {action : Attempt (Generation.Workplace σ) α} {desk : Desk σ} {result : Except Error α}
    (rests : action.run ⟨{ config, server := desk.server }, desk.tree⟩ =
      (result, ⟨{ config, server := desk.server }, desk.tree⟩)) :
    (Desk.withClient config action).run desk = (result, desk) := by
  unfold Desk.withClient
  simp only [ExceptT.run] at rests ⊢
  rw [rests]
  rfl

/-- Where manifests collide, a plan is refused before it is begun. -/
theorem run_follow_of_collision (server : Server σ) {plan : Plan} {failure : Failure}
    (collides : Manifest.checkCollisions plan.queryFiles plan.outputDir = .error failure)
    (desk : Desk σ) :
    (plan.follow server around).run desk = (.error (.failure failure), desk) := by
  have refused : (Generation.generate server plan.keepGoing plan.queryFiles plan.outputDir
      plan.schemaFiles).run ⟨plan.client desk.server, desk.tree⟩ =
        (.error (.failure failure), ⟨plan.client desk.server, desk.tree⟩) := by
    rw [Generation.run_generate, collides]
  unfold Plan.follow
  rw [run_bind, run_withClient_of_rests refused]

/-- Where manifests collide, the run ends with that and nothing else has happened. -/
theorem run_of_collision (server : Server σ) {tree : FileTree} {start : σ} {words : List String}
    {plan : Plan} (generates : plan.IsOf around tree words) {failure : Failure}
    (collides : Manifest.checkCollisions plan.queryFiles plan.outputDir = .error failure) :
    (run server around tree start words).exitStatus = failure.exitStatus ∧
      (run server around tree start words).Rests tree start := by
  obtain ⟨options, flags, timeout, asked, settled⟩ := generates
  have obeyed : (obey server around (Invocation.ofWords words)).run { tree, server := start } =
      (.error (.failure failure), ({ tree, server := start } : Desk σ)) := by
    rw [asked]
    exact (run_generate_of_settled server around settled).trans
      (run_follow_of_collision around server collides _)
  unfold run
  dsimp only
  rw [run_tryCatch, obeyed]
  exact ⟨rfl, rfl, rfl, rfl⟩

end Telling

section Policies

open Generation

variable {σ : Type} {server : Server σ} {valid : Client σ → Prop} {answers : CatalogAnswers}

/-- A run that keeps failures meets with a manifest that cannot be written. -/
def Plan.Unwritable (plan : Plan) (server : Server σ) (tree : FileTree) (start : σ) : Prop :=
  ∃ message, ((Generation.generate server true plan.queryFiles plan.outputDir
    plan.schemaFiles).run ⟨plan.client start, tree⟩).1 = .error (.failure (.output message))

section Statuses

variable {around : Surroundings} {tree : FileTree} {start : σ} {words others : List String}
  (plan : Plan) (keeps : { plan with keepGoing := true }.IsOf around tree words)
  (stops : { plan with keepGoing := false }.IsOf around tree others)

include keeps stops

/-- Where manifests collide, neither run begins. -/
theorem runs_of_collision (together : ¬ Manifest.StemsApart plan.queryFiles) :
    (run server around tree start words).exitStatus = 3 ∧
      (run server around tree start others).exitStatus = 3 ∧
      (run server around tree start words).Rests tree start ∧
      (run server around tree start others).Rests tree start := by
  rcases collides : Manifest.checkCollisions plan.queryFiles plan.outputDir with failure | ⟨⟩
  · obtain ⟨message, same, -⟩ :=
      Manifest.IsCollision.exists_message ⟨_, _, failure, collides, rfl⟩
    cases same
    have keeping : (run server around tree start words).exitStatus = 3 ∧
        (run server around tree start words).Rests tree start :=
      run_of_collision around server keeps collides
    have stopping : (run server around tree start others).exitStatus = 3 ∧
        (run server around tree start others).Rests tree start :=
      run_of_collision around server stops collides
    exact ⟨keeping.1, stopping.1, keeping.2, stopping.2⟩
  · exact absurd ((Manifest.checkCollisions_eq_ok_iff _ _).mp collides) together

/-- Only a run that keeps failures may be unable to write; otherwise the statuses are the same. -/
theorem statuses_of_outcomes (apart : Manifest.StemsApart plan.queryFiles)
    {outcomes : List FileInference}
    (kept : ((inferFiles server tree true plan.queryFiles plan.schemaFiles).run
      (plan.client start)).1 = .ok outcomes)
    (stopped : ((inferFiles server tree false plan.queryFiles plan.schemaFiles).run
      (plan.client start)).1 = stoppedBy (failuresOf outcomes) outcomes) :
    let keeping := (run server around tree start words).exitStatus
    let stopping := (run server around tree start others).exitStatus
    keeping = failureStatus outcomes ∧ stopping = failureStatus outcomes ∨
      plan.Unwritable server tree start ∧ keeping = 4 ∧
        stopping = if failuresOf outcomes = [] then 4 else 8 := by
  intro keeping stopping
  have checked := (Manifest.checkCollisions_eq_ok_iff plan.queryFiles plan.outputDir).mpr apart
  have keeping_eq : keeping = generatingStatus
      ((Generation.generate server true plan.queryFiles plan.outputDir plan.schemaFiles).run
        ⟨plan.client start, tree⟩).1 := exitStatus_of_generates around server keeps
  have stopping_eq : stopping = generatingStatus
      ((Generation.generate server false plan.queryFiles plan.outputDir plan.schemaFiles).run
        ⟨plan.client start, tree⟩).1 := exitStatus_of_generates around server stops
  have ended := run_generate_of_inferred server checked kept (plan.client start)
  rw [ended] at keeping_eq
  have stopping_told : stopping = if failuresOf outcomes = [] then keeping else 8 := by
    rcases none : failuresOf outcomes with _ | ⟨failure, failures⟩ <;> rw [none] at stopped
    · rw [if_pos rfl, keeping_eq, stopping_eq,
        run_generate_of_inferred server checked stopped (plan.client start)]
    · rw [if_neg (List.cons_ne_nil _ _), stopping_eq,
        run_generate_of_failed server checked stopped]
      rfl
  rw [stopping_told, keeping_eq]
  rcases wrote : ((writeManifests plan.outputDir (plan.queryFiles.zip outcomes)).run
    (⟨plan.client start, tree⟩ : Workplace σ)).1 with error | written
  · obtain ⟨message, rfl⟩ := writeManifests_failsOnly plan.outputDir _ _ error wrote
    rw [wrote] at ended
    exact .inr ⟨⟨message, ended⟩, rfl, rfl⟩
  · refine .inl ⟨rfl, ?_⟩
    change (if failuresOf outcomes = [] then failureStatus outcomes else 8) = failureStatus outcomes
    unfold failureStatus
    split <;> rfl

end Statuses

/-- Keeping failures loses nothing and agrees with stopping at the first: on a session with fixed
answers whose queries fail only by themselves, every query is typed or a kept failure, and the run
that stops ends with the first failure of the one that keeps them.  Command lines that differ in
nothing else exit alike, unless manifests cannot be written.  Where they collide, neither command
line has anything inferred. -/
theorem policies_agree (fixed : (Client.session server).IsFixed valid answers)
    (fails : (Client.session server).FailsByQuery valid) :
    ∃ results : SourceQuery → Except Error TypedQuery,
      (∀ query, (Resolving.fresh (inferQuery (Client.session server) query)).Gives valid
        (results query)) ∧
      (∀ tree queryFiles schemaFiles client ready,
        (prepare server tree schemaFiles).run client = (.ok (), ready) → valid ready →
        (∀ file ∈ queryFiles, ∃ sources, tree.readQueries file = .ok sources) →
        ∃ outcomes, List.Forall₂ (IsOutcome results tree) queryFiles outcomes ∧
          ((inferFiles server tree true queryFiles schemaFiles).run client).1 = .ok outcomes ∧
          ((inferFiles server tree false queryFiles schemaFiles).run client).1 =
            stoppedBy (failuresOf outcomes) outcomes) ∧
      ∀ around tree start words others ready, ∀ plan : Plan,
        { plan with keepGoing := true }.IsOf around tree words →
        { plan with keepGoing := false }.IsOf around tree others →
        (prepare server tree plan.schemaFiles).run (plan.client start) = (.ok (), ready) →
        valid ready →
        (∀ file ∈ plan.queryFiles, ∃ sources, tree.readQueries file = .ok sources) →
        let keeping := (run server around tree start words).exitStatus
        let stopping := (run server around tree start others).exitStatus
        (¬ Manifest.StemsApart plan.queryFiles → keeping = 3 ∧ stopping = 3 ∧
          (run server around tree start words).Rests tree start ∧
          (run server around tree start others).Rests tree start) ∧
        (Manifest.StemsApart plan.queryFiles → ∃ outcomes,
          ((inferFiles server tree true plan.queryFiles plan.schemaFiles).run
            (plan.client start)).1 = .ok outcomes ∧
          (keeping = failureStatus outcomes ∧ stopping = failureStatus outcomes ∨
            plan.Unwritable server tree start ∧ keeping = 4 ∧
              stopping = if failuresOf outcomes = [] then 4 else 8)) := by
  obtain ⟨results, alone, both⟩ := inferFiles_policies fixed fails
  refine ⟨results, alone, both, ?_⟩
  intro around tree start words others ready plan keeps stops prepared ok readable keeping stopping
  refine ⟨runs_of_collision plan keeps stops, fun apart => ?_⟩
  obtain ⟨outcomes, -, kept, stopped⟩ :=
    both tree plan.queryFiles plan.schemaFiles (plan.client start) ready prepared ok readable
  exact ⟨outcomes, kept, statuses_of_outcomes plan keeps stops apart kept stopped⟩

/-- Patterns without wildcards name themselves. -/
theorem expandAll_plain {tree : FileTree} {patterns : List String}
    (each : ∀ pattern ∈ patterns, Glob.isWild pattern.toList = false ∧
      tree.holds (FilePath.ofText pattern) = true) :
    tree.expandAll patterns =
      .ok (patterns.map fun pattern => tree.resolve (FilePath.ofText pattern)) := by
  have single (pattern : String) (member : pattern ∈ patterns) :
      tree.expand pattern = .ok [FilePath.ofText pattern] := by
    obtain ⟨plain, there⟩ := each pattern member
    unfold FileTree.expand
    rw [if_neg (by simp [plain])]
    exact if_pos there
  have all : patterns.mapM tree.expand =
      .ok (patterns.map fun pattern => [FilePath.ofText pattern]) := by
    clear each
    induction patterns with
    | nil => rfl
    | cons pattern rest ih =>
      obtain ⟨first, others⟩ := List.forall_mem_cons.mp single
      rw [List.mapM_cons, first, ih others]
      rfl
  unfold FileTree.expandAll
  rw [all]
  change Except.ok ((patterns.map fun pattern => [FilePath.ofText pattern]).flatten.map
    tree.resolve) = _
  rw [← List.flatMap_def, ← List.map_eq_flatMap, List.map_map]
  rfl

def shelfSurroundings : Surroundings := { home := ⟨1, ["home"]⟩ }

def plainOptions : RunOptions where
  profile := none
  url := none
  configFile := none
  settings := {}
  format := none
  report := {}

def shelfConfig : ResolvedConfig where
  sources := [("host", "default"), ("port", "default"), ("dbname", "default"),
    ("sslmode", "default"), ("search_path", "default"), ("statement_timeout", "default")]

def shelfPlan (queryFiles : List FilePath) (outputDir : FilePath) : Plan :=
  { queryFiles, schemaFiles := [], outputDir, config := shelfConfig, keepGoing := false }

theorem shelfPlan_isOf {words : List String} {one other : String} {path otherPath : FilePath}
    {outputDir : FilePath} {keepGoing : Bool}
    (asked : Invocation.ofWords words = .command plainOptions (.generate
      { queryGlobs := [one, other], outputDir := some outputDir, keepGoing := some keepGoing }
      none))
    (expanded : shelf.expandAll [one, other] = .ok [path, otherPath]) :
    { shelfPlan [path, otherPath] outputDir with keepGoing }.IsOf shelfSurroundings shelf words := by
  refine ⟨_, _, _, asked, ?_⟩
  have location : AppConfig.location shelfSurroundings.home shelfSurroundings.environment
      plainOptions.configFile = ⟨1, ["home", ".config", "pgquerygen", "config.toml"]⟩ := by decide +kernel
  have unset : shelf.holds ⟨1, ["home", ".config", "pgquerygen", "config.toml"]⟩ = false := by cbv
  have loaded : shelf.loadConfig shelfSurroundings.home shelfSurroundings.environment
      plainOptions.configFile = .ok {} := by
    unfold FileTree.loadConfig
    rw [location]
    exact if_pos (by simp [unset])
  have none : shelf.expandAll [] = .ok [] := rfl
  refine (except_bind_eq_ok_iff _ _ _).mpr ⟨_, loaded, ?_⟩
  refine (except_bind_eq_ok_iff _ _ _).mpr
    ⟨_, congrArg (Except.mapError Error.failure) expanded, ?_⟩
  refine (except_bind_eq_ok_iff _ _ _).mpr ⟨_, congrArg (Except.mapError Error.failure) none, ?_⟩
  rfl

theorem expandAll_shelf {other : String} {path : FilePath} (named : FilePath.ofText other = path)
    (plain : Glob.isWild other.toList = false) (there : shelf.holds path = true) :
    shelf.expandAll ["one.sql", other] = .ok [oneFile, shelf.resolve path] := by
  have one : FilePath.ofText "one.sql" = ⟨0, ["one.sql"]⟩ := by decide +kernel
  have found : shelf.resolve ⟨0, ["one.sql"]⟩ = oneFile := by cbv
  rw [expandAll_plain]
  · simp only [List.map_cons, List.map_nil, one, named, found]
  · simp only [List.forall_mem_cons, one, named]
    exact ⟨⟨by decide +kernel, by cbv⟩, ⟨plain, there⟩, by simp⟩

theorem expandAll_shelf_tail :
    shelf.expandAll ["one.sql", "tail.sql"] = .ok [oneFile, tailFile] := by
  have named : FilePath.ofText "tail.sql" = ⟨0, ["tail.sql"]⟩ := by decide +kernel
  have found : shelf.resolve ⟨0, ["tail.sql"]⟩ = tailFile := by cbv
  rw [expandAll_shelf named (by decide +kernel) (by cbv), found]

def oldFile : FilePath := ⟨1, ["old", "one.sql"]⟩

theorem expandAll_shelf_old :
    shelf.expandAll ["one.sql", "old/one.sql"] = .ok [oneFile, oldFile] := by
  have named : FilePath.ofText "old/one.sql" = ⟨0, ["old", "one.sql"]⟩ := by decide +kernel
  have found : shelf.resolve ⟨0, ["old", "one.sql"]⟩ = oldFile := by cbv
  rw [expandAll_shelf named (by decide +kernel) (by cbv), found]

/-- A file is where the directory of manifests should be. -/
theorem run_writeManifests_blocked (client : Client ScriptedServer) :
    ∃ message, ((writeManifests ⟨0, ["one.sql"]⟩ ([oneFile, tailFile].zip shelfOutcomes)).run
      ⟨client, shelf⟩).1 = .error (.failure (.output message)) := by
  have present : shelf.makeDirectories ⟨0, ["one.sql"]⟩ = .error .present := by cbv
  have fails : ∃ message, Manifest.write shelf ⟨0, ["one.sql"]⟩ oneFile [oneTyped] =
      .error (.output message) := by
    unfold Manifest.write
    rw [present]
    exact ⟨_, rfl⟩
  obtain ⟨message, fails⟩ := fails
  unfold shelfOutcomes
  rw [List.zip_cons_cons, run_writeManifests_cons (by decide), fails]
  exact ⟨message, rfl⟩

/-- Generate for two files. -/
def generateWords (other outputDir policy : String) : List String :=
  ["gen", "-q", "one.sql", "-q", other, "-o", outputDir, policy]

def shelfServer : ScriptedServer := { script := Client.tails.script }

def shelfRun (words : List String) : Outcome ScriptedServer :=
  run ScriptedServer.server shelfSurroundings shelf shelfServer words

def shelfStatus (words : List String) : Nat := (shelfRun words).exitStatus

theorem shelf_limit : ∃ sql, shelfConfig.timeoutStatement = .ok sql := ⟨_, rfl⟩

theorem shelf_readable (file : FilePath) (member : file ∈ [oneFile, tailFile, oldFile]) :
    ∃ sources, shelf.readQueries file = .ok sources := by
  simp only [List.mem_cons, List.not_mem_nil, or_false] at member
  rcases member with rfl | rfl | rfl
  · exact ⟨_, readQueries_oneFile⟩
  · exact ⟨_, readQueries_tailFile⟩
  · have read : shelf.readText oldFile = .ok "-- name: One :one\nSELECT 1\n" := by cbv
    have parsed : QueryFile.parseText oldFile.text "-- name: One :one\nSELECT 1\n" =
        .ok [oneQuery] := QueryFile.parseText_eq_ok_iff.mpr (by decide +kernel)
    exact ⟨_, FileTree.readQueries_eq_ok (by cbv) read parsed⟩

/-- One query has a type and the other is rejected: with either policy that is the exit status. -/
theorem policies_agree_rejected :
    (Client.session ScriptedServer.server).IsFixed (onShelf shelfConfig)
        Client.tails.snapshot.answers ∧
      (Client.session ScriptedServer.server).FailsByQuery (onShelf shelfConfig) ∧
      shelfStatus (generateWords "tail.sql" "out" "--keep-going") = 8 ∧
      shelfStatus (generateWords "tail.sql" "out" "--stop-on-error") = 8 := by
  have fixed := onShelf_isFixed shelf_limit
  have fails := onShelf_failsByQuery shelf_limit
  refine ⟨fixed, fails, ?_⟩
  obtain ⟨-, -, -, statuses⟩ := policies_agree fixed fails
  have here := onShelf_shelfClient shelfConfig
  obtain ⟨-, exits⟩ := statuses shelfSurroundings shelf shelfServer
    (generateWords "tail.sql" "out" "--keep-going")
    (generateWords "tail.sql" "out" "--stop-on-error")
    (shelfClient shelfConfig) (shelfPlan [oneFile, tailFile] ⟨0, ["out"]⟩)
    (shelfPlan_isOf (by cbv) expandAll_shelf_tail) (shelfPlan_isOf (by cbv) expandAll_shelf_tail)
    rfl here
    (fun file member => shelf_readable file (List.mem_append_left [oldFile] member))
  have checked : Manifest.checkCollisions [oneFile, tailFile] ⟨0, ["out"]⟩ = .ok () := by
    decide +kernel
  obtain ⟨outcomes, kept, same | ⟨⟨message, unwritten⟩, -⟩⟩ :=
    exits ((Manifest.checkCollisions_eq_ok_iff _ _).mp checked)
  · cases (run_inferFiles_shelf shelf_limit true).symm.trans kept
    exact same
  · have ended := run_generate_of_inferred ScriptedServer.server checked
      (run_inferFiles_shelf shelf_limit true) (shelfClient shelfConfig)
    rw [run_writeManifests_shelf] at ended
    cases ended.symm.trans unwritten

/-- Where a manifest cannot be written, only a run that keeps failures comes to that, and where
manifests collide no query is inferred. -/
theorem policies_differ :
    (Client.session ScriptedServer.server).IsFixed (onShelf shelfConfig)
        Client.tails.snapshot.answers ∧
      (Client.session ScriptedServer.server).FailsByQuery (onShelf shelfConfig) ∧
      (∀ file ∈ [oneFile, tailFile, oldFile], ∃ sources, shelf.readQueries file = .ok sources) ∧
      shelfStatus (generateWords "tail.sql" "one.sql" "--keep-going") = 4 ∧
      shelfStatus (generateWords "tail.sql" "one.sql" "--stop-on-error") = 8 ∧
      shelfStatus (generateWords "old/one.sql" "out" "--keep-going") = 3 ∧
      shelfStatus (generateWords "old/one.sql" "out" "--stop-on-error") = 3 ∧
      (shelfRun (generateWords "old/one.sql" "out" "--keep-going")).Rests shelf shelfServer ∧
      (shelfRun (generateWords "old/one.sql" "out" "--stop-on-error")).Rests shelf shelfServer := by
  refine ⟨onShelf_isFixed shelf_limit, onShelf_failsByQuery shelf_limit, shelf_readable, ?_⟩
  have checked : Manifest.checkCollisions [oneFile, tailFile] ⟨0, ["one.sql"]⟩ = .ok () := by
    decide +kernel
  have keeps : { shelfPlan [oneFile, tailFile] ⟨0, ["one.sql"]⟩ with keepGoing := true }.IsOf
      shelfSurroundings shelf (generateWords "tail.sql" "one.sql" "--keep-going") :=
    shelfPlan_isOf (by cbv) expandAll_shelf_tail
  have keeping : shelfStatus (generateWords "tail.sql" "one.sql" "--keep-going") = 4 := by
    unfold shelfStatus shelfRun
    rw [exitStatus_of_generates shelfSurroundings ScriptedServer.server keeps]
    obtain ⟨message, blocked⟩ := run_writeManifests_blocked (shelfClient shelfConfig)
    have ended := run_generate_of_inferred ScriptedServer.server checked
      (run_inferFiles_shelf shelf_limit true) (shelfClient shelfConfig)
    rw [blocked] at ended
    exact congrArg generatingStatus ended
  have stopping : shelfStatus (generateWords "tail.sql" "one.sql" "--stop-on-error") = 8 := by
    have stops : { shelfPlan [oneFile, tailFile] ⟨0, ["one.sql"]⟩ with keepGoing := false }.IsOf
        shelfSurroundings shelf (generateWords "tail.sql" "one.sql" "--stop-on-error") :=
      shelfPlan_isOf (by cbv) expandAll_shelf_tail
    unfold shelfStatus shelfRun
    rw [exitStatus_of_generates shelfSurroundings ScriptedServer.server stops]
    exact congrArg generatingStatus (run_generate_of_failed ScriptedServer.server checked
      (run_inferFiles_shelf shelf_limit false))
  have together : ¬ Manifest.StemsApart [oneFile, oldFile] := by
    intro apart
    have same := apart oneFile List.mem_cons_self oldFile (by simp) (by decide +kernel)
    revert same
    decide
  exact ⟨keeping, stopping, runs_of_collision
    (shelfPlan [oneFile, oldFile] ⟨0, ["out"]⟩)
    (shelfPlan_isOf (by cbv) expandAll_shelf_old)
    (shelfPlan_isOf (by cbv) expandAll_shelf_old) together⟩

end Policies

end CommandLine

end QueryTyping
