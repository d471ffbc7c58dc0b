import Docwright.Proofs.Build.Thresholds
import Docwright.Proofs.CommandLine.Exactness

/-!
# Command lines under two thresholds

The verbosity of a command line selects the threshold of its console, and that is all
that it does to a build.  `buildAt` is a build whose console has some threshold; what
options ask for is such a build (`runBuild_at`).

Under two thresholds a build ends alike, writes the same to the error stream and leaves
the same disk, database and summary included; on the output stream it shows the same
lines but for those of messages below the higher threshold (`Outcome.Mutes`).
-/

namespace Docwright.CommandLine

open Build (World Step Mutes)
open Console (Shown screen?)
open Exchange (Logs Shows Wired)

variable {o : Options} {clock : Clock} {disk : Disk} {threshold threshold' : Severity}

/-! ### Builds with a console of some threshold -/

/-- The world in which a build begins whose console has a threshold. -/
def worldAt (threshold : Severity) (disk : Disk) : World Storage :=
  ⟨⟨disk, []⟩, Exchange.new 1 [threshold], 0, []⟩

/-- What comes of a build, by how it ended. -/
def concluded (o : Options) : EStateM.Result Failure (World Storage) Report → Outcome
  | .ok report w => finished o w report
  | .error failure w => failed o w failure

/-- A build whose console has a threshold. -/
def buildAt (threshold : Severity) (o : Options) (clock : Clock) (disk : Disk) : Outcome :=
  concluded o (build o clock (worldAt threshold disk))

theorem runBuild_at (o : Options) (clock : Clock) (disk : Disk) :
    runBuild o clock disk = buildAt o.verbosity.threshold o clock disk := rfl

/-- The world in which the files are known and nothing has been done about them. -/
def ready (threshold : Severity) (o : Options) (disk : Disk) : World Storage :=
  ⟨⟨disk, []⟩, (connected threshold).observe
    (.logged (Discovery.entry (Path.ofText o.path) (o.files disk))), 0, []⟩

theorem build_ready (threshold : Severity) (o : Options) (clock : Clock) (disk : Disk) :
    build o clock (worldAt threshold disk) =
      (discard o >>= fun _ =>
        Build.run (project o clock disk) o.continueOnError (o.files disk)) (ready threshold o disk) := by
  have connecting : Build.onExchange (Exchange.connect 0 0) (worldAt threshold disk) =
      .ok () ⟨⟨disk, []⟩, connected threshold, 0, []⟩ := by
    rw [Build.onExchange, worldAt, connect_new]
  unfold build
  rw [bind_ok connecting, bind_apply, get_apply]
  dsimp only
  rw [bind_apply, Build.log_apply]
  rfl

theorem wired_ready (threshold : Severity) (o : Options) (disk : Disk) :
    Wired 0 0 threshold (ready threshold o disk).exchange where
  cached := ⟨[], [], rfl, nofun, nofun⟩
  analyzed := ⟨[], [], rfl, nofun, nofun⟩
  log := ⟨[], [], rfl, nofun, nofun⟩

theorem sole_ready (threshold : Severity) (o : Options) (disk : Disk) :
    (ready threshold o disk).exchange.Sole 0 := by
  have logged : ∃ entries : List Log.Entry, (ready threshold o disk).exchange.trace = entries.map .logged :=
    ⟨[_, _, _, _], rfl⟩
  obtain ⟨entries, trace⟩ := logged
  intro c text member
  rw [trace] at member
  obtain ⟨entry, -, same⟩ := List.mem_map.mp member
  cases same

/-- What is printed where there is one console. -/
theorem printed_prints {x : Exchange} (sole : x.Sole 0) : printed x.trace = (x.prints 0).flatten := by
  obtain ⟨buses, consoles, trace⟩ := x
  unfold Exchange.Sole at sole
  unfold Exchange.prints
  dsimp only at sole ⊢
  induction trace with
  | nil => rfl
  | cons effect rest ih =>
      have others := ih fun c text member => sole c text (List.mem_cons_of_mem _ member)
      have head : printed (effect :: rest) = printed [effect] ++ printed rest :=
        printed_append [effect] rest
      rw [head, others]
      cases effect with
      | printed c text =>
          obtain rfl := sole c text List.mem_cons_self
          have here : (Effect.printed 0 text).printed? 0 = some text := rfl
          rw [List.filterMap_cons_some here, List.flatten_cons, printed, List.flatMap_singleton]
      | noted | logged | published => rfl

/-! ### What the verbosity does not reach -/

theorem blind_discard (o : Options) : Build.Blind (discard o) := by
  unfold discard
  split
  · split
    · exact .bind (.log _) fun _ => .onCache _
    · exact .pure ()
  · exact .pure ()

theorem logs_onCache {α : Type} (act : EStateM Failure Storage α) (w : World Storage) :
    Logs w.exchange (endState (Build.onCache act w)).exchange := by
  unfold Build.onCache
  cases act w.store with
  | ok a s => exact .refl _
  | error failure s => exact Build.logs_logFailure failure w.exchange

theorem logs_discard (o : Options) (w : World Storage) :
    Logs w.exchange (endState (discard o w)).exchange := by
  unfold discard
  cases o.database? with
  | none => exact .refl _
  | some db =>
      cases o.rebuild with
      | false => exact .refl _
      | true =>
          have one := fun entry => Logs.observe entry w.exchange
          exact (one _).trans (logs_onCache (Storage.onDisk (Cache.Database.clear db)) _)

/-- Every record that a build settles can be put in words. -/
def Options.Renders (threshold : Severity) (o : Options) (clock : Clock) (disk : Disk) : Prop :=
  ∀ w, discard o (ready threshold o disk) = .ok () w →
    ∀ visit ∈ Build.visits (project o clock disk) o.continueOnError (o.files disk) w,
      Build.Renders (project o clock disk) visit

/-- **A build under two thresholds.** -/
theorem build_mutes (above : threshold.rank ≤ threshold'.rank) (renders : o.Renders threshold clock disk) :
    Mutes 0 threshold threshold' (ready threshold o disk) (ready threshold' o disk)
      (build o clock (worldAt threshold disk)) (build o clock (worldAt threshold' disk)) := by
  have start : ready threshold' o disk =
      { ready threshold o disk with exchange := (ready threshold' o disk).exchange } := rfl
  obtain ⟨y, same⟩ := blind_discard o (ready threshold o disk) (ready threshold' o disk).exchange
  rw [← start] at same
  have logs := logs_discard o (ready threshold o disk)
  have logs' := logs_discard o (ready threshold' o disk)
  rw [build_ready, build_ready, bind_apply, bind_apply, same]
  rw [same] at logs'
  cases discarded : discard o (ready threshold o disk) with
  | error failure w =>
      rw [discarded] at logs logs'
      exact ⟨rfl, rfl, rfl, rfl, [], nofun, .logs logs, .logs logs'⟩
  | ok _ w =>
      rw [discarded] at logs logs'
      have before : Shows 0 (ready threshold o disk).exchange w.exchange [] := .logs logs
      have before' : Shows 0 (ready threshold' o disk).exchange y [] := .logs logs'
      obtain ⟨answer, store, ticks, examined, lines, reach, shows, shows'⟩ :=
        @Build.run_mutes _ (project o clock disk) o.continueOnError w 0 threshold threshold'
          (o.files disk) y above ((wired_ready threshold o disk).of_buses before.buses)
          ((wired_ready threshold' o disk).of_buses before'.buses) (renders w discarded)
      exact ⟨answer, store, ticks, examined, lines, reach, before.trans shows, before'.trans shows'⟩

/-! ### What comes of a build -/

/-- An outcome that differs from another one only in what is shown: the lines that do not reach a higher
threshold are left out. -/
structure Outcome.Mutes (threshold threshold' : Severity) (a b : Outcome) : Prop where
  ending : b.ending = a.ending
  stderr : b.stderr = a.stderr
  disk : b.disk = a.disk
  stdout : ∃ lines : List Shown, (∀ line ∈ lines, line.reaches threshold) ∧
    screen? lines = some a.stdout ∧
    screen? (lines.filter (Shown.reaches threshold')) = some b.stdout

/-- Nothing is shown where nothing is built. -/
theorem Outcome.Mutes.refused {a : Outcome} (silent : a.stdout = []) (logs logs' : List Log.Entry)
    (detailed detailed' : Bool) :
    Outcome.Mutes threshold threshold' { a with logs, detailed }
      { a with logs := logs', detailed := detailed' } :=
  ⟨rfl, rfl, rfl, [], nofun, by rw [silent]; rfl, by rw [silent]; rfl⟩

theorem stdout_concluded (o : Options) (result : EStateM.Result Failure (World Storage) Report) :
    (concluded o result).stdout = printed (endState result).exchange.trace := by
  cases result with
  | error failure w => cases failure <;> rfl
  | ok report w =>
      unfold concluded finished
      cases o.summaryOutput.filter (· != "") with
      | none => rfl
      | some output =>
          dsimp only
          split <;> rfl

/-- What is not shown of a build is settled by its answer and by what it leaves in the storage. -/
theorem concluded_alike (o : Options) {result result' : EStateM.Result Failure (World Storage) Report}
    (same : answer result' = answer result)
    (store : (endState result').store = (endState result).store) :
    (concluded o result').ending = (concluded o result).ending ∧
      (concluded o result').stderr = (concluded o result).stderr ∧
      (concluded o result').disk = (concluded o result).disk := by
  cases result with
  | error failure w =>
      cases result' with
      | ok report w' => cases same
      | error failure' w' =>
          obtain rfl := Except.error.inj same
          have disk : w'.store.disk = w.store.disk := congrArg Storage.disk store
          cases failure' <;> exact ⟨rfl, rfl, disk⟩
  | ok report w =>
      cases result' with
      | error failure' w' => cases same
      | ok report' w' =>
          obtain rfl := Except.ok.inj same
          rw [endState_ok, endState_ok] at store
          unfold concluded finished
          cases o.summaryOutput.filter (· != "") with
          | none => exact ⟨rfl, rfl, congrArg Storage.disk store⟩
          | some output =>
              dsimp only
              rw [store]
              split <;> exact ⟨rfl, rfl, rfl⟩

theorem outcome_mutes {w w' : World Storage}
    {result result' : EStateM.Result Failure (World Storage) Report}
    (mutes : Mutes 0 threshold threshold' w w' result result') (sole : w.exchange.Sole 0)
    (sole' : w'.exchange.Sole 0) (blank : w.exchange.prints 0 = []) (blank' : w'.exchange.prints 0 = []) :
    Outcome.Mutes threshold threshold' (concluded o result) (concluded o result') := by
  obtain ⟨answer, store, -, -, lines, reach, shows, shows'⟩ := mutes
  obtain ⟨ending, stderr, disk⟩ := concluded_alike o answer store
  have written := shows.prints
  have written' := shows'.prints
  rw [blank, List.map_nil, List.nil_append] at written
  rw [blank', List.map_nil, List.nil_append] at written'
  refine ⟨ending, stderr, disk, lines, reach, ?_, ?_⟩
  · rw [stdout_concluded, printed_prints (shows.sole sole)]
    exact Console.screen?_of_map written.symm
  · rw [stdout_concluded, printed_prints (shows'.sole sole')]
    exact Console.screen?_of_map written'.symm

theorem buildAt_mutes (above : threshold.rank ≤ threshold'.rank)
    (renders : o.Renders threshold clock disk) :
    Outcome.Mutes threshold threshold' (buildAt threshold o clock disk) (buildAt threshold' o clock disk) :=
  outcome_mutes (build_mutes above renders) (sole_ready threshold o disk) (sole_ready threshold' o disk)
    rfl rfl

/-! ### Verbosities -/

/-- The same options with another verbosity. -/
def Options.told (o : Options) (v : Verbosity) : Options := { o with verbosity := v }

theorem concluded_told (o : Options) (v : Verbosity)
    (result : EStateM.Result Failure (World Storage) Report) :
    concluded (o.told v) result = { concluded o result with detailed := v == .debug } := by
  cases result with
  | error failure w => cases failure <;> rfl
  | ok report w =>
      unfold concluded finished Options.told
      cases o.summaryOutput.filter (· != "") with
      | none => rfl
      | some output =>
          dsimp only
          split <;> rfl

theorem runBuild_told (o : Options) (v : Verbosity) (clock : Clock) (disk : Disk) :
    runBuild (o.told v) clock disk =
      { buildAt v.threshold o clock disk with detailed := v == .debug } :=
  concluded_told o v (build o clock (worldAt v.threshold disk))

/-- Whether anything is built does not depend on the verbosity, and where nothing is, only the log does. -/
theorem runOptions_told (o : Options) (clock : Clock) (disk : Disk) :
    (∀ v, runOptions (o.told v) clock disk = runBuild (o.told v) clock disk) ∨
      ∃ a : Outcome, a.stdout = [] ∧ ∀ v, ∃ logs detailed,
        runOptions (o.told v) clock disk = { a with logs, detailed } := by
  have path : ∀ v, (o.told v).path = o.path := fun _ => rfl
  have named : ∀ v, (o.told v).database? = o.database? := fun _ => rfl
  have projects : (∀ v, runProject (o.told v) clock disk = runBuild (o.told v) clock disk) ∨
      ∃ a : Outcome, a.stdout = [] ∧ ∀ v, ∃ logs detailed,
        runProject (o.told v) clock disk = { a with logs, detailed } := by
    have found : ∀ v, Discovery.run disk (Path.ofText (o.told v).path) (o.told v).suffixes =
        Discovery.run disk (Path.ofText o.path) o.suffixes := fun _ => rfl
    cases sought : Discovery.run disk (Path.ofText o.path) o.suffixes with
    | ok paths => exact .inl fun v => runProject_found ((found v).trans sought)
    | error failure =>
        refine .inr ⟨unsought o disk failure, ?_, fun v =>
          ⟨(unsought (o.told v) disk failure).logs, (unsought (o.told v) disk failure).detailed, ?_⟩⟩
        · rw [unsought_eq, stdout_failed]
          rfl
        · rw [runProject_unsought ((found v).trans sought), unsought_eq, unsought_eq]
          cases failure <;> rfl
  simp only [runOptions, path]
  cases disk.ask (Path.ofText o.path) Node.isDirectory with
  | error fault => exact .inr ⟨stuck disk fault _, rfl, fun _ => ⟨_, _, rfl⟩⟩
  | ok there =>
      cases there with
      | false => exact .inr ⟨refused disk "" _, rfl, fun _ => ⟨_, _, rfl⟩⟩
      | true =>
          simp only [runWithCache, named]
          cases o.database? with
          | none => exact projects
          | some db =>
              dsimp only
              cases disk.ask db.parent fun _ => true with
              | error fault => exact .inr ⟨stuck disk fault _, rfl, fun _ => ⟨_, _, rfl⟩⟩
              | ok there =>
                  cases there with
                  | false => exact .inr ⟨refused disk "" _, rfl, fun _ => ⟨_, _, rfl⟩⟩
                  | true => exact projects

/-- A build that tells more shows more, and differs in nothing else. -/
theorem runOptions_mutes (renders : o.Renders Verbosity.debug.threshold clock disk) :
    Outcome.Mutes Verbosity.debug.threshold Verbosity.normal.threshold
      (runOptions (o.told .debug) clock disk) (runOptions (o.told .normal) clock disk) := by
  rcases runOptions_told o clock disk with built | ⟨a, silent, refused⟩
  · rw [built, built, runBuild_told, runBuild_told]
    obtain ⟨ending, stderr, disk, stdout⟩ :=
      @buildAt_mutes o clock disk Verbosity.debug.threshold Verbosity.normal.threshold (by decide) renders
    exact ⟨ending, stderr, disk, stdout⟩
  · obtain ⟨logs, detailed, debug⟩ := refused .debug
    obtain ⟨logs', detailed', normal⟩ := refused .normal
    rw [debug, normal]
    exact .refused silent logs logs' detailed detailed'

/-- **Verbosity does not interfere.**  Under a lower and a higher threshold a run comes to the same and
leaves the same cache, and the console under the higher one shows the lines that reach it.  So a build from
the command line ends alike and leaves the same disk, and with either verbosity a command line does. -/
theorem thresholds_mute :
    (∀ {σ : Type} {project : Build.Project σ} {continueOnError : Bool} {paths : List String}
      {console : Nat} {threshold threshold' : Severity} {w : World σ} {x : Exchange},
      threshold.rank ≤ threshold'.rank → Wired console project.bus threshold w.exchange →
      Wired console project.bus threshold' x →
      (∀ visit ∈ Build.visits project continueOnError paths w, Build.Renders project visit) →
        Mutes console threshold threshold' w { w with exchange := x }
          (Build.run project continueOnError paths w)
          (Build.run project continueOnError paths { w with exchange := x })) ∧
    (∀ {o : Options} {clock : Clock} {disk : Disk} {threshold threshold' : Severity},
      threshold.rank ≤ threshold'.rank → o.Renders threshold clock disk →
        Outcome.Mutes threshold threshold' (buildAt threshold o clock disk)
          (buildAt threshold' o clock disk)) ∧
    ∀ {o : Options} {clock : Clock} {disk : Disk}, o.Renders Verbosity.debug.threshold clock disk →
      Outcome.Mutes Verbosity.debug.threshold Verbosity.normal.threshold
        (runOptions (o.told .debug) clock disk) (runOptions (o.told .normal) clock disk) :=
  ⟨fun above wired wired' renders => Build.run_mutes above wired wired' renders,
    fun above renders => buildAt_mutes above renders, fun renders => runOptions_mutes renders⟩

/-! ### Builds without a database -/

/-- Where no database is named, every record is one of an examination and can be put in words. -/
theorem renders_unnamed (unnamed : o.database? = none) : o.Renders threshold clock disk := by
  have cached : (project o clock disk).cache = .memory := by
    show o.cache = _
    rw [Options.cache, unnamed]
  have discarded : discard o = pure () := by
    rw [discard, unnamed]
  intro w begun
  rw [discarded] at begun
  cases begun
  refine Build.renders_of_faithful (cached ▸ FileCache.memory_faithful) (fun _ _ _ => trivial)
    (Build.vouches_memory (List.forall_mem_nil _)) ?_
  intro path source problems examined
  exact Check.renders_run examined

/-- The words of a build with a summary and without a database. -/
def plain : Options :=
  ⟨"proj", none, false, [], .normal, false, some "out"⟩

/-- A run over three files, and a build and a command line of a project of one file. -/
theorem thresholds_mute_small :
    Mutes 0 .error .critical Build.watched { Build.watched with exchange := Build.attended .critical }
      (Build.run Build.mixed true ["a.py", "b.py", "c.py"] Build.watched)
      (Build.run Build.mixed true ["a.py", "b.py", "c.py"]
        { Build.watched with exchange := Build.attended .critical }) ∧
    Outcome.Mutes .info .emergency (buildAt .info plain noon small) (buildAt .emergency plain noon small) ∧
    Outcome.Mutes Verbosity.debug.threshold Verbosity.normal.threshold
      (runOptions (plain.told .debug) noon small) (runOptions (plain.told .normal) noon small) :=
  ⟨thresholds_mute.1 (by decide) (Build.wired_attended .error) (Build.wired_attended .critical)
      (Build.renders_mixed _ _),
    thresholds_mute.2.1 (by decide) (renders_unnamed rfl), thresholds_mute.2.2 (renders_unnamed rfl)⟩

end Docwright.CommandLine
