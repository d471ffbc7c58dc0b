import Docwright.Proofs.Cache.Wording
import Docwright.Proofs.CommandLine.ExitCodes
import Docwright.Proofs.Disk.Discovery

/-!
# No build dies of its words

Where all databases on a disk were written by builds, no command line fails to put
something in words: no record that is announced, whether it was just made or was in a
database, no rejection that is passed over, and no problem in a summary
(`Options.Voiced`).  This goes for every verbosity, for every name that a database may
have, and for whatever characters there are in paths, names and messages.

What is left for a command line to fail by is listed in `Options.Ending`.  The disk cannot
be asked, a name has a null character, or a number is out of bounds, be it that of a row or
one in a summary; and each of these is tied to the name or the number that it comes from.

The databases on a disk are those of builds if there were none at first, and since then
builds have written to them, and other hands have at most moved, copied or taken them away
(`Authored`).  The invariant of a build is `ReliableThroughout`: every record that can be
looked up is that of an examination.
-/

namespace Docwright

namespace CommandLine

open Build (World)
open Cache (fitsInteger)
open Cache.Database (Excess Excuse ReliableThroughout)
open Check (Attested Modest)

variable {o : Options} {clock : Clock} {disk : Disk} {w w' : World Storage} {report : Report}
  {failure : Failure}

/-- Any content may occur. -/
def anything (_ : List UInt8) : Prop := True

/-! ### Caches -/

/-- What the cache of a build fails by, whatever it is given. -/
def Options.Excuses (o : Options) (failure : Failure) : Prop := ∃ db ∈ o.database?, Excuse db failure

theorem truthful_cache (o : Options) :
    o.cache.Truthful (o.Relies anything) (Attested anything) o.Excuses Excess := by
  unfold Options.cache Options.Relies Options.Excuses
  cases o.database? with
  | none => exact FileCache.memory_truthful
  | some db =>
      obtain ⟨good, ok, error, kept, refused⟩ := @FileCache.database_truthful anything db
      exact ⟨good, ok, fun held failed => ⟨db, rfl, error held failed⟩, kept,
        fun held kind failed => (refused held kind failed).imp_left fun excuse => ⟨db, rfl, excuse⟩⟩

/-- What is made of the files of a project is attested. -/
theorem yields_project (valid : clock.Valid) : (project o clock disk).Yields (Attested anything) :=
  fun ticks _ decode examined =>
    ⟨rfl, Check.preserved_run (valid ticks) examined, _, _, trivial, decode, rfl, examined⟩

theorem excuse_of_discard (failed : discard o w = .error failure w') : o.Excuses failure := by
  obtain ⟨db, named, coming⟩ := clear_of_discard failed
  exact ⟨db, named, Cache.Database.excuse_of_clear coming⟩

/-- The storage in which a build begins, where all databases can be relied on. -/
theorem relies_ready (throughout : ReliableThroughout (Attested anything) disk) (o : Options) :
    o.Relies anything (ready o.verbosity.threshold o disk).store := by
  unfold Options.Relies
  cases o.database? with
  | none => exact fun path record found => nomatch found
  | some db => exact throughout.reliable db

/-! ### A build -/

/-- A build with records of examinations leaves such. -/
theorem relies_of_build (throughout : ReliableThroughout (Attested anything) disk) (valid : clock.Valid) :
    o.Relies anything (endState (build o clock (world o disk))).store :=
  store_build (relies_discard (relies_ready throughout o)) fun _ =>
    Build.good_run_told (truthful_cache o) (yields_project valid)

/-- A command line whose build does not begin leaves the disk alone, and says so unless the disk cannot be
asked. -/
theorem unbegun_cases (o : Options) (clock : Clock) (disk : Disk) :
    o.Begins disk ∨ (runOptions o clock disk).disk = disk ∧ ((runOptions o clock disk).ending = .ok 2 ∨
      ∃ fault place question, disk.ask place question = .error fault ∧
        (runOptions o clock disk).ending = .error (.disk fault place)) := by
  have projects : (∃ paths, Discovery.run disk (Path.ofText o.path) o.suffixes = .ok paths) ∨
      (runProject o clock disk).disk = disk ∧ ∃ fault place question,
        disk.ask place question = .error fault ∧
          (runProject o clock disk).ending = .error (.disk fault place) := by
    cases found : Discovery.run disk (Path.ofText o.path) o.suffixes with
    | ok paths => exact .inl ⟨paths, rfl⟩
    | error failure =>
        obtain ⟨fault, place, question, asked, rfl⟩ := Discovery.run_error found
        rw [runProject_unsought found, unsought_eq]
        exact .inr ⟨rfl, fault, place, question, asked, rfl⟩
  unfold runOptions
  dsimp only
  cases root : disk.ask (Path.ofText o.path) Node.isDirectory with
  | error fault => exact .inr ⟨rfl, .inr ⟨fault, _, _, root, rfl⟩⟩
  | ok there =>
      cases there with
      | false => exact .inr ⟨rfl, .inl rfl⟩
      | true =>
          dsimp only
          unfold runWithCache
          cases named : o.database? with
          | none =>
              obtain sought | ⟨same, stuck⟩ := projects
              · exact .inl ⟨root, by rw [named]; nofun, sought⟩
              · exact .inr ⟨same, .inr stuck⟩
          | some db =>
              dsimp only
              cases place : disk.ask db.parent (fun _ => true) with
              | error fault => exact .inr ⟨rfl, .inr ⟨fault, _, _, place, rfl⟩⟩
              | ok there =>
                  cases there with
                  | false => exact .inr ⟨rfl, .inl rfl⟩
                  | true =>
                      obtain sought | ⟨same, stuck⟩ := projects
                      · refine .inl ⟨root, fun db' member => ?_, sought⟩
                        obtain rfl := Option.some.inj (named.symm.trans member)
                        exact place
                      · exact .inr ⟨same, .inr stuck⟩

/-- **Databases of examinations stay such** through every command line. -/
theorem reliable_run (throughout : ReliableThroughout (Attested anything) disk) (valid : clock.Valid)
    (argv : List String) : ReliableThroughout (Attested anything) (run argv clock disk).disk := by
  cases parsed : Options.parse argv with
  | none =>
      rw [run, parsed]
      exact throughout
  | some o =>
      rw [run_parsed parsed]
      obtain begins | ⟨same, -⟩ := unbegun_cases o clock disk
      · rw [runOptions_begun begins]
        exact reliable_of_relies throughout (relies_of_build throughout valid)
      · rw [same]
        exact throughout

/-- What a build can say of a disk. -/
structure Options.Voiced (o : Options) (clock : Clock) (disk : Disk) : Prop where
  /-- Every record that is settled, whether it was made or found, can be said, and is announced. -/
  announced : ∀ {w u u' path record hit}, discard o (ready o.verbosity.threshold o disk) = .ok () w →
    (path, u) ∈ Build.visits (project o clock disk) o.continueOnError (o.files disk) w →
    Build.settle (project o clock disk) path u = .ok (record, hit) u' → record.Spoken ∧
      ∃ x, Build.announce (project o clock disk) path record hit u' = .ok () { u' with exchange := x }
  /-- Every rejection can be said, and is announced. -/
  rejected : ∀ {w u u' path r}, discard o (ready o.verbosity.threshold o disk) = .ok () w →
    (path, u) ∈ Build.visits (project o clock disk) o.continueOnError (o.files disk) w →
    Build.settle (project o clock disk) path u = .error (.rejected r) u' →
      ∃ x, Build.onExchange (Exchange.publish 0 (Build.rejectionEvent r).name (Build.rejectionEvent r)) u' =
        .ok () { u' with exchange := x }
  /-- Every report can be said, with all problems of its records. -/
  summarized : ∀ {report w}, o.Finishes clock disk report w →
    (∀ record ∈ report.records, record.Spoken) ∧ ∃ payload, Summary.ofReport report = .ok payload

/-- Whatever comes of the visits of a build is known. -/
theorem told_build (throughout : ReliableThroughout (Attested anything) disk) (valid : clock.Valid)
    (discarded : discard o (ready o.verbosity.threshold o disk) = .ok () w) :
    ∀ visit ∈ Build.visits (project o clock disk) o.continueOnError (o.files disk) w,
      Build.Told (project o clock disk) (Attested anything) o.Excuses Excess visit.1
        (answer (Build.settle (project o clock disk) visit.1 visit.2)) := by
  have relies := relies_discard (relies_ready throughout o)
  rw [discarded] at relies
  exact Build.told_visits (truthful_cache o) (yields_project valid) relies

/-- There is a payload for a report whose problems can be put in words. -/
theorem Summary.payload_ok (spoken : ∀ record ∈ report.records, record.Spoken) :
    ∃ payload, ofReport report = .ok payload := by
  obtain ⟨records, made, -⟩ : ∃ records, report.records.mapM ofRecord = .ok records ∧ ∀ v ∈ records, True := by
    refine mapM_ok fun record member => ?_
    obtain ⟨problems, made, -⟩ : ∃ problems, record.problems.mapM ofProblem = .ok problems ∧
        ∀ v ∈ problems, True := by
      refine mapM_ok fun p within => ?_
      obtain ⟨words, rendered⟩ := (spoken record member p within).rendered
      exact ⟨_, by rw [ofProblem, rendered], trivial⟩
    exact ⟨_, by rw [ofRecord, made]; rfl, trivial⟩
  exact ⟨_, by rw [ofReport, made]; rfl⟩

/-- **A build can say all that it comes upon.** -/
theorem voiced (throughout : ReliableThroughout (Attested anything) disk) (valid : clock.Valid) :
    o.Voiced clock disk where
  announced := by
    intro w u u' path record hit discarded member settled
    have told := told_build throughout valid discarded
    have wired := wired_discard (wired_ready _ o disk) discarded
    exact ⟨(Build.kind_of_settled told member settled).spoken,
      (Build.announced_visits told wired (fun kind => kind.spoken.renders) member).1 settled⟩
  rejected := by
    intro w u u' path r discarded member settled
    have told := told_build throughout valid discarded
    have wired := wired_discard (wired_ready _ o disk) discarded
    exact (Build.announced_visits told wired (fun kind => kind.spoken.renders) member).2 settled
  summarized := by
    rintro report w ⟨-, built⟩
    obtain ⟨u, discarded, ran⟩ := run_of_built built
    have spoken : ∀ record ∈ report.records, record.Spoken := by
      intro record member
      obtain ⟨path, kind⟩ :=
        Build.records_told (told_build throughout valid discarded) ran record member
      exact kind.spoken
    exact ⟨spoken, Summary.payload_ok spoken⟩

/-! ### Endings -/

theorem null_of_read {path : String} (unread : (project o clock disk).read path = .error .null) :
    (Path.ofText o.path ++ Path.ofText path).hasNull = true := by
  rw [read_project, Build.readWithin] at unread
  by_contra clean
  rw [if_neg clean] at unread
  split at unread <;> cases unread

/-- The names that a command line asks the disk for. -/
def Options.names (o : Options) (disk : Disk) : List Path :=
  o.database?.toList ++ (o.files disk).map (fun path => Path.ofText o.path ++ Path.ofText path) ++
    (o.summaryOutput.filter (· != "")).toList.map Path.ofText

/-- The ways in which a command line ends.  None is a failure to put something in words. -/
inductive Options.Ending (o : Options) (clock : Clock) (disk : Disk) : Except Failure Nat → Prop
  /-- With an exit code. -/
  | code {n : Nat} (known : n ≤ 2) : Ending o clock disk (.ok n)
  /-- The disk cannot be asked. -/
  | stuck {fault : Disk.Fault} {place : Path} {question : Node → Bool}
      (asked : disk.ask place question = .error fault) : Ending o clock disk (.error (.disk fault place))
  /-- A name has a null character. -/
  | null {name : Path} (member : name ∈ o.names disk) (null : name.hasNull = true) :
      Ending o clock disk (.error .nullByte)
  /-- A table has no room for what is found in a file. -/
  | great {path : String} {data : List UInt8} {text : List Char} {problems : List Problem}
      (member : path ∈ o.files disk) (read : Build.readWithin disk (Path.ofText o.path) path = .ok data)
      (decode : Text.Utf8.decode data = .ok text)
      (examined : (Check.run path (String.ofList text)).result = .ok problems)
      (immodest : ¬ Modest problems) : Ending o clock disk (.error .integerRange)
  /-- The files are more than can be counted in a summary, or a line in it is too great even for a table. -/
  | long {report : Report} {w : World Storage} (finishes : o.Finishes clock disk report w)
      (great : 10 ^ Scalar.digitLimit ≤ (o.files disk).length ∨
        ∃ record ∈ report.records, ∃ p ∈ record.problems, ∃ n ∈ p.line, fitsInteger n = false) :
      Ending o clock disk (.error .unprintable)

/-- A failure has an exit code, or the command line ends by it. -/
theorem ending_of_failure (w : World Storage)
    (known : (∃ r, failure = .rejected r) ∨ (∃ fault, failure = .cache fault) ∨
      o.Ending clock disk (.error failure)) : o.Ending clock disk (failed o w failure).ending := by
  obtain ⟨r, rfl⟩ | ⟨fault, rfl⟩ | ending := known
  · exact .code (by decide)
  · exact .code (by decide)
  · cases ending with
    | stuck asked => exact .stuck asked
    | null member null => exact .null member null
    | great member read decode examined immodest => exact .great member read decode examined immodest
    | long finishes great => exact .long finishes great

theorem ending_of_excuse (excuse : o.Excuses failure) :
    (∃ fault, failure = .cache fault) ∨ o.Ending clock disk (.error failure) := by
  obtain ⟨db, named, excuse⟩ := excuse
  cases excuse with
  | fault => exact .inl ⟨_, rfl⟩
  | null null =>
      refine .inr (.null ?_ null)
      exact List.mem_append_left _ (List.mem_append_left _ (Option.mem_toList.mpr named))

/-- A summary fails by a number of too many digits, if its problems can be put in words. -/
theorem Summary.render_error (finishes : o.Finishes clock disk report w)
    (spoken : ∀ record ∈ report.records, record.Spoken) (failed : render report = .error failure) :
    o.Ending clock disk (.error failure) := by
  obtain ⟨payload, made⟩ := payload_ok spoken
  obtain rfl : failure = .unprintable := by
    simp only [render, made, bind, Except.bind] at failed
    split at failed
    · cases failed
    · exact (Except.error.inj failed).symm
  refine .long finishes ?_
  -- with numbers within bounds the summary could be rendered
  by_contra bounded
  rw [not_or, Nat.not_le] at bounded
  obtain ⟨few, small⟩ := bounded
  have countable : Countable report := by
    obtain ⟨u, -, ran⟩ := run_of_built finishes.2
    exact (countable_of_run few ran).1
  obtain ⟨summary, rendered⟩ := render_ok countable fun record member p within => by
    refine ⟨(spoken record member p within).rendered, fun n line => ?_⟩
    by_contra great
    exact small ⟨record, member, p, within, n, line, by simpa using great⟩
  cases failed.symm.trans rendered

/-- A build that comes to its end has an exit code, or its summary cannot be written. -/
theorem ending_finished (finishes : o.Finishes clock disk report w)
    (spoken : ∀ record ∈ report.records, record.Spoken) :
    o.Ending clock disk (finished o w report).ending := by
  have coded : o.Ending clock disk (.ok (exitCode report)) := by
    refine .code ?_
    unfold exitCode
    split <;> decide
  unfold finished
  cases wanted : o.summaryOutput.filter (· != "") with
  | none => exact coded
  | some output =>
      have named : (Path.ofText output).hasNull = true → o.Ending clock disk (.error .nullByte) := by
        refine fun null => .null (List.mem_append_right _ ?_) null
        rw [wanted]
        exact List.mem_singleton.mpr rfl
      have coming := delivering w.store.disk (Path.ofText output) report
      dsimp only
      generalize deliver w.store.disk (Path.ofText output) report = delivery at coming
      cases coming with
      | null null =>
          refine named ?_
          by_contra clean
          rw [parent_hasNull (by simpa using clean)] at null
          cases null
      | unmade | unopened => exact .code (by decide)
      | unrendered clean made rendered =>
          rw [Summary.outcome] at rendered
          cases failing : Summary.render report with
          | ok summary =>
              rw [failing] at rendered
              cases rendered
          | error failure' =>
              rw [failing] at rendered
              obtain rfl := Except.error.inj rendered
              exact Summary.render_error finishes spoken failing
      | unnamed clean made rendered null => exact named null
      | written => exact coded

/-- **How a build ends.** -/
theorem ending_begun (throughout : ReliableThroughout (Attested anything) disk) (begins : o.Begins disk)
    (valid : clock.Valid) : o.Ending clock disk (runBuild o clock disk).ending := by
  have concludes : runBuild o clock disk = concluded o (build o clock (world o disk)) := rfl
  have voiced : o.Voiced clock disk := voiced throughout valid
  rw [concludes]
  cases built : build o clock (world o disk) with
  | ok report w => exact ending_finished ⟨begins, built⟩ (voiced.summarized ⟨begins, built⟩).1
  | error failure w =>
      refine ending_of_failure w ?_
      rw [build_apply] at built
      cases discarded : discard o (ready o.verbosity.threshold o disk) with
      | error failure' u =>
          rw [discarded] at built
          cases built
          exact .inr (ending_of_excuse (excuse_of_discard discarded))
      | ok _ u =>
          rw [discarded] at built
          obtain rejected | ⟨rfl, path, member, unread⟩ | excuse |
              ⟨path, member, read, decode, examined, ⟨immodest⟩⟩ :=
            Build.failure_told (told_build throughout valid discarded)
              (wired_discard (wired_ready _ o disk) discarded) (fun kind => kind.spoken.renders) built
          · exact .inl rejected
          · refine .inr (.inr (.null ?_ (null_of_read unread)))
            exact List.mem_append_left _ (List.mem_append_right _ (List.mem_map_of_mem member))
          · exact .inr (ending_of_excuse excuse)
          · exact .inr (.inr (.great member read decode examined immodest))

/-! ### Databases of builds -/

/-- All databases on a disk are those of builds: there was none at first, and since then builds have written
to them, and whatever else was changed, no database was but moved, copied or taken away. -/
inductive Authored : Disk → Prop
  | fresh {disk : Disk} (none_ : ∀ names t, disk.top.at? names ≠ some (.file (.database t))) : Authored disk
  | changed {disk disk' : Disk} (before : Authored disk)
      (same : ∀ names t, disk'.top.at? names = some (.file (.database t)) →
        ∃ names', disk.top.at? names' = some (.file (.database t))) : Authored disk'
  | built {argv : List String} {clock : Clock} {disk : Disk} (before : Authored disk) (valid : clock.Valid) :
      Authored (run argv clock disk).disk

/-- The databases of builds hold records of examinations. -/
theorem Authored.reliable (authored : Authored disk) : ReliableThroughout (Attested anything) disk := by
  induction authored with
  | fresh none_ => exact fun names t there => absurd there (none_ names t)
  | changed before same ih =>
      intro names t there
      obtain ⟨names', there'⟩ := same names t there
      exact ih names' t there'
  | built before valid ih => exact reliable_run ih valid _

/-! ### The whole -/

/-- **No build dies of its words.**  Whatever an examination finds is rendered to its template with the texts
in its values put in for the placeholders, in order, and so is the message for a rejection, whatever the
texts are.  A record that was stored in a database has the same problems when it is found again, and it is
found if the database lasts.  So where all databases are those of builds, no build fails to announce a
record or a rejection or to put a report in words, at any verbosity; and what a command line can fail by
instead is the disk, a null character in a name, or a number that is out of bounds. -/
theorem rendering_never_fails :
    (∀ {path source problems}, (Check.run path source).result = .ok problems →
      ∀ p ∈ problems, ∃ texts, p.message.Says texts) ∧
    (∀ r : Rejection, ∃ message, Build.rejectionEvent r = .log .critical message ∧
      message.Says [r.path, r.detail]) ∧
    (∀ {path source place record trouble db disk disk'},
      (Check.run path source).result = .ok record.problems →
      Cache.Database.storeAmid trouble db place record disk = .ok () disk' →
        (∀ {trouble' found}, answer (Cache.Database.lookupAmid trouble' db place disk') = .ok (some found) →
          found.problems = record.problems ∧ found.Spoken) ∧
        (db.text ≠ ":memory:" → db.hasNull = false → record.analyzed.InRange →
          ∃ found, answer (Cache.Database.lookup db place disk') = .ok (some found))) ∧
    ∀ {argv o clock disk}, Options.parse argv = some o → Authored disk → clock.Valid →
      o.Voiced clock disk ∧ o.Ending clock disk (run argv clock disk).ending := by
  refine ⟨Check.said_run, fun r => ⟨_, rfl, Build.said_rejection r⟩, ?_, ?_⟩
  · intro path source place record trouble db disk disk' examined done
    have canonical := Check.canonical_run examined
    refine ⟨fun {trouble' found} answered => ?_,
      fun lasting clean range => Cache.Database.finds_after_store lasting clean range canonical done⟩
    have same := Cache.Database.found_after_store canonical done answered
    rw [Check.plain_run examined] at same
    exact ⟨same, fun p member => Check.said_run examined p (same ▸ member)⟩
  · intro argv o clock disk parsed authored valid
    have throughout := authored.reliable
    refine ⟨voiced throughout valid, ?_⟩
    rw [run_parsed parsed]
    obtain begins | ⟨-, coded | ⟨fault, place, question, asked, stuck⟩⟩ := unbegun_cases o clock disk
    · rw [runOptions_begun begins]
      exact ending_begun throughout begins valid
    · rw [coded]
      exact .code (by decide)
    · rw [stuck]
      exact .stuck asked

/-! ### A file with a name like a template -/

/-- A name with directives and markup in it. -/
def quaint : String := "%s[/b]%.py"

/-- A project of one empty file with that name. -/
def curious : Disk := .directory [("proj", .directory [(quaint, .file (.bytes []))])]

/-- The record of the file. -/
def curio : FileRecord := ⟨quaint, Digest.fingerprint [], noon 0, [Check.emptyFile quaint]⟩

theorem authored_curious : Authored curious :=
  .fresh fun _ _ there => nomatch Disk.content_of_lone there

/-- The second build of the project finds the record of the first one, and can say it again. -/
theorem rendering_never_fails_curious :
    (∃ texts, (Check.emptyFile quaint).message.Says texts) ∧
    (∃ disk' found, Cache.Database.storeAmid .calm (Path.ofText "db") quaint curio curious = .ok () disk' ∧
      answer (Cache.Database.lookup (Path.ofText "db") quaint disk') = .ok (some found) ∧ found.Spoken) ∧
    (asked "db" "out").Voiced noon (run (words "db" "out") noon curious).disk ∧
    (asked "db" "out").Ending noon (run (words "db" "out") noon curious).disk
      (run (words "db" "out") noon (run (words "db" "out") noon curious).disk).ending := by
  have examined : (Check.run quaint "").result = .ok curio.problems := by decide +kernel
  obtain ⟨disk', done⟩ : ∃ disk',
      Cache.Database.storeAmid .calm (Path.ofText "db") quaint curio curious = .ok () disk' :=
    ⟨_, eq_ok_of_answer (by decide +kernel)⟩
  obtain ⟨same, finds⟩ := rendering_never_fails.2.2.1 examined done
  obtain ⟨found, answered⟩ := finds (by decide +kernel) (by decide +kernel) (by constructor <;> decide)
  have parsed : Options.parse (words "db" "out") = some (asked "db" "out") := by decide +kernel
  obtain ⟨voiced, ending⟩ := rendering_never_fails.2.2.2 parsed (.built authored_curious noon_valid) noon_valid
  exact ⟨rendering_never_fails.1 examined _ (List.mem_singleton.mpr rfl),
    ⟨disk', found, done, answered, (same answered).2⟩, voiced, ending⟩

end CommandLine

end Docwright
