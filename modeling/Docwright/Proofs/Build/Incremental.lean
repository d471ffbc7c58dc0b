import Docwright.Proofs.Build.Calm
import Docwright.Proofs.Build.History

/-!
# Incremental builds

A build with a cache that earlier builds have filled says the same as a build
with an empty cache (`run_replay_agrees`): the same ending, the same findings and
rejections in the same order, and the same announcements up to whether a record
was found or made.

Both are compared with the course of a build without a cache, which depends on
neither.  What carries the argument is that the cache is still trusted after any
history (`trusted_replay`), in particular after edits that were reverted and
after builds that came to an early end.
-/

namespace Docwright.Build

variable {σ : Type}

/-- The contents that a history and a build after it find. -/
def Occurs (history : List (Episode σ)) (last : Occasion σ) (data : List UInt8) : Prop :=
  (∃ episode ∈ history, episode.Reads data) ∨ last.Reads data

/-- Two results of a build say the same: the ending, the findings and the rejections in order, and
what was announced.  They may differ in the times of examinations, in how many records the cache held,
and so in the kind of an announcement. -/
def Agree : EStateM.Result Failure (World σ) Report → EStateM.Result Failure (World σ) Report → Prop
  | .ok report w, .ok report' w' =>
    report.records.map FileRecord.finding = report'.records.map FileRecord.finding ∧
      report.failures = report'.failures ∧ w.gists = w'.gists
  | .error failure w, .error failure' w' => failure = failure' ∧ w.gists = w'.gists
  | .ok _ _, .error _ _ | .error _ _, .ok _ _ => False

/-- Results that follow the same course agree. -/
theorem Matches.agree {before : Report} {gists : List (Finding ⊕ Severity × Message)}
    {course : Course} {result result' : EStateM.Result Failure (World σ) Report}
    (h : Matches before gists course result) (h' : Matches before gists course result') :
    Agree result result' := by
  cases result with
  | ok report w =>
      obtain ⟨ending, follows, announced⟩ := h
      cases result' with
      | ok report' w' =>
          obtain ⟨-, follows', announced'⟩ := h'
          refine ⟨?_, ?_, announced.trans announced'.symm⟩
          · rw [follows.findings, follows'.findings]
          · rw [follows.failures, follows'.failures]
      | error failure' w' =>
          have impossible := ending.symm.trans h'.1
          cases impossible
  | error failure w =>
      obtain ⟨ending, announced⟩ := h
      cases result' with
      | ok report' w' =>
          have impossible := ending.symm.trans h'.1
          cases impossible
      | error failure' w' =>
          obtain ⟨ending', announced'⟩ := h'
          refine ⟨?_, announced.trans announced'.symm⟩
          exact Option.some.inj (ending.symm.trans ending')

/-- A build with a trusted cache follows the course of a build without one. -/
theorem Occasion.run_judged {o : Occasion σ} {ledger : Ledger σ} {occurs : List UInt8 → Prop}
    {calm : Exchange → Prop} (shares : o.Shares ledger o.project.examine)
    (occur : ∀ data, o.Reads data → occurs data) (distinguishes : Distinguishes occurs)
    (quiet : Exchange.Calm o.project.bus calm) (calmly : calm o.exchange) {s : σ}
    (trusted : Trusted ledger o.project.examine occurs s) :
    EndedByCache o.project (o.run s) ∨
      Matches Report.empty (o.exchange.announced.map Event.gist)
        (o.project.course o.continueOnError o.paths) (o.run s) :=
  Build.run_judged (w := o.start s) shares.faithful shares.fits distinguishes quiet
    (fun path member data read => occur data ⟨path, member, read⟩) trusted calmly

/-- **An incremental build is a clean build.**  After any history of a cache that was empty at first, a
further build agrees with the same build on an empty cache, unless the cache itself brings one of the
two to an end. -/
theorem run_replay_agrees {ledger : Ledger σ} {history : List (Episode σ)} {last : Occasion σ}
    {first clean : σ} {calm : Exchange → Prop}
    (shares : ∀ episode ∈ history, episode.Shares ledger last.project.examine)
    (shares_last : last.Shares ledger last.project.examine)
    (empty_first : ledger.Empty first) (empty_clean : ledger.Empty clean)
    (distinguishes : Distinguishes (Occurs history last))
    (quiet : Exchange.Calm last.project.bus calm) (calmly : calm last.exchange) :
    EndedByCache last.project (last.run (replay history first)) ∨
      EndedByCache last.project (last.run clean) ∨
        Agree (last.run (replay history first)) (last.run clean) := by
  have trusted : Trusted ledger last.project.examine (Occurs history last)
      (replay history first) :=
    trusted_replay shares (fun episode member data reads => .inl ⟨episode, member, reads⟩)
      (.empty empty_first)
  have reads : ∀ data, last.Reads data → Occurs history last data := fun _ => .inr
  rcases last.run_judged shares_last reads distinguishes quiet calmly trusted with
    ended | course
  · exact .inl ended
  · rcases last.run_judged shares_last reads distinguishes quiet calmly (.empty empty_clean) with
      ended' | course'
    · exact .inr (.inl ended')
    · exact .inr (.inr (course.agree course'))

/-- A build of one file with the given content, with a memory for its cache and without listeners. -/
def single (data : List UInt8) : Occasion Storage where
  project := ⟨fun _ => .ok data, Check.run, .memory, 0, fun _ => ⟨⟨2026, 1, 1⟩, 0, 0, 0, 0, none⟩⟩
  continueOnError := false
  paths := ["a.py"]
  exchange := Exchange.new 1 []
  ticks := 0

theorem single_shares (data : List UInt8) : (single data).Shares Ledger.memory Check.run :=
  ⟨FileCache.memory_faithful, fun _ _ _ => trivial, rfl⟩

theorem single_reads {data found : List UInt8} (reads : (single data).Reads found) :
    found = data := by
  obtain ⟨path, -, read⟩ := reads
  cases read
  rfl

/-- A file that is edited into something that is no text, and back. -/
theorem run_replay_agrees_reverted :
    Agree
      ((single [0x61]).run
        (replay [.build (single [0x61]), .build (single [0xff])] ⟨.directory [], []⟩))
      ((single [0x61]).run ⟨.directory [], []⟩) := by
  have empty : Ledger.memory.Empty ⟨.directory [], []⟩ := ⟨trivial, rfl⟩
  have shares : ∀ episode ∈ [Episode.build (single [0x61]), .build (single [0xff])],
      episode.Shares Ledger.memory Check.run := by
    simp only [List.mem_cons, List.not_mem_nil, or_false]
    rintro episode (rfl | rfl)
    · exact single_shares _
    · exact single_shares _
  have few : ∀ {data}, Occurs [.build (single [0x61]), .build (single [0xff])] (single [0x61]) data →
      data ∈ [[0x61], [0xff]] := by
    simp only [Occurs, List.mem_cons, List.not_mem_nil, or_false]
    rintro data (⟨episode, rfl | rfl, reads⟩ | reads)
    · exact .inl (single_reads reads)
    · exact .inr (single_reads reads)
    · exact .inl (single_reads reads)
  have distinct : ∀ a ∈ [[0x61], [0xff]], ∀ b ∈ [[0x61], [0xff]],
      Digest.fingerprint a = Digest.fingerprint b → a = b := by
    decide +kernel
  have agreed := run_replay_agrees shares (single_shares _) empty empty
    (fun occur occur' => distinct _ (few occur) _ (few occur')) (Exchange.calm_silent 0) rfl
  have unfailing : ∀ result : EStateM.Result Failure (World Storage) Report,
      ¬ EndedByCache (single [0x61]).project result := by
    rintro (_ | failure)
    · exact id
    · exact FileCache.memory_unfailing failure
  exact (agreed.resolve_left (unfailing _)).resolve_left (unfailing _)

end Docwright.Build
