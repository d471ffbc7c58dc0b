import Docwright.CommandLine
import Docwright.Proofs.Disk.Files
import Docwright.Proofs.Number.Digits

/-!
# Delivering a summary

`Delivering` lists what can come of delivering a summary, with the disk that it
leaves.  A summary that is delivered again meets the same fate (`deliver_again`): the
directories that were made are there, the file that was written is written over, and
what was in the way is still in the way.

Two summaries of the same records and rejections differ in their counts alone, which
can be written unless they have too many digits (`Summary.outcome_congr`).
-/

namespace Docwright.CommandLine

open Disk (Extends Leads)

variable {disk after : Disk} {path db : Path} {report report' : Report}

/-! ### Summaries -/

namespace Summary

/-- Whether there is a summary, or the failure instead. -/
def outcome (report : Report) : Except Failure Unit :=
  (render report).map fun _ => ()

theorem intText?_isSome {n : Nat} (few : n < 10 ^ Scalar.digitLimit) :
    (Scalar.intText? n).isSome = true := by
  rw [Option.isSome_iff_ne_none, ne_eq, Scalar.intText?_eq_none_iff, Int.natAbs_natCast]
  exact Nat.not_le.mpr few

/-- What the counts of a report have to be for it to be written. -/
structure Countable (report : Report) : Prop where
  cached : report.cached < 10 ^ Scalar.digitLimit
  analyzed : report.analyzed < 10 ^ Scalar.digitLimit

theorem outcome_eq_isSome (report : Report) :
    outcome report =
      match ofReport report with
      | .error failure => .error failure
      | .ok value => if (Json.pretty? 0 value).isSome then .ok () else .error .unprintable := by
  unfold outcome render
  cases ofReport report with
  | error failure => rfl
  | ok value =>
      simp only [bind, Except.bind]
      cases Json.pretty? 0 value <;> rfl

/-- An object can be written if its members can. -/
theorem isSome_pretty?_object (members : List (String × Json.Value)) :
    (Json.pretty? 0 (.object members)).isSome =
      members.all fun member => (Json.pretty? 1 member.2).isSome := by
  rw [Json.pretty?, Option.isSome_map, zero_add]
  induction members with
  | nil => rfl
  | cons member rest ih =>
      rw [Json.prettyMembers?, List.all_cons, ← ih]
      cases Json.pretty? 1 member.2 with
      | none => rfl
      | some text => cases Json.prettyMembers? 1 rest <;> rfl

/-- Whether a summary can be written depends on the records and the rejections alone. -/
theorem outcome_eq (countable : Countable report) :
    outcome report =
      match report.records.mapM ofRecord with
      | .error failure => .error failure
      | .ok records =>
        if (Json.pretty? 1 (.array records)).isSome &&
            (Json.pretty? 1 (.array (report.failures.map ofRejection))).isSome then .ok ()
        else .error .unprintable := by
  have cached := intText?_isSome countable.cached
  have analyzed := intText?_isSome countable.analyzed
  have scalar : ∀ s, Json.pretty? 1 (.scalar s) = Json.scalarText? s := fun s => by
    rw [Json.pretty?]
  rw [outcome_eq_isSome, ofReport]
  cases report.records.mapM ofRecord with
  | error failure => rfl
  | ok records =>
      simp only [bind, Except.bind, isSome_pretty?_object, List.all_cons, List.all_nil, text, int,
        scalar, Json.scalarText?, cached, analyzed, Option.isSome_some, Bool.true_and,
        Bool.and_true]

/-- **Summaries of the same records and rejections can both be written, or both fail alike.** -/
theorem outcome_congr (countable : Countable report) (countable' : Countable report')
    (records : report'.records = report.records) (failures : report'.failures = report.failures) :
    outcome report' = outcome report := by
  rw [outcome_eq countable, outcome_eq countable', records, failures]

end Summary

/-! ### What comes of a delivery -/

/-- Everything that can come of delivering a summary. -/
inductive Delivering (disk : Disk) (path : Path) (report : Report) : Delivery → Prop
  /-- The name of a directory has a null character. -/
  | null (null : path.parent.hasNull = true) : Delivering disk path report ⟨disk, some (.error .nullByte)⟩
  /-- The directories cannot be made. -/
  | unmade {after : Disk} {fault : Disk.Fault} {place : Path} (clean : path.parent.hasNull = false)
      (made : disk.ensureDirectories path.parent path.parent.names.length =
        ⟨after, some (fault, place)⟩) :
      Delivering disk path report (.faulty after fault place)
  /-- There is no summary. -/
  | unrendered {after : Disk} {failure : Failure} (clean : path.parent.hasNull = false)
      (made : disk.ensureDirectories path.parent path.parent.names.length = ⟨after, none⟩)
      (render : Summary.outcome report = .error failure) :
      Delivering disk path report ⟨after, some (.error failure)⟩
  /-- The name of the file has a null character. -/
  | unnamed {after : Disk} (clean : path.parent.hasNull = false)
      (made : disk.ensureDirectories path.parent path.parent.names.length = ⟨after, none⟩)
      (render : Summary.outcome report = .ok ()) (null : path.hasNull = true) :
      Delivering disk path report ⟨after, some (.error .nullByte)⟩
  /-- The file cannot be opened. -/
  | unopened {after : Disk} {fault : Disk.Fault} (clean : path.parent.hasNull = false)
      (made : disk.ensureDirectories path.parent path.parent.names.length = ⟨after, none⟩)
      (render : Summary.outcome report = .ok ()) (named : path.hasNull = false)
      (opened : after.fileForWriting path = .error fault) :
      Delivering disk path report (.faulty after fault path)
  /-- The file is written. -/
  | written {after : Disk} {names : List String} {content : Content}
      (clean : path.parent.hasNull = false)
      (made : disk.ensureDirectories path.parent path.parent.names.length = ⟨after, none⟩)
      (render : Summary.outcome report = .ok ()) (named : path.hasNull = false)
      (opened : after.fileForWriting path = .ok names) :
      Delivering disk path report ⟨after.put names (.file content), none⟩

theorem delivering (disk : Disk) (path : Path) (report : Report) :
    Delivering disk path report (deliver disk path report) := by
  unfold deliver
  -- the cases are what a delivery goes through, in its order
  by_cases null : path.parent.hasNull = true
  · rw [if_pos null]
    exact .null null
  · rw [if_neg null]
    have clean : path.parent.hasNull = false := by simpa using null
    cases made : disk.ensureDirectories path.parent path.parent.names.length with
    | mk after found =>
        cases found with
        | some fault =>
            obtain ⟨fault, place⟩ := fault
            exact .unmade clean made
        | none =>
            dsimp only
            unfold writeSummary
            cases render : Summary.render report with
            | error failure => exact .unrendered clean made (by rw [Summary.outcome, render]; rfl)
            | ok summary =>
                have rendered : Summary.outcome report = .ok () := by
                  rw [Summary.outcome, render]
                  rfl
                by_cases named : path.hasNull = true
                · dsimp only
                  rw [if_pos named]
                  exact .unnamed clean made rendered named
                · dsimp only
                  rw [if_neg named]
                  have named' : path.hasNull = false := by simpa using named
                  unfold Disk.write
                  cases opened : after.fileForWriting path with
                  | error fault => exact .unopened clean made rendered named' opened
                  | ok names => exact .written clean made rendered named' opened

/-- What kept a summary from the disk, if anything did, without the words for it. -/
def Delivery.verdict (delivery : Delivery) : Option (Except Failure Unit) :=
  delivery.problem.map (·.map fun _ => ())

/-- A summary whose directories are there goes straight to its file. -/
theorem deliver_of_leads (clean : path.parent.hasNull = false) (leads : after.Leads path.parent) :
    deliver after path report = writeSummary after path report := by
  have made : after.ensureDirectories path.parent path.parent.names.length = ⟨after, none⟩ :=
    Disk.ensure_of_leads clean (by rw [Path.first_all]; exact leads)
  rw [deliver, clean, if_neg Bool.false_ne_true, made]

theorem leads_of_made (clean : path.parent.hasNull = false)
    (made : disk.ensureDirectories path.parent path.parent.names.length = ⟨after, none⟩) :
    after.Leads path.parent := by
  have leads := @Disk.ensure_none_iff disk _ _ clean le_rfl
  rw [made, Path.first_all] at leads
  exact leads.mp rfl

theorem verdict_writeSummary (path : Path) :
    (writeSummary after path report).verdict =
      match Summary.outcome report with
      | .error failure => some (.error failure)
      | .ok _ =>
        if path.hasNull then some (.error .nullByte)
        else
          match after.fileForWriting path with
          | .ok _ => none
          | .error _ => some (.ok ()) := by
  unfold writeSummary Summary.outcome
  cases Summary.render report with
  | error failure => rfl
  | ok summary =>
      by_cases named : path.hasNull = true
      · simp only [named, if_true]
        rfl
      · simp only [named, Disk.write]
        cases after.fileForWriting path <;> rfl

/-- **A summary that is delivered again meets the same fate**, if it can be written as the first one. -/
theorem deliver_again (same : Summary.outcome report' = Summary.outcome report) :
    (deliver (deliver disk path report).disk path report').verdict =
      (deliver disk path report).verdict := by
  have coming := delivering disk path report
  generalize deliver disk path report = delivery at coming
  cases coming with
  | null null =>
      show Delivery.verdict (deliver disk path report') = _
      rw [deliver, if_pos null]
  | @unmade after fault place clean made =>
      obtain ⟨fault', again⟩ := Disk.ensure_again_fault clean le_rfl made
      show Delivery.verdict (deliver after path report') = _
      rw [deliver, clean, if_neg Bool.false_ne_true, again]
      rfl
  | unrendered clean made render =>
      rw [deliver_of_leads clean (leads_of_made clean made), verdict_writeSummary, same, render]
      rfl
  | unnamed clean made render null =>
      rw [deliver_of_leads clean (leads_of_made clean made), verdict_writeSummary, same, render]
      dsimp only
      rw [if_pos null]
      rfl
  | @unopened after fault clean made render named opened =>
      show Delivery.verdict (deliver after path report') = _
      rw [deliver_of_leads clean (leads_of_made clean made), verdict_writeSummary, same, render]
      dsimp only
      rw [named, if_neg Bool.false_ne_true, opened]
      rfl
  | @written after names content clean made render named opened =>
      have grown := (Disk.opened opened).extends_put content
      have leads := (leads_of_made clean made).extends grown
      rw [deliver_of_leads clean leads, verdict_writeSummary, same, render]
      dsimp only
      rw [named, if_neg Bool.false_ne_true, Disk.fileForWriting_put opened]
      rfl

/-! ### What a delivery leaves -/

/-- A delivery only adds to a disk. -/
theorem extends_deliver (disk : Disk) (path : Path) (report : Report) :
    Extends disk (deliver disk path report).disk := by
  have coming := delivering disk path report
  generalize deliver disk path report = delivery at coming
  have made : ∀ {after : Disk} {fault : Option (Disk.Fault × Path)}, path.parent.hasNull = false →
      disk.ensureDirectories path.parent path.parent.names.length = ⟨after, fault⟩ →
        Extends disk after := by
    intro after fault clean made
    have grown := @Disk.extends_ensure disk _ clean path.parent.names.length
    rwa [made] at grown
  cases coming with
  | null null => exact .refl disk
  | unmade clean made' | unrendered clean made' | unnamed clean made' | unopened clean made' =>
      exact made clean made'
  | @written after names content clean made' render named opened =>
      exact (made clean made').trans ((Disk.opened opened).extends_put content)

/-- A delivery leaves a file alone that its path does not lead to. -/
theorem at?_deliver {names : List String} {content : Content}
    (there : disk.top.at? names = some (.file content))
    (other : (deliver disk path report).disk.fileForWriting path ≠ .ok names) :
    (deliver disk path report).disk.top.at? names = some (.file content) := by
  have coming := delivering disk path report
  generalize deliver disk path report = delivery at coming other
  have made : ∀ {after : Disk} {fault : Option (Disk.Fault × Path)}, path.parent.hasNull = false →
      disk.ensureDirectories path.parent path.parent.names.length = ⟨after, fault⟩ →
        after.top.at? names = some (.file content) := by
    intro after fault clean made
    have stays := @Disk.at?_ensure disk _ _ _ clean there path.parent.names.length
    rwa [made] at stays
  cases coming with
  | null null => exact there
  | unmade clean made' | unrendered clean made' | unnamed clean made' | unopened clean made' =>
      exact made clean made'
  | @written after names' content' clean made' render named opened =>
      have there' := made clean made'
      refine (Disk.opened opened).at?_put_other there' ?_ content'
      rintro rfl
      exact other (Disk.fileForWriting_put opened _)

end Docwright.CommandLine
