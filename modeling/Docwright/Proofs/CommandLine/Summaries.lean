import Docwright.Proofs.Check.Attested
import Docwright.Proofs.CommandLine.Delivery

/-!
# Summaries

There is a summary of every report whose problems can be put in words and fit into a
table, unless its counts have too many digits (`Summary.render_ok`), and its status says
whether anything in it is grave (`Report.status_iff`).

Such a summary is written unless the directories above it cannot be made or its file
cannot be opened (`deliver_cases`).  Delivering it makes no database (`at?_of_deliver`).
-/

namespace Docwright

open Cache (fitsInteger integerLimit)

/-! ### The status -/

theorem Severity.reaches_max (a b threshold : Severity) :
    (a.max b).reaches threshold = (a.reaches threshold || b.reaches threshold) := by
  cases a <;> cases b <;> cases threshold <;> rfl

/-- The gravest problem reaches a threshold if one of them does. -/
theorem FileRecord.gravest?_reaches (problems : List Problem) (threshold : Severity) :
    ((gravest? problems).map (·.reaches threshold)).getD false =
      problems.any (·.severity.reaches threshold) := by
  cases problems with
  | nil => rfl
  | cons p rest =>
      rw [gravest?, Option.map_some, Option.getD_some, List.any_cons]
      generalize p.severity = worst
      induction rest generalizing worst with
      | nil => exact (Bool.or_false _).symm
      | cons q rest ih => rw [List.foldl_cons, ih, Severity.reaches_max, List.any_cons, Bool.or_assoc]

/-- **What the status of a report says**: something was rejected, or a record has a problem that is an error
or graver. -/
theorem Report.status_iff (report : Report) :
    report.status = "completed_with_errors" ↔ report.failures ≠ [] ∨
      ∃ record ∈ report.records, ∃ p ∈ record.problems, p.severity.reaches .error = true := by
  have grave : ∀ record, isGrave record = record.problems.any (·.severity.reaches .error) :=
    fun record => FileRecord.gravest?_reaches record.problems .error
  have clean : report.status = "completed_with_errors" ↔ report.isClean = false := by
    unfold status
    cases report.isClean <;> decide
  rw [clean, isClean, Bool.and_eq_false_iff, Bool.not_eq_false', List.any_eq_true]
  simp only [grave, List.any_eq_true, ne_eq, ← List.isEmpty_iff, Bool.not_eq_true]

namespace CommandLine

variable {disk : Disk} {path : Path} {report : Report}

namespace Summary

open Json (Value)

/-! ### The text -/

/-- A value can be written, at whatever level. -/
def Writable (v : Value) : Prop := ∀ level, (Json.pretty? level v).isSome = true

theorem writable_text (s : String) : Writable (text s) := fun level => by
  rw [text, Json.pretty?]
  rfl

/-- A number that fits into a table has few digits. -/
theorem writable_int {n : Int} (fits : fitsInteger n = true) : Writable (int n) := by
  intro level
  have few : n.natAbs < 10 ^ Scalar.digitLimit := by
    have least : integerLimit < 10 ^ Scalar.digitLimit :=
      calc integerLimit = 2 ^ 63 := rfl
        _ < 2 ^ Scalar.digitLimit := Nat.pow_lt_pow_right (by decide) (by decide)
        _ ≤ 10 ^ Scalar.digitLimit := Nat.pow_le_pow_left (by decide) _
    rw [fitsInteger, Bool.and_eq_true, decide_eq_true_iff, decide_eq_true_iff] at fits
    omega
  have digits := intText?_isSome few
  rw [int, Json.pretty?, Json.scalarText?]
  rw [Scalar.intText?, Int.natAbs_natCast] at digits
  rw [Scalar.intText?]
  split at digits
  · cases digits
  · next short => rw [if_neg short, Option.isSome_some]

theorem writable_null : Writable (.scalar .null) := fun level => by
  rw [Json.pretty?]
  rfl

theorem writable_array {items : List Value} (each : ∀ v ∈ items, Writable v) : Writable (.array items) := by
  have written : ∀ level, (Json.prettyItems? level items).isSome = true := by
    intro level
    induction items with
    | nil => rfl
    | cons v rest ih =>
        obtain ⟨first, here⟩ := Option.isSome_iff_exists.mp (each v List.mem_cons_self level)
        obtain ⟨others, there⟩ :=
          Option.isSome_iff_exists.mp (ih fun u member => each u (List.mem_cons_of_mem _ member))
        rw [Json.prettyItems?, here, there]
        rfl
  intro level
  rw [Json.pretty?, Option.isSome_map]
  exact written _

theorem writable_object {members : List (String × Value)} (each : ∀ member ∈ members, Writable member.2) :
    Writable (.object members) := by
  have written : ∀ level, (Json.prettyMembers? level members).isSome = true := by
    intro level
    induction members with
    | nil => rfl
    | cons member rest ih =>
        obtain ⟨first, here⟩ := Option.isSome_iff_exists.mp (each member List.mem_cons_self level)
        obtain ⟨others, there⟩ :=
          Option.isSome_iff_exists.mp (ih fun u within => each u (List.mem_cons_of_mem _ within))
        rw [Json.prettyMembers?, here, there]
        rfl
  intro level
  rw [Json.pretty?, Option.isSome_map]
  exact written _

/-- What can be made of each item can be made of all. -/
theorem mapM_ok {α β ε : Type} {f : α → Except ε β} {P : β → Prop} {items : List α}
    (each : ∀ a ∈ items, ∃ b, f a = .ok b ∧ P b) : ∃ made, items.mapM f = .ok made ∧ ∀ b ∈ made, P b := by
  induction items with
  | nil => exact ⟨[], rfl, nofun⟩
  | cons a rest ih =>
      obtain ⟨b, first, here⟩ := each a List.mem_cons_self
      obtain ⟨made, others, there⟩ := ih fun c member => each c (List.mem_cons_of_mem _ member)
      refine ⟨b :: made, ?_, List.forall_mem_cons.mpr ⟨here, there⟩⟩
      rw [List.mapM_cons, first, others]
      rfl

/-- A problem can be put in words, and its line fits into a table. -/
structure Tellable (p : Problem) : Prop where
  words : ∃ words, p.render = .ok words
  line : ∀ n ∈ p.line, fitsInteger n = true

theorem ofProblem_ok {p : Problem} (tellable : Tellable p) : ∃ v, ofProblem p = .ok v ∧ Writable v := by
  obtain ⟨words, rendered⟩ := tellable.words
  refine ⟨_, by rw [ofProblem, rendered], writable_object ?_⟩
  have line : Writable ((p.line.map int).getD (.scalar .null)) := by
    cases found : p.line with
    | none => exact writable_null
    | some n => exact writable_int (tellable.line n found)
  simp only [List.mem_cons, List.not_mem_nil, or_false]
  rintro member (rfl | rfl | rfl)
  · exact writable_text _
  · exact line
  · exact writable_text _

theorem ofRecord_ok {record : FileRecord} (tellable : ∀ p ∈ record.problems, Tellable p) :
    ∃ v, ofRecord record = .ok v ∧ Writable v := by
  obtain ⟨problems, made, writable⟩ := mapM_ok fun p member => ofProblem_ok (tellable p member)
  refine ⟨_, by rw [ofRecord, made]; rfl, writable_object ?_⟩
  simp only [List.mem_cons, List.not_mem_nil, or_false]
  rintro member (rfl | rfl | rfl | rfl)
  · exact writable_text _
  · exact writable_text _
  · exact writable_text _
  · exact writable_array writable

theorem writable_ofRejection (r : Rejection) : Writable (ofRejection r) := by
  refine writable_object ?_
  simp only [List.mem_cons, List.not_mem_nil, or_false]
  rintro member (rfl | rfl)
  · exact writable_text _
  · exact writable_text _

/-- **There is a summary** of a report whose problems can be told, if it can be counted. -/
theorem render_ok (countable : Countable report)
    (tellable : ∀ record ∈ report.records, ∀ p ∈ record.problems, Tellable p) :
    ∃ summary, render report = .ok summary := by
  obtain ⟨records, made, writable⟩ := mapM_ok fun record member => ofRecord_ok (tellable record member)
  have written : outcome report = .ok () := by
    have failures : Writable (.array (report.failures.map ofRejection)) := by
      refine writable_array fun v member => ?_
      obtain ⟨r, -, rfl⟩ := List.mem_map.mp member
      exact writable_ofRejection r
    rw [outcome_eq countable, made]
    dsimp only
    rw [writable_array writable 1, failures 1, Bool.and_self, if_pos rfl]
  unfold outcome at written
  cases rendered : render report with
  | error failure =>
      rw [rendered] at written
      cases written
  | ok summary => exact ⟨summary, rfl⟩

end Summary

/-! ### The file -/

/-- The directories above a summary cannot be made, or its file cannot be opened then. -/
inductive Unwritable (disk : Disk) (path : Path) : Prop
  | unmade {disk' : Disk} {fault : Disk.Fault × Path}
      (made : disk.ensureDirectories path.parent path.parent.names.length = ⟨disk', some fault⟩)
  | unopened {disk' : Disk} {fault : Disk.Fault}
      (made : disk.ensureDirectories path.parent path.parent.names.length = ⟨disk', none⟩)
      (closed : disk'.fileForWriting path = .error fault)

theorem parent_hasNull (clean : path.hasNull = false) : path.parent.hasNull = false := by
  rw [Path.hasNull, List.any_eq_false] at clean ⊢
  exact fun name member => clean name (List.dropLast_subset _ member)

/-- The bytes of a summary. -/
def Summary.content (summary : List Char) : Content :=
  .bytes (String.ofList summary).toUTF8.toList

/-- **What comes of delivering a summary**: a fault, or the summary is in its file. -/
theorem deliver_cases {summary : List Char} (clean : path.hasNull = false)
    (rendered : Summary.render report = .ok summary) :
    (Unwritable disk path ∧ ∃ detail, (deliver disk path report).problem = some (.ok detail)) ∨
    (¬ Unwritable disk path ∧ (deliver disk path report).problem = none ∧
      ∃ (disk' : Disk) (names : List String),
      disk'.fileForWriting path = .ok names ∧
      (deliver disk path report).disk = disk'.put names (.file (Summary.content summary))) := by
  unfold deliver
  rw [if_neg (by rw [parent_hasNull clean]; exact Bool.false_ne_true)]
  cases made : disk.ensureDirectories path.parent path.parent.names.length with
  | mk disk' found =>
      cases found with
      | some fault => exact .inl ⟨.unmade made, _, rfl⟩
      | none =>
          simp only [writeSummary, rendered, clean, Bool.false_eq_true, if_false]
          unfold Disk.write
          cases opened : disk'.fileForWriting path with
          | error fault => exact .inl ⟨.unopened made opened, _, rfl⟩
          | ok names =>
              refine .inr ⟨?_, rfl, disk', names, opened, rfl⟩
              rintro (made' | ⟨made', closed⟩)
              · cases made.symm.trans made'
              · cases made.symm.trans made'
                cases opened.symm.trans closed

/-- A delivery makes directories and writes one file of bytes, as far as it gets. -/
theorem deliver_disk (disk : Disk) (path : Path) (report : Report) :
    (deliver disk path report).disk = disk ∨ path.parent.hasNull = false ∧
      ((deliver disk path report).disk =
          (disk.ensureDirectories path.parent path.parent.names.length).disk ∨
        ∃ names data, (deliver disk path report).disk =
          (disk.ensureDirectories path.parent path.parent.names.length).disk.put names
            (.file (.bytes data))) := by
  unfold deliver
  by_cases null : path.parent.hasNull = true
  · rw [if_pos null]
    exact .inl rfl
  · rw [if_neg null]
    refine .inr ⟨by simpa using null, ?_⟩
    cases disk.ensureDirectories path.parent path.parent.names.length with
    | mk disk' found =>
        cases found with
        | some fault => exact .inl rfl
        | none =>
            dsimp only
            unfold writeSummary
            cases Summary.render report with
            | error failure => exact .inl rfl
            | ok summary =>
                by_cases named : path.hasNull = true
                · exact .inl (by simp only [named, if_true])
                · simp only [named, Disk.write]
                  cases opened : disk'.fileForWriting path with
                  | error fault => exact .inl rfl
                  | ok names => exact .inr ⟨names, _, rfl⟩

/-- Every database that is there after a delivery was there before. -/
theorem at?_of_deliver {names : List String} {t : Cache.Tables}
    (found : (deliver disk path report).disk.top.at? names = some (.file (.database t))) :
    disk.top.at? names = some (.file (.database t)) := by
  obtain same | ⟨clean, same | ⟨names', data, same⟩⟩ := deliver_disk disk path report
  · rwa [same] at found
  · rw [same] at found
    exact Disk.at?_of_ensure clean _ found
  · rw [same] at found
    obtain there | ⟨-, other⟩ := Node.at?_of_put_file found
    · exact Disk.at?_of_ensure clean _ there
    · cases other

end CommandLine

end Docwright
