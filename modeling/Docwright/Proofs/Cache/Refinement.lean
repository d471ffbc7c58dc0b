import Docwright.Proofs.Cache.Records

/-!
# A database answers as a map does

Any number of databases that lead to one file are called one after another, each
call perhaps amid trouble.  `issue` makes the calls and notes their replies, and
`latest` reads such a log as a map: a store that succeeded puts its record there,
an emptying that succeeded leaves nothing, and nothing else counts.

`Holds` is the invariant: the file holds, for every path, what the log says of
it.  Every call keeps it (`Holds.run`), so every lookup that succeeds answers
from the map, and so does a memory that is given the same stores
(`lookup_remembered`).  A memory keeps the members of enumerations in its records, of
which the file keeps the scalars that they are equal to (`FileRecord.plain`,
`FileRecord.same_plain`).
-/

namespace Docwright.Cache.Database

/-! ### Calls -/

/-- What is asked of a cache. -/
inductive Request
  | lookup (path : String)
  | store (record : FileRecord)
  | clear

/-- A request to a database, with the trouble it meets. -/
structure Call where
  db : Path
  trouble : Trouble
  request : Request

/-- What comes of a request. -/
inductive Reply
  | found (record : Option FileRecord)
  | done
  | failed (failure : Failure)

/-- Requests and their replies, in order. -/
abbrev Log := List (Request × Reply)

/-- The reply that an operation ends with, and the disk it leaves. -/
def ended {α : Type} (reply : α → Reply) : EStateM.Result Failure Disk α → Reply × Disk
  | .ok a disk => (reply a, disk)
  | .error failure disk => (.failed failure, disk)

/-- What comes of a call. -/
def Call.run (call : Call) (disk : Disk) : Reply × Disk :=
  match call.request with
  | .lookup path => ended .found (lookupAmid call.trouble call.db path disk)
  | .store record =>
    ended (fun _ => .done) (storeAmid call.trouble call.db record.path record disk)
  | .clear => ended (fun _ => .done) (clearAmid call.trouble call.db disk)

/-- What comes of calls one after another. -/
def issue : List Call → Disk → Log × Disk
  | [], disk => ([], disk)
  | call :: rest, disk =>
    let (reply, disk) := call.run disk
    let (log, disk) := issue rest disk
    ((call.request, reply) :: log, disk)

/-- The records by path after a request, given its reply. -/
def kept (records : String → Option FileRecord) : Request × Reply → String → Option FileRecord
  | (.store record, .done) => Function.update records record.path (some record)
  | (.clear, .done) => fun _ => none
  | _ => records

/-- The records that a log leaves for each path. -/
def latest (log : Log) : String → Option FileRecord :=
  log.foldl kept fun _ => none

/-- Whether a request, given its reply, says what is kept for a path. -/
def Decides (path : String) : Request × Reply → Prop
  | (.store record, .done) => record.path = path
  | (.clear, .done) => True
  | _ => False

/-- The latest store for a path that succeeded was of the record, and no emptying has succeeded since
then. -/
def Latest (log : Log) (path : String) (record : FileRecord) : Prop :=
  ∃ before after, log = before ++ (.store record, .done) :: after ∧ record.path = path ∧
    ∀ entry ∈ after, ¬ Decides path entry

/-- A memory after a request, given its reply. -/
def remember (m : Memory) : Request × Reply → Memory
  | (.store record, .done) => m.keep record.path record
  | (.clear, .done) => []
  | _ => m

/-- The memory that was given the stores that succeeded, and made anew for each emptying that did. -/
def remembered (log : Log) : Memory :=
  log.foldl remember []

variable {trouble : Trouble} {db db' : Path} {disk disk' : Disk} {names : List String}
  {path : String} {record : FileRecord} {t : Tables} {records : String → Option FileRecord}

/-- A memory answers from the latest records. -/
theorem lookup_remembered (log : Log) (path : String) :
    (remembered log).lookup path = latest log path := by
  have grown : ∀ (log : Log) (m : Memory) (records : String → Option FileRecord),
      (∀ q, m.lookup q = records q) →
        ∀ q, (log.foldl remember m).lookup q = log.foldl kept records q := by
    intro log
    induction log with
    | nil => exact fun m records same => same
    | cons entry rest ih =>
        intro m records same
        refine ih (remember m entry) (kept records entry) ?_
        intro q
        obtain ⟨request, reply⟩ := entry
        cases request with
        | lookup path => exact same q
        | store record =>
            cases reply with
            | found found => exact same q
            | failed failure => exact same q
            | done => rw [remember, kept, Memory.lookup_keep, same, Function.update_apply]
        | clear =>
            cases reply with
            | found found => exact same q
            | failed failure => exact same q
            | done => rfl
  exact grown log [] (fun _ => none) (fun _ => rfl) path

/-- A request that does not say what is kept for a path leaves what is kept there. -/
theorem kept_of_not_decides {entry : Request × Reply} (not : ¬ Decides path entry) :
    kept records entry path = records path := by
  obtain ⟨request, reply⟩ := entry
  cases request with
  | lookup path => rfl
  | store record =>
      cases reply with
      | found found => rfl
      | failed failure => rfl
      | done => exact Function.update_of_ne (Ne.symm not) _ _
  | clear =>
      cases reply with
      | found found => rfl
      | failed failure => rfl
      | done => exact absurd trivial not

/-- The latest store of a log with one more request is that request or was the latest before. -/
theorem latest_concat (log : Log) (entry : Request × Reply) (path : String) (record : FileRecord) :
    Latest (log ++ [entry]) path record ↔
      entry = (.store record, .done) ∧ record.path = path ∨
        ¬ Decides path entry ∧ Latest log path record := by
  constructor
  · rintro ⟨before, after, whole, own, quiet⟩
    rcases List.eq_nil_or_concat after with rfl | ⟨after, last, rfl⟩
    · obtain ⟨-, same⟩ := List.append_inj' whole rfl
      exact .inl ⟨(List.cons.inj same).1, own⟩
    · rw [List.concat_eq_append, ← List.cons_append, ← List.append_assoc] at whole
      obtain ⟨rfl, same⟩ := List.append_inj' whole rfl
      obtain rfl := (List.cons.inj same).1
      refine .inr ⟨quiet entry (by simp), before, after, rfl, own, fun e member => ?_⟩
      exact quiet e (by simp [member])
  · rintro (⟨rfl, own⟩ | ⟨quiet, before, after, rfl, own, quiet'⟩)
    · exact ⟨log, [], rfl, own, fun e member => absurd member List.not_mem_nil⟩
    · refine ⟨before, after ++ [entry], by simp, own, fun e member => ?_⟩
      rcases List.mem_append.mp member with member | member
      · exact quiet' e member
      · rw [List.mem_singleton.mp member]
        exact quiet

/-- **The record that a log leaves for a path is that of its latest store.** -/
theorem latest_eq_some_iff (log : Log) (path : String) (record : FileRecord) :
    latest log path = some record ↔ Latest log path record := by
  induction log using List.reverseRecOn with
  | nil =>
      refine ⟨nofun, ?_⟩
      rintro ⟨before, after, impossible, -⟩
      simp at impossible
  | append_singleton log entry ih =>
      have last : latest (log ++ [entry]) path = kept (latest log) entry path := by
        rw [latest, List.foldl_append]
        rfl
      rw [last, latest_concat]
      by_cases decides : Decides path entry
      · obtain ⟨request, reply⟩ := entry
        cases request with
        | lookup path => exact decides.elim
        | store stored =>
            cases reply with
            | found found => exact decides.elim
            | failed failure => exact decides.elim
            | done =>
                obtain rfl : stored.path = path := decides
                rw [kept, Function.update_self]
                constructor
                · intro same
                  obtain rfl := Option.some.inj same
                  exact .inl ⟨rfl, rfl⟩
                · rintro (⟨same, -⟩ | ⟨quiet, -⟩)
                  · cases same
                    rfl
                  · exact absurd rfl quiet
        | clear =>
            cases reply with
            | found found => exact decides.elim
            | failed failure => exact decides.elim
            | done =>
                refine ⟨nofun, ?_⟩
                rintro (⟨same, -⟩ | ⟨quiet, -⟩)
                · cases same
                · exact absurd trivial quiet
      · rw [kept_of_not_decides decides, ih]
        constructor
        · exact fun latest => .inr ⟨decides, latest⟩
        · rintro (⟨rfl, own⟩ | ⟨-, latest⟩)
          · exact absurd own decides
          · exact latest

theorem issue_cons (call : Call) (rest : List Call) (disk : Disk) :
    issue (call :: rest) disk =
      ((call.request, (call.run disk).1) :: (issue rest (call.run disk).2).1,
        (issue rest (call.run disk).2).2) := rfl

/-- A part of a log is the log of the calls that it holds. -/
theorem issue_split {calls : List Call} {before after : Log} {entry : Request × Reply}
    (split : (issue calls disk).1 = before ++ entry :: after) :
    ∃ first call rest, calls = first ++ call :: rest ∧ (issue first disk).1 = before ∧
      entry = (call.request, (call.run (issue first disk).2).1) := by
  induction calls generalizing disk before with
  | nil => simp [issue] at split
  | cons call rest ih =>
      rw [issue_cons] at split
      cases before with
      | nil =>
          obtain ⟨rfl, -⟩ := List.cons.inj split
          exact ⟨[], call, rest, rfl, rfl, rfl⟩
      | cons first before =>
          obtain ⟨rfl, onwards⟩ := List.cons.inj split
          obtain ⟨calls', call', rest', rfl, same, entry_⟩ := ih onwards
          refine ⟨call :: calls', call', rest', rfl, ?_, ?_⟩
          · rw [issue_cons, same]
          · rw [issue_cons]
            exact entry_

/-- A call that finds something is a lookup that succeeds. -/
theorem lookup_of_run {call : Call} {found : Option FileRecord}
    (entry : (Request.lookup path, Reply.found found) = (call.request, (call.run disk).1)) :
    ∃ disk', lookupAmid call.trouble call.db path disk = .ok found disk' := by
  obtain ⟨db, trouble, request⟩ := call
  obtain ⟨rfl, reply⟩ := Prod.mk.inj entry
  simp only [Call.run] at reply
  cases run : lookupAmid trouble db path disk with
  | ok answer disk' =>
      rw [run] at reply
      rw [Reply.found.inj reply]
      exact ⟨disk', rfl⟩
  | error failure disk' =>
      rw [run] at reply
      exact nomatch reply

/-! ### The invariant -/

/-- The file that every one of the databases leads to holds the records given, and nothing that could
not be read. -/
structure Holds (dbs : Path → Prop) (names : List String) (records : String → Option FileRecord)
    (disk : Disk) : Prop where
  opened : ∀ db, dbs db → disk.fileForWriting db = .ok names
  rows : ∃ t, sightOf (disk.top.at? names) = .rows t ∧
    ∀ q, t.record? q = .ok ((records q).map FileRecord.plain)

variable {dbs : Path → Prop}

theorem Holds.held (holds : Holds dbs names records disk) (on : dbs db) (path : String) :
    held db disk path = .ok ((records path).map FileRecord.plain) := by
  obtain ⟨t, seen, kept⟩ := holds.rows
  rw [Database.held, sight_opened (holds.opened db on), seen]
  exact kept path

/-- What was written where the file is leaves the databases leading there. -/
theorem Holds.put (holds : Holds dbs names records disk) (on : dbs db) {content : Content}
    {records' : String → Option FileRecord} (seen : sightOf (some (.file content)) = .rows t)
    (kept : ∀ q, t.record? q = .ok ((records' q).map FileRecord.plain)) :
    Holds dbs names records' (disk.put names (.file content)) where
  opened db' on' := Disk.fileForWriting_put (holds.opened db' on') content
  rows := by
    refine ⟨t, ?_, kept⟩
    rw [(Disk.opened (holds.opened db on)).at?_put, seen]

theorem Holds.alike (holds : Holds dbs names records disk) (on : dbs db)
    (alike : Alike db disk disk') : Holds dbs names records disk' := by
  cases alike with
  | same => exact holds
  | @written names' content opened seen =>
      obtain rfl : names' = names := Except.ok.inj (opened.symm.trans (holds.opened db on))
      obtain ⟨t, rows, kept⟩ := holds.rows
      exact holds.put on (seen.symm.trans rows) kept

/-- **A call keeps the invariant**: the file holds what the log says of it with the reply. -/
theorem Holds.run (holds : Holds dbs names records disk) {call : Call} (on : dbs call.db)
    (lasting : call.db.text ≠ ":memory:")
    (legible : ∀ record, call.request = .store record → record.Legible) :
    Holds dbs names (kept records (call.request, (call.run disk).1)) (call.run disk).2 := by
  obtain ⟨db, trouble, request⟩ := call
  cases request with
  | lookup path =>
      have alike := (lookupAmid_opens trouble db path disk).1
      simp only [Call.run]
      cases run : lookupAmid trouble db path disk with
      | ok found disk' =>
          rw [run] at alike
          exact holds.alike on alike
      | error failure disk' =>
          rw [run] at alike
          exact holds.alike on alike
  | store record =>
      simp only [Call.run]
      cases run : storeAmid trouble db record.path record disk with
      | ok done disk' =>
          obtain ⟨names', t, t', rows, opened, seen, rfl, written, view⟩ := view_of_store lasting run
          obtain rfl : names' = names := Except.ok.inj (opened.symm.trans (holds.opened db on))
          obtain ⟨t₀, seen₀, held⟩ := holds.rows
          obtain rfl : t₀ = t := Sight.rows.inj (seen₀.symm.trans seen)
          refine holds.put on (sightOf_database t') ?_
          intro q
          show t'.record? q =
            .ok ((Function.update records record.path (some record) q).map FileRecord.plain)
          rw [Tables.record?_update (legible record rfl) rfl written view, Function.update_apply,
            Function.update_apply]
          split
          · rfl
          · exact held q
      | error failure disk' => exact holds.alike on (alike_of_store run).1
  | clear =>
      simp only [Call.run]
      cases run : clearAmid trouble db disk with
      | ok done disk' =>
          rw [clearAmid, clearing_eq] at run
          obtain ⟨names', t, t', opened, -, changes, rfl⟩ :=
            changes_of_perform plain_clearingBody lasting run
          obtain rfl : names' = names := Except.ok.inj (opened.symm.trans (holds.opened db on))
          refine holds.put on (sightOf_database t') ?_
          intro q
          show t'.record? q = .ok none
          rw [Tables.record?_eq, Tables.view_clearing changes]
      | error failure disk' => exact holds.alike on (alike_of_clear run).1

/-- **Calls keep the invariant.** -/
theorem Holds.issue (holds : Holds dbs names records disk) (calls : List Call)
    (on : ∀ call ∈ calls, dbs call.db ∧ call.db.text ≠ ":memory:")
    (legible : ∀ call ∈ calls, ∀ record, call.request = .store record → record.Legible) :
    Holds dbs names ((issue calls disk).1.foldl kept records) (issue calls disk).2 := by
  induction calls generalizing records disk with
  | nil => exact holds
  | cons call rest ih =>
      obtain ⟨here, lasting⟩ := on call List.mem_cons_self
      exact ih (holds.run here lasting (legible call List.mem_cons_self))
        (fun c member => on c (List.mem_cons_of_mem _ member))
        (fun c member => legible c (List.mem_cons_of_mem _ member))

/-! ### One operation -/

/-- What an operation on a database leaves alone. -/
structure Isolated (db : Path) (disk : Disk) : Prop where
  /-- A lookup changes nothing that can be seen. -/
  lookup : ∀ trouble path db', disk.fileForWriting db' = disk.fileForWriting db →
    sight db' (endState (lookupAmid trouble db path disk)) = sight db' disk
  /-- A store changes no answer about another path. -/
  store : ∀ {trouble record disk'}, storeAmid trouble db record.path record disk = .ok () disk' →
    ∀ db', disk.fileForWriting db' = disk.fileForWriting db → ∀ q ≠ record.path, ∀ trouble',
      answer (lookupAmid trouble' db' q disk') = answer (lookupAmid trouble' db' q disk)
  /-- A store leaves no problems of its path but those of the record. -/
  overwritten : ∀ {trouble record disk'},
    storeAmid trouble db record.path record disk = .ok () disk' →
      ∀ db', disk.fileForWriting db' = disk.fileForWriting db →
        ∃ t', sight db' disk' = .rows t' ∧
          problemRows? record.path 0 record.problems = some (t'.problemsOf record.path)

theorem isolated (lasting : db.text ≠ ":memory:") : Isolated db disk where
  lookup trouble path db' same :=
    ((lookupAmid_opens trouble db path disk).1.of_same_file same).sight
  store := by
    intro trouble record disk' done db' same q other trouble'
    exact answer_other_after_store lasting done same other trouble'
  overwritten := by
    intro trouble record disk' done db' same
    obtain ⟨names, t, t', rows, opened, -, rfl, written, view⟩ := view_of_store lasting done
    refine ⟨t', sight_written (same.trans opened) t', ?_⟩
    have replaced := congrFun view record.path
    rw [Function.update_self] at replaced
    rw [written]
    exact congrArg some (Prod.ext_iff.mp replaced).2.symm

/-- A lookup without trouble answers from what the file holds. -/
theorem Holds.answer_lookup (holds : Holds dbs names records disk) (on : dbs db)
    (lasting : db.text ≠ ":memory:") (null : db.hasNull = false) (path : String) :
    answer (Database.lookup db path disk) = .ok ((records path).map FileRecord.plain) := by
  obtain ⟨t, seen, kept⟩ := holds.rows
  have opens := opening_calm (.lookup path) null lasting t
  have selects : selecting .calm db path t = .ok ((records path).map FileRecord.plain) := by
    rw [selecting, Trouble.first?_calm, kept path]
  rw [Database.lookup, (lookupAmid_opens .calm db path disk).2, sight_opened (holds.opened db on),
    seen, opens]
  exact selects

/-! ### Any number of calls -/

/-- **A database answers as a map does.**  Whatever calls are made to a file that holds nothing at
first, every lookup that succeeds finds the record of the latest store of its path, and so does a memory
that is given the same stores, but for members of enumerations, in the places of which the file holds the
scalars that they are equal to.  Without trouble a lookup does succeed. -/
theorem log_of_calls_refines_map (calls : List Call) (seen : sightOf (disk.top.at? names) = .rows t)
    (empty : t.files = [])
    (on : ∀ call ∈ calls,
      disk.fileForWriting call.db = .ok names ∧ call.db.text ≠ ":memory:")
    (legible : ∀ call ∈ calls, ∀ record, call.request = .store record → record.Legible) :
    (∀ {before path found after},
      (issue calls disk).1 = before ++ (.lookup path, .found found) :: after →
        (∀ record, found = some record ↔ ∃ stored, Latest before path stored ∧ stored.plain = record) ∧
          found = ((remembered before).lookup path).map FileRecord.plain) ∧
    (∀ {db}, disk.fileForWriting db = .ok names → db.text ≠ ":memory:" → db.hasNull = false →
      ∀ path, answer (Database.lookup db path (issue calls disk).2) =
        .ok ((latest (issue calls disk).1 path).map FileRecord.plain)) ∧
    (∀ {db}, disk.fileForWriting db = .ok names → db.text ≠ ":memory:" →
      Isolated db (issue calls disk).2) := by
  have start : Holds (fun db => disk.fileForWriting db = .ok names) names (fun _ => none) disk := by
    refine ⟨fun _ opened => opened, t, seen, fun q => ?_⟩
    rw [Tables.record?, Tables.file?, empty]
    rfl
  have whole := start.issue calls on legible
  refine ⟨?_, ?_, ?_⟩
  · intro before path found after split
    obtain ⟨first, call, rest, rfl, rfl, entry⟩ := issue_split split
    have holds := start.issue first (fun c member => on c (by simp [member]))
      (fun c member => legible c (by simp [member]))
    obtain ⟨opened, lasting⟩ := on call (by simp)
    have found_ : found = (latest (issue first disk).1 path).map FileRecord.plain := by
      obtain ⟨disk', answered⟩ := lookup_of_run entry
      have held := held_of_lookup lasting answered
      rw [holds.held opened path] at held
      exact (Except.ok.inj held).symm
    constructor
    · intro record
      simp only [found_, Option.map_eq_some_iff, latest_eq_some_iff]
    · rw [found_, lookup_remembered]
  · intro db opened lasting null path
    exact whole.answer_lookup opened lasting null path
  · intro db opened lasting
    exact isolated lasting

/-- A record with a problem whose message holds a number, a text and what is not a number. -/
def noted : FileRecord :=
  ⟨"a.py", "1", ⟨⟨2026, 1, 2⟩, 3, 4, 5, 0, some 0⟩,
    [⟨.error, "x", [.int 7, .text "y", .float .nan], some 1⟩]⟩

theorem noted_legible : noted.Legible where
  analyzed := Timestamp.Valid.readsBack (by constructor <;> decide)
  values := by simp [noted, Problem.values, Scalar.Canonical, Double.Canonical]

/-- A record that was stored in an empty database is found there. -/
theorem log_of_calls_refines_map_noted :
    answer (Database.lookup ⟨"", ["c"]⟩ "a.py"
      (issue [⟨⟨"", ["c"]⟩, .calm, .store noted⟩] (holding (.database .empty))).2) =
        .ok (some noted) := by
  have opened := fileForWriting_holding (.database .empty)
  obtain ⟨disk', stored⟩ : ∃ disk', storeAmid .calm ⟨"", ["c"]⟩ "a.py" noted
      (holding (.database .empty)) = .ok () disk' := by
    rw [storeAmid, perform_apply, openTables_eq, bind_apply, connect_apply, opened]
    exact ⟨_, rfl⟩
  have log : (issue [⟨⟨"", ["c"]⟩, .calm, .store noted⟩] (holding (.database .empty))).1 =
      [(.store noted, .done)] := by
    rw [issue_cons]
    show [(Request.store noted, (ended _ (storeAmid .calm ⟨"", ["c"]⟩ "a.py" noted _)).1)] = _
    rw [stored]
    rfl
  obtain ⟨-, answers, -⟩ := log_of_calls_refines_map
    [⟨⟨"", ["c"]⟩, .calm, .store noted⟩] (t := Tables.empty) rfl rfl
    (fun call member => by
      obtain rfl := List.mem_singleton.mp member
      exact ⟨opened, by decide +kernel⟩)
    (fun call member record same => by
      obtain rfl := List.mem_singleton.mp member
      obtain rfl := Request.store.inj same
      exact noted_legible)
  rw [answers opened (by decide +kernel) (by decide +kernel) "a.py", log]
  rfl

end Docwright.Cache.Database
