import Docwright.Proofs.Build.Hits

/-!
# Files whose record is current

The record of a file is `Current` if the cache holds one of the content that the
file has.  Once a visit has settled the record of a file it is current, and it
stays so for as long as the file is not edited, whatever else is built
(`current_threads`).  A file whose record is current is not examined
(`examined_of_current`).

From this follows what is examined more than once: in one run no file whose record
is settled at any of its visits (`examined_once`), and in a run that repeats an
earlier one only files that this one never settled, since their examination or the
cache failed, or since it came to its end before (`examined_again`).
-/

namespace Docwright.Build

variable {σ : Type}

/-- The cache holds a record of the content of a file. -/
def Current (project : Project σ) (ledger : Ledger σ) (path : String) (s : σ) : Prop :=
  ∃ data record, project.read path = .ok data ∧ ledger.kept s path = some record ∧
    record.fingerprint = Digest.fingerprint data

/-- The examination of a file fails for a reason that does not lie in its encoding. -/
def Rejects (project : Project σ) (path detail : String) : Prop :=
  ∃ data text, project.read path = .ok data ∧ Text.Utf8.decode data = .ok text ∧
    (project.examine path (String.ofList text)).result = .error detail

/-- A file is visited with success. -/
def Succeeds (project : Project σ) (path : String) (visit : String × World σ) : Prop :=
  visit.1 = path ∧ (settled? project visit).isSome

section

variable {project : Project σ} {continueOnError : Bool} {ledger : Ledger σ} {path q : String}
  {w : World σ} {paths : List String}

/-- A record that is current is in the way of another one. -/
theorem Current.not_stale {s : σ} {data : List UInt8} (current : Current project ledger path s)
    (read : project.read path = .ok data) :
    current? (Digest.fingerprint data) (ledger.kept s path) ≠ none := by
  obtain ⟨data', record, read', kept, same⟩ := current
  obtain rfl := Except.ok.inj (read'.symm.trans read)
  rw [kept, current?_of_same same]
  exact Option.some_ne_none record

/-- A file whose record is current is not examined, and takes no timestamp. -/
theorem examined_of_current (faithful : project.cache.Faithful ledger)
    (legal : ledger.legal w.store) (current : Current project ledger path w.store) :
    (endState (settle project path w)).examined = w.examined := by
  have coming := settling project path w
  generalize settle project path w = result at coming
  cases coming with
  | null | unread | unanswered | hit | undecoded => rfl
  | unexamined read lookup stale | unkept read lookup stale | made read lookup stale =>
      rw [(faithful.lookup_ok legal lookup).1] at stale
      exact absurd stale (current.not_stale read)

/-- A record that is current stays so, whatever file is settled. -/
theorem Current.settle (current : Current project ledger path w.store)
    (faithful : project.cache.Faithful ledger) (fits : project.Fits ledger)
    (legal : ledger.legal w.store) :
    Current project ledger path (endState (settle project q w)).store := by
  have left := leaves q faithful fits legal
  by_cases made : ∃ record, settled? project (q, w) = some (record, false)
  · obtain ⟨record, made⟩ := made
    obtain ⟨⟨data, read, print⟩, updated⟩ := left.made made
    by_cases same : path = q
    · subst same
      exact ⟨data, record, read, by rw [updated, Function.update_self], print⟩
    · obtain ⟨data', record', read', kept, print'⟩ := current
      exact ⟨data', record', read', by rw [updated, Function.update_of_ne same, kept], print'⟩
  · have kept := left.other fun record same => made ⟨record, same⟩
    obtain ⟨data', record', read', there, print'⟩ := current
    exact ⟨data', record', read', by rw [kept, there], print'⟩

/-- A cache is hit by a record that is current. -/
theorem current_of_hit (faithful : project.cache.Faithful ledger) (legal : ledger.legal w.store)
    {record : FileRecord} (hit : settled? project (path, w) = some (record, true)) :
    Current project ledger path w.store := by
  obtain ⟨w', settled⟩ := settled?_eq_some_iff.mp hit
  have coming := settling project path w
  rw [settled] at coming
  cases coming with
  | hit read lookup same =>
      exact ⟨_, record, read, (faithful.lookup_ok legal lookup).1.symm, same⟩

/-- The record of a file is current once it was settled. -/
theorem current_of_succeeds (faithful : project.cache.Faithful ledger) (fits : project.Fits ledger)
    (legal : ledger.legal w.store) (succeeds : Succeeds project path (q, w)) :
    Current project ledger path (endState (settle project q w)).store := by
  obtain ⟨rfl, some⟩ := succeeds
  obtain ⟨⟨record, hit⟩, settled⟩ := Option.isSome_iff_exists.mp some
  cases hit with
  | true => exact (current_of_hit faithful legal settled).settle faithful fits legal
  | false =>
      obtain ⟨⟨data, read, print⟩, updated⟩ := (leaves _ faithful fits legal).made settled
      exact ⟨data, record, read, by rw [updated, Function.update_self], print⟩

/-- A record that is not current becomes so only by a visit of its file that succeeds. -/
theorem not_current_settle (stale : ¬ Current project ledger path w.store)
    (faithful : project.cache.Faithful ledger) (fits : project.Fits ledger)
    (legal : ledger.legal w.store) (fails : ¬ Succeeds project path (q, w)) :
    ¬ Current project ledger path (endState (settle project q w)).store := by
  rintro ⟨data, record, read, kept, print⟩
  have left := leaves q faithful fits legal
  refine stale ⟨data, record, read, ?_, print⟩
  by_cases made : ∃ record, settled? project (q, w) = some (record, false)
  · obtain ⟨record', made⟩ := made
    have other : path ≠ q := fun same => fails ⟨same.symm, by rw [made]; rfl⟩
    rw [(left.made made).2, Function.update_of_ne other] at kept
    exact kept
  · rw [left.other fun record same => made ⟨record, same⟩] at kept
    exact kept

/-! ### Runs -/

/-- Whether a file was visited with success, with one visit more. -/
def Since (project : Project σ) (path : String) (before : Prop) (visit : String × World σ) : Prop :=
  before ∨ Succeeds project path visit

/-- What holds at the beginning of a list or at one of its items. -/
theorem foldl_or {α : Type} {p : α → Prop} (before : Prop) {items : List α} :
    items.foldl (fun before item => before ∨ p item) before ↔ before ∨ ∃ item ∈ items, p item := by
  induction items generalizing before with
  | nil => simp
  | cons item rest ih => simp [ih, or_assoc]

theorem foldl_since (before : Prop) {visits : List (String × World σ)} :
    visits.foldl (Since project path) before ↔
      before ∨ ∃ visit ∈ visits, Succeeds project path visit :=
  foldl_or before

/-- From a visit that succeeded on, the record of a file is current. -/
theorem current_threads (path : String) (continueOnError : Bool) (paths : List String)
    (faithful : project.cache.Faithful ledger) (fits : project.Fits ledger)
    (legal : ledger.legal w.store) :
    Threads project continueOnError paths (Since project path)
      (fun w since => ledger.legal w.store ∧ (since → Current project ledger path w.store))
      (fun w since => ledger.legal w.store ∧ (since → Current project ledger path w.store)) w
      (Current project ledger path w.store) := by
  refine run_threads_settling _ (fun _ _ _ holds => holds) ?_ w _ ⟨legal, id⟩
  rintro q - w since ⟨legal, current⟩
  refine ⟨(leaves _ faithful fits legal).legal, ?_⟩
  rintro (since | succeeds)
  · exact (current since).settle faithful fits legal
  · exact current_of_succeeds faithful fits legal succeeds

/-- A file is examined at most once when it is settled, and only if it can be read and decoded. -/
theorem examined_settle (project : Project σ) (q : String) (w : World σ) :
    (endState (settle project q w)).examined = w.examined ∨
      ((endState (settle project q w)).examined = w.examined ++ [q] ∧
        ∃ data text, project.read q = .ok data ∧ Text.Utf8.decode data = .ok text) := by
  have coming := settling project q w
  generalize settle project q w = result at coming
  cases coming with
  | null | unread | unanswered | hit | undecoded => exact .inl rfl
  | unexamined read lookup stale decode | unkept read lookup stale decode
  | made read lookup stale decode => exact .inr ⟨rfl, _, _, read, decode⟩

theorem count_settle_other (other : q ≠ path) :
    (endState (settle project q w)).examined.count path = w.examined.count path := by
  rcases examined_settle project q w with same | ⟨more, -⟩
  · rw [same]
  · rw [more, List.count_append, List.count_singleton, if_neg (by simpa using other), Nat.add_zero]

theorem count_settle_le :
    (endState (settle project q w)).examined.count path ≤ w.examined.count path + 1 := by
  rcases examined_settle project q w with same | ⟨more, -⟩
  · rw [same]
    exact Nat.le_succ _
  · rw [more, List.count_append]
    exact Nat.add_le_add_left List.count_le_length _

/-- A file whose record is current is not examined, whatever file is settled. -/
theorem count_settle_of_current (faithful : project.cache.Faithful ledger)
    (legal : ledger.legal w.store) (current : Current project ledger path w.store) :
    (endState (settle project q w)).examined.count path = w.examined.count path := by
  by_cases same : q = path
  · subst same
    rw [examined_of_current faithful legal current]
  · exact count_settle_other same

/-- A run does not examine a file whose record is current. -/
theorem not_examined_of_current (continueOnError : Bool) (paths : List String)
    (faithful : project.cache.Faithful ledger)
    (fits : project.Fits ledger) (legal : ledger.legal w.store)
    (current : Current project ledger path w.store) :
    (endState (run project continueOnError paths w)).examined.count path =
      w.examined.count path := by
  refine (run_invariant (P := fun w' => ledger.legal w'.store ∧
    Current project ledger path w'.store ∧ w'.examined.count path = w.examined.count path)
    (fun _ _ holds => holds) ?_ w ⟨legal, current, rfl⟩).2.2
  rintro q - w' ⟨legal, current, count⟩
  refine ⟨(leaves _ faithful fits legal).legal, current.settle faithful fits legal, ?_⟩
  rw [count_settle_of_current faithful legal current, count]

/-- The examination of a file never comes to a record. -/
def Hopeless (project : Project σ) (path : String) : Prop :=
  ∀ record w, settled? project (path, w) ≠ some (record, false)

/-- How often a file has been examined since there were `count` examinations of it: at most once if it was
visited with success since then, and never before, unless that is bound to fail. -/
structure Frugal (project : Project σ) (ledger : Ledger σ) (path : String) (count : Nat)
    (w : World σ) (since : Prop) : Prop where
  legal : ledger.legal w.store
  after : since → Current project ledger path w.store ∧ w.examined.count path ≤ count + 1
  before : ¬ since → ¬ Current project ledger path w.store ∧
    (w.examined.count path = count ∨ Hopeless project path)

/-- Once a file is rejected by its examination, no visit makes a record of it. -/
theorem hopeless_of_rejects {detail : String} (rejects : Rejects project path detail) :
    Hopeless project path := by
  intro record w made
  obtain ⟨data, text, read, decode, examine⟩ := rejects
  obtain ⟨w', settled⟩ := settled?_eq_some_iff.mp made
  have coming := settling project path w
  rw [settled] at coming
  cases coming with
  | made read' lookup stale decode' examine' =>
      obtain rfl := Except.ok.inj (read.symm.trans read')
      obtain rfl := Except.ok.inj (decode.symm.trans decode')
      cases examine.symm.trans examine'

/-- A visit that goes on without a record has not examined its file, or the examination rejected it. -/
theorem examined_of_rejection {r : Rejection} {w' : World σ}
    (faithful : project.cache.Faithful ledger) (legal : ledger.legal w.store)
    (rejected : settle project path w = .error (.rejected r) w') :
    w'.examined = w.examined ∨ ∃ detail, Rejects project path detail := by
  have coming := settling project path w
  rw [rejected] at coming
  cases coming with
  | unread | unanswered | undecoded => exact .inl rfl
  | unexamined read lookup stale decode examine => exact .inr ⟨_, _, _, read, decode, examine⟩
  | unkept read lookup stale decode examine store =>
      have legal' := (faithful.lookup_ok legal lookup).2.1
      exact absurd rfl ((faithful.store_error legal' store).1 r)

theorem Frugal.after_settle {count : Nat} {since : Prop}
    (frugal : Frugal project ledger path count w since) (faithful : project.cache.Faithful ledger)
    (fits : project.Fits ledger) (more : Since project path since (q, w)) :
    Current project ledger path (endState (settle project q w)).store ∧
      (endState (settle project q w)).examined.count path ≤ count + 1 := by
  by_cases earlier : since
  · obtain ⟨current, few⟩ := frugal.after earlier
    rw [count_settle_of_current faithful frugal.legal current]
    exact ⟨current.settle faithful fits frugal.legal, few⟩
  · obtain ⟨stale, known⟩ := frugal.before earlier
    have succeeds := more.resolve_left earlier
    refine ⟨current_of_succeeds faithful fits frugal.legal succeeds, ?_⟩
    rcases known with same | hopeless
    · rw [← same]
      exact count_settle_le
    · obtain ⟨rfl, some⟩ := succeeds
      obtain ⟨⟨record, hit⟩, settled⟩ := Option.isSome_iff_exists.mp some
      cases hit with
      | true => exact absurd (current_of_hit faithful frugal.legal settled) stale
      | false => exact absurd settled (hopeless record w)

/-- A visit that goes on keeps count. -/
theorem Frugal.visit {count : Nat} {since : Prop} {v : Visit} {w' : World σ}
    (frugal : Frugal project ledger path count w since) (faithful : project.cache.Faithful ledger)
    (fits : project.Fits ledger) (visited : visit project continueOnError q w = .ok v w') :
    Frugal project ledger path count w' (Since project path since (q, w)) := by
  obtain ⟨x, ending⟩ := endState_visit project continueOnError q w
  rw [visited, endState_ok] at ending
  subst ending
  refine ⟨(leaves _ faithful fits frugal.legal).legal, frugal.after_settle faithful fits, fun never => ?_⟩
  obtain ⟨earlier, fails⟩ := not_or.mp never
  obtain ⟨stale, known⟩ := frugal.before earlier
  refine ⟨not_current_settle stale faithful fits frugal.legal fails, ?_⟩
  by_cases same : q = path
  · subst same
    cases settled : settle project q w with
    | ok outcome w'' =>
        exact absurd ⟨rfl, by rw [settled?_eq_some_iff.mpr ⟨w'', settled⟩]; rfl⟩ fails
    | error failure w'' =>
        -- any other failure would have ended the run
        obtain ⟨r, rfl⟩ : ∃ r, failure = .rejected r := by
          rcases visit_ok visited with ⟨outcome, _, done, -⟩ | ⟨r, _, rejected, -⟩
          · exact absurd done (process_of_settle_error settled)
          · rw [process_error settled] at rejected
            cases rejected
            exact ⟨r, rfl⟩
        rcases examined_of_rejection faithful frugal.legal settled with same | ⟨detail, rejects⟩
        · rw [← same] at known
          exact known
        · exact .inr (hopeless_of_rejects rejects)
  · rw [← count_settle_other (w := w) same] at known
    exact known

/-- **A file whose record is settled in a run is examined at most once in it.** -/
theorem examined_once (faithful : project.cache.Faithful ledger) (fits : project.Fits ledger)
    (legal : ledger.legal w.store)
    (succeeds : ∃ visit ∈ visits project continueOnError paths w, Succeeds project path visit) :
    (endState (run project continueOnError paths w)).examined.count path ≤
      w.examined.count path + 1 := by
  by_cases current : Current project ledger path w.store
  · rw [not_examined_of_current _ _ faithful fits legal current]
    exact Nat.le_succ _
  · have ends : ∀ q ∈ paths, ∀ w' since failure w'',
        visit project continueOnError q w' = .error failure w'' →
          Frugal project ledger path (w.examined.count path) w' since →
            Since project path since (q, w') → w''.examined.count path ≤ w.examined.count path + 1 := by
      intro q _ w' since failure w'' visited frugal more
      obtain ⟨x, ending⟩ := endState_visit project continueOnError q w'
      rw [visited, endState_error] at ending
      rw [ending]
      exact (frugal.after_settle faithful fits more).2
    have threads := run_threads (Since project path)
      (P := Frugal project ledger path (w.examined.count path))
      (Q := fun w' since => since → w'.examined.count path ≤ w.examined.count path + 1)
      (fun _ _ _ frugal => ⟨frugal.legal, frugal.after, frugal.before⟩)
      (fun q _ w' since v w'' visited frugal => frugal.visit faithful fits visited) ends w False
      ⟨legal, False.elim, fun _ => ⟨current, .inl rfl⟩⟩
    have since := (foldl_since False).mpr (.inr succeeds)
    have ended := threads.ended
    revert ended
    cases run project continueOnError paths w with
    | ok report w' => exact fun frugal => (frugal.after since).2
    | error failure w' => exact fun few => few since

/-- Whatever a run examines can be read and decoded. -/
theorem readable_of_examined (again : path ∈ (endState (run project continueOnError paths w)).examined) :
    path ∈ w.examined ∨
      ∃ data text, project.read path = .ok data ∧ Text.Utf8.decode data = .ok text := by
  refine run_invariant (P := fun w' => path ∈ w'.examined → path ∈ w.examined ∨
    ∃ data text, project.read path = .ok data ∧ Text.Utf8.decode data = .ok text)
    (fun _ _ holds => holds) ?_ w .inl again
  rintro q - w' holds more
  rcases examined_settle project q w' with same | ⟨appended, readable⟩
  · rw [same] at more
    exact holds more
  · rw [appended, List.mem_append, List.mem_singleton] at more
    rcases more with earlier | rfl
    · exact holds earlier
    · exact .inr readable

/-- A visit to a file that can be read and decoded fails only where the examination rejects it or the
cache fails. -/
theorem failure_of_readable {data : List UInt8} {text : List Char} {failure : Failure} {w' : World σ}
    (read : project.read path = .ok data) (decode : Text.Utf8.decode data = .ok text)
    (failed : settle project path w = .error failure w') :
    (∃ detail, failure = .rejected ⟨path, detail⟩ ∧ Rejects project path detail) ∨
      project.cache.Raises failure := by
  have coming := settling project path w
  rw [failed] at coming
  cases coming with
  | null unread | unread unread => cases read.symm.trans unread
  | unanswered read' lookup => exact .inr ⟨path, _, _, .inl lookup⟩
  | undecoded read' lookup stale undecoded =>
      obtain rfl := Except.ok.inj (read.symm.trans read')
      cases decode.symm.trans undecoded
  | unexamined read' lookup stale decode' examine =>
      exact .inl ⟨_, rfl, _, _, read', decode', examine⟩
  | unkept read' lookup stale decode' examine store => exact .inr ⟨path, _, _, .inr ⟨_, store⟩⟩

end

/-- **What is examined again.**  A file that a build examines, although an earlier build took it up with
the content that it has, was rejected by its examination then, or the cache failed. -/
theorem examined_again {o o' : Occasion σ} {ledger : Ledger σ} {path : String} {s : σ}
    (uses : o.Uses ledger) (uses' : o'.Uses ledger) (legal : ledger.legal s)
    (unchanged : o'.project.read path = o.project.read path)
    (again : path ∈ (endState (o'.run (o.after s))).examined) {w : World σ}
    (visited : (path, w) ∈ o.visits s) :
    ∃ failure w', settle o.project path w = .error failure w' ∧
      ((∃ detail, failure = .rejected ⟨path, detail⟩ ∧ Rejects o.project path detail) ∨
        o.project.cache.Raises failure) := by
  obtain ⟨data, text, read, decode⟩ := (readable_of_examined again).resolve_left List.not_mem_nil
  rw [unchanged] at read
  cases settled : settle o.project path w with
  | error failure w' => exact ⟨failure, w', rfl, failure_of_readable read decode settled⟩
  | ok outcome w' =>
      have succeeds : Succeeds o.project path (path, w) :=
        ⟨rfl, by rw [settled?_eq_some_iff.mpr ⟨w', settled⟩]; rfl⟩
      obtain ⟨legal', current⟩ := (current_threads path o.continueOnError o.paths
        (w := o.start s) uses.faithful uses.fits legal).endState
      obtain ⟨data', record, read', kept, print⟩ := current ((foldl_since _).mpr (.inr ⟨_, visited, succeeds⟩))
      have current' : Current o'.project ledger path (o.after s) :=
        ⟨data', record, unchanged.trans read', kept, print⟩
      have never := not_examined_of_current o'.continueOnError o'.paths
        (w := o'.start (o.after s)) uses'.faithful uses'.fits legal' current'
      exact absurd never (Nat.ne_of_gt (List.count_pos_iff.mpr again))

end Docwright.Build
