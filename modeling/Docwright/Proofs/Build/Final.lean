import Docwright.Proofs.Build.Visits
import Docwright.Proofs.Cache.Steady

/-!
# What a visit leaves for good

A steady cache looks from a path as the last visit of that path left it: a visit of
another file does not touch what is seen there (`stirs`), and after a visit that
goes on no record of the file is made any more (`final_of_visit`), since either the
cache holds one of its content now or the content is one that cannot be read,
decoded or examined.  So what a visit leaves to be seen of its file is still there
at the end of the run (`seen_final`).

`answer_settle` gives what comes of settling a file as a value, without the world
that it ends in.
-/

namespace Docwright.Build

variable {σ γ : Type}

/-- What comes of making the record of a file anew. -/
def Project.anew (project : Project σ) (path : String) (data : List UInt8) (ticks : Nat) (s : σ) :
    Except Failure FileRecord :=
  match Text.Utf8.decode data with
  | .error fault => .error (.rejected ⟨path, fault.message⟩)
  | .ok text =>
    match (project.examine path (String.ofList text)).result with
    | .error detail => .error (.rejected ⟨path, detail⟩)
    | .ok problems =>
      let record := recordMade project path data ticks problems
      (answer (project.cache.store path record s)).map fun _ => record

/-- What comes of settling the record of a file whose content was read. -/
def Project.settled (project : Project σ) (path : String) (data : List UInt8) (w : World σ) :
    Except Failure (FileRecord × Bool) :=
  match answer (project.cache.lookup path w.store) with
  | .error failure => .error failure
  | .ok found =>
    match current? (Digest.fingerprint data) found with
    | some record => .ok (record, true)
    | none =>
      (project.anew path data w.ticks (endState (project.cache.lookup path w.store))).map
        fun record => (record, false)

/-- The rejection of a content that is no text, or that the examination rejects. -/
def Project.refusal? (project : Project σ) (path : String) (data : List UInt8) : Option Rejection :=
  match Text.Utf8.decode data with
  | .error fault => some ⟨path, fault.message⟩
  | .ok text =>
    match (project.examine path (String.ofList text)).result with
    | .error detail => some ⟨path, detail⟩
    | .ok _ => none

section

variable {project project' : Project σ} {path q : String} {w w' : World σ} {data : List UInt8}

/-- What comes of settling a file that can be read. -/
theorem answer_settle (read : project.read path = .ok data) :
    answer (settle project path w) = project.settled path data w := by
  have coming := settling project path w
  generalize settle project path w = result at coming
  unfold Project.settled
  cases coming with
  | null unread | unread unread => cases read.symm.trans unread
  | unanswered read' lookup => simp only [lookup, answer_error]
  | @hit data' s record read' lookup same =>
      obtain rfl := Except.ok.inj (read.symm.trans read')
      simp only [lookup, answer_ok, current?_of_same same]
  | undecoded read' lookup stale decode =>
      obtain rfl := Except.ok.inj (read.symm.trans read')
      simp only [lookup, answer_ok, answer_error, stale, Project.anew, decode, Except.map]
  | unexamined read' lookup stale decode examine =>
      obtain rfl := Except.ok.inj (read.symm.trans read')
      simp only [lookup, answer_ok, answer_error, stale, Project.anew, decode, examine, Except.map]
  | unkept read' lookup stale decode examine store =>
      obtain rfl := Except.ok.inj (read.symm.trans read')
      simp only [lookup, answer_ok, answer_error, endState_ok, stale, Project.anew, decode, examine,
        store, Except.map]
  | made read' lookup stale decode examine store =>
      obtain rfl := Except.ok.inj (read.symm.trans read')
      simp only [lookup, answer_ok, endState_ok, stale, Project.anew, decode, examine, store,
        Except.map]

/-- What comes of settling a file that cannot be read. -/
theorem answer_settle_unread {fault : ReadFault} (unread : project.read path = .error fault) :
    answer (settle project path w) =
      match fault with
      | .null => .error .nullByte
      | .disk fault place => .error (.rejected ⟨path, fault.describe place⟩) := by
  have coming := settling project path w
  generalize settle project path w = result at coming
  cases coming with
  | null unread' | unread unread' =>
      cases unread.symm.trans unread'
      rfl
  | unanswered read | hit read | undecoded read | unexamined read | unkept read | made read =>
      cases unread.symm.trans read

variable {ledger : Ledger σ} {outlook : Outlook σ γ}

/-- What settling a file does to a steady cache: nothing that can be seen, and nothing at all to one that
stands, unless a record was made; then that is found, and no other path sees it. -/
structure Stirs (project : Project σ) (ledger : Ledger σ) (outlook : Outlook σ γ) (path : String)
    (settled : Option (FileRecord × Bool)) (s s' : σ) : Prop where
  legal : ledger.legal s'
  stands : outlook.stands s → outlook.stands s'
  elsewhere : ∀ q ≠ path, outlook.seen s' q = outlook.seen s q
  other : (∀ record, settled ≠ some (record, false)) →
    outlook.seen s' = outlook.seen s ∧ (outlook.stands s → s' = s)
  found : ∀ {record : FileRecord}, settled = some (record, false) →
    answer (project.cache.lookup path s') = .ok (some record)
  opened : ∀ {data : List UInt8} {found : Option FileRecord}, project.read path = .ok data →
    answer (project.cache.lookup path s) = .ok found → outlook.stands s'
  unread : ∀ {fault : ReadFault}, project.read path = .error fault → s' = s

theorem stirs (path : String) (steady : project.cache.Steady ledger outlook) (fits : project.Fits ledger)
    (legal : ledger.legal w.store) :
    Stirs project ledger outlook path (settled? project (path, w)) w.store
      (endState (settle project path w)).store := by
  have coming := settling project path w
  unfold settled?
  generalize settle project path w = result at coming
  -- a cache that was asked looks the same, and is the same if it stands
  obtain ⟨legal', seen⟩ := steady.lookup_seen path legal
  have still := steady.lookup_still path (s := w.store)
  cases coming with
  | null unread | unread unread =>
      exact ⟨legal, id, fun _ _ => rfl, fun _ => ⟨rfl, fun _ => rfl⟩, nofun,
        fun read => (nomatch read.symm.trans unread), fun _ => rfl⟩
  | unanswered read lookup =>
      rw [lookup, endState_error] at legal' seen still
      refine ⟨legal', fun stands => ?_, fun q _ => congrFun seen q, fun _ => ⟨seen, still⟩, nofun,
        fun _ found => ?_, fun unread => nomatch read.symm.trans unread⟩
      · rw [endState_error, still stands]
        exact stands
      · rw [lookup] at found
        cases found
  | hit read lookup | undecoded read lookup | unexamined read lookup =>
      have stands := steady.lookup_stands legal lookup
      rw [lookup, endState_ok] at legal' seen still
      exact ⟨legal', fun _ => stands, fun q _ => congrFun seen q, fun _ => ⟨seen, still⟩, nofun,
        fun _ _ => stands, fun unread => nomatch read.symm.trans unread⟩
  | unkept read lookup stale decode examine store =>
      have stands := steady.lookup_stands legal lookup
      rw [lookup, endState_ok] at legal' seen still
      obtain ⟨-, -, still'⟩ := steady.store_error legal' store
      obtain rfl := still' stands
      exact ⟨legal', fun _ => stands, fun q _ => congrFun seen q, fun _ => ⟨seen, still⟩, nofun,
        fun _ _ => stands, fun unread => nomatch read.symm.trans unread⟩
  | made read lookup stale decode examine store =>
      rw [lookup, endState_ok] at legal' seen still
      obtain ⟨legal'', stands, elsewhere⟩ := steady.store_ok legal' store
      refine ⟨legal'', fun _ => stands, fun q other => ?_, fun other => absurd rfl (other _),
        fun {record} made => ?_, fun _ _ => stands, fun unread => nomatch read.symm.trans unread⟩
      · exact (elsewhere q other).trans (congrFun seen q)
      · cases made
        exact steady.store_found legal' (fits _ _ examine) rfl store

/-- A content that is refused is refused whatever the time and the cache. -/
theorem anew_of_refusal {r : Rejection} (refused : project.refusal? path data = some r)
    (ticks : Nat) (s : σ) : project.anew path data ticks s = .error (.rejected r) := by
  unfold Project.refusal? at refused
  unfold Project.anew
  cases decode : Text.Utf8.decode data with
  | error fault =>
      rw [decode] at refused
      cases refused
      rfl
  | ok text =>
      simp only [decode] at refused ⊢
      cases examine : (project.examine path (String.ofList text)).result with
      | error detail =>
          rw [examine] at refused
          cases refused
          rfl
      | ok problems =>
          rw [examine] at refused
          cases refused

/-! ### What stays as a visit left it -/

/-- No record of a file is made by a visit that sees what is to be seen. -/
def Final (project : Project σ) (ledger : Ledger σ) (outlook : Outlook σ γ) (path : String)
    (sight : γ) : Prop :=
  ∀ w : World σ, ledger.legal w.store → outlook.seen w.store path = sight →
    ∀ record, settled? project (path, w) ≠ some (record, false)

theorem settled?_of_answer {outcome : Except Failure (FileRecord × Bool)}
    (ended : answer (settle project path w) = outcome) :
    settled? project (path, w) = outcome.toOption := by
  subst ended
  unfold settled?
  cases settle project path w <;> rfl

/-- After a visit with success no record of the file is made. -/
theorem final_of_found (steady : project.cache.Steady ledger outlook) {s : σ} {record : FileRecord}
    (read : project.read path = .ok data)
    (found : answer (project.cache.lookup path s) = .ok (some record))
    (same : record.fingerprint = Digest.fingerprint data) :
    Final project ledger outlook path (outlook.seen s path) := by
  intro w legal seen record' made
  have answers := steady.lookup_answer path seen
  rw [settled?_of_answer (answer_settle read), Project.settled, answers, found] at made
  simp only [current?_of_same same] at made
  cases made

/-- Of a content that is refused no record is made. -/
theorem final_of_refusal {r : Rejection} (read : project.read path = .ok data)
    (refused : project.refusal? path data = some r) (sight : γ) :
    Final project ledger outlook path sight := by
  rintro w - - record made
  rw [settled?_of_answer (answer_settle read), Project.settled] at made
  cases answered : answer (project.cache.lookup path w.store) with
  | error failure =>
      rw [answered] at made
      cases made
  | ok found =>
      simp only [answered] at made
      cases known : current? (Digest.fingerprint data) found with
      | some record' =>
          rw [known] at made
          cases made
      | none =>
          simp only [known, anew_of_refusal refused, Except.map] at made
          cases made

/-- Of a file that cannot be read no record is made. -/
theorem final_of_unread {fault : ReadFault} (unread : project.read path = .error fault) (sight : γ) :
    Final project ledger outlook path sight := by
  rintro w - - record made
  obtain ⟨w', settled⟩ := settled?_eq_some_iff.mp made
  have coming := settling project path w
  rw [settled] at coming
  cases coming with
  | made read => cases read.symm.trans unread

/-- The only failure that a visit goes on after is a rejection. -/
theorem rejection_of_visit {continueOnError : Bool} {v : Visit} {w₁ : World σ}
    (visited : visit project continueOnError path w = .ok v w₁) {failure : Failure}
    (settled : settle project path w = .error failure w') : ∃ r, failure = .rejected r := by
  rcases visit_ok visited with ⟨outcome, _, done, -⟩ | ⟨r, _, rejection, -⟩
  · exact absurd done (process_of_settle_error settled)
  · rw [process_error settled] at rejection
    cases rejection
    exact ⟨r, rfl⟩

/-- A cache is answering when a visit of a file that can be read goes on. -/
theorem answered_of_visit {continueOnError : Bool} (faithful : project.cache.Faithful ledger)
    (legal : ledger.legal w.store) (read : project.read path = .ok data) {v : Visit} {w₁ : World σ}
    (visited : visit project continueOnError path w = .ok v w₁) :
    ∃ found, answer (project.cache.lookup path w.store) = .ok found := by
  cases asked : project.cache.lookup path w.store with
  | ok found s => exact ⟨found, rfl⟩
  | error failure s =>
      have failed : answer (settle project path w) = .error failure := by
        rw [answer_settle read, Project.settled, asked]
        rfl
      cases settled : settle project path w with
      | ok outcome w₁' =>
          rw [settled] at failed
          cases failed
      | error failure' w₁' =>
          rw [settled] at failed
          cases failed
          obtain ⟨r, rejection⟩ := rejection_of_visit visited settled
          exact absurd rejection ((faithful.lookup_error legal asked).1 r)

/-- A visit that goes on leaves nothing to be made of its file. -/
theorem final_of_visit (continueOnError : Bool) (faithful : project.cache.Faithful ledger)
    (steady : project.cache.Steady ledger outlook) (fits : project.Fits ledger)
    (legal : ledger.legal w.store) {v : Visit} {w₁ : World σ}
    (visited : visit project continueOnError path w = .ok v w₁) :
    Final project ledger outlook path (outlook.seen w₁.store path) := by
  obtain ⟨x, ending⟩ := endState_visit project continueOnError path w
  rw [visited, endState_ok] at ending
  subst ending
  have stirred := stirs path steady fits legal
  have coming := settling project path w
  cases settled : settle project path w with
  | error failure w' =>
      -- the visit went on, so it was a rejection that was passed over
      obtain ⟨r, rfl⟩ := rejection_of_visit visited settled
      rw [settled] at coming
      cases coming with
      | unread unread => exact final_of_unread unread _
      | unanswered read lookup => exact absurd rfl ((faithful.lookup_error legal lookup).1 r)
      | undecoded read lookup stale decode =>
          exact final_of_refusal read (by rw [Project.refusal?, decode]) _
      | @unexamined data found s x text detail read lookup stale decode examine =>
          refine final_of_refusal (r := ⟨path, detail⟩) read ?_ _
          simp only [Project.refusal?, decode, examine]
      | unkept read lookup stale decode examine store =>
          have legal' := (faithful.lookup_ok legal lookup).2.1
          exact absurd rfl ((faithful.store_error legal' store).1 r)
  | ok outcome w' =>
      have known := settled?_eq_some_iff.mpr ⟨w', settled⟩
      rw [settled] at coming stirred
      cases coming with
      | hit read lookup same =>
          have answers := steady.lookup_answer path
            (congrFun (stirred.other fun record made => nomatch known.symm.trans made).1 path)
          rw [lookup, answer_ok] at answers
          exact final_of_found steady read answers same
      | made read lookup stale decode examine store =>
          exact final_of_found steady read (stirred.found known) rfl

/-- What is final of a file stays as it is for the rest of a run. -/
theorem seen_final {continueOnError : Bool} {paths : List String}
    (steady : project.cache.Steady ledger outlook) (fits : project.Fits ledger)
    (legal : ledger.legal w.store)
    (final : Final project ledger outlook path (outlook.seen w.store path)) (report : Report) :
    outlook.seen (endState (paths.foldlM (advance project continueOnError) report w)).store path =
      outlook.seen w.store path := by
  refine (foldlM_invariant (P := fun w' => ledger.legal w'.store ∧
    outlook.seen w'.store path = outlook.seen w.store path)
    (fun _ _ holds => holds) ?_ report w ⟨legal, rfl⟩).2
  rintro q - w' ⟨legal, seen⟩
  have stirred := stirs q steady fits legal
  refine ⟨stirred.legal, ?_⟩
  by_cases same : path = q
  · subst same
    rw [(stirred.other (final w' legal seen)).1, seen]
  · rw [stirred.elsewhere path same, seen]

/-- A cache that stands does so for the rest of a run. -/
theorem stands_foldlM (continueOnError : Bool) (paths : List String)
    (steady : project.cache.Steady ledger outlook) (fits : project.Fits ledger)
    (legal : ledger.legal w.store) (stands : outlook.stands w.store) (report : Report) :
    outlook.stands (endState (paths.foldlM (advance project continueOnError) report w)).store := by
  refine (foldlM_invariant (P := fun w' => ledger.legal w'.store ∧ outlook.stands w'.store)
    (fun _ _ holds => holds) ?_ report w ⟨legal, stands⟩).2
  rintro q - w' ⟨legal, stands⟩
  have stirred := stirs q steady fits legal
  exact ⟨stirred.legal, stirred.stands stands⟩

/-- A cache stands at the end of a run if a file that can be read was taken up in it. -/
theorem stands_of_foldlM {continueOnError : Bool} {paths : List String}
    (faithful : project.cache.Faithful ledger) (steady : project.cache.Steady ledger outlook)
    (fits : project.Fits ledger) (legal : ledger.legal w.store) (member : path ∈ paths)
    (read : project.read path = .ok data) {report report' : Report} {w₁ : World σ}
    (done : paths.foldlM (advance project continueOnError) report w = .ok report' w₁) :
    outlook.stands w₁.store := by
  induction paths generalizing report w with
  | nil => cases member
  | cons first rest ih =>
      obtain ⟨x, ending⟩ := endState_visit project continueOnError first w
      rw [List.foldlM_cons, bind_apply, advance_apply] at done
      cases visited : visit project continueOnError first w with
      | error failure w' =>
          rw [visited] at done
          cases done
      | ok v w' =>
          rw [visited, endState_ok] at ending
          rw [visited] at done
          have store : w'.store = (endState (settle project first w)).store := by rw [ending]
          have stirred := stirs first steady fits legal
          rw [← store] at stirred
          rcases List.mem_cons.mp member with rfl | later
          · obtain ⟨found, answered⟩ := answered_of_visit faithful legal read visited
            have ended := stands_foldlM continueOnError rest steady fits stirred.legal (stirred.opened read answered) (report.add v)
            dsimp only at done
            rwa [done] at ended
          · exact ih stirred.legal later done

/-- A cache stands at the end of a run if a file that can be read was taken up in it. -/
theorem stands_of_run {continueOnError : Bool} {paths : List String}
    (faithful : project.cache.Faithful ledger) (steady : project.cache.Steady ledger outlook)
    (fits : project.Fits ledger) (legal : ledger.legal w.store) (member : path ∈ paths)
    (read : project.read path = .ok data) {report : Report} {w₁ : World σ}
    (done : run project continueOnError paths w = .ok report w₁) : outlook.stands w₁.store := by
  obtain ⟨u, folded, rfl⟩ := run_eq_ok_iff.mp done
  have stood := stands_of_foldlM faithful steady fits legal member read folded
  exact stood

end

end Docwright.Build
