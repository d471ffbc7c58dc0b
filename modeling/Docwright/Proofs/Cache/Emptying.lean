import Docwright.Proofs.Cache.Glimpse

/-!
# Emptying a database

Without trouble, emptying a database leaves a file with tables without rows, whatever
rows there were (`clear_rows`).  Amid trouble it may fail; if the trouble is of the
kind that databases report, so is the failure (`cache_of_clearAmid`), and nothing that
can be seen is changed (`unchanged_of_clearAmid`).
-/

namespace Docwright.Cache

/-- Statements fail only because the database refuses them. -/
def Trouble.Refuses (trouble : Trouble) : Prop :=
  ∀ number fault, trouble.statement number = some fault → ∃ reason, fault = .refused reason

theorem Trouble.refuses_calm : Trouble.calm.Refuses := nofun

namespace Trouble.Refuses

variable {trouble : Trouble} (refuses : trouble.Refuses)

include refuses

/-- The first fault among statements is a refusal. -/
theorem first? (number count : Nat) {fault : StatementFault}
    (first : trouble.first? number count = some fault) : ∃ reason, fault = .refused reason := by
  induction count generalizing number with
  | zero => cases first
  | succ count ih =>
      rw [Trouble.first?] at first
      cases here : trouble.statement number with
      | none =>
          rw [here] at first
          exact ih (number + 1) first
      | some fault' =>
          rw [here] at first
          cases first
          exact refuses number fault here

/-- Statements that fail of themselves never do are refused if they fail. -/
theorem perform {statements : List Statement}
    (safe : ∀ statement ∈ statements, ∀ s : Session, ∃ s', s.execute statement = .ok s') (s : Session)
    (number : Nat) {fault : StatementFault}
    (failed : (s.perform trouble number statements).2 = some fault) :
    ∃ reason, fault = .refused reason := by
  induction statements generalizing s number with
  | nil => cases failed
  | cons statement rest ih =>
      rw [Session.perform] at failed
      cases here : trouble.statement number with
      | some fault' =>
          rw [here] at failed
          cases failed
          exact refuses number fault here
      | none =>
          obtain ⟨s', done⟩ := safe statement List.mem_cons_self s
          rw [here, done] at failed
          exact ih (fun other member => safe other (List.mem_cons_of_mem _ member)) s' (number + 1) failed

end Trouble.Refuses

namespace Database

variable {trouble : Trouble} {db : Path} {operation : Operation} {disk disk' : Disk} {failure : Failure}
  {names : List String} {t : Tables}

/-- A database that cannot be opened reports so. -/
theorem cache_of_opening {seen : Sight} (clean : db.hasNull = false) (refuses : trouble.Refuses)
    (failed : opening trouble db operation seen = .error failure) : ∃ fault, failure = .cache fault := by
  rw [opening_of_not_null trouble operation seen (by simp [clean])] at failed
  generalize (if db.text == ":memory:" then .rows Tables.empty else seen) = found at failed
  cases connection : trouble.connection with
  | some reason =>
      rw [connection] at failed
      cases failed
      exact ⟨_, rfl⟩
  | none =>
      rw [connection] at failed
      cases found with
      | closed | unreadable =>
          cases failed
          exact ⟨_, rfl⟩
      | rows t =>
          dsimp only [reached] at failed
          cases first : trouble.first? 0 schema.length with
          | none =>
              rw [first] at failed
              cases failed
          | some fault =>
              rw [first] at failed
              cases failed
              obtain ⟨reason, rfl⟩ := refuses.first? 0 schema.length first
              exact ⟨_, rfl⟩

/-- The statements of an emptying fail only if they are refused. -/
theorem safe_clearing : ∀ statement ∈ clearing, ∀ s : Session, ∃ s', s.execute statement = .ok s' := by
  intro statement member s
  simp only [clearing, List.mem_cons, List.not_mem_nil, or_false] at member
  obtain rfl | rfl | rfl | rfl := member
  · exact ⟨_, rfl⟩
  · cases draft : s.draft <;> simp [Session.execute, draft, Tables.change, Except.map]
  · cases draft : s.draft <;> simp [Session.execute, draft, Tables.change, Except.map]
  · exact ⟨_, rfl⟩

/-- **An emptying that fails reports so.** -/
theorem cache_of_clearAmid (clean : db.hasNull = false) (refuses : trouble.Refuses)
    (failed : clearAmid trouble db disk = .error failure disk') : ∃ fault, failure = .cache fault := by
  rw [clearAmid, perform_apply] at failed
  have coming := opens trouble db .clear disk
  cases run : openTables trouble db .clear disk with
  | error failure' disk₁ =>
      rw [run] at failed coming
      cases failed
      cases coming with
      | failed alike answers => exact cache_of_opening clean refuses answers
  | ok found disk₁ =>
      obtain ⟨location, t⟩ := found
      rw [run] at failed
      have faulty := fun fault => @Trouble.Refuses.perform trouble refuses clearing safe_clearing
        (Session.opened t) schema.length fault
      dsimp only at failed
      generalize (Session.opened t).perform trouble schema.length clearing = ended at faulty failed
      obtain ⟨session, fault⟩ := ended
      cases fault with
      | none => cases location <;> cases failed
      | some fault =>
          obtain ⟨reason, rfl⟩ := faulty fault rfl
          cases location <;> cases failed <;> exact ⟨_, rfl⟩

/-- An emptying that fails changes nothing that can be seen. -/
theorem unchanged_of_clearAmid (failed : clearAmid trouble db disk = .error failure disk') :
    Unchanged db disk disk' :=
  (alike_of_clear failed).1.unchanged

/-- **Emptying leaves tables without rows**, whatever rows were there. -/
theorem clear_rows (clean : db.hasNull = false) (lasting : db.text ≠ ":memory:")
    (opened : disk.fileForWriting db = .ok names) (seen : sightOf (disk.top.at? names) = .rows t)
    (unguarded : t.guarded = false) :
    clear db disk = .ok () (disk.put names (.file (.database Tables.empty))) := by
  have answers : answer (clear db disk) = .ok () := by
    rw [clear, clearAmid, clearing_eq, answer_perform db .clear disk plain_clearingBody,
      sight_opened opened, seen, opening_calm .clear clean lasting]
    rfl
  have done := eq_ok_of_answer answers
  rw [clear, clearAmid, clearing_eq] at done
  obtain ⟨names', t₁, t', opened', seen', changes, left⟩ :=
    changes_of_perform plain_clearingBody lasting done
  obtain rfl := Except.ok.inj (opened.symm.trans opened')
  obtain rfl := Sight.rows.inj (seen.symm.trans seen')
  obtain rfl := Except.ok.inj changes
  rw [clear, clearAmid, clearing_eq, done, left, Tables.empty, ← unguarded]

end Database

end Docwright.Cache
