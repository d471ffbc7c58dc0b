import Docwright.Build
import Docwright.Proofs.Exchange.Trace

/-!
# Everything that settling a file can do

`Settling project path w result` lists the ways in which the record of a file is
settled, one constructor for each way out of `Build.settle`, with the complete
world it ends in.  `settling` says that the list is complete.  Everything that
is proved about builds goes through this case list; nothing after it unfolds
`settle` again.

The order of the steps shows in the constructors: the content is read before the
cache is asked, the cache is asked before the content is decoded, a timestamp is
taken only after the examination succeeded, and the record is kept last.
-/

namespace Docwright.Build

open Exchange (Logs)

variable {σ : Type}

/-- The record that is made of a file. -/
def recordMade (project : Project σ) (path : String) (data : List UInt8) (ticks : Nat)
    (problems : List Problem) : FileRecord :=
  ⟨path, Digest.fingerprint data, project.clock ticks, problems⟩

/-- The ways in which the record of a file is settled. -/
inductive Settling (project : Project σ) (path : String) (w : World σ) :
    EStateM.Result Failure (World σ) (FileRecord × Bool) → Prop
  /-- The path has a null character. -/
  | null (unread : project.read path = .error .null) :
      Settling project path w (.error .nullByte w)
  /-- The file cannot be read. -/
  | unread {fault : Disk.Fault} {place : Path} {x : Exchange}
      (unread : project.read path = .error (.disk fault place)) (logs : Logs w.exchange x) :
      Settling project path w
        (.error (.rejected ⟨path, fault.describe place⟩) { w with exchange := x })
  /-- The cache does not answer. -/
  | unanswered {data : List UInt8} {failure : Failure} {s : σ} {x : Exchange}
      (read : project.read path = .ok data)
      (lookup : project.cache.lookup path w.store = .error failure s)
      (logs : Logs w.exchange x) :
      Settling project path w (.error failure { w with store := s, exchange := x })
  /-- The cache holds a record of this content. -/
  | hit {data : List UInt8} {s : σ} {record : FileRecord}
      (read : project.read path = .ok data)
      (lookup : project.cache.lookup path w.store = .ok (some record) s)
      (same : record.fingerprint = Digest.fingerprint data) :
      Settling project path w (.ok (record, true) { w with store := s })
  /-- The content is no text. -/
  | undecoded {data : List UInt8} {found : Option FileRecord} {s : σ} {x : Exchange}
      {fault : Text.Utf8.Fault}
      (read : project.read path = .ok data)
      (lookup : project.cache.lookup path w.store = .ok found s)
      (stale : current? (Digest.fingerprint data) found = none)
      (decode : Text.Utf8.decode data = .error fault) (logs : Logs w.exchange x) :
      Settling project path w
        (.error (.rejected ⟨path, fault.message⟩) { w with store := s, exchange := x })
  /-- The examination rejects the text. -/
  | unexamined {data : List UInt8} {found : Option FileRecord} {s : σ} {x : Exchange}
      {text : List Char} {detail : String}
      (read : project.read path = .ok data)
      (lookup : project.cache.lookup path w.store = .ok found s)
      (stale : current? (Digest.fingerprint data) found = none)
      (decode : Text.Utf8.decode data = .ok text)
      (examine : (project.examine path (String.ofList text)).result = .error detail)
      (logs : Logs w.exchange x) :
      Settling project path w
        (.error (.rejected ⟨path, detail⟩) ⟨s, x, w.ticks, w.examined ++ [path]⟩)
  /-- The cache fails to keep the new record. -/
  | unkept {data : List UInt8} {found : Option FileRecord} {s t : σ} {x : Exchange}
      {text : List Char} {problems : List Problem} {failure : Failure}
      (read : project.read path = .ok data)
      (lookup : project.cache.lookup path w.store = .ok found s)
      (stale : current? (Digest.fingerprint data) found = none)
      (decode : Text.Utf8.decode data = .ok text)
      (examine : (project.examine path (String.ofList text)).result = .ok problems)
      (store : project.cache.store path (recordMade project path data w.ticks problems) s =
        .error failure t)
      (logs : Logs w.exchange x) :
      Settling project path w (.error failure ⟨t, x, w.ticks + 1, w.examined ++ [path]⟩)
  /-- The cache keeps the new record. -/
  | made {data : List UInt8} {found : Option FileRecord} {s t : σ} {x : Exchange}
      {text : List Char} {problems : List Problem}
      (read : project.read path = .ok data)
      (lookup : project.cache.lookup path w.store = .ok found s)
      (stale : current? (Digest.fingerprint data) found = none)
      (decode : Text.Utf8.decode data = .ok text)
      (examine : (project.examine path (String.ofList text)).result = .ok problems)
      (store : project.cache.store path (recordMade project path data w.ticks problems) s =
        .ok () t)
      (logs : Logs w.exchange x) :
      Settling project path w
        (.ok (recordMade project path data w.ticks problems, false)
          ⟨t, x, w.ticks + 1, w.examined ++ [path]⟩)

/-! ### The steps -/

theorem log_apply (entry : Log.Entry) (w : World σ) :
    log entry w = .ok ⟨⟩ { w with exchange := w.exchange.observe (.logged entry) } := rfl

/-- Entries of the log are written one after another, and nothing else is done. -/
theorem forM_log (entries : List Log.Entry) (w : World σ) :
    ∃ x, Logs w.exchange x ∧ entries.forM log w = .ok ⟨⟩ { w with exchange := x } := by
  induction entries generalizing w with
  | nil => exact ⟨w.exchange, Logs.refl _, rfl⟩
  | cons entry rest ih =>
      obtain ⟨x, logs, run⟩ := ih { w with exchange := w.exchange.observe (.logged entry) }
      exact ⟨x, (Logs.observe entry _).trans logs, run⟩

theorem logs_logFailure (failure : Failure) (x : Exchange) : Logs x (logFailure failure x) := by
  unfold logFailure
  split
  · split
    · exact Logs.observe _ x
    · exact Logs.refl x
  · exact Logs.refl x

theorem onCache_ok {α : Type} {act : EStateM Failure σ α} {w : World σ} {a : α} {s : σ}
    (h : act w.store = .ok a s) : onCache act w = .ok a { w with store := s } := by
  simp only [onCache, h]

theorem onCache_error {α : Type} {act : EStateM Failure σ α} {w : World σ} {failure : Failure}
    {s : σ} (h : act w.store = .error failure s) :
    onCache act w =
      .error failure { w with store := s, exchange := logFailure failure w.exchange } := by
  simp only [onCache, h]

theorem store_onCache {α : Type} (act : EStateM Failure σ α) (w : World σ) :
    (endState (onCache act w)).store = endState (act w.store) := by
  unfold onCache
  cases act w.store <;> rfl

theorem answer_onCache {α : Type} (act : EStateM Failure σ α) (w : World σ) :
    answer (onCache act w) = answer (act w.store) := by
  unfold onCache
  cases act w.store <;> rfl

/-- A record of the content is current. -/
theorem current?_of_same {fingerprint : String} {record : FileRecord}
    (same : record.fingerprint = fingerprint) : current? fingerprint (some record) = some record := by
  rw [current?, Option.filter_some, same, beq_self_eq_true, if_pos rfl]

/-- Reading gives the content and does nothing, or ends with one of two failures. -/
theorem content_ok {project : Project σ} {path : String} {data : List UInt8}
    (h : project.read path = .ok data) (w : World σ) : content project path w = .ok data w := by
  simp only [content, h, pure_apply]

theorem content_null {project : Project σ} {path : String}
    (h : project.read path = .error .null) (w : World σ) :
    content project path w = .error .nullByte w := by
  simp only [content, h, throw_apply]

theorem content_disk {project : Project σ} {path : String} {fault : Disk.Fault} {place : Path}
    (h : project.read path = .error (.disk fault place)) (w : World σ) :
    ∃ x, Logs w.exchange x ∧ content project path w =
      .error (.rejected ⟨path, fault.describe place⟩) { w with exchange := x } := by
  simp only [content, h]
  exact ⟨_, Logs.observe _ _, rfl⟩

/-- Making a record ends in one of four ways. -/
theorem settling_renew {project : Project σ} {path : String} {w : World σ} {data : List UInt8}
    {found : Option FileRecord} {s : σ} (read : project.read path = .ok data)
    (lookup : project.cache.lookup path w.store = .ok found s)
    (stale : current? (Digest.fingerprint data) found = none) :
    Settling project path w
      ((do return (← renew project path (Digest.fingerprint data) data, false))
        { w with store := s }) := by
  simp only [bind_apply, renew, decoded]
  cases decode : Text.Utf8.decode data with
  | error fault =>
      exact .undecoded read lookup stale decode (Logs.observe _ _)
  | ok text =>
      simp only [pure_apply, examine, bind_apply, modify_apply]
      obtain ⟨x, logs, run⟩ := forM_log (project.examine path (String.ofList text)).logs
        ⟨s, w.exchange, w.ticks, w.examined ++ [path]⟩
      rw [run]
      cases examine : (project.examine path (String.ofList text)).result with
      | error detail => exact .unexamined read lookup stale decode examine logs
      | ok problems =>
          simp only [pure_apply, now]
          cases store : project.cache.store path (recordMade project path data w.ticks problems) s with
          | error failure t =>
              rw [onCache_error store]
              exact .unkept read lookup stale decode examine store
                (logs.trans (logs_logFailure failure x))
          | ok _ t =>
              rw [onCache_ok store]
              exact .made read lookup stale decode examine store logs

/-- The case list is complete. -/
theorem settling (project : Project σ) (path : String) (w : World σ) :
    Settling project path w (settle project path w) := by
  unfold settle
  cases read : project.read path with
  | error fault =>
      cases fault with
      | null =>
          rw [bind_error (content_null read w)]
          exact .null read
      | disk fault place =>
          obtain ⟨x, logs, run⟩ := content_disk read w
          rw [bind_error run]
          exact .unread read logs
  | ok data =>
      rw [bind_ok (content_ok read w)]
      cases lookup : project.cache.lookup path w.store with
      | error failure s =>
          rw [bind_error (onCache_error lookup)]
          exact .unanswered read lookup (logs_logFailure failure _)
      | ok found s =>
          rw [bind_ok (onCache_ok lookup)]
          cases stale : current? (Digest.fingerprint data) found with
          | none => exact settling_renew read lookup stale
          | some record =>
              obtain ⟨rfl, same⟩ := Option.filter_eq_some_iff.mp stale
              exact .hit read lookup (by simpa using same)

/-- A record of the content that the cache answers with is a hit. -/
theorem settle_hit {project : Project σ} {path : String} {w : World σ} {data : List UInt8} {s : σ}
    {record : FileRecord} (read : project.read path = .ok data)
    (lookup : project.cache.lookup path w.store = .ok (some record) s)
    (same : record.fingerprint = Digest.fingerprint data) :
    settle project path w = .ok (record, true) { w with store := s } := by
  rw [settle, bind_ok (content_ok read w), bind_ok (onCache_ok lookup)]
  simp only [current?_of_same same, pure_apply]

end Docwright.Build
