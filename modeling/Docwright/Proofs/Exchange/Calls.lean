import Docwright.Proofs.Exchange.Printing
import Mathlib.Data.List.Induction
import Mathlib.Tactic.ByContra

/-!
# Calls and first connections

Consoles are connected to buses, events are published and other listeners subscribed in
any order.  Of this only the first connection of each console counts (`Call.home?`): the
consoles of a bus are those that were connected to it first, in that order
(`Call.firsts`).  Both are said of the list of calls alone, and `firsts_concat_connect`
says how one more connection changes them.
-/

namespace Docwright

/-- What is done to an exchange from outside. -/
inductive Call
  | connect (console bus : Nat)
  | publish (bus : Nat) (name : String) (event : Event)
  | subscribe (bus : Nat) (name : String) (listener : Listener)

namespace Call

/-- What a call does. -/
def act : Call → Exchange.Act Unit
  | connect console bus => Exchange.connect console bus
  | publish bus name event => Exchange.publish bus name event
  | subscribe bus name listener => Exchange.subscribe bus name listener

/-- The console that is connected, and the bus that it is connected to. -/
def link? : Call → Option (Nat × Nat)
  | connect console bus => some (console, bus)
  | publish .. | subscribe .. => none

/-- The listener that is subscribed, if it is on a bus and under a name. -/
def listener? (bus : Nat) (name : String) : Call → Option Listener
  | subscribe b n listener =>
    if b = bus ∧ n = name ∧ Exchange.isBlankName n = false then some listener else none
  | connect .. | publish .. => none

/-- What is connected is there, and what is subscribed takes notes only. -/
def Regular (buses consoles : Nat) : Call → Prop
  | connect console bus => console < consoles ∧ bus < buses
  | publish .. => True
  | subscribe _ _ listener => listener.Passive

/-- The bus that a console is connected to first. -/
def home? (calls : List Call) (console : Nat) : Option Nat :=
  (calls.filterMap link?).lookup console

/-- The consoles that are connected to a bus first, in the order in which they are. -/
def firsts (calls : List Call) (bus : Nat) : List Nat :=
  ((calls.filterMap link?).map Prod.fst).eraseDups.filter (home? calls · == some bus)

variable {calls : List Call} {call : Call} {console bus c b : Nat}

/-! ### First connections -/

theorem home?_eq_none_iff : home? calls c = none ↔ c ∉ (calls.filterMap link?).map Prod.fst := by
  rw [home?, List.lookup_eq_none_iff, List.mem_map]
  constructor
  · rintro absent ⟨link, member, rfl⟩
    exact bne_iff_ne.mp (absent link member) rfl
  · exact fun absent link member => bne_iff_ne.mpr fun same => absent ⟨link, member, same.symm⟩

theorem home?_concat (calls : List Call) (call : Call) (c : Nat) :
    home? (calls ++ [call]) c = (home? calls c).or (call.link?.toList.lookup c) := by
  rw [home?, List.filterMap_append, List.lookup_append, ← home?]
  cases h : call.link? <;> simp [h]

/-- What a console was connected to first stays so. -/
theorem home?_concat_of_some {home : Nat} (known : home? calls c = some home) (call : Call) :
    home? (calls ++ [call]) c = some home := by
  rw [home?_concat, known, Option.some_or]

/-- A connection is of one console only. -/
theorem home?_concat_other (other : c ≠ console) (bus : Nat) :
    home? (calls ++ [connect console bus]) c = home? calls c := by
  rw [home?_concat]
  simp [link?, List.lookup_cons, beq_eq_false_iff_ne.mpr other]

/-- A console that is connected for the first time. -/
theorem home?_concat_fresh (fresh : home? calls console = none) (bus : Nat) :
    home? (calls ++ [connect console bus]) console = some bus := by
  rw [home?_concat, fresh, Option.none_or]
  simp [link?]

/-- Another call. -/
theorem home?_concat_unlinked (unlinked : call.link? = none) (c : Nat) :
    home? (calls ++ [call]) c = home? calls c := by
  rw [home?_concat, unlinked]
  exact Option.or_none

theorem firsts_concat_unlinked (unlinked : call.link? = none) (bus : Nat) :
    firsts (calls ++ [call]) bus = firsts calls bus := by
  simp only [firsts, home?_concat_unlinked unlinked, List.filterMap_append, List.filterMap_cons_none unlinked,
    List.filterMap_nil, List.append_nil]

/-- A console comes behind those that were connected before, unless it was connected itself. -/
theorem firsts_concat_connect (calls : List Call) (console bus b : Nat) :
    firsts (calls ++ [connect console bus]) b =
      firsts calls b ++ if home? calls console = none ∧ bus = b then [console] else [] := by
  unfold firsts
  rw [List.filterMap_append, List.map_append, List.eraseDups_append, List.filter_append]
  congr 1
  · -- those that were connected before keep their homes
    refine List.filter_congr fun c member => ?_
    have known : home? calls c ≠ none := fun unknown =>
      home?_eq_none_iff.mp unknown (List.mem_eraseDups.mp member)
    obtain ⟨home, known⟩ := Option.ne_none_iff_exists'.mp known
    rw [home?_concat_of_some known, known]
  · by_cases fresh : home? calls console = none
    · have absent := home?_eq_none_iff.mp fresh
      have last := home?_concat_fresh fresh bus
      have one : [console].eraseDups = [console] := rfl
      by_cases same : bus = b
      · subst same
        simp [link?, List.removeAll, absent, last, fresh, one]
      · simp [link?, List.removeAll, absent, last, fresh, same]
    · have present := not_not.mp (mt home?_eq_none_iff.mpr fresh)
      simp [link?, List.removeAll, present, fresh]

theorem mem_firsts_iff : c ∈ firsts calls bus ↔ home? calls c = some bus := by
  rw [firsts, List.mem_filter, List.mem_eraseDups, beq_iff_eq, and_iff_right_iff_imp]
  intro known
  by_contra absent
  cases known.symm.trans (home?_eq_none_iff.mpr absent)

theorem nodup_firsts (calls : List Call) (bus : Nat) : (firsts calls bus).Nodup := by
  induction calls using List.reverseRecOn with
  | nil => exact .nil
  | append_singleton calls call ih =>
      cases call with
      | publish | subscribe =>
          rw [firsts_concat_unlinked rfl]
          exact ih
      | connect console b =>
          rw [firsts_concat_connect]
          split
          · next fresh =>
              have one : [console].Nodup := List.nodup_cons.mpr ⟨List.not_mem_nil, .nil⟩
              refine List.nodup_append.mpr ⟨ih, one, fun c member d last same => ?_⟩
              obtain rfl := List.mem_singleton.mp last
              cases (mem_firsts_iff.mp (same ▸ member)).symm.trans fresh.1
          · rwa [List.append_nil]

end Call

end Docwright
