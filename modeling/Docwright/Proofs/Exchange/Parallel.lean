import Docwright.Build
import Docwright.Proofs.Exchange.Trace

/-!
# Exchanges in step

`Twins alike` relates what comes of acts on two exchanges: both succeed, or both
end with the same failure, and either way they leave exchanges that are alike.
`Twin alike` says this of two acts whenever they begin on alike exchanges.

`Exchange.Parallel` is what a build needs of two exchanges to be unable to tell
them apart: entries of the log do not matter, a record may be announced on either
side as made and on the other one as found, and rejections come to the same.
-/

namespace Docwright

open Exchange (Act Logs)

/-- Results on two exchanges: both succeed, or both end with the same failure. -/
def Twins (alike : Exchange → Exchange → Prop) :
    EStateM.Result Failure Exchange Unit → EStateM.Result Failure Exchange Unit → Prop
  | .ok _ x, .ok _ y => alike x y
  | .error failure x, .error failure' y => failure = failure' ∧ alike x y
  | .ok _ _, .error _ _ | .error _ _, .ok _ _ => False

/-- Two acts come to the same on exchanges that are alike. -/
def Twin (alike : Exchange → Exchange → Prop) (act act' : Act Unit) : Prop :=
  ∀ ⦃x y : Exchange⦄, alike x y → Twins alike (act x) (act' y)

namespace Twin

variable {alike : Exchange → Exchange → Prop} {act act' : Act Unit}

theorem pure : Twin alike (Pure.pure ()) (Pure.pure ()) := fun _ _ same => same

theorem throw (failure : Failure) :
    Twin alike (MonadExcept.throw failure) (MonadExcept.throw failure) :=
  fun _ _ same => ⟨rfl, same⟩

theorem bind {next next' : Unit → Act Unit} (first : Twin alike act act')
    (second : Twin alike (next ()) (next' ())) : Twin alike (act >>= next) (act' >>= next') := by
  intro x y same
  have begun := first same
  rw [bind_apply, bind_apply]
  revert begun
  cases act x with
  | ok _ x' =>
      cases act' y with
      | ok _ y' => exact fun same' => second same'
      | error failure y' => exact False.elim
  | error failure x' =>
      cases act' y with
      | ok _ y' => exact False.elim
      | error failure' y' => exact id

theorem forM {α : Type} {items : List α} {each : α → Act Unit}
    (step : ∀ item ∈ items, Twin alike (each item) (each item)) :
    Twin alike (items.forM each) (items.forM each) := by
  induction items with
  | nil => exact pure
  | cons item rest ih =>
      change Twin alike (each item >>= fun _ => rest.forM each)
        (each item >>= fun _ => rest.forM each)
      exact bind (step item List.mem_cons_self)
        (ih fun other member => step other (List.mem_cons_of_mem _ member))

end Twin

/-- A build cannot tell exchanges apart that are alike, even where one of them is told of a record that
it was made and the other one that it was found. -/
structure Exchange.Parallel (bus : Nat) (alike : Exchange → Exchange → Prop) : Prop where
  logs : ∀ {x y x' y' : Exchange}, alike x y → Logs x x' → Logs y y' → alike x' y'
  announcement : ∀ (record : FileRecord) (hit : Bool),
    Twin alike
      (Exchange.publish bus (Build.announcement record hit).name (Build.announcement record hit))
      (Exchange.publish bus (Build.announcement record true).name (Build.announcement record true))
  rejection : ∀ r : Rejection,
    Twin alike (Exchange.publish bus Event.logName (Build.rejectionEvent r))
      (Exchange.publish bus Event.logName (Build.rejectionEvent r))

end Docwright
