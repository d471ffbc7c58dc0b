import Docwright.Proofs.Disk.Extension

/-!
# Following paths in an extension

Following a path is a sequence of turns, and a turn looks at nothing but the kinds
of what it meets (`turn`, `resolve_cons`).  So whatever comes of following a path
in a tree comes of it in an extension as well, except that what was not found may
be found there (`resolve_extends`).

The consequence that caches rest on is `fileForWriting_put`: after a file was
written at the place where a path is opened for writing, every path that was
opened there before is opened there again.
-/

namespace Docwright.Node

open Disk (Fault)

variable {top top' : Node} {links : Nat} {here names rest out : List String} {name : String}

/-- What one name comes to: a fault, or where to go on from, with the links that are left and the names
that come before those that are left. -/
inductive Turn
  | ends (fault : Fault)
  | goes (links : Nat) (here first : List String)

/-- The turn at a name. -/
def turn (top : Node) (links : Nat) (here : List String) (name : String) : Turn :=
  if top.kindAt here = some .directory then
    if Path.isPoints name then .goes links (throughPoints name here) []
    else if nameLimit < name.utf8ByteSize then .ends .nameTooLong
    else
      match top.kindAt (here ++ [name]) with
      | none => .ends .notFound
      | some (.link target) =>
        match links with
        | 0 => .ends .tooManyLinks
        | links + 1 => .goes links ((Path.ofTarget target).base here) (Path.ofTarget target).names
      | some _ => .goes links (here ++ [name]) []
  else .ends .notDirectory

/-- No names lead nowhere else. -/
theorem resolve_nil : top.resolve links here [] = .ok here := by
  cases links <;> rfl

/-- One name on the way, by the kinds of what is met. -/
theorem resolveWith_cons {follow : Path → List String → List String → Except Fault (List String)} :
    top.resolveWith follow here (name :: rest) =
      if top.kindAt here = some .directory then
        if Path.isPoints name then top.resolveWith follow (throughPoints name here) rest
        else if nameLimit < name.utf8ByteSize then .error .nameTooLong
        else
          match top.kindAt (here ++ [name]) with
          | none => .error .notFound
          | some (.link target) => follow (Path.ofTarget target) here rest
          | some _ => top.resolveWith follow (here ++ [name]) rest
      else .error .notDirectory := by
  rw [resolveWith]
  by_cases within : top.kindAt here = some .directory
  · obtain ⟨entries, at_⟩ := kindAt_directory.mp within
    rw [if_pos within]
    simp only [at_, kindAt, at?_snoc at_]
    cases entries.lookup name with
    | none => rfl
    | some node => cases node <;> rfl
  · rw [if_neg within]
    split
    · next entries at_ => exact absurd (kindAt_directory.mpr ⟨entries, at_⟩) within
    · rfl

/-- What a link leads to while so many may be followed. -/
def beyond (top : Node) : Nat → Path → List String → List String → Except Fault (List String)
  | 0, _, _, _ => .error .tooManyLinks
  | links + 1, path, here, rest => top.resolve links (path.base here) (path.names ++ rest)

theorem resolve_eq : top.resolve links = top.resolveWith (top.beyond links) := by
  cases links <;> rfl

/-- Following a path, turn by turn. -/
theorem resolve_cons :
    top.resolve links here (name :: rest) =
      match top.turn links here name with
      | .ends fault => .error fault
      | .goes links here first => top.resolve links here (first ++ rest) := by
  rw [resolve_eq, resolveWith_cons, ← resolve_eq, turn]
  by_cases within : top.kindAt here = some .directory
  · rw [if_pos within, if_pos within]
    by_cases points : Path.isPoints name
    · rw [if_pos points, if_pos points]
      rfl
    · rw [if_neg points, if_neg points]
      by_cases long : nameLimit < name.utf8ByteSize
      · rw [if_pos long, if_pos long]
      · rw [if_neg long, if_neg long]
        rcases top.kindAt (here ++ [name]) with _ | _ | _ | target
        · rfl
        · rfl
        · rfl
        · cases links with
          | zero => rfl
          | succ links => rfl
  · rw [if_neg within, if_neg within]

/-- A turn that goes on is one of three: through points, through a link, and downwards. -/
theorem turn_goes {links' : Nat} {here' first : List String}
    (h : top.turn links here name = .goes links' here' first) :
    top.kindAt here = some .directory ∧
      ((links' = links ∧ here' = throughPoints name here ∧ first = []) ∨
        (links = links' + 1 ∧ ∃ path : Path, here' = path.base here) ∨
        (∃ kind, top.kindAt (here ++ [name]) = some kind ∧ (∀ target, kind ≠ .link target) ∧
          links' = links ∧ here' = here ++ [name] ∧ first = [])) := by
  unfold turn at h
  split at h
  · next within =>
      refine ⟨within, ?_⟩
      split at h
      · cases h
        exact .inl ⟨rfl, rfl, rfl⟩
      · split at h
        · cases h
        · split at h
          · cases h
          · split at h
            · cases h
            · cases h
              exact .inr (.inl ⟨rfl, _, rfl⟩)
          · next kind real leads =>
              cases h
              exact .inr (.inr ⟨kind, leads, real, rfl, rfl, rfl⟩)
  · cases h

/-- Induction along the turns of a path. -/
theorem turn_induction (top : Node) {motive : Nat → List String → List String → Prop}
    (nil : ∀ links here, motive links here [])
    (cons : ∀ links here name rest,
      (∀ links' here' first, top.turn links here name = .goes links' here' first →
        motive links' here' (first ++ rest)) → motive links here (name :: rest))
    (links : Nat) (here names : List String) : motive links here names :=
  match names with
  | [] => nil links here
  | name :: rest => cons links here name rest fun links' here' first _ =>
      turn_induction top nil cons links' here' (first ++ rest)
termination_by (links, names.length)
decreasing_by
  next goes =>
    obtain ⟨-, ⟨rfl, -, rfl⟩ | ⟨rfl, -⟩ | ⟨kind, -, -, rfl, -, rfl⟩⟩ := turn_goes goes
    · exact Prod.Lex.right _ (Nat.lt_succ_self _)
    · exact Prod.Lex.left _ _ (Nat.lt_succ_self _)
    · exact Prod.Lex.right _ (Nat.lt_succ_self _)

/-- A turn that finds what it looks for is the same in an extension. -/
theorem turn_extends (grown : Extends top top') (there : top.kindAt here ≠ none)
    (found : top.turn links here name ≠ .ends .notFound) :
    top'.turn links here name = top.turn links here name := by
  obtain ⟨kind, at_⟩ := Option.ne_none_iff_exists'.mp there
  unfold turn at found ⊢
  rw [at_, grown _ _ at_]
  rw [at_] at found
  cases next : top.kindAt (here ++ [name]) with
  | some kind => rw [grown _ _ next]
  | none =>
      rw [next] at found
      split
      · next within =>
          rw [if_pos within] at found
          split
          · rfl
          · next down =>
              rw [if_neg down] at found
              split
              · rfl
              · next short =>
                  rw [if_neg short] at found
                  exact absurd rfl found
      · rfl

/-! ### Whole paths -/

/-- Points lead from a directory to one. -/
theorem kindAt_throughPoints (within : top.kindAt here = some .directory) :
    top.kindAt (throughPoints name here) = some .directory := by
  unfold throughPoints
  split
  · rcases List.eq_nil_or_concat here with rfl | ⟨above, last, rfl⟩
    · exact within
    · rw [List.concat_eq_append] at within ⊢
      rw [List.dropLast_concat]
      exact kindAt_of_snoc within
  · exact within

/-- A path is followed from a directory by one who stands in a directory. -/
theorem kindAt_base (path : Path) (within : top.kindAt here = some .directory) :
    top.kindAt (path.base here) = some .directory := by
  unfold Path.base
  split
  · exact within
  · exact kindAt_top within

/-- There is a file or a directory at the end of names. -/
def Real (top : Node) (names : List String) : Prop :=
  top.kindAt names = some .directory ∨ top.kindAt names = some .file

theorem Real.there (real : top.Real names) : top.kindAt names ≠ none := by
  rcases real with real | real <;> rw [real] <;> exact Option.some_ne_none _

theorem Real.of_turn {links' : Nat} {here' first : List String}
    (h : top.turn links here name = .goes links' here' first) : top.Real here' := by
  obtain ⟨within, ⟨-, rfl, -⟩ | ⟨-, path, rfl⟩ | ⟨kind, next, real, -, rfl, -⟩⟩ := turn_goes h
  · exact .inl (kindAt_throughPoints within)
  · exact .inl (kindAt_base path within)
  · cases kind with
    | directory => exact .inl next
    | file => exact .inr next
    | link target => exact absurd rfl (real target)

/-- Where a path is followed to its end, its first turn goes on, and the rest is followed from there. -/
theorem turn_of_resolve (h : top.resolve links here (name :: rest) = .ok out) :
    ∃ links' here' first, top.turn links here name = .goes links' here' first ∧
      top.resolve links' here' (first ++ rest) = .ok out := by
  rw [resolve_cons] at h
  cases turned : top.turn links here name with
  | ends fault =>
      rw [turned] at h
      cases h
  | goes links' here' first =>
      rw [turned] at h
      exact ⟨links', here', first, rfl, h⟩

/-- Following a path never ends at a link. -/
theorem Real.of_resolve (real : top.Real here)
    (h : top.resolve links here names = .ok out) : top.Real out := by
  induction links, here, names using turn_induction top with
  | nil links here =>
      rw [resolve_nil] at h
      cases h
      exact real
  | cons links here name rest ih =>
      obtain ⟨links', here', first, turned, onwards⟩ := turn_of_resolve h
      exact ih links' here' first turned (.of_turn turned) onwards

/-- What comes of following a path in a tree comes of it in an extension, unless nothing was found. -/
theorem resolve_extends (grown : Extends top top') (there : top.kindAt here ≠ none)
    (found : top.resolve links here names ≠ .error .notFound) :
    top'.resolve links here names = top.resolve links here names := by
  induction links, here, names using turn_induction top with
  | nil links here => rw [resolve_nil, resolve_nil]
  | cons links here name rest ih =>
      rw [resolve_cons] at found
      have same : top'.turn links here name = top.turn links here name := by
        refine turn_extends grown there fun ends => ?_
        rw [ends] at found
        exact found rfl
      rw [resolve_cons, resolve_cons, same]
      cases turned : top.turn links here name with
      | ends fault => rfl
      | goes links' here' first =>
          rw [turned] at found
          exact ih links' here' first turned (Real.of_turn turned).there found

/-- One name more is followed from where the names before it lead. -/
theorem resolve_append (more : List String)
    (h : top.resolve links here names = .ok out) :
    ∃ links', top.resolve links here (names ++ more) = top.resolve links' out more := by
  induction links, here, names using turn_induction top with
  | nil links here =>
      rw [resolve_nil] at h
      cases h
      exact ⟨links, rfl⟩
  | cons links here name rest ih =>
      obtain ⟨links', here', first, turned, onwards⟩ := turn_of_resolve h
      obtain ⟨links'', same⟩ := ih links' here' first turned onwards
      refine ⟨links'', ?_⟩
      rw [List.cons_append, resolve_cons, turned, ← same, List.append_assoc]

/-- To follow names and more names is to follow the first ones and then the others. -/
theorem resolve_split {more : List String} (whole : top.resolve links here (names ++ more) = .ok out) :
    ∃ links' mid, top.resolve links here names = .ok mid ∧ top.resolve links' mid more = .ok out := by
  cases first : top.resolve links here names with
  | ok mid =>
      obtain ⟨links', onwards⟩ := resolve_append more first
      exact ⟨links', mid, rfl, onwards.symm.trans whole⟩
  | error fault =>
      exfalso
      induction links, here, names using turn_induction top with
      | nil links here =>
          rw [resolve_nil] at first
          cases first
      | cons links here name rest ih =>
          rw [List.cons_append] at whole
          obtain ⟨links', here', inner, turned, onwards⟩ := turn_of_resolve whole
          rw [resolve_cons, turned] at first
          rw [← List.append_assoc] at onwards
          exact ih links' here' inner turned onwards first

/-- Where names are followed on, there is a directory. -/
theorem within_of_resolve {rest : List String}
    (onwards : top.resolve links here (name :: rest) = .ok out) :
    top.kindAt here = some .directory := by
  obtain ⟨links', here', first, turned, -⟩ := turn_of_resolve onwards
  exact (turn_goes turned).1

end Docwright.Node
