import Docwright.Check

/-!
# Where definitions stand

A definition can stand anywhere in a file: in the body of a class or of a function, in one of the
bodies of any other statement, and in any of these within any other.  `Stands body place around s`
says where: `place` is the way down to the statement `s` by number, as an address, and `around` names
the layers that were entered on it, the outermost first.  It knows nothing of the checks.

A `Site` is a definition with its place and what is around it, and `sitesIn` lists those of a body.
What makes the list the right one is that it has each site that there is and no other
(`mem_sites`), and that the addresses ascend (`ordered_sitesIn`): a definition comes before those
within it, and these before all that stand behind it.  Two lists of this kind are equal
(`Lists.unique`), so `Lists` pins down a list without a word about how it was made.

All inductions here are on a body by way of the bodies that its statements open
(`body_induction`); a walk never asks what kind of statement it goes through.
-/

namespace Docwright.Check

open Source (Stmt Parameters)

/-- What a statement can stand in, apart from the file: the body of a class, the body of a function,
or a body of any other statement. -/
inductive Layer
  | ofClass (name : String)
  | ofFunction (name : String)
  | block
  deriving DecidableEq, Repr

/-- The name of a layer that has one. -/
def Layer.name? : Layer → Option String
  | ofClass name | ofFunction name => some name
  | block => none

/-- A definition; a class has no parameters. -/
structure Definition where
  row : Nat
  name : String
  parameters? : Option Parameters
  body : List Stmt

/-- The definition that a statement is. -/
def definition? : Stmt → Option Definition
  | .classDef row name body => some ⟨row, name, none, body⟩
  | .functionDef row name p body => some ⟨row, name, some p, body⟩
  | .block _ | .text _ | .simple => none

/-- The statements within a statement, and the layer they stand in. -/
def opened? : Stmt → Option (Layer × List Stmt)
  | .classDef _ name body => some (.ofClass name, body)
  | .functionDef _ name _ body => some (.ofFunction name, body)
  | .block body => some (.block, body)
  | .text _ | .simple => none

/-- A statement stands at a place of a body, within some layers. -/
inductive Stands : List Stmt → List Nat → List Layer → Stmt → Prop
  | here {body : List Stmt} {i : Nat} {s : Stmt} (found : body[i]? = some s) : Stands body [i] [] s
  | within {body inner : List Stmt} {i : Nat} {s t : Stmt} {layer : Layer} {place : List Nat}
      {around : List Layer} (found : body[i]? = some s) (opens : opened? s = some (layer, inner))
      (stands : Stands inner place around t) : Stands body (i :: place) (layer :: around) t

/-- A definition, where it stands and what is around it. -/
structure Site where
  place : List Nat
  around : List Layer
  definition : Definition

/-- A site of a body. -/
def Site.Of (body : List Stmt) (site : Site) : Prop :=
  ∃ s, Stands body site.place site.around s ∧ definition? s = some site.definition

/-- The sites are all those of the body, in the order of the text. -/
structure Lists (body : List Stmt) (sites : List Site) : Prop where
  complete : ∀ site, site ∈ sites ↔ site.Of body
  ordered : sites.Pairwise fun a b => a.place < b.place

/-! ### The walk -/

mutual

/-- The sites of a statement at the given place and within the given layers. -/
def sitesAt (place : List Nat) (around : List Layer) : Stmt → List Site
  | .classDef row name body =>
    ⟨place, around, ⟨row, name, none, body⟩⟩ :: sitesIn place (around ++ [.ofClass name]) 0 body
  | .functionDef row name p body =>
    ⟨place, around, ⟨row, name, some p, body⟩⟩ ::
      sitesIn place (around ++ [.ofFunction name]) 0 body
  | .block body => sitesIn place (around ++ [.block]) 0 body
  | .text _ | .simple => []

/-- The sites of statements that are numbered from `index` on. -/
def sitesIn (place : List Nat) (around : List Layer) (index : Nat) : List Stmt → List Site
  | [] => []
  | s :: rest => sitesAt (place ++ [index]) around s ++ sitesIn place around (index + 1) rest

end

/-- The sites of a file. -/
def sites (body : List Stmt) : List Site :=
  sitesIn [] [] 0 body

/-- The sites of a statement: its own if it is a definition, then those of what it opens. -/
theorem sitesAt_eq (place : List Nat) (around : List Layer) (s : Stmt) :
    sitesAt place around s =
      ((definition? s).map fun d => ⟨place, around, d⟩).toList ++
        ((opened? s).map fun (layer, inner) =>
          sitesIn place (around ++ [layer]) 0 inner).getD [] := by
  cases s <;> rw [sitesAt] <;> rfl

/-- What holds of a body once it holds of all bodies that its statements open holds of every
body. -/
theorem body_induction {motive : List Stmt → Prop}
    (step : ∀ body, (∀ s ∈ body, ∀ layer inner, opened? s = some (layer, inner) → motive inner) →
      motive body) (body : List Stmt) : motive body := by
  refine step body fun s member layer inner opens => ?_
  -- what a statement opens is a part of it, and so smaller than the body
  have smaller : sizeOf inner < sizeOf s := by
    cases s <;> cases opens <;> simp only [Stmt.classDef.sizeOf_spec,
      Stmt.functionDef.sizeOf_spec, Stmt.block.sizeOf_spec] <;> omega
  have := List.sizeOf_lt_of_mem member
  exact body_induction step inner
termination_by sizeOf body

section Members

variable {place : List Nat} {around : List Layer} {site : Site}

theorem mem_sitesAt {s : Stmt} :
    site ∈ sitesAt place around s ↔
      (∃ d, definition? s = some d ∧ site = ⟨place, around, d⟩) ∨
        ∃ layer inner, opened? s = some (layer, inner) ∧
          site ∈ sitesIn place (around ++ [layer]) 0 inner := by
  rw [sitesAt_eq, List.mem_append]
  refine or_congr ?_ ?_
  · cases definition? s with
    | none => simp
    | some d => simp
  · cases opened? s with
    | none => simp
    | some opened =>
        refine ⟨fun member => ⟨opened.1, opened.2, rfl, member⟩, ?_⟩
        rintro ⟨layer, inner, same, member⟩
        cases same
        exact member

theorem mem_sitesIn {index : Nat} {body : List Stmt} :
    site ∈ sitesIn place around index body ↔
      ∃ i s, body[i]? = some s ∧ site ∈ sitesAt (place ++ [index + i]) around s := by
  induction body generalizing index with
  | nil => simp [sitesIn]
  | cons s rest ih =>
      rw [sitesIn, List.mem_append, ih]
      constructor
      · rintro (first | ⟨i, t, found, member⟩)
        · exact ⟨0, s, rfl, first⟩
        · exact ⟨i + 1, t, found, by rwa [show index + (i + 1) = index + 1 + i by omega]⟩
      · rintro ⟨_ | i, t, found, member⟩
        · cases found
          exact .inl member
        · exact .inr ⟨i, t, found, by rwa [show index + 1 + i = index + (i + 1) by omega]⟩

theorem mem_of_stands {body : List Stmt} {steps : List Nat} {inside : List Layer} {s : Stmt}
    {d : Definition} (stands : Stands body steps inside s) (defines : definition? s = some d)
    (place : List Nat) (around : List Layer) (index : Nat) :
    ∃ i rest, steps = i :: rest ∧
      ⟨place ++ (index + i) :: rest, around ++ inside, d⟩ ∈ sitesIn place around index body := by
  induction stands generalizing place around index with
  | @here _ i _ found =>
      exact ⟨i, [], rfl, mem_sitesIn.mpr ⟨i, _, found, mem_sitesAt.mpr (.inl ⟨d, defines, by simp⟩)⟩⟩
  | @within _ inner i _ _ layer _ _ found opens _ ih =>
      obtain ⟨j, rest, rfl, member⟩ := ih defines (place ++ [index + i]) (around ++ [layer]) 0
      exact ⟨i, j :: rest, rfl, mem_sitesIn.mpr ⟨i, _, found, mem_sitesAt.mpr
        (.inr ⟨layer, inner, opens, by simpa using member⟩)⟩⟩

theorem stands_of_mem {index : Nat} {body : List Stmt}
    (member : site ∈ sitesIn place around index body) :
    ∃ i rest inside s d, Stands body (i :: rest) inside s ∧ definition? s = some d ∧
      site = ⟨place ++ (index + i) :: rest, around ++ inside, d⟩ := by
  induction body using body_induction generalizing place around index with
  | step body ih =>
      obtain ⟨i, s, found, member⟩ := mem_sitesIn.mp member
      rcases mem_sitesAt.mp member with ⟨d, defines, rfl⟩ | ⟨layer, inner, opens, member⟩
      · exact ⟨i, [], [], s, d, .here found, defines, by simp⟩
      · obtain ⟨j, rest, inside, t, d, stands, defines, rfl⟩ :=
          ih s (List.mem_of_getElem? found) layer inner opens member
        exact ⟨i, j :: rest, layer :: inside, t, d, .within found opens stands, defines, by simp⟩

end Members

/-- **The walk lists what stands in a file.** -/
theorem mem_sites {body : List Stmt} {site : Site} : site ∈ sites body ↔ site.Of body := by
  constructor
  · intro member
    obtain ⟨i, rest, inside, s, d, stands, defines, rfl⟩ := stands_of_mem member
    exact ⟨s, by simpa using stands, defines⟩
  · rintro ⟨s, stands, defines⟩
    obtain ⟨i, rest, steps, member⟩ := mem_of_stands stands defines [] [] 0
    have same : site = ⟨[] ++ (0 + i) :: rest, [] ++ site.around, site.definition⟩ := by
      simp [← steps]
    rwa [same]

/-! ### The order -/

/-- The sites of a statement that is opened come behind its own, and those of one statement before
those of the next. -/
theorem ordered_sitesIn (place : List Nat) (around : List Layer) (index : Nat) (body : List Stmt) :
    (sitesIn place around index body).Pairwise fun a b => a.place < b.place := by
  induction body using body_induction generalizing place around index with
  | step body ih =>
      have each : ∀ s ∈ body, ∀ place, (sitesAt place around s).Pairwise
          fun a b => a.place < b.place := by
        intro s member place
        rw [sitesAt_eq]
        cases opens : opened? s with
        | none => cases definition? s <;> simp
        | some opened =>
            obtain ⟨layer, inner⟩ := opened
            have inside := ih s member layer inner opens place (around ++ [layer]) 0
            cases definition? s with
            | none => simpa using inside
            | some d =>
                refine List.pairwise_cons.mpr ⟨fun site member => ?_, inside⟩
                obtain ⟨i, rest, _, _, _, -, -, rfl⟩ := stands_of_mem member
                have below : place ++ [] < place ++ (0 + i) :: rest :=
                  List.append_left_lt (List.nil_lt_cons (0 + i) rest)
                simpa using below
      -- from here on it is an induction along the body, the bodies further down are settled
      clear ih
      induction body generalizing index with
      | nil =>
          rw [sitesIn]
          exact .nil
      | cons s rest ih =>
          rw [sitesIn]
          refine List.pairwise_append.mpr ⟨each s (.head _) _,
            ih (index + 1) fun t member => each t (.tail _ member), fun a first b later => ?_⟩
          obtain ⟨tail, address⟩ : ∃ tail, a.place = place ++ index :: tail := by
            rcases mem_sitesAt.mp first with ⟨d, -, rfl⟩ | ⟨layer, inner, -, member⟩
            · exact ⟨[], rfl⟩
            · obtain ⟨i, rest, _, _, _, -, -, rfl⟩ := stands_of_mem member
              exact ⟨(0 + i) :: rest, by simp⟩
          obtain ⟨i, others, _, _, _, -, -, rfl⟩ := stands_of_mem later
          rw [address]
          exact List.append_left_lt (List.cons_lt_cons_iff.mpr (.inl (by omega)))

/-- **The sites of a file are all its definitions, in the order of the text.** -/
theorem lists_sites (body : List Stmt) : Lists body (sites body) :=
  ⟨fun _ => mem_sites, ordered_sitesIn [] [] 0 body⟩

/-- There is one such list. -/
theorem Lists.unique {body : List Stmt} {one other : List Site} (first : Lists body one)
    (second : Lists body other) : one = other := by
  have distinct {sites : List Site} (ordered : sites.Pairwise fun a b => a.place < b.place) :
      sites.Nodup := by
    refine ordered.imp ?_
    rintro a b before rfl
    exact List.lt_irrefl _ before
  have same : one.Perm other := (List.perm_ext_iff_of_nodup (distinct first.ordered)
    (distinct second.ordered)).mpr fun site => (first.complete site).trans (second.complete site).symm
  exact same.eq_of_pairwise (fun a b _ _ before after => absurd (List.lt_trans before after)
    (List.lt_irrefl _)) first.ordered second.ordered

end Docwright.Check
