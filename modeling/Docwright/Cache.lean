import Docwright.Cache.Database

/-!
# Caches

A cache keeps the record of a file under its path.  `FileCache σ` is a cache whose state is a `σ`:
`memory` keeps records as they are, for as long as the state lasts; `unavailable` finds what a
memory holds and fails to keep anything; `database` keeps them on a disk.

`Storage` is the state of all of them.
-/

namespace Docwright

/-- A cache, by what it does with its state. -/
structure FileCache (σ : Type) where
  lookup : String → EStateM Failure σ (Option FileRecord)
  store : String → FileRecord → EStateM Failure σ Unit

/-- Records and the paths they are kept under. -/
abbrev Memory := List (String × FileRecord)

namespace Memory

/-- A memory with a record kept under a path. -/
def keep (path : String) (record : FileRecord) : Memory → Memory
  | [] => [(path, record)]
  | (p, r) :: rest => if p == path then (p, record) :: rest else (p, r) :: keep path record rest

end Memory

/-- What caches keep records in. -/
structure Storage where
  disk : Disk
  memory : Memory

namespace Storage

/-- What is done with a disk, as a part of the storage. -/
def onDisk {α : Type} (act : EStateM Failure Disk α) : EStateM Failure Storage α := fun s =>
  match act s.disk with
  | .ok a disk => .ok a { s with disk }
  | .error failure disk => .error failure { s with disk }

end Storage

namespace FileCache

/-- The record that a memory keeps under a path. -/
def remembered (path : String) : EStateM Failure Storage (Option FileRecord) := do
  return (← get).memory.lookup path

/-- The cache in a memory. -/
def memory : FileCache Storage where
  lookup := remembered
  store path record := modify fun s => { s with memory := Memory.keep path record s.memory }

/-- A cache that finds what is in the memory and fails to keep anything. -/
def unavailable : FileCache Storage where
  lookup := remembered
  store _ _ := throw (.cache ⟨.disk, none⟩)

/-- The cache in a database. -/
def database (db : Path) : FileCache Storage where
  lookup path := Storage.onDisk (Cache.Database.lookup db path)
  store path record := Storage.onDisk (Cache.Database.store db path record)

end FileCache

end Docwright
