import Courier.Catalog.Basic

/-!
# A catalog with several clients

Clients change one catalog at the same time. Each of them goes through a script of changes, one step
after the other, and a schedule says whose step is next.

Some changes take two steps. An upsert of a new key first takes a place and then puts the template,
and it holds the lock of the key in between. A removal first deletes the entry and then gives its
place back; no lock is held for the second step. A change of a key whose lock is held waits for it.
Several keys can have one lock.
-/

namespace Courier

namespace Catalog

/-- A catalog without the entry of a key. Its place stays taken. -/
def delete (catalog : Catalog) (key : TemplateKey) : Catalog :=
  { catalog with entries := Assoc.erase key catalog.entries }

/-- Gives a place back. -/
def release (catalog : Catalog) : Catalog :=
  { catalog with size := catalog.size - 1 }

end Catalog

/-! ## Clients -/

/-- A change of a catalog. -/
inductive Change where
  | upsert (template : Template)
  | remove (key : TemplateKey)
  deriving Repr, Inhabited

/-- The key of the entry that is changed. -/
def Change.key : Change → TemplateKey
  | .upsert template => template.key
  | .remove key => key

/-- How far a client has come with a change. -/
inductive Phase where
  /-- It has not begun, or there is none. -/
  | idle
  /-- A place is taken for the template, and the lock of its key is held. -/
  | inserting (template : Template)
  /-- The entry is deleted, and its place is still taken. -/
  | releasing
  deriving Repr, Inhabited

/-- The key for which a place is taken while it is not in the catalog yet. -/
def Phase.reserved? : Phase → Option TemplateKey
  | .inserting template => some template.key
  | .idle | .releasing => none

/-- Whether an entry is deleted whose place is still taken. -/
def Phase.isReleasing : Phase → Bool
  | .releasing => true
  | .idle | .inserting _ => false

/-- One of the clients of a catalog. -/
structure Client where
  phase : Phase
  /-- The changes that it has not begun yet. -/
  script : List Change
  /-- What it was answered to the changes that are over, the last one first. -/
  answers : List (Except TemplateError Unit)

namespace Client

/-- A client at the end of a change. -/
def finish (client : Client) (answer : Except TemplateError Unit) : Client :=
  { client with phase := .idle, answers := answer :: client.answers }

/-- The first step of a change whose lock is free, with the catalog after it. -/
def begin (client : Client) (catalog : Catalog) : Change → Client × Catalog
  | .upsert template =>
    if catalog.contains template.key then (client.finish (.ok ()), catalog.put template)
    else
      match catalog.reserve with
      | (.ok (), reserved) => ({ client with phase := .inserting template }, reserved)
      | (.error error, after) => (client.finish (.error error), after)
  | .remove key =>
    if catalog.contains key then ({ client with phase := .releasing }, catalog.delete key)
    else (client.finish (.error (.notFound key.text)), catalog)

/-- The next step of a client, with the catalog after it. There is none at the end of the script or
if the client has to wait for a lock. -/
def step? (client : Client) (isLocked : TemplateKey → Bool) (catalog : Catalog) :
    Option (Client × Catalog) :=
  match client.phase, client.script with
  | .inserting template, _ => some (client.finish (.ok ()), catalog.put template)
  | .releasing, _ => some (client.finish (.ok ()), catalog.release)
  | .idle, [] => none
  | .idle, change :: rest =>
    if isLocked change.key then none
    else some ({ client with script := rest }.begin catalog change)

end Client

/-! ## Schedules -/

/-- A catalog with its clients. -/
structure SharedCatalog where
  catalog : Catalog
  clients : List Client

namespace SharedCatalog

/-- An empty catalog, and clients that have not begun with their scripts. -/
def start (capacity : Nat) (scripts : List (List Change)) : SharedCatalog :=
  ⟨.empty capacity, scripts.map fun script => ⟨.idle, script, []⟩⟩

/-- The number of places that are taken for keys which are not in the catalog yet. -/
def inserting (shared : SharedCatalog) : Nat :=
  shared.clients.countP (·.phase.reserved?.isSome)

/-- The number of places that are taken for keys which are not in the catalog any more. -/
def releasing (shared : SharedCatalog) : Nat :=
  shared.clients.countP (·.phase.isReleasing)

variable {Lock : Type} [DecidableEq Lock] (lock : TemplateKey → Lock)

/-- The locks that are held. -/
def locks (clients : List Client) : List Lock :=
  clients.filterMap fun client => client.phase.reserved?.map lock

/-- Whether the lock of a key is held. -/
def isLocked (shared : SharedCatalog) (key : TemplateKey) : Bool :=
  lock key ∈ locks lock shared.clients

/-- The catalog and its clients after a step of the client at an index. If it has none, nothing
changes. -/
def step (shared : SharedCatalog) (i : Nat) : SharedCatalog :=
  match shared.clients[i]?.bind (·.step? (shared.isLocked lock) shared.catalog) with
  | some (client, catalog) => ⟨catalog, shared.clients.set i client⟩
  | none => shared

/-- The catalog and its clients after the steps of a schedule. -/
def run (shared : SharedCatalog) (schedule : List Nat) : SharedCatalog :=
  schedule.foldl (step lock) shared

end SharedCatalog

end Courier
