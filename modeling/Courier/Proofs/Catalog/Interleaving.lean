import Courier.Catalog.Shared
import Courier.Proofs.Catalog.Refinement

/-!
# Places under interleaving

The counter of a shared catalog is changed at other moments than its entries, so in between it is
not the number of keys. It counts the places that are taken: one for each key in the catalog, one
for each client that has reserved a place and not yet put its template, and one for each client
that has deleted an entry and not yet given its place back (`SharedCatalog.Balanced`). Every step
of every client preserves this, and with it the bound by the capacity
(`SharedCatalog.size_bounds`).

A place that is not given back yet is a place that is missing: a key can be refused although there
is room for it in the catalog, and that is so only while a removal is half done
(`SharedCatalog.refuses_iff`). A client whose steps are not interrupted sees nothing of all this:
its changes are the calls of a catalog (`SharedCatalog.exists_run_change`).
-/

namespace Courier

/-! ## Keys -/

namespace Catalog

variable {catalog : Catalog} {key : TemplateKey} {template : Template}

theorem mem_keys_iff : key ∈ catalog.keys ↔ catalog.contains key := by
  rw [keys, List.mem_toFinset, ← Assoc.isSome_find?_iff]
  rfl

theorem keys_put : (catalog.put template).keys = insert template.key catalog.keys := by
  ext key
  rw [mem_keys_iff, Finset.mem_insert, mem_keys_iff, contains, contains]
  show (Assoc.find? key (Assoc.put template.key template catalog.entries)).isSome ↔ _
  rw [Assoc.find?_put]
  by_cases h : key = template.key
  · simp [h]
  · rw [if_neg h]
    simp [h, find?]

theorem keys_delete : (catalog.delete key).keys = catalog.keys.erase key := by
  ext other
  rw [mem_keys_iff, Finset.mem_erase, mem_keys_iff, contains, contains]
  show (Assoc.find? other (Assoc.erase key catalog.entries)).isSome ↔ _
  rw [Assoc.find?_erase]
  by_cases h : other = key
  · simp [h]
  · rw [if_neg h]
    simp [h, find?]

/-- With ascending keys there is one entry for a key. -/
theorem count_eq_card_keys (h : Assoc.Ascending catalog.entries) :
    catalog.count = catalog.keys.card := by
  rw [keys, List.toFinset_card_of_nodup h.nodup, List.length_map, count]

/-- The answer to a change that is made at once, and the catalog after it. -/
def change (catalog : Catalog) : Change → Except TemplateError Unit × Catalog
  | .upsert template => catalog.tryUpsert template
  | .remove key => catalog.tryRemove key

end Catalog

/-! ## Steps of a client -/

namespace Client

/-- What a client can do in a step, with the catalog before and after it. -/
inductive Moves (isLocked : TemplateKey → Bool) (catalog : Catalog) :
    Client → Client → Catalog → Prop where
  /-- It puts the template for which it has reserved a place. -/
  | insert {template script answers} :
    Moves isLocked catalog ⟨.inserting template, script, answers⟩
      ⟨.idle, script, .ok () :: answers⟩ (catalog.put template)
  /-- It gives the place of the entry back that it has deleted. -/
  | release {script answers} :
    Moves isLocked catalog ⟨.releasing, script, answers⟩
      ⟨.idle, script, .ok () :: answers⟩ catalog.release
  /-- It replaces the template of a key. -/
  | replace {template script answers} (hfree : isLocked template.key = false)
      (hheld : template.key ∈ catalog.keys) :
    Moves isLocked catalog ⟨.idle, .upsert template :: script, answers⟩
      ⟨.idle, script, .ok () :: answers⟩ (catalog.put template)
  /-- It takes a place for a new key. -/
  | reserve {template script answers} (hfree : isLocked template.key = false)
      (hnew : template.key ∉ catalog.keys) (hroom : catalog.size < catalog.capacity) :
    Moves isLocked catalog ⟨.idle, .upsert template :: script, answers⟩
      ⟨.inserting template, script, answers⟩ { catalog with size := catalog.size + 1 }
  /-- It is refused a place for a new key. -/
  | refuse {template script answers} (hfree : isLocked template.key = false)
      (hnew : template.key ∉ catalog.keys) (hfull : catalog.capacity ≤ catalog.size) :
    Moves isLocked catalog ⟨.idle, .upsert template :: script, answers⟩
      ⟨.idle, script, .error (.catalogFull catalog.capacity) :: answers⟩ catalog
  /-- It deletes the entry of a key. -/
  | delete {key script answers} (hfree : isLocked key = false) (hheld : key ∈ catalog.keys) :
    Moves isLocked catalog ⟨.idle, .remove key :: script, answers⟩
      ⟨.releasing, script, answers⟩ (catalog.delete key)
  /-- It finds no entry to delete. -/
  | miss {key script answers} (hfree : isLocked key = false) (hnew : key ∉ catalog.keys) :
    Moves isLocked catalog ⟨.idle, .remove key :: script, answers⟩
      ⟨.idle, script, .error (.notFound key.text) :: answers⟩ catalog

variable {isLocked : TemplateKey → Bool} {catalog catalog' : Catalog} {client next : Client}

section Begin

variable {script : List Change} {answers : List (Except TemplateError Unit)} {change : Change}

theorem step?_idle_cons :
    (Client.mk .idle (change :: script) answers).step? isLocked catalog
      = if isLocked change.key then none
        else some ((Client.mk .idle script answers).begin catalog change) := rfl

variable (catalog script answers) in
/-- The first step of a change is a move. -/
theorem moves_begin (hfree : isLocked change.key = false) :
    Moves isLocked catalog ⟨.idle, change :: script, answers⟩
      ((Client.mk .idle script answers).begin catalog change).1
      ((Client.mk .idle script answers).begin catalog change).2 := by
  cases change with
  | upsert template =>
    by_cases hheld : template.key ∈ catalog.keys
    · rw [begin, if_pos (Catalog.mem_keys_iff.mp hheld)]
      exact .replace hfree hheld
    · rw [begin, if_neg (mt Catalog.mem_keys_iff.mpr hheld), Catalog.reserve]
      by_cases hroom : catalog.size < catalog.capacity
      · rw [if_pos hroom]
        exact .reserve hfree hheld hroom
      · rw [if_neg hroom]
        exact .refuse hfree hheld (Nat.le_of_not_lt hroom)
  | remove key =>
    by_cases hheld : key ∈ catalog.keys
    · rw [begin, if_pos (Catalog.mem_keys_iff.mp hheld)]
      exact .delete hfree hheld
    · rw [begin, if_neg (mt Catalog.mem_keys_iff.mpr hheld)]
      exact .miss hfree hheld

end Begin

/-- A step of a client is a move. -/
theorem moves_of_step? (h : client.step? isLocked catalog = some (next, catalog')) :
    Moves isLocked catalog client next catalog' := by
  obtain ⟨phase, script, answers⟩ := client
  cases phase with
  | inserting template =>
    cases h
    exact .insert
  | releasing =>
    cases h
    exact .release
  | idle =>
    cases script with
    | nil => cases h
    | cons change rest =>
      rw [step?_idle_cons] at h
      split at h
      · cases h
      · rename_i hlocked
        have hfree := Bool.eq_false_of_not_eq_true hlocked
        have hmoves := moves_begin catalog rest answers hfree
        rw [Option.some.inj h] at hmoves
        exact hmoves

/-- Every move is a step of a client. -/
theorem Moves.step?_eq (h : Moves isLocked catalog client next catalog') :
    client.step? isLocked catalog = some (next, catalog') := by
  cases h with
  | insert | release => rfl
  | replace hfree hheld =>
    rw [Catalog.mem_keys_iff] at hheld
    simp [step?, Change.key, hfree, begin, hheld, finish]
  | reserve hfree hnew hroom =>
    rw [Catalog.mem_keys_iff] at hnew
    simp [step?, Change.key, hfree, begin, hnew, Catalog.reserve, hroom]
  | refuse hfree hnew hfull =>
    rw [Catalog.mem_keys_iff] at hnew
    simp [step?, Change.key, hfree, begin, hnew, Catalog.reserve, Nat.not_lt.mpr hfull, finish]
  | delete hfree hheld =>
    rw [Catalog.mem_keys_iff] at hheld
    simp [step?, Change.key, hfree, begin, hheld]
  | miss hfree hnew =>
    rw [Catalog.mem_keys_iff] at hnew
    simp [step?, Change.key, hfree, begin, hnew, finish]

end Client

/-! ## The invariant -/

namespace SharedCatalog

variable {Lock : Type} (lock : TemplateKey → Lock)

/-- The number of places that are taken for clients in the middle of a change. -/
def taken (clients : List Client) : Nat :=
  clients.countP (·.phase.reserved?.isSome) + clients.countP (·.phase.isReleasing)

section Taken

variable {clients others : List Client} {script : List Change}
  {answers : List (Except TemplateError Unit)}

@[simp] theorem taken_cons_idle : taken (⟨.idle, script, answers⟩ :: others) = taken others := rfl

@[simp] theorem taken_cons_inserting {template : Template} :
    taken (⟨.inserting template, script, answers⟩ :: others) = taken others + 1 := by
  rw [taken, List.countP_cons_of_pos rfl, List.countP_cons_of_neg Bool.false_ne_true, taken]
  omega

@[simp] theorem taken_cons_releasing :
    taken (⟨.releasing, script, answers⟩ :: others) = taken others + 1 := by
  rw [taken, List.countP_cons_of_neg Bool.false_ne_true, List.countP_cons_of_pos rfl, taken]
  omega

theorem taken_perm {clients' : List Client} (h : clients.Perm clients') :
    taken clients = taken clients' :=
  congrArg₂ (· + ·) (h.countP_eq _) (h.countP_eq _)

theorem taken_eq_zero_of_idle (h : ∀ client ∈ clients, client.phase = .idle) :
    taken clients = 0 := by
  rw [taken, Nat.add_eq_zero_iff, List.countP_eq_zero, List.countP_eq_zero]
  constructor
  all_goals
    intro client hclient
    rw [h client hclient]
    exact Bool.false_ne_true

end Taken

/-- The places that are taken are accounted for: by the keys of a catalog, by the keys that clients
have reserved, which are new and have locks of their own, and by the entries that they have
deleted. -/
structure Balanced (capacity : Nat) (catalog : Catalog) (clients : List Client) : Prop where
  capacity_eq : catalog.capacity = capacity
  ascending : Assoc.Ascending catalog.entries
  size_eq : catalog.size = catalog.keys.card + taken clients
  size_le : catalog.size ≤ capacity
  reserved_new : ∀ client ∈ clients, ∀ key, client.phase.reserved? = some key → key ∉ catalog.keys
  locks_nodup : (locks lock clients).Nodup

namespace Balanced

variable {lock} {capacity : Nat} {catalog catalog' : Catalog} {clients others : List Client}
  {client next : Client} {isLocked : TemplateKey → Bool}

/-- The order of the clients does not matter. -/
theorem perm (h : Balanced lock capacity catalog clients) {clients' : List Client}
    (hperm : clients.Perm clients') : Balanced lock capacity catalog clients' where
  capacity_eq := h.capacity_eq
  ascending := h.ascending
  size_eq := taken_perm hperm ▸ h.size_eq
  size_le := h.size_le
  reserved_new client hclient := h.reserved_new client (hperm.mem_iff.mpr hclient)
  locks_nodup := (hperm.filterMap _).nodup_iff.mp h.locks_nodup

/-- The lock of a reserved key is held. -/
theorem lock_mem_locks {key : TemplateKey} (hclient : client ∈ clients)
    (h : client.phase.reserved? = some key) : lock key ∈ locks lock clients :=
  List.mem_filterMap.mpr ⟨client, hclient, by rw [h]; rfl⟩

/-- A move of a client keeps the balance. -/
theorem move (h : Balanced lock capacity catalog (client :: others))
    (hlocked : ∀ key, isLocked key = false → lock key ∉ locks lock (client :: others))
    (hmove : client.Moves isLocked catalog next catalog') :
    Balanced lock capacity catalog' (next :: others) := by
  obtain ⟨hcapacity, hascending, hsize, hle, hnew, hlocks⟩ := h
  obtain ⟨hclient, hothers⟩ := List.forall_mem_cons.mp hnew
  -- each move changes the keys, the counter and the phase of one client, and the rest stays
  cases hmove with
  | @insert template script answers =>
    obtain ⟨hown, hlocks⟩ := List.nodup_cons.mp hlocks
    have hkey : template.key ∉ catalog.keys := hclient template.key rfl
    refine ⟨hcapacity, hascending.put, ?_, hle, List.forall_mem_cons.mpr ⟨nofun, ?_⟩, hlocks⟩
    · rw [Catalog.keys_put, Finset.card_insert_of_notMem hkey, taken_cons_idle]
      rw [taken_cons_inserting] at hsize
      show catalog.size = _
      omega
    · intro other hother key hreserved
      rw [Catalog.keys_put, Finset.mem_insert, not_or]
      refine ⟨?_, hothers other hother key hreserved⟩
      rintro rfl
      exact hown (lock_mem_locks hother hreserved)
  | release =>
    refine ⟨hcapacity, hascending, ?_, (Nat.sub_le _ _).trans hle,
      List.forall_mem_cons.mpr ⟨nofun, hothers⟩, hlocks⟩
    rw [taken_cons_releasing] at hsize
    rw [taken_cons_idle]
    show catalog.size - 1 = catalog.keys.card + _
    omega
  | replace hfree hheld =>
    have hkeys := Finset.insert_eq_of_mem hheld
    rw [← Catalog.keys_put] at hkeys
    refine ⟨hcapacity, hascending.put, ?_, hle, List.forall_mem_cons.mpr ⟨nofun, ?_⟩, hlocks⟩
    · rw [hkeys]
      exact hsize
    · rw [hkeys]
      exact hothers
  | reserve hfree hfresh hroom =>
    refine ⟨hcapacity, hascending, ?_, hcapacity ▸ hroom, List.forall_mem_cons.mpr ⟨?_, hothers⟩,
      List.nodup_cons.mpr ⟨hlocked _ hfree, hlocks⟩⟩
    · rw [taken_cons_idle] at hsize
      rw [taken_cons_inserting]
      show catalog.size + 1 = catalog.keys.card + _
      omega
    · intro key hkey
      cases hkey
      exact hfresh
  | refuse | miss =>
    exact ⟨hcapacity, hascending, hsize, hle, List.forall_mem_cons.mpr ⟨nofun, hothers⟩, hlocks⟩
  | @delete key script answers hfree hheld =>
    refine ⟨hcapacity, hascending.erase, ?_, hle, List.forall_mem_cons.mpr ⟨nofun, ?_⟩, hlocks⟩
    · have hpos : 0 < catalog.keys.card := Finset.card_pos.mpr ⟨key, hheld⟩
      rw [taken_cons_idle] at hsize
      rw [Catalog.keys_delete, Finset.card_erase_of_mem hheld, taken_cons_releasing]
      show catalog.size = _
      omega
    · intro other hother key hreserved
      rw [Catalog.keys_delete]
      exact fun hmem => hothers other hother key hreserved (Finset.mem_of_mem_erase hmem)

end Balanced

/-! ## Steps and runs -/

variable [DecidableEq Lock] {capacity : Nat} {shared : SharedCatalog} {i : Nat}

variable {lock} in
/-- The step of a client that has one changes that client and the catalog. -/
theorem step_eq {client next : Client} {catalog : Catalog} (hat : shared.clients[i]? = some client)
    (hstep : client.step? (shared.isLocked lock) shared.catalog = some (next, catalog)) :
    shared.step lock i = ⟨catalog, shared.clients.set i next⟩ := by
  rw [step, hat, Option.bind_some, hstep]

/-- A step is a move of one client, unless nothing happens. -/
theorem step_cases (shared : SharedCatalog) (i : Nat) :
    shared.step lock i = shared ∨ ∃ client next catalog,
      shared.clients[i]? = some client ∧
        client.Moves (shared.isLocked lock) shared.catalog next catalog ∧
        shared.step lock i = ⟨catalog, shared.clients.set i next⟩ := by
  cases hat : shared.clients[i]? with
  | none => exact .inl (by rw [step, hat, Option.bind_none])
  | some client =>
    cases hstep : client.step? (shared.isLocked lock) shared.catalog with
    | none => exact .inl (by rw [step, hat, Option.bind_some, hstep])
    | some after =>
      exact .inr ⟨client, after.1, after.2, rfl, Client.moves_of_step? hstep, step_eq hat hstep⟩

@[simp] theorem run_nil (shared : SharedCatalog) : shared.run lock [] = shared := rfl

@[simp] theorem run_cons (shared : SharedCatalog) (i : Nat) (schedule : List Nat) :
    shared.run lock (i :: schedule) = (shared.step lock i).run lock schedule := rfl

namespace Balanced

omit [DecidableEq Lock] in
/-- A catalog is balanced as long as its clients have not begun. -/
theorem start (capacity : Nat) (scripts : List (List Change)) :
    Balanced lock capacity (start capacity scripts).catalog (start capacity scripts).clients := by
  have hidle : ∀ client ∈ (SharedCatalog.start capacity scripts).clients, client.phase = .idle := by
    intro client hclient
    obtain ⟨script, -, rfl⟩ := List.mem_map.mp hclient
    rfl
  refine ⟨rfl, List.Pairwise.nil, ?_, Nat.zero_le capacity, ?_, ?_⟩
  · -- no place is taken for a client
    rw [taken_eq_zero_of_idle hidle]
    rfl
  · intro client hclient key hkey
    rw [hidle client hclient] at hkey
    cases hkey
  · have hlocks : locks lock (SharedCatalog.start capacity scripts).clients = [] :=
      List.filterMap_eq_nil_iff.mpr fun client hclient => by rw [hidle client hclient]; rfl
    rw [hlocks]
    exact List.nodup_nil

variable {lock}

omit [DecidableEq Lock] in
/-- The places taken for clients are those for keys to come and those for keys that are gone. -/
theorem size_eq_add (h : Balanced lock capacity shared.catalog shared.clients) :
    shared.catalog.size = shared.catalog.keys.card + shared.inserting + shared.releasing :=
  h.size_eq.trans (Nat.add_assoc ..).symm

/-- A step keeps the balance. -/
theorem step (h : Balanced lock capacity shared.catalog shared.clients) (i : Nat) :
    Balanced lock capacity (shared.step lock i).catalog (shared.step lock i).clients := by
  rcases shared.step_cases lock i with hsame | ⟨client, next, catalog, hat, hmove, hstep⟩
  · rw [hsame]
    exact h
  · -- with the client in front, the others are the same before and after the step
    obtain ⟨hi, rfl⟩ := List.getElem?_eq_some_iff.mp hat
    have hbefore := List.getElem_cons_eraseIdx_perm hi
    have hafter := List.getElem_cons_eraseIdx_perm (List.length_set.symm ▸ hi :
      i < (shared.clients.set i next).length)
    rw [List.getElem_set_self, List.eraseIdx_set_eq] at hafter
    have hlocked (key : TemplateKey) (hfree : shared.isLocked lock key = false) :
        lock key ∉ locks lock (shared.clients[i] :: shared.clients.eraseIdx i) := by
      rw [locks, (hbefore.filterMap _).mem_iff]
      exact of_decide_eq_false hfree
    rw [hstep]
    exact ((h.perm hbefore.symm).move hlocked hmove).perm hafter

/-- Every run keeps the balance. -/
theorem run (h : Balanced lock capacity shared.catalog shared.clients) (schedule : List Nat) :
    Balanced lock capacity (shared.run lock schedule).catalog
      (shared.run lock schedule).clients := by
  induction schedule generalizing shared with
  | nil => exact h
  | cons i rest ih => exact ih (h.step i)

end Balanced

/-! ## A client that is not interrupted -/

variable {lock} in
/-- Two steps of a client after one another. -/
theorem run_pair {client middle next : Client} {catalog catalog' : Catalog}
    (hat : shared.clients[i]? = some client)
    (hfirst : client.Moves (shared.isLocked lock) shared.catalog middle catalog)
    (hsecond : ∀ isLocked, middle.Moves isLocked catalog next catalog') :
    shared.run lock [i, i] = ⟨catalog', shared.clients.set i next⟩ := by
  have hmiddle : (shared.clients.set i middle)[i]? = some middle := by
    rw [List.getElem?_set_self', hat]
    rfl
  rw [run_cons, step_eq hat hfirst.step?_eq, run_cons, run_nil,
    step_eq hmiddle (hsecond _).step?_eq, List.set_set]

variable {lock} in
/-- A client whose steps are not interrupted makes a change at once: the catalog after it, and the
answer, are those of the call. -/
theorem exists_run_change {change : Change} {script : List Change}
    {answers : List (Except TemplateError Unit)}
    (hat : shared.clients[i]? = some ⟨.idle, change :: script, answers⟩)
    (hfree : shared.isLocked lock change.key = false) :
    ∃ n ≤ 2, shared.run lock (List.replicate n i) =
      ⟨(shared.catalog.change change).2,
        shared.clients.set i ⟨.idle, script, (shared.catalog.change change).1 :: answers⟩⟩ := by
  have hmove := Client.moves_begin shared.catalog script answers hfree
  generalize (Client.mk .idle script answers).begin shared.catalog change = after at hmove
  obtain ⟨next, catalog⟩ := after
  have hstep := step_eq hat hmove.step?_eq
  -- adding a key and deleting one take a second step, everything else ends with the first
  cases hmove with
  | replace _ hheld =>
    rw [Catalog.mem_keys_iff] at hheld
    refine ⟨1, by omega, hstep.trans ?_⟩
    simp only [Catalog.change, Catalog.tryUpsert, hheld, if_true]
    rfl
  | reserve hfree hnew hroom =>
    have hrun := run_pair hat (.reserve hfree hnew hroom) fun _ => .insert
    rw [Catalog.mem_keys_iff] at hnew
    refine ⟨2, le_rfl, hrun.trans ?_⟩
    simp [Catalog.change, Catalog.tryUpsert, hnew, Catalog.reserve, hroom]
  | refuse _ hnew hfull =>
    rw [Catalog.mem_keys_iff] at hnew
    refine ⟨1, by omega, hstep.trans ?_⟩
    simp [Catalog.change, Catalog.tryUpsert, hnew, Catalog.reserve, Nat.not_lt.mpr hfull]
  | delete hfree hheld =>
    have hrun := run_pair hat (.delete hfree hheld) fun _ => .release
    rw [Catalog.mem_keys_iff] at hheld
    refine ⟨2, le_rfl, hrun.trans ?_⟩
    simp [Catalog.change, Catalog.tryRemove, hheld, Catalog.delete, Catalog.release]
  | miss _ hnew =>
    rw [Catalog.mem_keys_iff] at hnew
    refine ⟨1, by omega, hstep.trans ?_⟩
    simp [Catalog.change, Catalog.tryRemove, hnew]

/-! ## Size and capacity -/

/-- **The bound holds under every interleaving.** Whatever the clients do and in whatever order, the
counter is the number of keys with that of reserved keys and of entries whose places are not given
back yet. So there are at most as many keys as places taken, and no more of these than the capacity;
a place is only given back when one is taken; and when no change is half done, the counter is the
number of keys. -/
theorem size_bounds (capacity : Nat) (scripts : List (List Change)) (schedule : List Nat) :
    let shared := (start capacity scripts).run lock schedule
    shared.catalog.size = shared.catalog.keys.card + shared.inserting + shared.releasing ∧
    shared.catalog.count = shared.catalog.keys.card ∧
    shared.catalog.keys.card ≤ shared.catalog.size ∧ shared.catalog.size ≤ capacity ∧
    (∀ client ∈ shared.clients, client.phase = .releasing → 0 < shared.catalog.size) ∧
    ((∀ client ∈ shared.clients, client.phase = .idle) →
      shared.catalog.size = shared.catalog.keys.card) := by
  intro shared
  have h : Balanced lock capacity shared.catalog shared.clients :=
    (Balanced.start lock capacity scripts).run schedule
  have hsize := h.size_eq_add
  refine ⟨hsize, Catalog.count_eq_card_keys h.ascending, by omega, h.size_le, ?_, ?_⟩
  · intro client hclient hphase
    have hpos : 0 < shared.releasing := by
      refine List.countP_pos_iff.mpr ⟨client, hclient, ?_⟩
      rw [hphase]
      rfl
    omega
  · intro hidle
    rw [h.size_eq, taken_eq_zero_of_idle hidle, Nat.add_zero]

/-- A template of which only the name is given. -/
def named (name : String) : Template :=
  { (default : Template) with name }

/-- One place for two clients: one adds a template and removes it, the other adds another one. -/
def onePlace : SharedCatalog :=
  start 1 [[.upsert (named "a"), .remove (named "a").key], [.upsert (named "b")]]

/-- While the removal is half done the place is still taken, and after both scripts it is taken
again. -/
theorem onePlace_bounds :
    let removing := onePlace.run id [0, 0, 0]
    let finished := onePlace.run id [0, 0, 0, 0, 1, 1]
    removing.clients.map Client.phase = [.releasing, .idle] ∧ removing.catalog.count = 0 ∧
      0 < removing.catalog.size ∧
      finished.clients.map Client.phase = [.idle, .idle] ∧ finished.catalog.count = 1 ∧
      finished.catalog.size = finished.catalog.keys.card := by
  intro removing finished
  have hremoving : removing.clients.map Client.phase = [.releasing, .idle] := rfl
  have hfinished : finished.clients.map Client.phase = [.idle, .idle] := rfl
  obtain ⟨-, -, -, -, hpos, -⟩ := size_bounds id 1 _ [0, 0, 0]
  obtain ⟨-, -, -, -, -, hsize⟩ := size_bounds id 1 _ [0, 0, 0, 0, 1, 1]
  refine ⟨hremoving, by decide, ?_, hfinished, by decide, hsize fun client hclient => ?_⟩
  · have hmem : Phase.releasing ∈ removing.clients.map Client.phase :=
      hremoving ▸ List.mem_cons_self
    obtain ⟨client, hclient, hphase⟩ := List.mem_map.mp hmem
    exact hpos client hclient hphase
  · have hmem : client.phase ∈ finished.clients.map Client.phase := List.mem_map_of_mem hclient
    rw [hfinished] at hmem
    simpa using hmem

/-! ## Refusals -/

/-- Whether a client is refused a place in its next step. -/
def Refuses (shared : SharedCatalog) (i : Nat) : Prop :=
  ∃ client next capacity, shared.clients[i]? = some client ∧
    (shared.step lock i).clients[i]? = some next ∧
    next.answers = .error (.catalogFull capacity) :: client.answers

/-- A place is refused exactly to a client that begins to add a new key, whose lock is free, when as
many places are taken as there are. -/
theorem refuses_iff_full :
    shared.Refuses lock i ↔ ∃ template script answers,
      shared.clients[i]? = some ⟨.idle, .upsert template :: script, answers⟩ ∧
        shared.isLocked lock template.key = false ∧ template.key ∉ shared.catalog.keys ∧
        shared.catalog.capacity ≤ shared.catalog.size := by
  constructor
  · rintro ⟨client, next, capacity, hat, hnext, hanswers⟩
    rcases shared.step_cases lock i with hsame | ⟨client', next', catalog, hat', hmove, hstep⟩
    · -- a client that waits is not answered
      rw [hsame, hat] at hnext
      cases hnext
      exact absurd hanswers.symm (List.cons_ne_self _ _)
    · obtain rfl : client = client' := Option.some.inj (hat.symm.trans hat')
      rw [hstep, List.getElem?_set_self', hat] at hnext
      cases hnext
      cases hmove with
      | insert | release | replace => cases hanswers
      | reserve | delete => exact absurd hanswers.symm (List.cons_ne_self _ _)
      | miss => cases hanswers
      | refuse hfree hnew hfull => exact ⟨_, _, _, hat, hfree, hnew, hfull⟩
  · rintro ⟨template, script, answers, hat, hfree, hnew, hfull⟩
    have hmove : Client.Moves (shared.isLocked lock) shared.catalog
        ⟨.idle, .upsert template :: script, answers⟩
        ⟨.idle, script, .error (.catalogFull shared.catalog.capacity) :: answers⟩ shared.catalog :=
      .refuse hfree hnew hfull
    refine ⟨_, ⟨.idle, script, .error (.catalogFull shared.catalog.capacity) :: answers⟩, _, hat,
      ?_, rfl⟩
    rw [step_eq hat hmove.step?_eq, List.getElem?_set_self', hat]
    rfl

/-- **When a client is refused.** A client is refused a place in a step exactly if the step is the
beginning of an upsert of a new key, whose lock is free, and the keys in the catalog, the keys that
other clients have reserved and the entries that they have deleted without giving the place back are
as many as the capacity. So the keys held and reserved fill the catalog at a refusal exactly if no
removal is half done. -/
theorem refuses_iff (capacity : Nat) (scripts : List (List Change)) (schedule : List Nat)
    (i : Nat) :
    let shared := (start capacity scripts).run lock schedule
    (shared.Refuses lock i ↔ ∃ template script answers,
      shared.clients[i]? = some ⟨.idle, .upsert template :: script, answers⟩ ∧
        shared.isLocked lock template.key = false ∧ template.key ∉ shared.catalog.keys ∧
        shared.catalog.keys.card + shared.inserting + shared.releasing = capacity) ∧
    (shared.Refuses lock i →
      (shared.catalog.keys.card + shared.inserting = capacity ↔ shared.releasing = 0)) := by
  intro shared
  have h : Balanced lock capacity shared.catalog shared.clients :=
    (Balanced.start lock capacity scripts).run schedule
  have hsize := h.size_eq_add
  have hle := h.size_le
  -- the counter is never above the capacity, so it has reached it
  have hfull : shared.catalog.capacity ≤ shared.catalog.size
      ↔ shared.catalog.keys.card + shared.inserting + shared.releasing = capacity := by
    rw [h.capacity_eq]
    omega
  rw [refuses_iff_full, hfull]
  refine ⟨Iff.rfl, ?_⟩
  rintro ⟨_, _, _, -, -, -, htotal⟩
  omega

/-- The other client is refused while the key of the first one is in the catalog. -/
theorem onePlace_refuses :
    let shared := onePlace.run id [0, 0]
    shared.Refuses id 1 ∧ shared.catalog.keys.card + shared.inserting = 1 := by
  intro shared
  obtain ⟨hiff, hroom⟩ := refuses_iff id 1
    [[.upsert (named "a"), .remove (named "a").key], [.upsert (named "b")]] [0, 0] 1
  have hrefuses : shared.Refuses id 1 :=
    hiff.mpr ⟨named "b", [], [], rfl, by decide, by decide, by decide⟩
  exact ⟨hrefuses, (hroom hrefuses).mpr rfl⟩

/-- One place for two clients: one adds a template and begins to remove it, and the other then finds
that its key is gone. -/
def halfRemoved : SharedCatalog :=
  (start 1 [[.upsert (named "a"), .remove (named "a").key],
    [.remove (named "a").key, .upsert (named "b")]]).run id [0, 0, 0, 1]

/-- The other client was told that there is no such key, and still it is refused a place, although
no key is in the catalog and none is reserved. -/
theorem halfRemoved_refuses :
    halfRemoved.clients.map Client.phase = [.releasing, .idle] ∧
      halfRemoved.clients.map Client.answers =
        [[.ok ()], [.error (.notFound (named "a").key.text)]] ∧
      halfRemoved.Refuses id 1 ∧
      halfRemoved.catalog.keys.card + halfRemoved.inserting = 0 ∧
      halfRemoved.catalog.capacity = 1 :=
  ⟨rfl, rfl, ⟨_, _, 1, rfl, rfl, rfl⟩, by decide, rfl⟩

end SharedCatalog

end Courier
