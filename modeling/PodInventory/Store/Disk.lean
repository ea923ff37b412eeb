import PodInventory.Note
import PodInventory.Store.Table
import PodInventory.Text.Split

namespace PodInventory

/-- What a place on a disk holds. -/
inductive Entry
  | directory
  | text (content : String)
  | database (tables : Tables)
  deriving DecidableEq, Inhabited

/-- The part of a disk below one directory, whose own path is `root`. -/
structure Disk where
  root : String
  entries : List (List String × Entry)
  deriving Inhabited

namespace Disk

def look? (d : Disk) (path : List String) : Option Entry := d.entries.lookup path

/-- The path of the directory that something stands in. -/
def parent (path : String) : String :=
  "/".intercalate ((Text.splitAll '/' path.toList).dropLast.map .ofList)

def pathText (d : Disk) (path : List String) : String := "/".intercalate (d.root :: path)

def put (d : Disk) (path : List String) (entry : Entry) : Disk :=
  { d with entries := (path, entry) :: d.entries.filter (fun e ↦ e.1 != path) }

/-- All ways down to a path, without the path itself. -/
def above (path : List String) : List (List String) :=
  (List.range path.length).map (fun n ↦ path.take n)

/-- Whether something stands at the path that is no directory. -/
def blocked (d : Disk) (path : List String) : Bool :=
  match d.look? path with
  | none | some .directory => false
  | _ => true

/-- Makes a directory and all that are missing above it. -/
def makeDirectory (d : Disk) (path : List String) : Except StoreError Disk :=
  if (above path).any d.blocked then
    .error (.internal ("create " ++ d.pathText path ++ ": Not a directory (os error 20)"))
  else if d.blocked path then
    .error (.internal ("create " ++ d.pathText path ++ ": File exists (os error 17)"))
  else .ok ((above path ++ [path]).foldl (fun d p ↦ d.put p .directory) d)

def databaseName : String := "podsync.db"

def databasePath (directory : List String) : List String := directory ++ [databaseName]

def openedNote (path : String) : Note := ⟨.info, "Opened pod database at " ++ path⟩

/-- Opens the database in a directory. One that is missing or has nothing in it starts out
empty. Tables are created only where there are none yet. -/
def openDatabase (d : Disk) (directory : List String) :
    Except StoreError Tables × Disk × List Note :=
  match d.makeDirectory directory with
  | .error e => (.error e, d, [])
  | .ok d =>
    let path := databasePath directory
    let opened := openedNote (d.pathText path)
    match d.look? path with
    | some .directory =>
      (.error (.internal (Statement.failed "14" "unable to open database file")), d, [])
    | some (.database tables) => (.ok tables, d, [opened])
    | some (.text content) =>
      if content.isEmpty then (.ok .empty, d.put path (.database .empty), [opened])
      else (.error (.internal (Statement.failed "26" "file is not a database")), d, [opened])
    | none => (.ok .empty, d.put path (.database .empty), [opened])

/-- The disk once the database of a directory was closed with these tables in it. -/
def closed (d : Disk) (directory : List String) (tables : Tables) : Disk :=
  d.put (databasePath directory) (.database tables)

theorem lookup_filter_ne {κ α : Type} [BEq κ] [LawfulBEq κ] {k k' : κ} (h : k' ≠ k)
    (l : List (κ × α)) : (l.filter (fun e ↦ e.1 != k)).lookup k' = l.lookup k' := by
  induction l with
  | nil => rfl
  | cons e l ih =>
    by_cases he : e.1 = k
    · rw [List.filter_cons_of_neg (by simp [he]), ih, List.lookup_cons, he, beq_false_of_ne h]
    · rw [List.filter_cons_of_pos (by simp [he]), List.lookup_cons, List.lookup_cons, ih]

theorem look?_put (d : Disk) (path : List String) (entry : Entry) (path' : List String) :
    (d.put path entry).look? path' = if path' = path then some entry else d.look? path' := by
  rw [look?, put, List.lookup_cons]
  by_cases h : path' = path
  · rw [if_pos h, h, beq_self_eq_true]
  · rw [if_neg h, beq_false_of_ne h]
    exact lookup_filter_ne h d.entries

theorem look?_foldl_put (paths : List (List String)) (d : Disk) (path : List String) :
    (paths.foldl (fun d p ↦ d.put p .directory) d).look? path =
      if path ∈ paths then some .directory else d.look? path := by
  induction paths generalizing d with
  | nil => rfl
  | cons p paths ih =>
    rw [List.foldl_cons, ih, look?_put]
    by_cases h : path ∈ paths
    · rw [if_pos h, if_pos (List.mem_cons_of_mem p h)]
    · rw [if_neg h]
      simp only [List.mem_cons, h, or_false]

theorem blocked_of_directory {d : Disk} {path : List String} (h : d.look? path = some .directory) :
    d.blocked path = false := by
  rw [blocked, h]

/-- There is a directory at every step of the way, and all else is as it was. -/
theorem look?_makeDirectory {d d' : Disk} {path : List String} (h : d.makeDirectory path = .ok d')
    (path' : List String) :
    d'.look? path' =
      if path' ∈ above path ++ [path] then some .directory else d.look? path' := by
  unfold makeDirectory at h
  split at h
  · cases h
  · split at h
    · cases h
    · cases h
      exact look?_foldl_put _ d path'

theorem exists_makeDirectory {d : Disk} {path : List String}
    (h : ∀ p ∈ above path ++ [path], d.look? p = some .directory) :
    ∃ d', d.makeDirectory path = .ok d' := by
  have habove : ¬ (above path).any d.blocked = true := by
    rw [List.any_eq_true]
    rintro ⟨p, hp, hblocked⟩
    rw [blocked_of_directory (h p (List.mem_append_left _ hp))] at hblocked
    cases hblocked
  have hpath : ¬ d.blocked path = true := by
    rw [blocked_of_directory (h path (List.mem_append_right _ List.mem_cons_self))]
    exact Bool.false_ne_true
  exact ⟨_, by rw [makeDirectory, if_neg habove, if_neg hpath]⟩

variable {d : Disk} {directory : List String} {t : Tables}

/-- A database is no directory that it stands in. -/
theorem ne_databasePath {path : List String} (h : path ∈ above directory ++ [directory]) :
    path ≠ databasePath directory := by
  intro heq
  have hlength : (databasePath directory).length = directory.length + 1 := List.length_append
  rw [← heq] at hlength
  rcases List.mem_append.1 h with h | h
  · obtain ⟨n, -, rfl⟩ := List.mem_map.1 h
    have hle := List.length_take_le' n directory
    omega
  · rw [List.mem_singleton.1 h] at hlength
    omega

/-- A database that was opened stands in a directory. -/
theorem look?_of_openDatabase (h : (d.openDatabase directory).1 = .ok t) {path : List String}
    (hpath : path ∈ above directory ++ [directory]) :
    (d.openDatabase directory).2.1.look? path = some .directory := by
  have hne := ne_databasePath hpath
  unfold openDatabase at h ⊢
  cases hmake : d.makeDirectory directory with
  | error e => simp [hmake] at h
  | ok made =>
    have hmade := look?_makeDirectory hmake path
    rw [if_pos hpath] at hmade
    dsimp only
    split
    · exact hmade
    · exact hmade
    · split
      · rw [look?_put, if_neg hne, hmade]
      · exact hmade
    · rw [look?_put, if_neg hne, hmade]

/-- A database that was opened once is opened again, with the tables that it was closed with. -/
theorem openDatabase_closed (h : (d.openDatabase directory).1 = .ok t) (tables : Tables) :
    (((d.openDatabase directory).2.1.closed directory tables).openDatabase directory).1 =
      .ok tables := by
  have hdirectory : ∀ p ∈ above directory ++ [directory],
      ((d.openDatabase directory).2.1.closed directory tables).look? p = some .directory := by
    intro p hp
    rw [closed, look?_put, if_neg (ne_databasePath hp), look?_of_openDatabase h hp]
  obtain ⟨made, hmake⟩ := exists_makeDirectory hdirectory
  have hmade := look?_makeDirectory hmake (databasePath directory)
  rw [if_neg (fun hmem ↦ ne_databasePath hmem rfl), closed, look?_put, if_pos rfl] at hmade
  rw [openDatabase, hmake]
  simp only [hmade]

theorem openDatabase_bare (root : String) :
    ((⟨root, []⟩ : Disk).openDatabase []).1 = .ok .empty := rfl

end Disk

end PodInventory
