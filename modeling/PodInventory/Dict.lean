namespace PodInventory

/-- A finite map with text keys. Entries ascend by key, so equal maps are equal lists. The order on
keys is that of code points, which is also the order of their UTF-8 bytes. -/
structure Dict (α : Type) where
  entries : List (String × α)
  ascending : entries.Pairwise (fun a b ↦ a.1 < b.1)
  deriving DecidableEq

namespace Dict

variable {α β : Type}

def empty : Dict α := ⟨[], .nil⟩

instance : EmptyCollection (Dict α) := ⟨empty⟩

instance : Inhabited (Dict α) := ⟨empty⟩

def size (d : Dict α) : Nat := d.entries.length

def isEmpty (d : Dict α) : Bool := d.entries.isEmpty

def keys (d : Dict α) : List String := d.entries.map Prod.fst

def get? (d : Dict α) (key : String) : Option α := d.entries.lookup key

def contains (d : Dict α) (key : String) : Bool := (d.get? key).isSome

/-- The entry with the lowest key. -/
def first? (d : Dict α) : Option (String × α) := d.entries.head?

def place (key : String) (value : α) : List (String × α) → List (String × α)
  | [] => [(key, value)]
  | e :: rest =>
    if key < e.1 then (key, value) :: e :: rest
    else if key = e.1 then (key, value) :: rest
    else e :: place key value rest

theorem mem_place {key : String} {value : α} {e : String × α} {l : List (String × α)}
    (h : e ∈ place key value l) : e = (key, value) ∨ e ∈ l := by
  induction l with
  | nil => simpa [place] using h
  | cons a rest ih =>
    simp only [place] at h
    split at h
    · simpa using h
    · split at h
      · rcases List.mem_cons.1 h with h | h
        · exact .inl h
        · exact .inr (List.mem_cons_of_mem _ h)
      · rcases List.mem_cons.1 h with h | h
        · exact .inr (h ▸ List.mem_cons_self)
        · exact (ih h).imp_right (List.mem_cons_of_mem _)

theorem place_ascending (key : String) (value : α) {l : List (String × α)}
    (h : l.Pairwise (fun a b ↦ a.1 < b.1)) :
    (place key value l).Pairwise (fun a b ↦ a.1 < b.1) := by
  induction l with
  | nil => simp [place]
  | cons a rest ih =>
    obtain ⟨ha, hr⟩ := List.pairwise_cons.1 h
    simp only [place]
    split
    · rename_i hk
      refine List.pairwise_cons.2 ⟨fun e he ↦ ?_, h⟩
      rcases List.mem_cons.1 he with rfl | he
      · exact hk
      · exact String.lt_trans hk (ha e he)
    · rename_i hk
      split
      · rename_i heq
        exact List.pairwise_cons.2 ⟨fun e he ↦ heq ▸ ha e he, hr⟩
      · rename_i hne
        refine List.pairwise_cons.2 ⟨fun e he ↦ ?_, ih hr⟩
        rcases mem_place he with rfl | he
        · exact Std.lt_of_le_of_ne (String.not_lt.1 hk) (Ne.symm hne)
        · exact ha e he

def insert (d : Dict α) (key : String) (value : α) : Dict α :=
  ⟨place key value d.entries, place_ascending key value d.ascending⟩

def filter (p : String → α → Bool) (d : Dict α) : Dict α :=
  ⟨d.entries.filter (fun e ↦ p e.1 e.2), d.ascending.filter _⟩

def erase (d : Dict α) (key : String) : Dict α := d.filter (fun k _ ↦ k != key)

def map (f : α → β) (d : Dict α) : Dict β :=
  ⟨d.entries.map (fun e ↦ (e.1, f e.2)), d.ascending.map _ (fun _ _ h ↦ h)⟩

/-- Of entries with one key the last one stays. -/
def ofList (l : List (String × α)) : Dict α :=
  l.foldl (fun d e ↦ d.insert e.1 e.2) empty

def insertAll (d e : Dict α) : Dict α :=
  e.entries.foldl (fun d x ↦ d.insert x.1 x.2) d

end Dict

end PodInventory
