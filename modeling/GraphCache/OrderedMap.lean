/-! Mappings that remember the order in which their keys first appeared.
Writing a key that is already present replaces its value and keeps its place;
a new key goes to the end. Objects of an answer, nodes of a prototype, the
tables of a store and the sections of a settings tree are all such mappings,
because the order of their keys is part of every answer. -/
namespace GraphCache

universe u v

/-- Keys with their values, in order of first appearance. The functions below
keep every key unique once it is. -/
abbrev OrderedMap (κ : Type u) (α : Type v) := List (κ × α)

namespace OrderedMap

variable {κ : Type u} {α : Type v} [DecidableEq κ]

/-- The value under a key, if the key is present. -/
def get? : OrderedMap κ α → κ → Option α
  | [], _ => none
  | (present, value) :: rest, key => if present = key then some value else get? rest key

def contains (entries : OrderedMap κ α) (key : κ) : Bool := (entries.get? key).isSome

/-- Writes one key: in place when it is present, at the end when it is new. -/
def insert : OrderedMap κ α → κ → α → OrderedMap κ α
  | [], key, value => [(key, value)]
  | (present, old) :: rest, key, value =>
    if present = key then (key, value) :: rest else (present, old) :: insert rest key value

/-- Writes every entry of `above` into `base`, in order. -/
def overlay (base above : OrderedMap κ α) : OrderedMap κ α :=
  above.foldl (fun merged entry => insert merged entry.1 entry.2) base

/-- The mapping that a list of writes leaves behind: the last value of a key
stands where the key first appeared. -/
def ofList (writes : List (κ × α)) : OrderedMap κ α := overlay [] writes

def keys (entries : OrderedMap κ α) : List κ := entries.map Prod.fst

theorem get?_insert_self (entries : OrderedMap κ α) (key : κ) (value : α) :
    (entries.insert key value).get? key = some value := by
  induction entries with
  | nil => simp [insert, get?]
  | cons entry rest ih =>
    obtain ⟨present, old⟩ := entry
    by_cases same : present = key <;> simp [insert, get?, same, ih]

theorem get?_insert_of_ne (entries : OrderedMap κ α) {key probe : κ} (value : α)
    (different : key ≠ probe) : (entries.insert key value).get? probe = entries.get? probe := by
  induction entries with
  | nil => simp [insert, get?, different]
  | cons entry rest ih =>
    obtain ⟨present, old⟩ := entry
    by_cases same : present = key
    · subst same; simp [insert, get?, different]
    · by_cases found : present = probe
      · subst found; simp [insert, get?, same]
      · simp [insert, get?, same, found, ih]

theorem get?_insert (entries : OrderedMap κ α) (key probe : κ) (value : α) :
    (entries.insert key value).get? probe =
      if key = probe then some value else entries.get? probe := by
  by_cases same : key = probe
  · subst same; simp [get?_insert_self]
  · simp [same, get?_insert_of_ne entries value same]

theorem keys_insert_of_mem {entries : OrderedMap κ α} {key : κ} (value : α)
    (present : key ∈ keys entries) : keys (insert entries key value) = keys entries := by
  induction entries with
  | nil => simp [keys] at present
  | cons entry rest ih =>
    obtain ⟨first, old⟩ := entry
    by_cases same : first = key
    · simp [insert, keys, same]
    · have later : key ∈ keys rest := by
        simpa [keys, Ne.symm same] using present
      have tail := ih later
      simp only [keys] at tail
      simp [insert, keys, same, tail]

theorem keys_insert_of_not_mem {entries : OrderedMap κ α} {key : κ} (value : α)
    (absent : key ∉ keys entries) : keys (insert entries key value) = keys entries ++ [key] := by
  induction entries with
  | nil => simp [insert, keys]
  | cons entry rest ih =>
    obtain ⟨first, old⟩ := entry
    have parts : ¬first = key ∧ key ∉ keys rest := by
      simpa [keys, eq_comm, not_or] using absent
    have tail := ih parts.2
    simp only [keys] at tail
    simp [insert, keys, parts.1, tail]

end OrderedMap
end GraphCache
