import GoSchema.Text.Display

/-!
# Annotations

Annotations attach texts to schema entities under keys. A key has one value; the order of the keys
is that of their first appearance.
-/

namespace GoSchema

/-- Texts under distinct keys, in the order in which the keys were given. -/
structure Annotations where
  /-- The keys with their values. -/
  entries : List (String × String)
  /-- No key occurs twice. -/
  distinct : (entries.map Prod.fst).Nodup
  deriving DecidableEq

namespace Annotations

/-- No annotations. -/
def empty : Annotations := ⟨[], List.nodup_nil⟩

/-- The keys in order. -/
def keys (a : Annotations) : List String := a.entries.map Prod.fst

/-- The value under `key`. -/
def get? (a : Annotations) (key : String) : Option String := a.entries.lookup key

/-- There is a value under `key`. -/
def contains (a : Annotations) (key : String) : Bool := (a.get? key).isSome

/-- There are no annotations. -/
def isEmpty (a : Annotations) : Bool := a.entries.isEmpty

/-- Replaces the value of an entry whose key is `key`. -/
def replace (key value : String) (entry : String × String) : String × String :=
  if entry.1 = key then (key, value) else entry

theorem replace_fst (key value : String) (entry : String × String) :
    (replace key value entry).1 = entry.1 := by
  unfold replace
  split
  · next h => exact h.symm
  · rfl

theorem map_fst_replace (key value : String) (entries : List (String × String)) :
    (entries.map (replace key value)).map Prod.fst = entries.map Prod.fst := by
  simp [replace_fst]

/-- Puts `value` under `key`: in the place of the key if it is there, else at the end. -/
def insert (a : Annotations) (key value : String) : Annotations :=
  if h : key ∈ a.keys then
    ⟨a.entries.map (replace key value), by rw [map_fst_replace]; exact a.distinct⟩
  else
    ⟨a.entries ++ [(key, value)], by
      rw [List.map_append, List.nodup_append]
      refine ⟨a.distinct, by simp, ?_⟩
      intro k hk k' hk' heq
      simp only [List.map_cons, List.map_nil, List.mem_singleton] at hk'
      exact h (hk' ▸ heq ▸ hk)⟩

/-- The annotations of a list of pairs; a later pair replaces an earlier one with its key. -/
def ofList (pairs : List (String × String)) : Annotations :=
  pairs.foldl (fun a p => a.insert p.1 p.2) empty

/-- How a message shows annotations. -/
def display (a : Annotations) : String :=
  "\x7b" ++ ", ".intercalate (a.entries.map fun e => Text.display e.1 ++ ": " ++ Text.display e.2) ++ "\x7d"

end Annotations

instance : Inhabited Annotations := ⟨.empty⟩

end GoSchema
