import DeviceConsole.Json.Value
import DeviceConsole.Proofs.KeyList

/-!
# Values in key order

The canonical form of a value has the members of every object in key order.  This file proves that a
canonical form is its own canonical form, `Json.canonical_canonical`.
-/

namespace DeviceConsole

namespace Json

theorem canonicalMembers_eq_map (members : List (String × Json)) :
    canonicalMembers members = members.map (Prod.map id canonical) := by
  induction members with
  | nil => rfl
  | cons member rest ih =>
      obtain ⟨name, value⟩ := member
      rw [canonicalMembers, ih]
      rfl

mutual

theorem canonical_canonical : (v : Json) → v.canonical.canonical = v.canonical
  | .null | .bool _ | .num _ | .str _ => rfl
  | .arr items => congrArg Json.arr (canonicalItems_canonicalItems items)
  | .obj members => by
      -- Members that are in order stay so when their values change.
      have values := canonicalMembers_canonicalMembers members
      rw [canonicalMembers_eq_map (canonicalMembers members)] at values
      rw [canonical, canonical, canonicalMembers_eq_map, ← KeyList.ofList_map, values,
        KeyList.ofList_of_ordered (KeyList.ordered_ofList _)]

theorem canonicalItems_canonicalItems :
    (items : List Json) → canonicalItems (canonicalItems items) = canonicalItems items
  | [] => rfl
  | item :: rest => by
      rw [canonicalItems, canonicalItems, canonical_canonical item,
        canonicalItems_canonicalItems rest]

theorem canonicalMembers_canonicalMembers : (members : List (String × Json)) →
    canonicalMembers (canonicalMembers members) = canonicalMembers members
  | [] => rfl
  | (name, value) :: rest => by
      rw [canonicalMembers, canonicalMembers, canonical_canonical value,
        canonicalMembers_canonicalMembers rest]

end

/-- A member of the canonical form is one of the members, in canonical form. -/
theorem exists_of_member?_canonical {members : List (String × Json)} {name : String} {v : Json}
    (found : (obj members).canonical.member? name = some v) :
    ∃ value, (name, value) ∈ members ∧ value.canonical = v := by
  rw [canonical, member?, canonicalMembers_eq_map] at found
  obtain ⟨⟨key, value⟩, member, same⟩ := List.mem_map.1
    (KeyList.mem_of_mem_ofList (KeyList.mem_of_get? found))
  obtain ⟨rfl, rfl⟩ := Prod.mk.inj same
  exact ⟨value, member, rfl⟩

theorem eq_str_of_canonical {v : Json} {s : String} (h : v.canonical = .str s) : v = .str s := by
  cases v with
  | str => exact h
  | null | bool | num | arr | obj => cases h

def isObject : Json → Bool
  | .obj _ => true
  | _ => false

theorem isObject_canonical (v : Json) : v.canonical.isObject = v.isObject := by
  cases v with
  | null | bool | num | str | arr | obj => rfl

end Json

end DeviceConsole
