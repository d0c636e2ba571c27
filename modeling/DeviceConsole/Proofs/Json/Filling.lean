import DeviceConsole.Proofs.Json.Canonical
import DeviceConsole.Proofs.Json.RoundTrip

/-!
# Forms and what is filled in

A form is a value whose texts may be marks for other values.  This file defines:

* `Json.at?`, the value that a path of names leads to;
* `Json.fill`, the value with others in place of its texts.

It shows that filling a form changes neither the order of its members nor the paths through it, and
that a form which can be read back from its text can be after it has been filled.
-/

namespace DeviceConsole

namespace Json

variable {f : String → Json}

def at? : List String → Json → Option Json
  | [], value => some value
  | name :: path, value => (value.member? name).bind (at? path)

mutual

/-- Puts other values in place of the texts of a value; the names of members stay. -/
def fill (f : String → Json) : Json → Json
  | .str text => f text
  | .arr items => .arr (fillItems f items)
  | .obj members => .obj (fillMembers f members)
  | other => other

def fillItems (f : String → Json) : List Json → List Json
  | [] => []
  | item :: rest => fill f item :: fillItems f rest

def fillMembers (f : String → Json) : List (String × Json) → List (String × Json)
  | [] => []
  | (name, value) :: rest => (name, fill f value) :: fillMembers f rest

end

theorem fillItems_eq_map (items : List Json) : fillItems f items = items.map (fill f) := by
  induction items with
  | nil => rfl
  | cons item rest ih => rw [fillItems, ih, List.map_cons]

theorem fillMembers_eq_map (members : List (String × Json)) :
    fillMembers f members = members.map (Prod.map id (fill f)) := by
  induction members with
  | nil => rfl
  | cons member rest ih =>
      obtain ⟨name, value⟩ := member
      rw [fillMembers, ih]
      rfl

mutual

/-- A form filled with its own texts stays as it is. -/
theorem fill_str : (v : Json) → fill .str v = v
  | .null | .bool _ | .num _ | .str _ => rfl
  | .arr items => congrArg Json.arr (fillItems_str items)
  | .obj members => congrArg Json.obj (fillMembers_str members)

theorem fillItems_str : (items : List Json) → fillItems .str items = items
  | [] => rfl
  | item :: rest => by rw [fillItems, fill_str item, fillItems_str rest]

theorem fillMembers_str : (members : List (String × Json)) → fillMembers .str members = members
  | [] => rfl
  | (name, value) :: rest => by rw [fillMembers, fill_str value, fillMembers_str rest]

end

mutual

/-- Members can be put in order before or after the form is filled. -/
theorem canonical_fill (ordered : ∀ text, (f text).canonical = f text) :
    (v : Json) → (v.fill f).canonical = v.canonical.fill f
  | .null | .bool _ | .num _ => rfl
  | .str text => ordered text
  | .arr items => congrArg Json.arr (canonicalItems_fillItems ordered items)
  | .obj members => by
      rw [fill, canonical, canonical, fill, canonicalMembers_fillMembers ordered members,
        fillMembers_eq_map, KeyList.ofList_map, fillMembers_eq_map]

theorem canonicalItems_fillItems (ordered : ∀ text, (f text).canonical = f text) :
    (items : List Json) → canonicalItems (fillItems f items) = fillItems f (canonicalItems items)
  | [] => rfl
  | item :: rest => by
      rw [fillItems, canonicalItems, canonicalItems, fillItems, canonical_fill ordered item,
        canonicalItems_fillItems ordered rest]

theorem canonicalMembers_fillMembers (ordered : ∀ text, (f text).canonical = f text) :
    (members : List (String × Json)) →
      canonicalMembers (fillMembers f members) = fillMembers f (canonicalMembers members)
  | [] => rfl
  | (name, value) :: rest => by
      rw [fillMembers, canonicalMembers, canonicalMembers, fillMembers,
        canonical_fill ordered value, canonicalMembers_fillMembers ordered rest]

end

theorem at?_singleton {name : String} {v : Json} : v.at? [name] = v.member? name := by
  rw [at?]
  cases v.member? name <;> rfl

/-- Paths lead to the same places if nothing with members is filled in. -/
theorem at?_fill (flat : ∀ text name, (f text).member? name = none) (path : List String)
    (v : Json) : (v.fill f).at? path = (v.at? path).map (fill f) := by
  induction path generalizing v with
  | nil => rfl
  | cons name path ih =>
      have member : (v.fill f).member? name = (v.member? name).map (fill f) := by
        cases v with
        | null | bool | num | arr => rfl
        | str text => exact flat text name
        | obj members =>
            rw [fill, member?, member?, fillMembers_eq_map, KeyList.get?_map]
      rw [at?, at?, member, Option.bind_map, Option.map_bind]
      exact Option.bind_congr fun value _ => ih value

/-! ## Forms that are printed -/

theorem printable_nil (d : Nat) : Printable (d + 1) (.obj []) := .obj nofun

theorem printable_cons_iff {d : Nat} {name : String} {v : Json} {members : List (String × Json)} :
    Printable (d + 1) (.obj ((name, v) :: members)) ↔
      Printable d v ∧ Printable (d + 1) (.obj members) := by
  constructor
  · rintro ⟨⟩
    rename_i all
    rw [List.forall_mem_cons] at all
    exact ⟨all.1, .obj all.2⟩
  · rintro ⟨first, ⟨⟩⟩
    rename_i others
    exact .obj (List.forall_mem_cons.2 ⟨first, others⟩)

theorem printable_int_iff {d : Nat} {i : Int} :
    Printable d (.ofInt i) ↔ -(2 ^ 63) ≤ i ∧ i < 2 ^ 64 :=
  ⟨fun | .int _ low high => ⟨low, high⟩, fun ⟨low, high⟩ => .int d low high⟩

/-- A form is as deep as what it becomes if nothing with brackets is filled in. -/
theorem Printable.fill (flat : ∀ d text, Printable d (f text)) {d : Nat} {v : Json}
    (h : Printable d v) : Printable d (v.fill f) := by
  induction h with
  | null d => exact .null d
  | bool d b => exact .bool d b
  | int d low high => exact .int d low high
  | str d s => exact flat d s
  | @arr d items _ ih =>
      rw [Json.fill, fillItems_eq_map]
      refine .arr fun item known => ?_
      obtain ⟨hollow, inside, rfl⟩ := List.mem_map.1 known
      exact ih hollow inside
  | @obj d members _ ih =>
      rw [Json.fill, fillMembers_eq_map]
      refine .obj fun member known => ?_
      obtain ⟨hollow, inside, rfl⟩ := List.mem_map.1 known
      exact ih hollow inside

end Json

end DeviceConsole
