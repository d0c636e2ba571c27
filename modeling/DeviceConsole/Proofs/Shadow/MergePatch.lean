import DeviceConsole.Proofs.Shadow.Faithful

/-!
# Patches are JSON merge patches

A merge patch is an object that changes a JSON value by rules of its own, which know nothing of
documents.  This file defines

* `Json.mergePatch target patch`, the value that these rules yield;

and proves

* `DocumentValue.membersOfEntries_patchEntries`, that a patch of a document does the same to the
  object the document stands for;
* `DocumentValue.patchedValue_patchedValue`, that a patch which is applied again changes nothing;
* `Document.patch_eq_mergePatch`, both for whole documents, beside what ties these to JSON objects.
-/

namespace DeviceConsole

namespace Json

/-- The members that are merged into: no value but an object has any. -/
def membersOf : Json → List (String × Json)
  | .obj members => members
  | _ => []

mutual

/-- The target with a patch merged into it: what is no object replaces the target, and an object is
merged into its members. -/
def mergePatch (target : Json) : Json → Json
  | .obj patch => .obj (mergeMembers target.membersOf patch)
  | patch => patch

/-- Members with those of a patch merged into them, one after the other.  Null removes the member of
its name; any other value is merged into that member, or, if there is none, into null, which has no
members. -/
def mergeMembers (members : List (String × Json)) :
    List (String × Json) → List (String × Json)
  | [] => members
  | (name, value) :: rest =>
    mergeMembers
      (match value with
        | .null => KeyList.erase name members
        | _ =>
          let target := (KeyList.get? name members).getD .null
          KeyList.insert name (mergePatch target value) members)
      rest

end

def mergeMember (members : List (String × Json)) (name : String) (value : Json) :
    List (String × Json) :=
  mergeMembers members [(name, value)]

theorem mergeMembers_cons (members : List (String × Json)) (name : String) (value : Json)
    (rest : List (String × Json)) :
    mergeMembers members ((name, value) :: rest) =
      mergeMembers (mergeMember members name value) rest := rfl

end Json

namespace DocumentValue

variable {entries patch : List (String × DocumentValue)} {name : String} {value : DocumentValue}
  {leaf : Json}

/-! ## The patch and the merge -/

/-- The members that a merge patch finds under a name are those of the document there. -/
theorem membersOf_get? (plain : (document entries).Scalars Json.Plain) (name : String) :
    ((KeyList.get? name (membersOfEntries entries)).getD .null).membersOf =
      membersOfEntries (entriesOf (KeyList.get? name entries)) := by
  rw [membersOfEntries_eq_map, KeyList.get?_map]
  match there : KeyList.get? name entries with
  | none | some (.document _) => rfl
  | some (.scalar leaf) =>
      have held := scalars_scalar_iff.1 ((closed_scalars _).found plain there)
      cases leaf with
      | obj => cases held.not_object
      | null | bool | num | str | arr => rfl

theorem membersOfEntries_patchEntries_of_forall (plain : (document entries).Scalars Json.Plain)
    (leaves : (document patch).Scalars Json.Plain)
    (each : ∀ entry ∈ patch, ∀ {entries}, (document entries).Scalars Json.Plain →
      membersOfEntries (patchEntry entries entry.1 entry.2) =
        Json.mergeMember (membersOfEntries entries) entry.1 entry.2.toJson) :
    membersOfEntries (patchEntries entries patch) =
      Json.mergeMembers (membersOfEntries entries) (membersOfEntries patch) := by
  induction patch generalizing entries with
  | nil => rfl
  | cons entry rest ih =>
      have held := scalars_document_iff.1 leaves
      -- The next entry meets a document whose scalars are plain again.
      have after : (document (patchEntry entries entry.1 entry.2)).Scalars Json.Plain :=
        (closed_scalars _).patchEntry plain entry.1
          ((held entry List.mem_cons_self).imp fun _ => .scalar)
      have later : (document rest).Scalars Json.Plain :=
        .document fun other member => held other (List.mem_cons_of_mem _ member)
      have others := ih after later fun other member => each other (List.mem_cons_of_mem _ member)
      rw [patchEntries, others, each entry List.mem_cons_self plain, membersOfEntries,
        Json.mergeMembers_cons]

/-- One entry of a patch does to the object of a document what the member of that name does. -/
theorem membersOfEntries_patchEntry (plain : (document entries).Scalars Json.Plain)
    (name : String) (leaves : value.Scalars Json.Plain) :
    membersOfEntries (patchEntry entries name value) =
      Json.mergeMember (membersOfEntries entries) name value.toJson := by
  induction leaves generalizing entries name with
  | @document nested held ih =>
      let there := KeyList.get? name (membersOfEntries entries)
      let existing := entriesOf (KeyList.get? name entries)
      -- Both sides merge into the members of the document there, or into none.
      have found : (there.getD .null).membersOf = membersOfEntries existing :=
        membersOf_get? plain name
      have inner : membersOfEntries (patchEntries existing nested) =
          Json.mergeMembers (membersOfEntries existing) (membersOfEntries nested) :=
        membersOfEntries_patchEntries_of_forall ((closed_scalars _).entriesOf plain name)
          (.document held) fun entry member _ within => ih entry member within entry.1
      have merged : (document (patchEntries existing nested)).toJson =
          (there.getD .null).mergePatch (document nested).toJson := by
        rw [toJson, toJson, Json.mergePatch, found, inner]
      calc
        membersOfEntries (patchEntry entries name (document nested)) =
            KeyList.insert name (document (patchEntries existing nested)).toJson
              (membersOfEntries entries) := membersOfEntries_insert name _ entries
        _ = KeyList.insert name ((there.getD .null).mergePatch (document nested).toJson)
              (membersOfEntries entries) := by rw [merged]
        _ = Json.mergeMember (membersOfEntries entries) name (document nested).toJson := rfl
  | @scalar leaf held =>
      cases leaf with
      | null => exact membersOfEntries_erase name entries
      | obj => cases held.not_object
      | bool | num | str | arr => exact membersOfEntries_insert name _ entries

/-- The patch of a document does to its object what the object of the patch does. -/
theorem membersOfEntries_patchEntries (plain : (document entries).Scalars Json.Plain)
    (leaves : (document patch).Scalars Json.Plain) :
    membersOfEntries (patchEntries entries patch) =
      Json.mergeMembers (membersOfEntries entries) (membersOfEntries patch) :=
  membersOfEntries_patchEntries_of_forall plain leaves fun entry member _ within =>
    membersOfEntries_patchEntry within entry.1 (scalars_document_iff.1 leaves entry member)

/-! ## The patch applied twice -/

/-- A value is the same whether it is patched once or twice. -/
theorem patchedValue_patchedValue (value : DocumentValue) (formed : value.WellFormed)
    (old : Option DocumentValue) (held : Formed (entriesOf old)) :
    patchedValue (patchedValue old value) value = patchedValue old value := by
  induction value using induction generalizing old with
  | document nested ih =>
      have ordered := (formed_iff.1 formed).1
      have once := held.patchEntries nested
      have twice := once.patchEntries nested
      have same : patchEntries (patchEntries (entriesOf old) nested) nested =
          patchEntries (entriesOf old) nested := by
        -- Under each name of the patch the second time meets what the first time left there.
        refine KeyList.ext_of_ordered (formed_iff.1 twice).1 (formed_iff.1 once).1 fun name => ?_
        rw [get?_patchEntries _ ordered, get?_patchEntries _ ordered]
        cases found : KeyList.get? name nested with
        | none => rfl
        | some value =>
            have within := closed_wellFormed.found formed found
            exact ih _ (KeyList.mem_of_get? found) within _ (closed_wellFormed.entriesOf held name)
      rw [patchedValue_document, patchedValue_document]
      exact congrArg (fun entries => some (document entries)) same
  | scalar leaf =>
      cases leaf with
      | null | bool | num | str | arr | obj => rfl

end DocumentValue

/-! ## Documents -/

namespace Document

open DocumentValue

/-- A patch that is applied again changes nothing. -/
theorem patch_patch {d p : Document} (h : d.WellFormed) (hp : p.WellFormed) :
    (d.patch p).patch p = d.patch p := by
  have same := patchedValue_patchedValue p.toValue hp (some d.toValue) h
  have entries := DocumentValue.document.inj (Option.some.inj same)
  exact congrArg Document.mk entries

/-- A patch does to the object that a document stands for what a merge patch does to it, and applied
again it changes nothing.  Whatever comes from JSON values by the operations is such a document, and
is told by its object, as every object is by its document. -/
theorem patch_eq_mergePatch :
    (∀ d p : Document, d.Faithful → p.Faithful →
      (d.patch p).toJson = d.toJson.mergePatch p.toJson ∧
      (d.patch p).patch p = d.patch p ∧ (d.patch p).Faithful) ∧
    (∀ d : Document, d.Built → d.Faithful) ∧
    (∀ d : Document, d.Faithful → ofJson? d.toJson = some d) ∧
    ∀ json : Json, json.isObject = true → json.canonical = json →
      (ofJson? json).map toJson = some json := by
  refine ⟨fun d p h hp => ⟨?_, patch_patch h.formed hp.formed, h.patch hp⟩,
    fun d built => built.faithful, fun d h => ofJson?_toJson h, ?_⟩
  · exact congrArg Json.obj (membersOfEntries_patchEntries h.plain hp.plain)
  · intro json object canonical
    rw [map_toJson_ofJson? object, canonical]

/-- Null removes a member at any depth, but not inside an array, and a document with a null in it
takes the place of a text. -/
theorem patch_eq_mergePatch_nested :
    let items : Json := .arr [.obj [("x", .null)]]
    let target : Json :=
      .obj [("a", .obj [("b", .ofInt 1), ("c", items)]), ("s", .str "t"), ("u", .bool true)]
    let change : Json := .obj [("a", .obj [("b", .null), ("d", .obj [("e", .null)])]),
      ("s", .obj [("y", .null), ("z", items)]), ("u", .null)]
    let merged : Json :=
      .obj [("a", .obj [("c", items), ("d", .obj [])]), ("s", .obj [("z", items)])]
    ∃ d p : Document, ofJson? target = some d ∧ ofJson? change = some p ∧
      d.toJson = target ∧ p.toJson = change ∧ (d.patch p).toJson = merged ∧
      (d.patch p).patch p = d.patch p ∧ ofJson? merged = some (d.patch p) := by
  intro items target change merged
  rcases patch_eq_mergePatch with ⟨merges, built, stands, written⟩
  have reads : ∀ json : Json, json.isObject = true → json.canonical = json →
      ∃ d : Document, ofJson? json = some d ∧ d.toJson = json ∧ d.Faithful := by
    intro json object canonical
    rcases Option.map_eq_some_iff.1 (written json object canonical) with ⟨d, read, same⟩
    exact ⟨d, read, same, built d (.read read)⟩
  have ordered : target.canonical = target ∧ change.canonical = change := by
    simp only [target, change, items, Json.canonical, Json.canonicalItems, Json.canonicalMembers,
      Json.ofInt, KeyList.ofList, KeyList.insert, List.foldl_cons, List.foldl_nil,
      String.reduceEq, String.reduceLT, ↓reduceIte, and_self]
  rcases reads target rfl ordered.1 with ⟨d, readTarget, sameTarget, first⟩
  rcases reads change rfl ordered.2 with ⟨p, readChange, sameChange, second⟩
  rcases merges d p first second with ⟨merge, again, result⟩
  have outcome : (d.patch p).toJson = merged := by
    rw [merge, sameTarget, sameChange]
    rfl
  have back := stands _ result
  rw [outcome] at back
  exact ⟨d, p, readTarget, readChange, sameTarget, sameChange, outcome, again, back⟩

end Document

end DeviceConsole
