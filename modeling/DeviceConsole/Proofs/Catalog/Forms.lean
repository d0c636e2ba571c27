import Mathlib.Data.List.Forall2
import DeviceConsole.Catalog.Basic
import DeviceConsole.Proofs.Json.Filling
import DeviceConsole.Proofs.Json.Reading
import DeviceConsole.Proofs.Text.Substitution

/-!
# The forms of example payloads

A skeleton is a JSON text with marks in it.  Read as JSON, with the marks as texts, it is the form
of its template.  This file defines:

* `Embeds thing`: the id can be put between the quotes of a JSON text, and no later pass changes it;
* `PublishTemplate.form?`, the form of a template, and `PublishTemplate.filling`, what takes the
  place of its marks;
* `PublishTemplate.Shows t form`: `form` is the form of `t`, and it is filled in wherever the id
  embeds;
* `PublishTemplate.NamesOnce t front back`: the skeleton of `t` has one place for the id, between
  quotes.

Every template shows a form, `PublishTemplate.exists_form` and
`PublishTemplate.NamesOnce.shows_presence`.
-/

namespace DeviceConsole

open Text Json

/-- Whether the id of a thing can be put into a JSON text between quotes: every character stands for
itself, and no mark is in it that is replaced later. -/
def Embeds (thing : String) : Prop :=
  thing.toList.all isPlain = true ∧
    ¬ timeMark.toList <:+: thing.toList ∧ ¬ tokenMark.toList <:+: thing.toList

instance (thing : String) : Decidable (Embeds thing) := inferInstanceAs (Decidable (_ ∧ _ ∧ _))

namespace PublishTemplate

/-- Whether the example payload has a place for the id of the thing. -/
def NamesThing (t : PublishTemplate) : Prop := thingMark.toList <:+: t.skeleton.toList

/-- The skeleton as a value in which the marks are texts.  The mark of the time, in whose place a
number comes, is put between quotes for that. -/
def form? (t : PublishTemplate) : Option Json :=
  parse? (replaceAll timeMark (String.ofList (quote timeMark)) t.skeleton)

/-- What takes the place of a text in a form. -/
def filling (thing : String) (time : Json) (token text : String) : Json :=
  if text = thingMark then .str thing
  else if text = timeMark then time
  else if text = tokenMark then .str token
  else .str text

/-- A template with its form, where the payload of a thing whose id embeds is the filled form. -/
structure Shows (t : PublishTemplate) (form : Json) : Prop where
  form? : t.form? = some form
  payload : ∀ {thing token : String} {now : Int}, -(2 ^ 63) ≤ now → now < 2 ^ 63 →
    (∀ c ∈ token.toList, (hexDigit? c).isSome) → (t.NamesThing → Embeds thing) →
      parse? (t.payload thing now token) = some (form.fill (filling thing (.ofInt now) token))

variable {t : PublishTemplate} {thing token : String} {now : Int} {form : Json} {c : Char}

/-! ## Passes over a skeleton -/

theorem filling_marks : filling thingMark (.str timeMark) tokenMark = .str := by
  funext text
  unfold filling
  split_ifs with thing time token
  · rw [thing]
  · rw [time]
  · rw [token]
  · rfl

theorem payload_toList : (t.payload thing now token).toList =
    replaceFrom tokenMark.toList token.toList 0
      (replaceFrom timeMark.toList (Json.ofInt now).render 0
        (replaceFrom thingMark.toList thing.toList 0 t.skeleton.toList)) := by
  simp only [PublishTemplate.payload, replaceAll, String.toList_ofList]
  rfl

theorem not_mem_render_ofInt (digit : c.isDigit = false) (minus : c ≠ '-') :
    c ∉ (Json.ofInt now).render := by
  have number : ∀ n, c ∉ Nat.toDigits 10 n := by
    intro n member
    have digits := Nat.isDigit_of_mem_toDigits (by decide) (by decide) member
    exact absurd digits (by simp [digit])
  rw [render_ofInt]
  split
  · exact number _
  · exact List.not_mem_cons_of_ne_of_not_mem minus (number _)

theorem render_ofInt_ne_nil : (Json.ofInt now).render ≠ [] := by
  rw [render_ofInt]
  split
  · exact Nat.toDigits_ne_nil
  · exact List.cons_ne_nil _ _

/-- The time brings in no mark of a token. -/
theorem tokenMark_absent_after_time {text : List Char} (absent : ¬ tokenMark.toList <:+: text) :
    ¬ tokenMark.toList <:+: replaceFrom timeMark.toList (Json.ofInt now).render 0 text := by
  have foreign : ∀ c ∈ tokenMark.toList, c.isDigit = false ∧ c ≠ '-' := by simp [tokenMark]
  refine not_infix_replaceFrom render_ofInt_ne_nil (by decide) ?_ absent
  intro c member inside
  exact not_mem_render_ofInt (foreign c inside).1 (foreign c inside).2 member

theorem Shows.of_render (deep : Printable 127 form)
    (shape : replaceFrom timeMark.toList (quote timeMark) 0 t.skeleton.toList = form.render)
    (filled : ∀ {thing token : String} {now : Int},
      (∀ c ∈ token.toList, (hexDigit? c).isSome) → (t.NamesThing → Embeds thing) →
        (t.payload thing now token).toList =
          (form.fill (filling thing (.ofInt now) token)).render) : t.Shows form where
  form? := by
    rw [PublishTemplate.form?, replaceAll, String.toList_ofList, shape]
    exact parse?_text deep
  payload {thing token now} low high hex embeds := by
    have flat : ∀ d text, Printable d (filling thing (.ofInt now) token text) := by
      intro d text
      unfold filling
      split_ifs
      · exact .str d thing
      · exact .int d low (by omega)
      · exact .str d token
      · exact .str d text
    rw [← String.ofList_toList (s := t.payload thing now token), filled hex embeds]
    exact parse?_text (deep.fill flat)

/-- Where the skeleton has no mark but that of the time, one pass makes the payload. -/
theorem Shows.of_time (deep : Printable 127 form)
    (nameless : ¬ t.NamesThing) (tokenless : ¬ tokenMark.toList <:+: t.skeleton.toList)
    (same : ∀ thing time token, replaceFrom timeMark.toList time.render 0 t.skeleton.toList =
      (form.fill (filling thing time token)).render) : t.Shows form := by
  refine .of_render deep ?_ fun _ _ => ?_
  · have marked := same thingMark (.str timeMark) tokenMark
    rwa [filling_marks, fill_str] at marked
  · rw [payload_toList, replaceFrom_of_absent nameless,
      replaceFrom_of_absent (tokenMark_absent_after_time tokenless), same]

/-- Where the skeleton has no mark but that of a token, one pass makes the payload. -/
theorem Shows.of_token (deep : Printable 127 form)
    (nameless : ¬ t.NamesThing) (timeless : ¬ timeMark.toList <:+: t.skeleton.toList)
    (same : ∀ thing time token, quote token = '"' :: (token.toList ++ ['"']) →
      replaceFrom tokenMark.toList token.toList 0 t.skeleton.toList =
        (form.fill (filling thing time token)).render) : t.Shows form := by
  refine .of_render deep ?_ fun hex _ => ?_
  · have marked := same thingMark (.str timeMark) tokenMark (quote_of_isPlain (List.all_eq_true.1 (by decide)))
    rw [replaceFrom_self (by decide), List.drop_zero, filling_marks, fill_str] at marked
    rw [replaceFrom_of_absent timeless, marked]
  · rw [payload_toList, replaceFrom_of_absent nameless, replaceFrom_of_absent timeless]
    exact same _ _ _ (quote_of_isPlain fun c member => isPlain_of_hexDigit? (hex c member))

/-! ## An id between quotes -/

/-- Whether a character opens a mark or may belong to an escape. -/
def isTelling (c : Char) : Bool := c = '\x7b' || c = '\\' || c = 'u'

/-- A template that has the mark of the thing once, between quotes.  Around it, nothing is telling
but the mark of the time. -/
structure NamesOnce (t : PublishTemplate) (front back : List Char) : Prop where
  cut : t.skeleton.toList = '\x7b' :: front ++ '"' :: (thingMark.toList ++ '"' :: back)
  unmarked : ∀ mark ∈ [thingMark, timeMark, tokenMark], ¬ mark.toList <:+: '\x7b' :: front
  nameless : ¬ thingMark.toList <:+: back
  tokenless : ¬ tokenMark.toList <:+: back
  clean : (front ++ replaceFrom timeMark.toList [] 0 back).any isTelling = false

/-- What the later passes make of the id of a thing. -/
def embedded (thing : String) (now : Int) (token : String) : List Char :=
  replaceFrom tokenMark.toList token.toList 0
    (replaceFrom timeMark.toList (Json.ofInt now).render 0 thing.toList)

theorem embedded_of_embeds (embeds : Embeds thing) : embedded thing now token = thing.toList := by
  rw [embedded, replaceFrom_of_absent embeds.2.1, replaceFrom_of_absent embeds.2.2]

/-- A payload after its opening bracket, with the id between two quotes. -/
def surrounded (front back : List Char) (thing : String) (now : Int) (token : String) : List Char :=
  front ++ '"' :: (embedded thing now token ++
    '"' :: replaceFrom timeMark.toList (Json.ofInt now).render 0 back)

/-- A pass does not reach across a quote. -/
theorem replaceFrom_quoted {mark new front middle back : List Char} (some : mark ≠ [])
    (apart : '"' ∉ mark) (absent : ¬ mark <:+: front) :
    replaceFrom mark new 0 (front ++ '"' :: (middle ++ '"' :: back)) =
      front ++ '"' :: (replaceFrom mark new 0 middle ++ '"' :: replaceFrom mark new 0 back) := by
  rw [replaceFrom_append_cons some apart (Nat.zero_le _), replaceFrom_of_absent absent,
    replaceFrom_append_cons some apart (Nat.zero_le _)]

variable {front back : List Char}

theorem NamesOnce.payload_toList (once : t.NamesOnce front back) :
    (t.payload thing now token).toList = '\x7b' :: surrounded front back thing now token := by
  obtain ⟨cut, unmarked, nameless, tokenless, -⟩ := once
  have alone : replaceFrom thingMark.toList thing.toList 0 thingMark.toList = thing.toList := by
    have replaced : replaceFrom thingMark.toList thing.toList 0 (thingMark.toList ++ []) = _ :=
      replaceFrom_mark (by decide)
    rwa [List.append_nil, replaceFrom, List.append_nil] at replaced
  rw [PublishTemplate.payload_toList, cut,
    replaceFrom_quoted (by decide) (by decide) (unmarked _ (by decide)), alone,
    replaceFrom_of_absent nameless,
    replaceFrom_quoted (by decide) (by decide) (unmarked _ (by decide)),
    replaceFrom_quoted (by decide) (by decide) (unmarked _ (by decide)),
    replaceFrom_of_absent (tokenMark_absent_after_time tokenless), surrounded, embedded,
    List.cons_append]

theorem NamesOnce.namesThing (once : t.NamesOnce front back) : t.NamesThing := by
  rw [NamesThing, once.cut]
  exact ⟨'\x7b' :: front ++ ['"'], '"' :: back, by simp⟩

theorem NamesOnce.shows (once : t.NamesOnce front back) (deep : Printable 127 form)
    (same : ∀ thing time token, quote thing = '"' :: (thing.toList ++ ['"']) →
      '\x7b' :: front ++ '"' :: (thing.toList ++
        '"' :: replaceFrom timeMark.toList time.render 0 back) =
          (form.fill (filling thing time token)).render) : t.Shows form := by
  refine .of_render deep ?_ fun _ embeds => ?_
  · have marked := same thingMark (.str timeMark) tokenMark (quote_of_isPlain (List.all_eq_true.1 (by decide)))
    have apart : ¬ timeMark.toList <:+: thingMark.toList := by decide
    rw [filling_marks, fill_str] at marked
    rw [once.cut, replaceFrom_quoted (by decide) (by decide) (once.unmarked _ (by decide)),
      replaceFrom_of_absent apart]
    exact marked
  · have embeds := embeds once.namesThing
    rw [once.payload_toList, surrounded, embedded_of_embeds embeds]
    exact same _ _ _ (quote_of_isPlain (List.all_eq_true.1 embeds.1))

/-! ## The templates -/

def presenceFront : List Char := r#""thingId":"#.toList

def presenceBack : List Char :=
  r#","timestamp":{now},"eventType":"connected","#.toList ++
    r#""disconnectReason":"","remoteAddr":"<ip:port>"}"#.toList

def presenceForm : Json := .obj [("thingId", .str thingMark), ("timestamp", .str timeMark),
  ("eventType", .str "connected"), ("disconnectReason", .str ""), ("remoteAddr", .str "<ip:port>")]

def publishForms : List Json := [
  .obj [],
  .obj [("state", .obj [("reported", .obj [])]), ("clientToken", .str tokenMark),
    ("version", .ofInt 0)],
  .obj [],
  .obj [],
  presenceForm,
  .obj [("clientSendTime", .str timeMark)],
  .obj [("clientSendTime", .str timeMark), ("serverRecvTime", .str timeMark),
    ("serverSendTime", .str timeMark)],
  .obj [("clientToken", .str tokenMark), ("taskId", .str ""), ("type", .str "app"),
    ("meta", .obj [("version", .str ""), ("md5", .str ""),
      ("content-type", .str "application/octet-stream"), ("content-length", .ofInt 0)]),
    ("fileUrl", .str "http://")],
  .obj [("clientToken", .str ""), ("taskId", .str ""), ("status", .str "ongoing"),
    ("progress", .ofInt 0), ("timestamp", .str timeMark)],
  .obj [],
  .obj [("clientToken", .str tokenMark), ("data", .obj [])],
  .obj [("clientToken", .str ""), ("code", .ofInt 200), ("message", .str "OK"),
    ("data", .obj [])]]

theorem skeleton_presence : Builtin.publishTemplates[4].skeleton.toList =
    '\x7b' :: presenceFront ++ '"' :: (thingMark.toList ++ '"' :: presenceBack) := by
  show String.toList (_ ++ _) = _
  rw [String.toList_append]
  rfl

set_option maxRecDepth 8000 in
theorem namesOnce_of_cut (cut : t.skeleton.toList =
    '\x7b' :: presenceFront ++ '"' :: (thingMark.toList ++ '"' :: presenceBack)) :
    t.NamesOnce presenceFront presenceBack :=
  ⟨cut, by decide, by decide, by decide, by decide⟩

set_option maxRecDepth 8000 in
theorem NamesOnce.shows_presence (once : t.NamesOnce presenceFront presenceBack) :
    t.Shows presenceForm := by
  refine once.shows ?_ fun thing time token quoted => ?_
  · simp only [presenceForm, printable_cons_iff, printable_nil, Printable.str, and_self]
  · simp only [presenceForm, fill, fillMembers, filling, thingMark, timeMark, tokenMark,
      String.reduceEq, if_true, if_false, render, renderMembers, List.append_assoc,
      List.cons_append, quoted]
    rfl

theorem shows_empty (empty : t.skeleton = r#"{}"#) : t.Shows (.obj []) := by
  refine .of_time (printable_nil 126) ?_ ?_ fun thing time token => ?_
  · rw [NamesThing, empty]
    decide
  · rw [empty]
    decide
  · rw [empty]
    rfl

set_option maxRecDepth 8000 in
theorem forall₂_shows : List.Forall₂ Shows Builtin.publishTemplates publishForms := by
  refine .cons (shows_empty rfl) <| .cons ?updateShadow <| .cons (shows_empty rfl) <|
    .cons (shows_empty rfl) <| .cons (namesOnce_of_cut skeleton_presence).shows_presence <|
    .cons ?requestNtp <| .cons ?responseNtp <| .cons ?otaTask <| .cons ?otaTaskResult <|
    .cons (shows_empty rfl) <| .cons ?requestMethod <| .cons ?responseMethod .nil
  case requestNtp | responseNtp | otaTaskResult | responseMethod =>
    refine .of_time ?_ ?_ ?_ fun thing time token => ?_
    · simp [printable_cons_iff, printable_nil, Printable.str, printable_int_iff]
    all_goals simp only [NamesThing, Builtin.publish]
    · decide
    · decide
    · simp only [fill, fillMembers, filling, thingMark, timeMark, tokenMark, String.reduceEq,
        if_true, if_false, ofInt, render, renderMembers, List.append_assoc, List.cons_append]
      rfl
  case updateShadow | otaTask | requestMethod =>
    refine .of_token ?_ ?_ ?_ fun thing time token quoted => ?_
    · simp [printable_cons_iff, printable_nil, Printable.str, printable_int_iff]
    all_goals simp only [NamesThing, Builtin.publish, String.toList_append]
    · decide
    · decide
    · simp only [fill, fillMembers, filling, thingMark, timeMark, tokenMark, String.reduceEq,
        if_true, if_false, ofInt, render, renderMembers, List.append_assoc, List.cons_append,
        quoted]
      rfl

theorem exists_form (known : t ∈ Catalog.builtin.publish) : ∃ form, t.Shows form := by
  obtain ⟨n, within, rfl⟩ := List.getElem_of_mem known
  exact ⟨_, forall₂_shows.get within (forall₂_shows.length_eq ▸ within)⟩

set_option maxRecDepth 8000 in
/-- Only the presence template has a place for the id. -/
theorem namesOnce_of_namesThing (known : t ∈ Catalog.builtin.publish) (names : t.NamesThing) :
    t.NamesOnce presenceFront presenceBack := by
  refine namesOnce_of_cut ?_
  simp only [Catalog.builtin, Builtin.publishTemplates, List.mem_cons, List.not_mem_nil,
    or_false] at known
  rcases known with rfl | rfl | rfl | rfl | rfl | rfl | rfl | rfl | rfl | rfl | rfl | rfl
  case inr.inr.inr.inr.inl => exact skeleton_presence
  all_goals
    simp only [NamesThing, Builtin.publish, String.toList_append] at names
    exact absurd names (by decide)

end PublishTemplate

end DeviceConsole
