import Mathlib.Data.List.Forall2
import DeviceConsole.Profile.ClientOptions

/-!
# Options that say something

Three records of properties are stripped of what says nothing before a transport gets them.  Seen
as their `Contents`, they are stripped in one way.  This file defines:

* `Contents`, the scalars, texts and pairs of a record, with `Contents.Idle` and `Contents.Normal`;
* `Strips`, what stripping a record has to do, and `Strips.of_contents`, when it does;
* `ClientOptions.Meaningful`, what a session may be opened with;
* `meaningful_options`, for all three records and for the options of every profile.
-/

namespace DeviceConsole

/-! ## Contents of a record -/

/-- A property that is neither a text nor a map. -/
inductive Scalar where
  | flag (value : Bool)
  | word16 (value : UInt16)
  | word32 (value : UInt32)

/-- What a record of properties holds, by the kinds of its fields. -/
structure Contents where
  scalars : List (Option Scalar)
  texts : List (Option String)
  pairs : Option UserProperties

namespace Contents

def entries (c : Contents) : List (String × String) := (c.pairs.map (·.entries)).getD []

structure Empty (c : Contents) : Prop where
  scalars : ∀ scalar ∈ c.scalars, scalar = none
  texts : ∀ text ∈ c.texts, text = none
  pairs : c.pairs = none

/-- Nothing is said: no scalar is set, texts are unset or empty, and each pair lacks its key or its
value. -/
structure Idle (c : Contents) : Prop where
  scalars : ∀ scalar ∈ c.scalars, scalar = none
  texts : ∀ text ∈ c.texts, text = none ∨ text = some ""
  pairs : ∀ entry ∈ c.entries, entry.1 = "" ∨ entry.2 = ""

/-- Something is said, and nothing empty is left: no text, no key, no value, no map. -/
structure Normal (c : Contents) : Prop where
  speaks : ¬ c.Idle
  texts : some "" ∉ c.texts
  pairs : ∀ entry ∈ c.entries, entry.1 ≠ "" ∧ entry.2 ≠ ""
  map : ∀ pairs, c.pairs = some pairs → pairs.entries ≠ []

/-- All scalars, all texts that are not empty, and the pairs with key and value are kept. -/
structure Keeps (given kept : Contents) : Prop where
  scalars : kept.scalars = given.scalars
  texts : List.Forall₂
    (fun before after => ∀ text, after = some text ↔ before = some text ∧ text ≠ "")
    given.texts kept.texts
  pairs : ∀ entry, entry ∈ kept.entries ↔ entry ∈ given.entries ∧ entry.1 ≠ "" ∧ entry.2 ≠ ""

/-- The contents without what says nothing. -/
def stripped (c : Contents) : Contents :=
  ⟨c.scalars, c.texts.map strippedText?, UserProperties.stripped? c.pairs⟩

variable {c : Contents}

/-! ## Stripping contents -/

theorem strippedText?_eq_some_iff {given : Option String} {text : String} :
    strippedText? given = some text ↔ given = some text ∧ text ≠ "" := by
  rw [strippedText?, Option.filter_eq_some_iff]
  simp

theorem strippedText?_eq_none_iff {given : Option String} :
    strippedText? given = none ↔ given = none ∨ given = some "" := by
  cases given with
  | none => simp [strippedText?]
  | some text => by_cases empty : text = "" <;> simp [strippedText?, empty]

theorem entries_stripped (c : Contents) : c.stripped.entries =
    c.entries.filter fun entry => entry.1 ≠ "" && entry.2 ≠ "" := by
  rcases c with ⟨scalars, texts, _ | pairs⟩
  · rfl
  · simp only [stripped, UserProperties.stripped?, entries]
    split
    next none => exact (List.isEmpty_iff.1 none).symm
    next => rfl

theorem mem_entries_stripped {entry : String × String} :
    entry ∈ c.stripped.entries ↔ entry ∈ c.entries ∧ entry.1 ≠ "" ∧ entry.2 ≠ "" := by
  simp [entries_stripped]

/-- A map of which nothing is left is dropped. -/
theorem pairs_stripped_eq_none_iff : c.stripped.pairs = none ↔ c.stripped.entries = [] := by
  rcases c with ⟨scalars, texts, _ | pairs⟩
  · simp [stripped, UserProperties.stripped?, entries]
  · simp only [stripped, UserProperties.stripped?, entries]
    split
    next none => simp
    next some => simpa using mt List.isEmpty_iff.2 some

theorem entries_stripped_eq_nil_iff :
    c.stripped.entries = [] ↔ ∀ entry ∈ c.entries, entry.1 = "" ∨ entry.2 = "" := by
  simp [entries_stripped, Decidable.or_iff_not_imp_left]

theorem empty_stripped_iff : c.stripped.Empty ↔ c.Idle := by
  constructor
  · rintro ⟨scalars, texts, pairs⟩
    refine ⟨scalars, fun text member => ?_,
      entries_stripped_eq_nil_iff.1 (pairs_stripped_eq_none_iff.1 pairs)⟩
    exact strippedText?_eq_none_iff.1 (texts _ (List.mem_map_of_mem member))
  · rintro ⟨scalars, texts, pairs⟩
    refine ⟨scalars, List.forall_mem_map.2 fun text member => ?_,
      pairs_stripped_eq_none_iff.2 (entries_stripped_eq_nil_iff.2 pairs)⟩
    exact strippedText?_eq_none_iff.2 (texts text member)

theorem keeps_stripped (c : Contents) : c.Keeps c.stripped where
  scalars := rfl
  texts := List.forall₂_map_right_iff.2
    (List.forall₂_same.2 fun _ _ _ => strippedText?_eq_some_iff)
  pairs := fun _ => mem_entries_stripped

theorem strippedText?_strippedText? (given : Option String) :
    strippedText? (strippedText? given) = strippedText? given := by
  simp [strippedText?, Option.filter_filter]

theorem filter_filter_self (pairs : UserProperties) (keep : String → String → Bool) :
    (pairs.filter keep).filter keep = pairs.filter keep := by
  simp [KeyMap.filter]

theorem userProperties_stripped?_stripped? (given : Option UserProperties) :
    UserProperties.stripped? (UserProperties.stripped? given) = UserProperties.stripped? given := by
  rcases given with _ | pairs
  · rfl
  · by_cases left : (pairs.filter fun key value => key ≠ "" && value ≠ "").isEmpty = true
    · simp only [UserProperties.stripped?, if_pos left]
    · simp only [UserProperties.stripped?, if_neg left, filter_filter_self]

/-- What has been stripped is left as it is. -/
theorem stripped_stripped (c : Contents) : c.stripped.stripped = c.stripped := by
  simp [stripped, Function.comp_def, strippedText?_strippedText?,
    userProperties_stripped?_stripped?]

theorem normal_stripped (speaks : ¬ c.stripped.Empty) : c.stripped.Normal where
  speaks := by rwa [← empty_stripped_iff, stripped_stripped]
  texts := by
    intro member
    obtain ⟨given, -, same⟩ := List.mem_map.1 member
    exact (strippedText?_eq_some_iff.1 same).2 rfl
  pairs := fun entry member => (mem_entries_stripped.1 member).2
  map := by
    intro pairs same none
    have dropped : c.stripped.entries = [] := by rw [entries, same, Option.map_some, none]; rfl
    rw [pairs_stripped_eq_none_iff.2 dropped] at same
    cases same

end Contents

/-! ## Stripping records -/

section Records

variable {α : Type} {contents : α → Contents} {strip : α → Option α} {blank : α}

/-- A way to strip records: it drops what says nothing, keeps the rest in normal form, and has
nothing to do a second time. -/
structure Strips (contents : α → Contents) (strip : α → Option α) : Prop where
  drops : ∀ p, strip p = none ↔ (contents p).Idle
  keeps : ∀ p q, strip p = some q → (contents p).Keeps (contents q)
  normal : ∀ p q, strip p = some q → (contents q).Normal
  again : ∀ p q, strip p = some q → strip q = some q

/-- Records are stripped by their contents, if no field lies outside of these. -/
theorem Strips.of_contents [DecidableEq α] (injective : ∀ p q, contents p = contents q → p = q)
    (empty : ∀ q, q = blank ↔ (contents q).Empty)
    (step : ∀ p, ∃ q, contents q = (contents p).stripped ∧
      strip p = if q = blank then none else some q) : Strips contents strip := by
  have kept : ∀ p q, strip p = some q → contents q = (contents p).stripped ∧ q ≠ blank := by
    intro p q found
    obtain ⟨r, same, choice⟩ := step p
    rw [found] at choice
    split at choice
    next => cases choice
    next some =>
      cases choice
      exact ⟨same, some⟩
  constructor
  case drops =>
    intro p
    obtain ⟨q, same, choice⟩ := step p
    rw [← Contents.empty_stripped_iff, ← same, ← empty, choice]
    simp
  case keeps =>
    intro p q found
    rw [(kept p q found).1]
    exact (contents p).keeps_stripped
  case normal =>
    intro p q found
    obtain ⟨same, some⟩ := kept p q found
    rw [same]
    exact Contents.normal_stripped (same ▸ mt (empty q).2 some)
  case again =>
    intro p q found
    obtain ⟨same, some⟩ := kept p q found
    obtain ⟨r, again, choice⟩ := step q
    rw [same, Contents.stripped_stripped, ← same] at again
    rw [choice, injective r q again, if_neg some]

end Records

/-! ## The three records -/

theorem map_flag_inj {a b : Option Bool} : a.map Scalar.flag = b.map Scalar.flag ↔ a = b :=
  Option.map_inj_right fun _ _ => Scalar.flag.inj

theorem map_word16_inj {a b : Option UInt16} : a.map Scalar.word16 = b.map Scalar.word16 ↔ a = b :=
  Option.map_inj_right fun _ _ => Scalar.word16.inj

theorem map_word32_inj {a b : Option UInt32} : a.map Scalar.word32 = b.map Scalar.word32 ↔ a = b :=
  Option.map_inj_right fun _ _ => Scalar.word32.inj

namespace PublishProperties

def contents (p : PublishProperties) : Contents where
  scalars := [p.payloadFormatIndicator.map .flag, p.messageExpiryInterval.map .word32,
    p.topicAlias.map .word16, p.subscriptionIdentifier.map .word32]
  texts := [p.responseTopic, p.correlationData, p.contentType]
  pairs := p.userProperties

theorem contents_injective (p q : PublishProperties) (same : contents p = contents q) : p = q := by
  cases p
  cases q
  simp only [contents, Contents.mk.injEq, List.cons.injEq, map_flag_inj, map_word16_inj,
    map_word32_inj, and_true] at same
  simp only [same]

theorem eq_none_iff (p : PublishProperties) : p = none ↔ p.contents.Empty := by
  constructor
  · rintro rfl
    constructor <;> simp [contents, none]
  · rintro ⟨scalars, texts, pairs⟩
    cases p
    simp_all [contents, none]

theorem strips : Strips contents stripped? :=
  .of_contents contents_injective eq_none_iff fun _ => ⟨_, rfl, rfl⟩

end PublishProperties

namespace ConnectProperties

def contents (p : ConnectProperties) : Contents where
  scalars := [p.sessionExpiryInterval.map .word32, p.receiveMaximum.map .word16,
    p.maximumPacketSize.map .word32, p.topicAliasMaximum.map .word16,
    p.requestResponseInformation.map .flag, p.requestProblemInformation.map .flag]
  texts := [p.authenticationMethod, p.authenticationData]
  pairs := p.userProperties

theorem contents_injective (p q : ConnectProperties) (same : contents p = contents q) : p = q := by
  cases p
  cases q
  simp only [contents, Contents.mk.injEq, List.cons.injEq, map_flag_inj, map_word16_inj,
    map_word32_inj, and_true] at same
  simp only [same]

theorem eq_none_iff (p : ConnectProperties) : p = none ↔ p.contents.Empty := by
  constructor
  · rintro rfl
    constructor <;> simp [contents, none]
  · rintro ⟨scalars, texts, pairs⟩
    cases p
    simp_all [contents, none]

theorem strips : Strips contents stripped? :=
  .of_contents contents_injective eq_none_iff fun _ => ⟨_, rfl, rfl⟩

end ConnectProperties

namespace WillProperties

def contents (p : WillProperties) : Contents where
  scalars := [p.payloadFormatIndicator.map .flag, p.willDelayInterval.map .word32,
    p.messageExpiryInterval.map .word32]
  texts := [p.contentType, p.responseTopic, p.correlationData]
  pairs := p.userProperties

theorem contents_injective (p q : WillProperties) (same : contents p = contents q) : p = q := by
  cases p
  cases q
  simp only [contents, Contents.mk.injEq, List.cons.injEq, map_flag_inj, map_word32_inj,
    and_true] at same
  simp only [same]

theorem eq_none_iff (p : WillProperties) : p = none ↔ p.contents.Empty := by
  constructor
  · rintro rfl
    constructor <;> simp [contents, none]
  · rintro ⟨scalars, texts, pairs⟩
    cases p
    simp_all [contents, none]

theorem strips : Strips contents stripped? :=
  .of_contents contents_injective eq_none_iff fun _ => ⟨_, rfl, rfl⟩

end WillProperties

/-- Published options have no properties or some in normal form. -/
theorem PublishOptions.normal_stripped (o : PublishOptions) {q : PublishProperties}
    (set : o.stripped.properties = some q) : q.contents.Normal := by
  obtain ⟨given, -, found⟩ := Option.bind_eq_some_iff.1 set
  exact PublishProperties.strips.normal given q found

/-! ## Opening a session -/

/-- What the options made from a profile may hold. -/
structure ClientOptions.Meaningful (p : Profile) (o : ClientOptions) : Prop where
  credentials : ∀ pair ∈ [(o.username, p.username), (o.password, p.password)],
    ∀ text, pair.1 = some text ↔ text = pair.2 ∧ text ≠ ""
  encrypted : o.tls.isSome ↔ p.tls.enabled = true
  certificates : ∀ tls, o.tls = some tls →
    ∀ pair ∈ [(tls.ca, p.tls.ca), (tls.cert, p.tls.cert), (tls.key, p.tls.key)],
      ∀ text, pair.1 = some text ↔ p.tls.kind = .selfSigned ∧ text = pair.2 ∧ text ≠ ""
  properties : ∀ q, o.properties = some q →
    p.version = .five ∧ q.contents.Normal ∧ q.stripped? = some q
  will : ∀ topic, (∃ will, o.will = some will ∧ will.topic = topic) ↔
    (∃ will, p.will = some will ∧ will.topic = topic) ∧ topic ≠ ""
  willProperties : ∀ will q, o.will = some will → will.properties = some q →
    p.version = .five ∧ q.contents.Normal ∧ q.stripped? = some q
  reconnects : o.reconnects = true ↔ p.reconnect = true ∧ p.reconnectPeriod ≠ 0

theorem nonEmpty?_eq_some_iff {given text : String} :
    nonEmpty? given = some text ↔ text = given ∧ text ≠ "" := by
  unfold nonEmpty?
  split
  next empty => simp [empty]
  next some =>
    constructor
    · rintro ⟨⟩
      exact ⟨rfl, some⟩
    · rintro ⟨rfl, -⟩
      rfl

/-- Properties are sent in version five only, and as their stripped form. -/
theorem properties_eq_some {α : Type} {version : Version} {given : Option α}
    {contents : α → Contents} {strip : α → Option α} {q : α} (strips : Strips contents strip)
    (set : (if version = .five then given.bind strip else none) = some q) :
    version = .five ∧ (contents q).Normal ∧ strip q = some q := by
  split at set
  next five =>
    obtain ⟨p, -, found⟩ := Option.bind_eq_some_iff.1 set
    exact ⟨five, strips.normal p q found, strips.again p q found⟩
  next => cases set

theorem WillSettings.lastWill?_eq_some_iff {version : Version} {w : WillSettings} {l : LastWill} :
    w.lastWill? version = some l ↔ w.topic ≠ "" ∧
      l = ⟨w.topic, w.payload, w.qos, w.retain,
        if version = .five then w.properties.bind WillProperties.stripped? else none⟩ := by
  unfold lastWill?
  split
  next empty => simp [empty]
  next some => simp [some, eq_comm]

theorem Profile.meaningful_clientOptions (p : Profile) (now : Int) (resubscribe : Bool) :
    (p.clientOptions now resubscribe).Meaningful p where
  credentials := by
    simp [clientOptions, nonEmpty?_eq_some_iff]
  encrypted := by
    by_cases on : p.tls.enabled = true <;> simp [clientOptions, TlsSettings.material?, on]
  certificates := by
    intro tls set
    by_cases on : p.tls.enabled = true
    · simp only [clientOptions, TlsSettings.material?, on, if_true, Option.some.injEq] at set
      subst set
      simp [nonEmpty?_eq_some_iff]
    · simp [clientOptions, TlsSettings.material?, on] at set
  properties := fun q => properties_eq_some ConnectProperties.strips
  will := by
    intro topic
    constructor
    · rintro ⟨will, set, rfl⟩
      obtain ⟨given, declared, made⟩ := Option.bind_eq_some_iff.1 set
      obtain ⟨some, rfl⟩ := WillSettings.lastWill?_eq_some_iff.1 made
      exact ⟨⟨given, declared, rfl⟩, some⟩
    · rintro ⟨⟨given, declared, rfl⟩, some⟩
      exact ⟨_, Option.bind_eq_some_iff.2
        ⟨given, declared, WillSettings.lastWill?_eq_some_iff.2 ⟨some, rfl⟩⟩, rfl⟩
  willProperties := by
    intro will q set
    obtain ⟨w, -, made⟩ := Option.bind_eq_some_iff.1 set
    obtain ⟨-, rfl⟩ := WillSettings.lastWill?_eq_some_iff.1 made
    exact properties_eq_some WillProperties.strips
  reconnects := by
    by_cases on : p.reconnect = true <;> simp [clientOptions, ClientOptions.reconnects, on]

/-! ## What reaches a transport -/

/-- Properties are stripped to a normal form of all that they say, and whatever is published or
opened a session with is in this form. -/
theorem meaningful_options :
    Strips PublishProperties.contents PublishProperties.stripped? ∧
    Strips ConnectProperties.contents ConnectProperties.stripped? ∧
    Strips WillProperties.contents WillProperties.stripped? ∧
    (∀ (o : PublishOptions) (q : PublishProperties), o.stripped.properties = some q →
      q.contents.Normal) ∧
    ∀ (p : Profile) (now : Int) (resubscribe : Bool),
      (p.clientOptions now resubscribe).Meaningful p :=
  ⟨PublishProperties.strips, ConnectProperties.strips, WillProperties.strips,
    fun o _ => o.normal_stripped, Profile.meaningful_clientOptions⟩

/-- An empty text and a pair without a value are dropped, and what is left stays. -/
theorem meaningful_options_of_alias :
    let pairs := KeyMap.ofList [("a", "1"), ("b", "")]
    let given : PublishProperties :=
      ⟨none, none, some 3, some "", none, some pairs, none, some "text"⟩
    let kept : PublishProperties :=
      ⟨none, none, some 3, none, none, some (KeyMap.ofList [("a", "1")]), none, some "text"⟩
    given.stripped? = some kept ∧ kept.contents.Normal ∧ kept.stripped? = some kept := by
  intro pairs given kept
  have found : given.stripped? = some kept := by decide
  exact ⟨found, meaningful_options.1.normal given kept found,
    meaningful_options.1.again given kept found⟩

end DeviceConsole
