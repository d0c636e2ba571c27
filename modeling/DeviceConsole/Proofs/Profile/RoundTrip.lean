import Mathlib.Data.List.Forall2
import DeviceConsole.Proofs.Profile.Codec
import DeviceConsole.Proofs.Shadow.Lookup

/-!
# Profiles are read back

A profile is read back from what is written of it.  It does not depend on the order of the members,
nor on members with other names, nor on members whose values go without saying.  This file defines:

* `Profile.omissible`, the members that go without saying;
* `Profile.Written`, the objects that stand for a profile;
* `Profile.Conveys`, what all of these have in common, and from which the profile is read.
-/

namespace DeviceConsole

namespace Profile

/-- The members that may be left out: a profile about which nothing is said has these values.  A
missing protocol is none, although new profiles have one; an id is never left out. -/
def omissible : List (String × Json) :=
  ({ default ⟨0⟩ with protocol := none } : Profile).members.filter (·.1 ≠ "id")

/-- The objects that stand for a profile. -/
inductive Written (p : Profile) : List (String × Json) → Prop where
  | full : Written p p.members
  | reorder {before after : List (String × Json)} :
      Written p before → before.Perm after → Written p after
  | add {before after : List (String × Json)} {name : String} (value : Json) :
      Written p (before ++ after) → name ∉ names → Written p (before ++ (name, value) :: after)
  | drop {before after : List (String × Json)} {member : String × Json} :
      Written p (before ++ member :: after) → member ∈ omissible → Written p (before ++ after)

/-! ## What is conveyed -/

/-- Known members occur once and are those of the profile, and a missing one goes without saying. -/
structure Conveys (p : Profile) (members : List (String × Json)) : Prop where
  distinct : ((members.filter fun member => names.contains member.1).map (·.1)).Nodup
  honest : ∀ member ∈ members, member.1 ∈ names → member ∈ p.members
  complete : ∀ member ∈ p.members, member ∈ members ∨ member ∈ omissible

theorem map_members (p : Profile) : p.members.map (·.1) = names := rfl

theorem nodup_members (p : Profile) : (p.members.map (·.1)).Nodup := by
  rw [map_members]
  decide

theorem Written.conveys {p : Profile} {members : List (String × Json)} (h : Written p members) :
    p.Conveys members := by
  induction h with
  | full =>
      exact ⟨p.nodup_members.sublist (List.filter_sublist.map _), fun _ member _ => member,
        fun _ member => .inl member⟩
  | reorder _ same ih =>
      refine ⟨?_, fun m member => ih.honest m (same.mem_iff.2 member), fun m member => ?_⟩
      · exact ((same.filter _).map _).nodup_iff.1 ih.distinct
      · exact (ih.complete m member).imp_left same.mem_iff.1
  | @add before after name value _ unknown ih =>
      refine ⟨?_, fun m member known => ?_, fun m member => ?_⟩
      · simpa [List.filter_append, List.filter_cons, unknown] using ih.distinct
      · refine ih.honest m ?_ known
        have differs : m ≠ (name, value) := by
          rintro rfl
          exact unknown known
        simpa [differs] using member
      · refine (ih.complete m member).imp_left fun member => ?_
        simp only [List.mem_append, List.mem_cons] at member ⊢
        exact member.imp_right .inr
  | @drop before after dropped _ default ih =>
      have fewer : (before ++ after).Sublist (before ++ dropped :: after) :=
        (List.Sublist.refl before).append (List.sublist_cons_self dropped after)
      refine ⟨ih.distinct.sublist ((fewer.filter _).map _),
        fun m member => ih.honest m (fewer.subset member), fun m member => ?_⟩
      rcases ih.complete m member with there | omitted
      · by_cases same : m = dropped
        · exact .inr (same ▸ default)
        · exact .inl (by simpa [same] using there)
      · exact .inr omitted

/-! ## Reading -/

variable {p : Profile} {members : List (String × Json)}

def known (members : List (String × Json)) : Fields :=
  ⟨members.filter fun member => names.contains member.1, false⟩

theorem mem_names {member : String × Json} (h : member ∈ p.members) : member.1 ∈ names :=
  p.map_members ▸ List.mem_map.2 ⟨member, h, rfl⟩

theorem nodup_omissible : (omissible.map (·.1)).Nodup :=
  (nodup_members _).sublist (List.filter_sublist.map _)

namespace Conveys

theorem known? (h : p.Conveys members) :
    (Fields.known? names members).map (⟨·, false⟩) = some (known members) := by
  rw [Fields.known?, if_pos h.distinct, Option.map_some, known]

theorem member?_of_mem (h : p.Conveys members) {name : String} {value : Json}
    (member : (name, value) ∈ members) (isName : name ∈ names) :
    (known members).member? name = some value :=
  KeyList.get?_of_mem_of_nodup h.distinct
    (List.mem_filter.2 ⟨member, List.contains_iff_mem.2 isName⟩)

/-- A member of the profile is there with its value, or it is not there at all. -/
theorem member?_cases (h : p.Conveys members) {name : String} {value : Json}
    (member : KeyList.get? name p.members = some value) :
    (known members).member? name = some value ∨
      (known members).member? name = none ∧ KeyList.get? name omissible = some value := by
  have ofProfile : (name, value) ∈ p.members := KeyList.mem_of_get? member
  have isName : name ∈ names := mem_names ofProfile
  cases there : (known members).member? name with
  | some other =>
      -- What is there under the name is the member of the profile.
      have found : (name, other) ∈ members := (List.mem_filter.1 (KeyList.mem_of_get? there)).1
      have same : KeyList.get? name p.members = some other :=
        KeyList.get?_of_mem_of_nodup p.nodup_members (h.honest _ found isName)
      exact .inl (same.symm.trans member)
  | none =>
      refine .inr ⟨rfl, ?_⟩
      rcases h.complete _ ofProfile with found | omitted
      · exact absurd (there.symm.trans (h.member?_of_mem found isName)) (Option.some_ne_none _).symm
      · exact KeyList.get?_of_mem_of_nodup nodup_omissible omitted

theorem told (h : p.Conveys members) {name : String} {value default : Json}
    (member : KeyList.get? name p.members = some value)
    (unsaid : KeyList.get? name omissible = some default) :
    (known members).Told name value default := by
  rcases h.member?_cases member with there | ⟨missing, omitted⟩
  · exact .inl there
  · exact .inr ⟨missing, Option.some.inj (omitted.symm.trans unsaid)⟩

/-- The encryption settings are read from among the members of the profile. -/
theorem tls (h : p.Conveys members) :
    TlsSettings.ofFields? (Json.looseVariant? CertificateKind.table) (known members) =
      some p.tls := by
  have enabled : (known members).orElse "ssl" Json.bool? TlsSettings.default.enabled =
      some p.tls.enabled := Fields.orElse_of_told .bool (h.told rfl rfl)
  have kind : (known members).orElse "certType" (Json.looseVariant? CertificateKind.table)
      TlsSettings.default.kind = some p.tls.kind :=
    Fields.orElse_of_told CertificateKind.inverts (h.told rfl rfl)
  have checked : (known members).orElse "rejectUnauthorized" Json.bool?
      TlsSettings.default.rejectUnauthorized = some p.tls.rejectUnauthorized :=
    Fields.orElse_of_told .bool (h.told rfl rfl)
  have ca : (known members).orElse "ca" Json.string? TlsSettings.default.ca = some p.tls.ca :=
    Fields.orElse_of_told .string (h.told rfl rfl)
  have cert : (known members).orElse "cert" Json.string? TlsSettings.default.cert =
      some p.tls.cert := Fields.orElse_of_told .string (h.told rfl rfl)
  have key : (known members).orElse "key" Json.string? TlsSettings.default.key = some p.tls.key :=
    Fields.orElse_of_told .string (h.told rfl rfl)
  rw [TlsSettings.ofFields?, enabled, kind, checked, ca, cert, key]
  rfl

/-- What the members convey is the profile, whatever id a profile without one would get. -/
theorem ofFields? (h : p.Conveys members) (fresh : ConnectionId) :
    Profile.ofFields? fresh (known members) = some p := by
  -- The id has no default, and it is always there.
  have held : KeyList.get? "id" p.members = some p.id.toJson := rfl
  have missing : KeyList.get? "id" omissible = none := rfl
  have id : (known members).orElse "id" ConnectionId.read? (default fresh).id = some p.id := by
    rcases h.member?_cases held with there | ⟨-, omitted⟩
    · exact Fields.orElse_of_told ConnectionId.inverts (.inl there)
    · exact absurd (omitted.symm.trans missing) (Option.some_ne_none _)
  have name : (known members).orElse "name" Json.string? (default fresh).name = some p.name :=
    Fields.orElse_of_told .string (h.told rfl rfl)
  have role : (known members).orElse "userrole" (Json.variant? Role.table) (default fresh).role =
      some p.role := Fields.orElse_of_told Role.inverts (h.told rfl rfl)
  have clientId : (known members).orElse "clientId" Json.string? (default fresh).clientId =
      some p.clientId := Fields.orElse_of_told .string (h.told rfl rfl)
  have clientIdWithTime : (known members).orElse "clientIdWithTime" Json.bool?
      (default fresh).clientIdWithTime = some p.clientIdWithTime :=
    Fields.orElse_of_told .bool (h.told rfl rfl)
  have username : (known members).orElse "username" Json.string? (default fresh).username =
      some p.username := Fields.orElse_of_told .string (h.told rfl rfl)
  have password : (known members).orElse "password" Json.string? (default fresh).password =
      some p.password := Fields.orElse_of_told .string (h.told rfl rfl)
  have host : (known members).orElse "host" Json.string? (default fresh).host = some p.host :=
    Fields.orElse_of_told .string (h.told rfl rfl)
  have port : (known members).orElse "port" Json.word16? (default fresh).port = some p.port :=
    Fields.orElse_of_told .word16 (h.told rfl rfl)
  have path : (known members).orElse "path" Json.string? (default fresh).path = some p.path :=
    Fields.orElse_of_told .string (h.told rfl rfl)
  have keepalive : (known members).orElse "keepalive" Json.word16? (default fresh).keepalive =
      some p.keepalive := Fields.orElse_of_told .word16 (h.told rfl rfl)
  have clean : (known members).orElse "clean" Json.bool? (default fresh).clean = some p.clean :=
    Fields.orElse_of_told .bool (h.told rfl rfl)
  have connectTimeout : (known members).orElse "connectTimeout" Json.word64?
      (default fresh).connectTimeout = some p.connectTimeout :=
    Fields.orElse_of_told .word64 (h.told rfl rfl)
  have reconnect : (known members).orElse "reconnect" Json.bool? (default fresh).reconnect =
      some p.reconnect := Fields.orElse_of_told .bool (h.told rfl rfl)
  have reconnectPeriod : (known members).orElse "reconnectPeriod" Json.word64?
      (default fresh).reconnectPeriod = some p.reconnectPeriod :=
    Fields.orElse_of_told .word64 (h.told rfl rfl)
  have version : (known members).orElse "mqttVersion" (Json.variant? Version.table)
      (default fresh).version = some p.version :=
    Fields.orElse_of_told Version.inverts (h.told rfl rfl)
  have subscriptions : (known members).orElse "subscriptions" (Json.list? Subscription.read?)
      (default fresh).subscriptions = some p.subscriptions :=
    Fields.orElse_of_told Subscription.inverts.list (h.told rfl rfl)
  have publishDefaults : (known members).orElse "pushProps" PublishDefaults.read?
      (default fresh).publishDefaults = some p.publishDefaults :=
    Fields.orElse_of_told PublishDefaults.inverts (h.told rfl rfl)
  -- A missing protocol is none, and so are a missing will and missing properties.
  have protocol : (known members).optional "protocol" (Json.variant? Protocol.table) =
      some p.protocol := Fields.optional_of_told Protocol.inverts (h.told rfl rfl)
  have will : (known members).optional "will" WillSettings.read? = some p.will :=
    Fields.optional_of_told WillSettings.inverts (h.told rfl rfl)
  have properties : (known members).optional "properties" ConnectProperties.read? =
      some p.properties := Fields.optional_of_told ConnectProperties.inverts (h.told rfl rfl)
  rw [Profile.ofFields?, id, name, role, clientId, clientIdWithTime, username, password, host, port,
    path, protocol, h.tls, keepalive, clean, connectTimeout, reconnect, reconnectPeriod, version,
    will, properties, subscriptions, publishDefaults]
  rfl

theorem read? (h : p.Conveys members) (fresh : ConnectionId) :
    Profile.read? fresh (.obj members) = some p := by
  rw [Profile.read?, h.known?, Option.bind_some, h.ofFields? fresh]

end Conveys

/-! ## Lists of profiles -/

/-- A list is read profile by profile. -/
theorem readFrom?_of_forall₂ {fresh : Nat → ConnectionId} {items : List Json}
    {profiles : List Profile}
    (h : List.Forall₂ (fun item p => ∀ fresh, read? fresh item = some p) items profiles) (n : Nat) :
    readFrom? fresh n items = some profiles := by
  induction h generalizing n with
  | nil => rfl
  | cons item _ ih =>
      rw [readFrom?, item, ih]
      rfl

/-- A profile is read back from every object that stands for it, and so is a list of profiles. -/
theorem read?_written :
    (∀ (fresh : ConnectionId) (p : Profile) (members : List (String × Json)),
      Written p members → read? fresh (.obj members) = some p) ∧
    (∀ (fresh : Nat → ConnectionId) (items : List Json) (profiles : List Profile),
      List.Forall₂ (fun item p => ∃ members, item = .obj members ∧ Written p members)
        items profiles →
      readList? fresh (.arr items) = some profiles) := by
  refine ⟨fun fresh p members written => written.conveys.read? fresh,
    fun fresh items profiles written => ?_⟩
  refine readFrom?_of_forall₂ (List.Forall₂.imp ?_ written) 0
  rintro _ p ⟨members, rfl, written⟩ fresh
  exact written.conveys.read? fresh

/-- A profile with a will, properties, certificates and subscriptions. -/
def detailed : Profile :=
  { default ⟨7⟩ with
    clientId := "pump"
    protocol := some .mqtts
    tls := ⟨true, .selfSigned, false, "ca.pem", "cert.pem", "key.pem"⟩
    will := some
      { topic := "will", payload := "gone", qos := .atLeastOnce, retain := true
        properties := some { WillProperties.none with
          willDelayInterval := some 30
          contentType := some "text/plain"
          userProperties := some (.ofList [("site", "lab")]) } }
    properties := some { ConnectProperties.none with
      sessionExpiryInterval := some 3600
      requestProblemInformation := some false
      userProperties := some (.ofList [("site", "lab"), ("rack", "2")])
      authenticationMethod := some "plain" }
    subscriptions :=
      [.fresh "1" "a/#" (.ofQos .exactlyOnce),
        ⟨"2", some "Clock", "b", ⟨.atMostOnce, some true, none, some 2⟩, false⟩]
    publishDefaults := ⟨.atLeastOnce, true⟩ }

/-- A detailed profile without its name and with a date, the members from last to first; and a list
of it and a full one. -/
theorem read?_written_backwards :
    let members := ("createAt", .str "2023") :: (detailed.members.eraseIdx 1).reverse
    Written detailed members ∧ read? ⟨0⟩ (.obj members) = some detailed ∧
      readList? (fun _ => ⟨0⟩) (.arr [.obj members, (default ⟨8⟩).toJson]) =
        some [detailed, default ⟨8⟩] := by
  have nameless : Written detailed (detailed.members.eraseIdx 1) :=
    @Written.drop _ [("id", ConnectionId.toJson ⟨7⟩)] _ ("name", .str "") .full
      (KeyList.mem_of_get? rfl)
  have backwards := nameless.reorder (List.reverse_perm _).symm
  have dated : Written detailed
      (("createAt", .str "2023") :: (detailed.members.eraseIdx 1).reverse) :=
    @Written.add _ [] _ _ (.str "2023") backwards (by decide)
  exact ⟨dated, read?_written.1 _ _ _ dated,
    read?_written.2 _ _ _ (.cons ⟨_, rfl, dated⟩ (.cons ⟨_, rfl, .full⟩ .nil))⟩

end Profile

end DeviceConsole
