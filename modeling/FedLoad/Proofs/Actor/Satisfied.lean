import FedLoad.Actor
import FedLoad.Proofs.Check.Outcome
import FedLoad.Proofs.Json.Reading
/-!
# A descriptor is satisfied by itself

What a descriptor expects is what its document says, but for the id and for a name or a type that is
null. A null id, name or type is not kept, so it is not written either, and the other properties are
kept as they are, null or not.

A document is read field by field. A draft is looked at as the fields that it has so far
(`Draft.field?`), one more field gives one key its value (`Draft.field?_of_take?`), and putting a
field into the sorted document does the same; so both agree after all fields. Written and read again
the descriptor has just the values that it expects, each of which is equal to itself.

Main statement: `Actor.satisfied_by_itself`.
-/
namespace FedLoad

namespace Actor

/-! ## Reading -/

/-- Does a key have a place of its own in a descriptor? -/
def IsNamed (key : String) : Prop := key = "id" ∨ key = "name" ∨ key = "type"

/-- The value that is read as an optional text. -/
def ofOptional : Option String → Json
  | none => .null
  | some s => .text s

theorem optionalText?_eq_some_iff {j : Json} {v : Option String} :
    optionalText? j = some v ↔ j = ofOptional v := by
  cases v <;> cases j <;> simp [optionalText?, ofOptional]

theorem normalize_ofOptional (v : Option String) : (ofOptional v).normalize = ofOptional v := by
  cases v <;> rfl

/-- The other properties of a descriptor: each key once, and none with a place of its own. -/
structure Apart (others : List (String × Json)) : Prop where
  ascending : Keyed.Ascending others
  unnamed : ∀ p ∈ others, ¬ IsNamed p.1

namespace Draft

/-- What has been met under a key. -/
def field? (d : Draft) (key : String) : Option Json :=
  if key = "id" then d.id.map ofOptional
  else if key = "name" then d.name.map ofOptional
  else if key = "type" then d.type.map ofOptional
  else d.others.lookup key

variable {d d' : Draft} {key : String} {value : Json}

/-- One field is put with the others, or it is a text or null for a place of its own. -/
theorem take?_cases (h : d.take? key value = some d') :
    (¬ IsNamed key ∧ d' = { d with others := Keyed.insert key value.normalize d.others }) ∨
    ∃ v, value = ofOptional v ∧ (key = "id" ∧ d' = { d with id := some v } ∨
      key = "name" ∧ d' = { d with name := some v } ∨
      key = "type" ∧ d' = { d with type := some v }) := by
  unfold take? at h
  split at h
  case h_4 hid hname htype =>
    cases h
    exact .inl ⟨fun hnamed => hnamed.elim hid (Or.elim · hname htype), rfl⟩
  all_goals
    split at h
    · cases h
    · obtain ⟨v, hv, rfl⟩ := Option.map_eq_some_iff.1 h
      obtain ⟨text, htext, hpure⟩ := Option.bind_eq_some_iff.1 hv
      cases hpure
      exact .inr ⟨text, optionalText?_eq_some_iff.1 htext, by simp⟩

theorem apart_of_take? (h : d.take? key value = some d') (hd : Apart d.others) :
    Apart d'.others := by
  obtain ⟨hkey, rfl⟩ | ⟨v, -, ⟨-, rfl⟩ | ⟨-, rfl⟩ | ⟨-, rfl⟩⟩ := take?_cases h
  · refine ⟨Keyed.ascending_alter hd.ascending, fun p hp => ?_⟩
    obtain hput | hp := Keyed.eq_or_mem_of_mem_alter hp
    · rwa [hput]
    · exact hd.unnamed p hp
  all_goals exact hd

theorem field?_of_not_isNamed (h : ¬ IsNamed key) : d.field? key = d.others.lookup key := by
  obtain ⟨hid, hname, htype⟩ : key ≠ "id" ∧ key ≠ "name" ∧ key ≠ "type" := by
    simpa [IsNamed] using h
  rw [field?, if_neg hid, if_neg hname, if_neg htype]

/-- One field gives its key a value and leaves the other keys alone. -/
theorem field?_of_take? (h : d.take? key value = some d') (hd : Apart d.others) (other : String) :
    d'.field? other = if other = key then some value.normalize else d.field? other := by
  obtain ⟨hkey, rfl⟩ | ⟨v, rfl, hnamed⟩ := take?_cases h
  · by_cases hother : other = key
    · subst hother
      rw [if_pos rfl, field?_of_not_isNamed hkey]
      exact Keyed.lookup_alter hd.ascending
    · rw [if_neg hother, field?, field?]
      dsimp only
      rw [Keyed.insert, Keyed.lookup_alter_of_ne hother]
  · rw [normalize_ofOptional]
    unfold field?
    obtain ⟨rfl, rfl⟩ | ⟨rfl, rfl⟩ | ⟨rfl, rfl⟩ := hnamed <;> split_ifs <;> simp_all

theorem field?_of_takeAll? {fields sorted : List (String × Json)} (h : d.takeAll? fields = some d')
    (hd : Apart d.others) (hsorted : Keyed.Ascending sorted)
    (hfields : ∀ key, d.field? key = sorted.lookup key) :
    Apart d'.others ∧ ∀ key, d'.field? key = ((Json.normalizeFields fields).foldl
      (fun sorted p => Keyed.insert p.1 p.2 sorted) sorted).lookup key := by
  induction fields generalizing d sorted with
  | nil =>
    cases h
    exact ⟨hd, hfields⟩
  | cons p rest ih =>
    obtain ⟨key, value⟩ := p
    obtain ⟨next, htake, hrest⟩ := Option.bind_eq_some_iff.1 h
    refine ih hrest (apart_of_take? htake hd) (Keyed.ascending_alter hsorted) fun other => ?_
    have hself : (Keyed.insert key value.normalize sorted).lookup key = some value.normalize :=
      Keyed.lookup_alter hsorted
    rw [field?_of_take? htake hd]
    split
    · next heq =>
      rw [heq]
      exact hself.symm
    · next hne => exact (hfields other).trans (Keyed.lookup_alter_of_ne hne).symm

/-- The descriptor that a draft amounts to. -/
def toActor (d : Draft) : Actor := ⟨d.id.join, d.name.join, d.type.join, d.others⟩

end Draft

/-! ## What is kept -/

/-- A property with a text, where there is one. -/
def textField (key : String) (v : Option String) : List (String × Json) :=
  (v.map fun s => (key, Json.text s)).toList

/-- All properties of a descriptor: its id and what it expects. -/
def properties (a : Actor) : List (String × Json) := textField "id" a.id ++ a.expected

theorem mem_textField_iff {key other : String} {v : Option String} {value : Json} :
    (other, value) ∈ textField key v ↔ other = key ∧ v.map Json.text = some value := by
  cases v <;> simp [textField, eq_comm]

theorem map_text_join_eq_some_iff {v : Option (Option String)} {value : Json} :
    v.join.map Json.text = some value ↔ v.map ofOptional = some value ∧ value ≠ .null := by
  obtain _ | _ | s := v <;> cases value <;> simp [ofOptional]

section Kept

variable {a : Actor} {key : String} {value : Json}

theorem expected_of_apart (h : Apart a.others) :
    a.expected = textField "name" a.name ++ textField "type" a.type ++ a.others := by
  refine congrArg (textField "name" a.name ++ textField "type" a.type ++ ·)
    (List.filter_eq_self.2 fun p hp => ?_)
  exact bne_iff_ne.2 fun heq => h.unnamed p hp (.inl heq)

theorem nodup_properties (h : Apart a.others) : (a.properties.map Prod.fst).Nodup := by
  have hothers := h.ascending.nodup
  have habsent (key : String) (hnamed : IsNamed key) : key ∉ a.others.map Prod.fst := by
    intro hmem
    obtain ⟨p, hp, rfl⟩ := List.mem_map.1 hmem
    exact h.unnamed p hp hnamed
  have hid := habsent "id" (.inl rfl)
  have hname := habsent "name" (.inr (.inl rfl))
  have htype := habsent "type" (.inr (.inr rfl))
  rw [properties, expected_of_apart h]
  cases a.id <;> cases a.name <;> cases a.type <;> simp_all [textField]

theorem mem_expected_iff (h : Apart a.others) :
    (key, value) ∈ a.expected ↔ (key, value) ∈ a.properties ∧ key ≠ "id" := by
  have hothers : (key, value) ∈ a.others → key ≠ "id" := fun hmem heq =>
    h.unnamed _ hmem (.inl heq)
  rw [properties, expected_of_apart h]
  simp only [List.mem_append, mem_textField_iff]
  constructor
  · rintro ((⟨rfl, hname⟩ | ⟨rfl, htype⟩) | hmem)
    · exact ⟨.inr (.inl (.inl ⟨rfl, hname⟩)), by decide⟩
    · exact ⟨.inr (.inl (.inr ⟨rfl, htype⟩)), by decide⟩
    · exact ⟨.inr (.inr hmem), hothers hmem⟩
  · rintro ⟨⟨hid, -⟩ | hmem, hne⟩
    · exact absurd hid hne
    · exact hmem

/-- A descriptor is written as all of its properties. -/
theorem toJson_fields_perm (h : Apart a.others) : a.toJson.fields.Perm a.properties := by
  have hwritten : a.toJson.fields = Keyed.ofList a.properties := by
    rw [properties, expected_of_apart h]
    obtain ⟨_ | id, _ | name, _ | type, others⟩ := a <;> rfl
  rw [hwritten]
  exact Keyed.ofList_perm (nodup_properties h)

end Kept

/-- A draft keeps what it has met, but for null under a key with a place of its own. -/
theorem mem_properties_toActor {d : Draft} (h : Apart d.others) {key : String} {value : Json} :
    (key, value) ∈ d.toActor.properties ↔
      d.field? key = some value ∧ ¬ (value = .null ∧ IsNamed key) := by
  have hothers : d.others.lookup key = some value ↔ (key, value) ∈ d.others :=
    Keyed.lookup_eq_some_iff_mem h.ascending
  have hunnamed : (key, value) ∈ d.others → ¬ IsNamed key := h.unnamed (key, value)
  rw [properties, expected_of_apart (a := d.toActor) h]
  simp only [List.mem_append, mem_textField_iff, Draft.toActor, map_text_join_eq_some_iff]
  unfold Draft.field? IsNamed at *
  split_ifs with hid hname htype <;> grind

/-! ## A document and its descriptor -/

section Read

variable {s : String} {doc : Json} {a : Actor}

theorem exists_draft_of_read? (hdoc : Json.read? s = some doc) (hread : read? s = some a) :
    ∃ d : Draft, a = d.toActor ∧ Apart d.others ∧ ∀ key, d.field? key = doc.field? key := by
  obtain ⟨raw, hraw, hdescriptor⟩ := Option.bind_eq_some_iff.1 hread
  rw [Json.read?, hraw, Option.map_some, Option.some_inj] at hdoc
  subst hdoc
  cases raw with
  | record fields =>
    obtain ⟨d, htake, rfl⟩ := Option.map_eq_some_iff.1 hdescriptor
    have hstart (key : String) : (⟨none, none, none, []⟩ : Draft).field? key =
        ([] : List (String × Json)).lookup key := by
      unfold Draft.field?
      split_ifs <;> rfl
    have hempty : Apart [] := ⟨List.Pairwise.nil, List.forall_mem_nil _⟩
    exact ⟨d, rfl, Draft.field?_of_takeAll? htake hempty hempty.ascending hstart⟩
  | null | bool | int | float | text | list => cases hdescriptor

theorem apart_of_read? (hdoc : Json.read? s = some doc) (hread : read? s = some a) :
    Apart a.others := by
  obtain ⟨d, rfl, hapart, -⟩ := exists_draft_of_read? hdoc hread
  exact hapart

/-- A descriptor keeps the fields of its document, but for a null id, name or type. -/
theorem mem_properties_iff (hdoc : Json.read? s = some doc) (hread : read? s = some a)
    (key : String) (value : Json) : (key, value) ∈ a.properties ↔
      doc.field? key = some value ∧ ¬ (value = .null ∧ IsNamed key) := by
  obtain ⟨d, rfl, hapart, hfields⟩ := exists_draft_of_read? hdoc hread
  rw [← hfields]
  exact mem_properties_toActor hapart

/-- What a descriptor keeps is in normal form and equal to itself. -/
theorem normal_equal_of_mem_properties (hdoc : Json.read? s = some doc) (hread : read? s = some a)
    {p : String × Json} (hp : p ∈ a.properties) : p.2.normalize = p.2 ∧ p.2.Equal p.2 := by
  obtain ⟨hfield, -⟩ := (mem_properties_iff hdoc hread p.1 p.2).1 hp
  cases doc with
  | record fields =>
    have hnormal := Json.normal_of_read? hdoc
    have hmem : p ∈ fields :=
      (Keyed.lookup_eq_some_iff_mem (Json.ascending_of_normal hnormal)).1 hfield
    exact ⟨Json.normal_of_mem_fields hnormal p hmem,
      Json.equal_self_record_iff.1 (Json.equal_of_read? hdoc) p hmem⟩
  | null | bool | int | float | text | list => cases hfield

end Read

end Actor

/-! ## Sent back -/

/-- A response that sends a descriptor itself: its fields in any order, if they are read back as
they were written, under a media type for objects. -/
structure Response.Sends (r : Response) (a : Actor) : Prop where
  status : r.status = some 200
  media : r.HasMediaType
  body : ∃ fields : List (String × Json), fields.Perm a.toJson.fields ∧
    (Json.record fields).IsReadBack ∧ r.body = (Json.record fields).write

namespace Actor

variable {s : String} {doc : Json} {a : Actor} {r : Response}

theorem json_of_sends (hdoc : Json.read? s = some doc) (hread : read? s = some a)
    (h : r.Sends a) : r.json = a.toJson := by
  obtain ⟨fields, hperm, hraw, hbody⟩ := h.body
  have hapart := apart_of_read? hdoc hread
  have hnormal : ∀ p ∈ a.toJson.fields, p.2.normalize = p.2 := fun p hp =>
    (normal_equal_of_mem_properties hdoc hread ((toJson_fields_perm hapart).mem_iff.1 hp)).1
  rw [Response.json, Json.readOrNull, hbody,
    Json.read?_write_of_perm hraw hperm (Keyed.ascending_ofList _) hnormal]
  rfl

theorem body_ne_empty (h : r.Sends a) : r.body ≠ "" := by
  obtain ⟨fields, -, -, hbody⟩ := h.body
  rw [hbody, Json.write]
  exact fun hempty => absurd (congrArg String.length hempty) (by simp)

/-- What is sent back has each expected property, with a value that is equal to itself. -/
theorem met_property_of_sends (hdoc : Json.read? s = some doc) (hread : read? s = some a)
    (h : r.Sends a) {p : String × Json} (hp : p ∈ a.expected) : (Check.property p.1 p.2).Met r := by
  have hapart := apart_of_read? hdoc hread
  have hproperty : p ∈ a.properties := ((mem_expected_iff hapart).1 hp).1
  have hsent : r.json.field? p.1 = some p.2 := by
    rw [json_of_sends hdoc hread h]
    exact (Keyed.lookup_eq_some_iff_mem (Keyed.ascending_ofList _)).2
      ((toJson_fields_perm hapart).mem_iff.2 hproperty)
  intro actual hactual
  rw [hsent, Option.some_inj] at hactual
  exact hactual ▸ (normal_equal_of_mem_properties hdoc hread hproperty).2

/-- A descriptor with an id expects each of the other properties of its document once, and a
response that sends it passes all of its checks. -/
theorem satisfied_by_itself {id : String} (hdoc : Json.read? s = some doc)
    (hid : doc.field? "id" = some (.text id)) (hread : read? s = some a) :
    (a.expected.map Prod.fst).Nodup ∧
    (∀ key value, (key, value) ∈ a.expected ↔ doc.field? key = some value ∧ key ≠ "id" ∧
      ¬ (value = .null ∧ (key = "name" ∨ key = "type"))) ∧
    ∀ r : Response, r.Sends a → ∀ c ∈ a.checks, c.holds r = true := by
  have hapart := apart_of_read? hdoc hread
  have hnodup := nodup_properties hapart
  have hidentified : a.toJson.fields ≠ [] := by
    have hmem : ("id", Json.text id) ∈ a.properties :=
      (mem_properties_iff hdoc hread _ _).2 ⟨hid, by simp⟩
    exact List.ne_nil_of_mem ((toJson_fields_perm hapart).mem_iff.2 hmem)
  refine ⟨?_, fun key value => ?_, fun r hr c hc => c.holds_iff.2 ?_⟩
  · rw [properties, List.map_append] at hnodup
    exact (List.nodup_append.1 hnodup).2.1
  · rw [mem_expected_iff hapart, mem_properties_iff hdoc hread]
    unfold IsNamed
    grind
  · rw [checks, Check.basic, List.mem_append, List.mem_append, List.mem_pair, List.mem_singleton,
      List.mem_map] at hc
    obtain ((rfl | rfl) | rfl) | ⟨p, hp, rfl⟩ := hc
    · exact hr.status
    · exact ⟨hr.media, body_ne_empty hr⟩
    · have hpresent : Check.isPresent a.toJson = true := by
        change (!a.toJson.fields.isEmpty) = true
        simpa using hidentified
      rw [Check.Met, json_of_sends hdoc hread hr]
      exact Check.isPresent_iff.1 hpresent
    · exact met_property_of_sends hdoc hread hr hp

/-- A descriptor with a null name, a property that comes twice, and values of every kind. -/
def annDocument : String :=
  "\x7b\"type\": \"Person\", \"rates\": 7, \"name\": null, \"id\": \"/users/ann\", " ++
    "\"endpoints\": \x7b\"sharedInbox\": null\x7d, \"rates\": [0.5, 1, true]\x7d"

/-- What is kept of it. -/
def annProperties : List (String × Json) :=
  [("id", .text "/users/ann"), ("type", .text "Person"),
    ("endpoints", .record [("sharedInbox", .null)]),
    ("rates", .list [.float 0.5, .int 1, .bool true])]

def isAnn : List (String × Json) → Bool
  | [(k₁, .text s₁), (k₂, .text s₂), (k₃, .record [(k₄, .null)]),
      (k₅, .list [.float x, .int n, .bool b])] =>
    [k₁, s₁, k₂, s₂, k₃, k₄, k₅] ==
      ["id", "/users/ann", "type", "Person", "endpoints", "sharedInbox", "rates"] &&
    decide (x = 0.5 ∧ n = 1 ∧ b = true)
  | _ => false

theorem eq_annProperties {fields : List (String × Json)} (h : isAnn fields = true) :
    fields = annProperties := by
  unfold isAnn at h
  split at h
  · obtain ⟨htexts, hscalars⟩ := Bool.and_eq_true_iff.1 h
    obtain ⟨rfl, rfl, rfl⟩ := of_decide_eq_true hscalars
    cases eq_of_beq htexts
    rfl
  · cases h

/-- The kept properties pass as an answer. -/
theorem satisfied_by_itself_ann :
    let r := Response.answered "http://fedbox.local/users/ann" 200 "application/activity+json"
      (Json.record annProperties).write .zero
    ∃ doc a, Json.read? annDocument = some doc ∧ doc.field? "id" = some (.text "/users/ann") ∧
      read? annDocument = some a ∧ a.expected = annProperties.tail ∧ r.Sends a ∧
      ∀ c ∈ a.checks, c.holds r = true := by
  intro r
  have hdocument : ((Json.read? annDocument).bind (Json.field? · "id")).bind Json.text? =
      some "/users/ann" := by decide +kernel
  have hdescriptor : (read? annDocument).any
      (fun a => a.id.isSome && isAnn a.properties) = true := by decide +kernel
  have hbody : (Json.readRaw? (Json.record annProperties).write).any (fun j => isAnn j.fields) =
      true := by decide +kernel
  have hmedia : mediaTypes.any (fun m => r.contentType.startsWith m) = true := by decide +kernel
  obtain ⟨value, hfield, hid⟩ := Option.bind_eq_some_iff.1 hdocument
  obtain ⟨doc, hdoc, hfield⟩ := Option.bind_eq_some_iff.1 hfield
  obtain ⟨a, hread, hann⟩ := (Option.any_eq_true _ _).1 hdescriptor
  obtain ⟨sent, hraw, hsent⟩ := (Option.any_eq_true _ _).1 hbody
  obtain ⟨hsome, hann⟩ := Bool.and_eq_true_iff.1 hann
  have hkept : a.properties = annProperties := eq_annProperties hann
  have hexpected : a.expected = annProperties.tail := by
    obtain ⟨id, hid⟩ := Option.isSome_iff_exists.1 hsome
    rw [← hkept, properties, hid]
    rfl
  have hvalue : value = .text "/users/ann" := by
    cases value <;> cases hid
    rfl
  have hrecord : sent = .record annProperties := by
    have hfields := eq_annProperties hsent
    cases sent <;> cases hfields
    rfl
  rw [hvalue] at hfield
  rw [hrecord] at hraw
  have hperm := (toJson_fields_perm (apart_of_read? hdoc hread)).symm
  rw [hkept] at hperm
  have hsends : r.Sends a := ⟨rfl, Check.contentTypeHolds_iff.1 hmedia, _, hperm, hraw, rfl⟩
  obtain ⟨-, -, hchecks⟩ := satisfied_by_itself hdoc hfield hread
  exact ⟨doc, a, hdoc, hfield, hread, hexpected, hsends, hchecks r hsends⟩

end Actor

end FedLoad
