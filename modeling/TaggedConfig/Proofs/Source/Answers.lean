import TaggedConfig.Proofs.Json.Compact
import TaggedConfig.Proofs.Json.Typed
import TaggedConfig.Proofs.Source.Defects
import TaggedConfig.Proofs.Source.Sending

/-! What becomes of the answers of a secret store.
Any status but success is a failure. Within an answer the segments of the key are followed from the
secret through objects only, and what they lead to is given as it is or as JSON.
-/

namespace TaggedConfig

open Run

-----------------------------------------------------------------------------------------
-- Ways through objects
-----------------------------------------------------------------------------------------

namespace Json

/-- The segments lead from one value to another, through objects only. -/
inductive Leads : Json → List String → Json → Prop
  | here {value} : Leads value [] value
  | within {members segment value segments found} (known : (segment, value) ∈ members)
    (leads : Leads value segments found)
    : Leads (.object members) (segment :: segments) found

/-- The segments lead from a value to nothing: to null, or to a segment for which there is no
member or not even an object.
-/
inductive Lost : Json → List String → Prop
  | null : Lost .null []
  | missing {members segment segments} (absent : ∀ value, (segment, value) ∉ members)
    : Lost (.object members) (segment :: segments)
  | noObject {value segment segments} (other : ∀ members, value ≠ .object members)
    : Lost value (segment :: segments)
  | within {members segment value segments} (known : (segment, value) ∈ members)
    (lost : Lost value segments)
    : Lost (.object members) (segment :: segments)

/-- The bytes are the compact JSON of a value, from which it is decoded if all its numbers are
integers.
-/
structure Renders (value : Json) (bytes : Bytes) : Prop where
  written : bytes = Utf8.encode value.text
  compact : Compact bytes
  back : value.Integral → decode bytes = .ok value

variable {room : Nat} {value : Json}

theorem Readable.renders (readable : Readable room value) (within : room ≤ nestingLimit)
    : value.Renders (Utf8.encode value.text) where
  written := rfl
  compact := compact_text value
  back := decode_text (readable.mono within)

/-- The members of a readable object are those that are found in it. -/
theorem Readable.member?_eq_some {members : List (String × Json)} {name : String}
    (readable : Readable room (.object members))
    : (Json.object members).member? name = some value ↔ (name, value) ∈ members := by
  constructor
  · intro known
    obtain ⟨before, after, rfl, -⟩ := List.lookup_eq_some_iff.mp known
    simp
  · intro member
    cases readable with
    | object sorted =>
        refine lookup_of_mem_of_nodup (sorted.imp fun {first second} before same => ?_) member
        exact String.lt_irrefl second (same ▸ before)

/-- What is selected is what the segments lead to, by induction on them. -/
theorem Readable.select?_eq_some {segments : List String} {found : Json}
    (readable : Readable room value)
    : SecretRequest.select? value segments = some found ↔ value.Leads segments found := by
  induction segments generalizing value with
  | nil =>
      constructor
      · intro selected
        cases selected
        exact .here
      · intro leads
        cases leads
        rfl
  | cons segment segments ih =>
      constructor
      · intro selected
        obtain ⟨next, known, selected⟩ := Option.bind_eq_some_iff.mp selected
        have leads := (ih (readable.member known)).mp selected
        cases value with
        | object members => exact .within (readable.member?_eq_some.mp known) leads
        | null | bool | number | string | array => contradiction
      · intro leads
        cases leads with
        | within member leads =>
            have known := readable.member?_eq_some.mpr member
            have selected := (ih (readable.member known)).mpr leads
            exact Option.bind_eq_some_iff.mpr ⟨_, known, selected⟩

/-- What segments lead to is as readable as what they lead from, by induction on the way. -/
theorem Readable.leads {segments : List String} {found : Json} (readable : Readable room value)
    (leads : value.Leads segments found)
    : Readable room found := by
  induction leads with
  | here => exact readable
  | within known _ ih => exact ih (readable.member (readable.member?_eq_some.mpr known))

/-- Segments are lost if and only if they lead to nothing but null, by induction on the segments. -/
theorem Readable.lost_iff {segments : List String} (readable : Readable room value)
    : value.Lost segments ↔ ∀ found, value.Leads segments found → found = .null := by
  induction segments generalizing value with
  | nil =>
      constructor
      · intro lost found leads
        cases lost
        cases leads
        rfl
      · intro all
        rw [all value .here]
        exact .null
  | cons segment segments ih =>
      constructor
      · intro lost found leads
        cases leads with
        | within member leads =>
            have known := readable.member?_eq_some.mpr member
            cases lost with
            | missing absent => exact absurd member (absent _)
            | noObject other => exact absurd rfl (other _)
            | within member' lost =>
                have known' := readable.member?_eq_some.mpr member'
                obtain rfl := Option.some.inj (known.symm.trans known')
                exact (ih (readable.member known)).mp lost found leads
      · intro all
        cases value with
        | object members =>
            by_cases present : ∃ value, (segment, value) ∈ members
            · obtain ⟨next, member⟩ := present
              have known := readable.member?_eq_some.mpr member
              refine .within member ((ih (readable.member known)).mpr ?_)
              intro found leads
              exact all found (.within member leads)
            · refine .missing fun value member => ?_
              exact present ⟨value, member⟩
        | null | bool | number | string | array => exact .noObject nofun

end Json

namespace SecretRequest

open Json (Leads Lost Renders Readable nestingLimit)

-----------------------------------------------------------------------------------------
-- Answers
-----------------------------------------------------------------------------------------

/-- The address has a key in its query, and this is the text of the first one. -/
def KeyParameter (address key : String) : Prop :=
  ∃ server query, CutAt address server query ∧ Query.States query "key" key

/-- The segments are those that the slashes of a key part. -/
def Parts (key : String) (segments : List String) : Prop :=
  segments ≠ []
  ∧ (∀ segment ∈ segments, segment ≠ "" ∧ '/' ∉ segment.toList)
  ∧ "/".intercalate segments = key

/-- What the segments of a key select from a secret. -/
inductive Selects (secret : Json) (segments : List String) (key : String)
    : Except Error Bytes → Prop
  | text {text} (leads : secret.Leads segments (.string text))
    : Selects secret segments key (.ok (Utf8.encode text))
  | value {leaf bytes} (leads : secret.Leads segments leaf) (noText : ∀ text, leaf ≠ .string text)
    (notNull : leaf ≠ .null) (renders : leaf.Renders bytes)
    : Selects secret segments key (.ok bytes)
  | lost (lost : secret.Lost segments)
    : Selects secret segments key (.error (.ofSourceFault (.keyNotFound key)))

/-- What an answer tells about the secret that an address names, given the endpoint at which it was
asked for.
-/
inductive Tells (address endpoint : String) : Nat → Bytes → Except Error Bytes → Prop
  | missing {body} : Tells address endpoint 404 body (.error (.ofSourceFault .secretNotFound))
  | refused {status body} (notMissing : status ≠ 404) (noSuccess : status ≠ 200)
    : Tells address endpoint status body (.error (.ofSourceFault (.status endpoint status)))
  | garbled {body fault} (noJson : Json.decode body = .error fault)
    : Tells address endpoint 200 body
        (.error (.ofFault (.decode ("secret store response: " ++ fault.message body))))
  | noSecret {body answer} (json : Json.decode body = .ok answer)
    (none : ∀ secret, ¬ answer.Leads ["data", "data"] (.object secret))
    : Tells address endpoint 200 body (.error (.ofSourceFault .secretNotFound))
  | whole {body answer secret bytes} (json : Json.decode body = .ok answer)
    (holds : answer.Leads ["data", "data"] (.object secret))
    (noKey : ∀ key, ¬ KeyParameter address key) (renders : (Json.object secret).Renders bytes)
    : Tells address endpoint 200 body (.ok bytes)
  | keyed {body answer secret key segments result} (json : Json.decode body = .ok answer)
    (holds : answer.Leads ["data", "data"] (.object secret)) (stated : KeyParameter address key)
    (parts : Parts key segments) (selects : Selects (.object secret) segments key result)
    : Tells address endpoint 200 body result

-----------------------------------------------------------------------------------------
-- What is selected
-----------------------------------------------------------------------------------------

section

variable {request : SecretRequest} {room : Nat} {secret : List (String × Json)}

/-- What a request selects from a secret, as the result of its load. -/
def selection (request : SecretRequest) (secret : List (String × Json)) : Except Error Bytes :=
  ((request.select secret).mapError Fault.source).mapError Error.ofFault

theorem selection_whole (noKey : request.key = [])
    : request.selection secret = .ok (Utf8.encode (Json.object secret).text) := by
  rw [selection, select, noKey]
  rfl

theorem selection_keyed (keyed : request.key ≠ [])
    : request.selection secret
      = match selectedBytes? (select? (.object secret) request.key) with
        | some bytes => .ok bytes
        | none => .error (.ofSourceFault (.keyNotFound request.keyText)) := by
  unfold selection select
  split
  · contradiction
  · cases selectedBytes? (select? (.object secret) request.key) <;> rfl

/-- A request selects what the segments of its key lead to. -/
theorem selects_selection (readable : Readable room (.object secret)) (within : room ≤ nestingLimit)
    (keyed : request.key ≠ [])
    : Selects (.object secret) request.key request.keyText (request.selection secret) := by
  rw [selection_keyed keyed]
  cases selected : select? (.object secret) request.key with
  | none =>
      refine .lost (readable.lost_iff.mpr fun found leads => ?_)
      rw [readable.select?_eq_some.mpr leads] at selected
      contradiction
  | some leaf =>
      have leads := readable.select?_eq_some.mp selected
      have renders := (readable.leads leads).renders within
      cases leaf with
      | null =>
          refine .lost (readable.lost_iff.mpr fun found leads' => ?_)
          exact Option.some.inj ((readable.select?_eq_some.mpr leads').symm.trans selected)
      | string text => exact .text leads
      | bool | number | array | object => exact .value leads nofun nofun renders

/-- Nothing else is selected by the segments of a key than what a request for it selects. -/
theorem Selects.eq_selection {result : Except Error Bytes}
    (selects : Selects (.object secret) request.key request.keyText result)
    (readable : Readable room (.object secret)) (keyed : request.key ≠ [])
    : request.selection secret = result := by
  rw [selection_keyed keyed]
  cases selects with
  | text leads =>
      rw [readable.select?_eq_some.mpr leads]
      rfl
  | @value leaf bytes leads noText notNull renders =>
      rw [readable.select?_eq_some.mpr leads, renders.written]
      cases leaf with
      | null => exact absurd rfl notNull
      | string text => exact absurd rfl (noText text)
      | bool | number | array | object => rfl
  | lost lost =>
      cases selected : select? (.object secret) request.key with
      | none => rfl
      | some leaf =>
          rw [readable.lost_iff.mp lost leaf (readable.select?_eq_some.mp selected)]
          rfl

end

-----------------------------------------------------------------------------------------
-- What is told
-----------------------------------------------------------------------------------------

section

variable {address : String} {request : SecretRequest}

theorem KeyParameter.unique {key key' : String} (stated : KeyParameter address key)
    (stated' : KeyParameter address key')
    : key = key' := by
  obtain ⟨server, query, cut, states⟩ := stated
  obtain ⟨server', query', cut', states'⟩ := stated'
  obtain ⟨-, rfl⟩ := cut.unique cut'
  exact states.unique states'

theorem Parts.unique {key : String} {segments segments' : List String} (parts : Parts key segments)
    (parts' : Parts key segments')
    : segments = segments' := by
  have cut := keySegments?_eq_some_iff.mpr parts
  have cut' := keySegments?_eq_some_iff.mpr parts'
  exact Option.some.inj (cut.symm.trans cut')

/-- The key of a request is that of the address, or both have none. -/
theorem key_cases (accepted : ofAddress address = .ok request)
    : (request.key = [] ∧ ∀ key, ¬ KeyParameter address key)
      ∨ (KeyParameter address request.keyText ∧ Parts request.keyText request.key) := by
  obtain ⟨server, query, cut, stated⟩ := ofAddress_eq_ok_iff.mp accepted
  rcases stated.key with ⟨none, unstated⟩ | ⟨filled, proper, states⟩
  · refine Or.inl ⟨none, ?_⟩
    rintro key ⟨server', query', cut', states⟩
    obtain ⟨-, rfl⟩ := cut.unique cut'
    exact unstated key states
  · exact Or.inr ⟨⟨server, query, cut, states⟩, filled, proper, rfl⟩

variable {body : Bytes} {answer : Json} {secret : List (String × Json)}

theorem secret?_eq_some_iff {room : Nat} (readable : Readable room answer)
    : secret? answer = some secret ↔ answer.Leads ["data", "data"] (.object secret) := by
  have members (value : Json) : value.members? = some secret ↔ value = .object secret := by
    cases value <;> simp [Json.members?]
  rw [← readable.select?_eq_some]
  simp [secret?, select?, Option.bind_eq_some_iff, members]

/-- What a request makes of an answer, as the result of its load. -/
def reply (request : SecretRequest) (status : Nat) (body : Bytes) : Except Error Bytes :=
  (request.answerBytes status body).mapError Error.ofFault

theorem reply_refused {status : Nat} (notMissing : status ≠ 404) (noSuccess : status ≠ 200)
    : request.reply status body
      = .error (.ofSourceFault (.status request.endpoint status)) := by
  rw [reply, answerBytes, missingStatus, successStatus, if_neg notMissing, if_pos noSuccess]
  rfl

theorem reply_garbled {fault : Json.Fault} (noJson : Json.decode body = .error fault)
    : request.reply 200 body
      = .error (.ofFault (.decode ("secret store response: " ++ fault.message body))) := by
  have text : Json.decodeText body = .error (fault.message body) := by
    rw [Json.decodeText, noJson]
    rfl
  rw [reply, answerBytes, if_neg (by decide), if_neg (by decide), text]
  rfl

theorem reply_json (json : Json.decode body = .ok answer)
    : request.reply 200 body
      = match secret? answer with
        | none => .error (.ofSourceFault .secretNotFound)
        | some secret => request.selection secret := by
  have text : Json.decodeText body = .ok answer := by
    rw [Json.decodeText, json]
    rfl
  rw [reply, answerBytes, if_neg (by decide), if_neg (by decide), text]
  simp only
  cases secret? answer <;> rfl

/-- What a request makes of an answer is what the answer tells. -/
theorem tells_reply (accepted : ofAddress address = .ok request) (status : Nat) (body : Bytes)
    : Tells address request.endpoint status body (request.reply status body) := by
  by_cases notMissing : status = 404
  · subst notMissing
    exact .missing
  · by_cases noSuccess : status = 200
    · subst noSuccess
      cases json : Json.decode body with
      | error fault =>
          rw [reply_garbled json]
          exact .garbled json
      | ok answer =>
          have readable := Json.readable_of_decode json
          rw [reply_json json]
          cases found : secret? answer with
          | none =>
              refine .noSecret json fun secret holds => ?_
              rw [(secret?_eq_some_iff readable).mpr holds] at found
              contradiction
          | some secret =>
              have holds := (secret?_eq_some_iff readable).mp found
              have readable' := readable.leads holds
              rcases key_cases accepted with ⟨none, noKey⟩ | ⟨stated, parts⟩
              · simp only [selection_whole none]
                exact .whole json holds noKey (readable'.renders (Nat.le_refl _))
              · exact .keyed json holds stated parts
                  (selects_selection readable' (Nat.le_refl _) parts.1)
    · rw [reply_refused notMissing noSuccess]
      exact .refused notMissing noSuccess

/-- An answer tells nothing else than what a request makes of it. -/
theorem Tells.eq_reply {status : Nat} {result : Except Error Bytes}
    (tells : Tells address request.endpoint status body result)
    (accepted : ofAddress address = .ok request)
    : request.reply status body = result := by
  cases tells with
  | missing => rfl
  | refused notMissing noSuccess => exact reply_refused notMissing noSuccess
  | garbled noJson => exact reply_garbled noJson
  | noSecret json none =>
      rw [reply_json json]
      cases found : secret? _ with
      | none => rfl
      | some secret =>
          have holds := (secret?_eq_some_iff (Json.readable_of_decode json)).mp found
          exact absurd holds (none secret)
  | whole json holds noKey renders =>
      have found := (secret?_eq_some_iff (Json.readable_of_decode json)).mpr holds
      rw [reply_json json, found]
      rcases key_cases accepted with ⟨none, -⟩ | ⟨stated, -⟩
      · rw [renders.written]
        exact selection_whole none
      · exact absurd stated (noKey _)
  | keyed json holds stated parts selects =>
      have readable := Json.readable_of_decode json
      have found := (secret?_eq_some_iff readable).mpr holds
      rw [reply_json json, found]
      rcases key_cases accepted with ⟨-, noKey⟩ | ⟨stated', parts'⟩
      · exact absurd stated (noKey _)
      · obtain rfl := stated.unique stated'
        obtain rfl := parts.unique parts'
        exact selects.eq_selection (readable.leads holds) parts.1

end

-----------------------------------------------------------------------------------------
-- Loads
-----------------------------------------------------------------------------------------

section

variable {σ : Type} [Host (StateM σ)] {context : Context} {request : SecretRequest} {s : σ}

/-- The exchange for a request, from the state in which a load has been found to go on. -/
def exchange (context : Context) (request : SecretRequest) (s : σ) : Exchange :=
  ((Host.send context.patience { url := request.endpoint, token := some request.token }
      : StateM σ Exchange).run (askToken s).2).1

/-- A load that is not cancelled makes of an answer what its request does. -/
theorem outcome_perform (running : (askToken s).1 = false) {status : Nat} {body : Bytes}
    (answered : request.exchange context s = .answered status body)
    : (outcome (request.perform context) s).1 = request.reply status body := by
  have fetched
      : (outcome
            (fetch context { url := request.endpoint, token := some request.token }
              : Action (StateM σ) (Nat × Bytes))
            s).1
        = .ok (status, body) := by
    rw [fetch, outcome_checked, running, if_neg Bool.false_ne_true, outcome_bind, outcome_lift]
    unfold exchange at answered
    rw [answered]
    rfl
  rw [perform, outcome_bind]
  rcases known : outcome (fetch context _ : Action (StateM σ) (Nat × Bytes)) s with ⟨result, t⟩
  rw [known] at fetched
  obtain rfl : result = .ok (status, body) := fetched
  rw [reply]
  dsimp only
  cases request.answerBytes status body <;> rfl

/-- A load that is not cancelled comes to what the answer tells: a failure for a status, for a text
that is no JSON, for a secret that is not there and for a key that leads to nothing, or else exactly
the value that the key leads to.
-/
theorem perform_tells {address : String} (accepted : ofAddress address = .ok request)
    (running : (askToken s).1 = false) {status : Nat} {body : Bytes}
    (answered : request.exchange context s = .answered status body) (result : Except Error Bytes)
    : (outcome (request.perform context) s).1 = result
      ↔ Tells address request.endpoint status body result := by
  rw [outcome_perform running answered]
  constructor
  · intro same
    exact same ▸ tells_reply accepted status body
  · intro tells
    exact tells.eq_reply accepted

end

/-- The request for the value at a key of two segments. -/
def nestedRequest : SecretRequest where
  server := "http://h"
  token := "t"
  path := "p"
  key := ["a", "b"]

def nestedBody : Bytes :=
  ascii "\x7b\"data\": \x7b\"data\": \x7b\"a\": \x7b\"b\": [1, \"x\\n\"]\x7d\x7d\x7d\x7d"

def nestedWorld : World where
  network := {
    routes := [{ url := "http://h/v1/p", token := some (some "t"), body := nestedBody }]
  }

/-- The value at a key is given without the white space of the answer. -/
theorem perform_tells_nested
    : ofAddress "http://h?token=t&path=p&key=a%2Fb" = .ok nestedRequest
      ∧ nestedRequest.exchange {} nestedWorld = .answered 200 nestedBody
      ∧ Tells "http://h?token=t&path=p&key=a%2Fb" nestedRequest.endpoint 200 nestedBody
          (.ok (ascii "[1,\"x\\n\"]")) := by
  have accepted : ofAddress "http://h?token=t&path=p&key=a%2Fb" = .ok nestedRequest := by
    decide +kernel
  have answered : nestedRequest.exchange {} nestedWorld = .answered 200 nestedBody := by
    decide +kernel
  refine ⟨accepted, answered, (perform_tells accepted rfl answered _).mp ?_⟩
  decide +kernel

end SecretRequest

end TaggedConfig
