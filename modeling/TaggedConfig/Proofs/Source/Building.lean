import TaggedConfig.Proofs.Source.Defects
import TaggedConfig.Proofs.Source.FormEncoding

/-! Secret-store descriptors built from what a request asks for, which parsing finds again.
The parameters may stand in any order, among others and before repetitions of themselves, and
their values may hold every character that parts a descriptor.
-/

namespace TaggedConfig

/-- What a request asks a secret store for: the token and the path are not empty, nor are the
segments of the key, which hold no slashes.
-/
structure SecretParts where
  token : String
  path : String
  key : List String
  token_filled : token ≠ ""
  path_filled : path ≠ ""
  key_proper : ∀ segment ∈ key, segment ≠ "" ∧ '/' ∉ segment.toList

/-- The parameters that state the parts; without segments there is no key. -/
def SecretParts.parameters (parts : SecretParts) : List (String × String) :=
  [("token", parts.token), ("path", parts.path)]
  ++ if parts.key = [] then [] else [("key", "/".intercalate parts.key)]

namespace Query

/-- A parameter as it is written in a query. -/
def written (name value : String) : List Char := encodeText name ++ '=' :: encodeText value

/-- The pieces of a query state the parameters in order. Among them are pieces of other names, and
pieces of a name that has come before.
-/
inductive Arranged : List String → List (String × String) → List (List Char) → Prop where
  | done {seen : List String} : Arranged seen [] []
  | own {seen : List String} {name value : String} {parameters : List (String × String)}
    {pieces : List (List Char)} (later : Arranged (name :: seen) parameters pieces)
    : Arranged seen ((name, value) :: parameters) (written name value :: pieces)
  | foreign {seen : List String} {parameters : List (String × String)} {piece : List Char}
    {pieces : List (List Char)} (clear : '&' ∉ piece ∧ '#' ∉ piece)
    (other : (parameter piece).1 ∉ SecretRequest.parameterNames)
    (later : Arranged seen parameters pieces)
    : Arranged seen parameters (piece :: pieces)
  | repeated {seen : List String} {parameters : List (String × String)} {piece : List Char}
    {pieces : List (List Char)} (clear : '&' ∉ piece ∧ '#' ∉ piece)
    (known : (parameter piece).1 ∈ seen) (later : Arranged seen parameters pieces)
    : Arranged seen parameters (piece :: pieces)

end Query

/-- A secret-store descriptor that is built from parts. -/
structure BuiltDescriptor where
  parts : SecretParts
  secure : Bool
  base : List Char
  /-- The parameters in the order in which they are written. -/
  ordered : List (String × String)
  pieces : List (List Char)
  fragment : List Char
  base_noMark : '?' ∉ base
  ordered_perm : ordered.Perm parts.parameters
  arranged : Query.Arranged [] ordered pieces
  fragment_mark : fragment = [] ∨ fragment.head? = some '#'

namespace BuiltDescriptor

def scheme (built : BuiltDescriptor) : String := if built.secure then "vaults://" else "vault://"

/-- The descriptor as a text. -/
def text (built : BuiltDescriptor) : String :=
  built.scheme
  ++ String.ofList (built.base ++ '?' :: (Text.join '&' built.pieces ++ built.fragment))

/-- The address of the server, slashes at its end included. -/
def server (built : BuiltDescriptor) : String :=
  (if built.secure then "https://" else "http://") ++ String.ofList built.base

end BuiltDescriptor

-----------------------------------------------------------------------------------------
-- What an arrangement states
-----------------------------------------------------------------------------------------

namespace Query

theorem parameter_written (name value : String)
    : parameter (written name value) = (name, value) := by
  rw [written, parameter_append (encodeText_noSeparator name (by decide)), decodeText_encodeText,
    decodeText_encodeText]

theorem writes_written (name value : String) : Writes (written name value) name value :=
  writes_iff.mpr ⟨by simp [written], parameter_written name value⟩

theorem first?_cons (name : String) (parameter : String × String)
    (parameters : List (String × String))
    : first? name (parameter :: parameters)
      = if parameter.1 = name then some parameter.2 else first? name parameters := by
  by_cases same : parameter.1 = name <;> simp [first?, same]

/-- A piece of another name makes no difference where it comes first. -/
theorem first?_parametersOf_cons {name : String} {piece : List Char}
    (other : (parameter piece).1 ≠ name) (pieces : List (List Char))
    : first? name (parametersOf (piece :: pieces)) = first? name (parametersOf pieces) := by
  by_cases empty : piece = []
  · simp [parametersOf, empty]
  · have writes : Writes piece (parameter piece).1 (parameter piece).2 :=
      writes_iff.mpr ⟨empty, rfl⟩
    rw [parametersOf_cons_of_writes writes, first?_cons]
    exact if_neg other

namespace Arranged

variable {seen : List String} {parameters : List (String × String)} {pieces : List (List Char)}

theorem clear (arranged : Arranged seen parameters pieces)
    : ∀ piece ∈ pieces, '&' ∉ piece ∧ '#' ∉ piece := by
  induction arranged with
  | done => simp
  | @own seen name value parameters pieces later ih =>
      rw [List.forall_mem_cons]
      have absent {c : Char} (separator : c ∈ separators) (differ : c ≠ '=')
          : c ∉ written name value := by
        simp [written, differ, encodeText_noSeparator name separator,
          encodeText_noSeparator value separator]
      exact ⟨⟨absent (by decide) (by decide), absent (by decide) (by decide)⟩, ih⟩
  | foreign clear other later ih => exact List.forall_mem_cons.mpr ⟨clear, ih⟩
  | repeated clear known later ih => exact List.forall_mem_cons.mpr ⟨clear, ih⟩

/-- A name that means something and has not come yet first has the value with which it is to be
stated, by induction on the arrangement.
-/
theorem first?_eq (arranged : Arranged seen parameters pieces) {name : String}
    (known : name ∈ SecretRequest.parameterNames) (fresh : name ∉ seen)
    : first? name (parametersOf pieces) = first? name parameters := by
  induction arranged with
  | done => rfl
  | @own seen other value parameters pieces later ih =>
      rw [parametersOf_cons_of_writes (writes_written other value), first?_cons, first?_cons]
      split_ifs with same
      · rfl
      · exact ih (by simp [fresh, Ne.symm same])
  | foreign clear other later ih =>
      rw [first?_parametersOf_cons, ih fresh]
      rintro rfl
      exact other known
  | repeated clear repeats later ih =>
      rw [first?_parametersOf_cons, ih fresh]
      rintro rfl
      exact fresh repeats

end Arranged

/-- Where no name comes twice, the order makes no difference, by induction on how it changes. -/
theorem first?_perm {name : String} {parameters parameters' : List (String × String)}
    (perm : parameters.Perm parameters') (distinct : (parameters.map (·.1)).Nodup)
    : first? name parameters = first? name parameters' := by
  induction perm with
  | nil => rfl
  | cons parameter perm ih =>
      rw [List.map_cons, List.nodup_cons] at distinct
      rw [first?_cons, first?_cons, ih distinct.2]
  | swap first second rest =>
      have differ : second.1 ≠ first.1 := fun same => by simp [same] at distinct
      simp only [first?_cons]
      split_ifs with named named'
      · exact absurd (named.trans named'.symm) differ
      all_goals rfl
  | trans before after ih ih' =>
      rw [ih distinct, ih' ((before.map _).nodup_iff.mp distinct)]

end Query

-----------------------------------------------------------------------------------------
-- What a built descriptor states
-----------------------------------------------------------------------------------------

namespace SecretParts

theorem parameters_distinct (parts : SecretParts) : (parts.parameters.map (·.1)).Nodup := by
  by_cases whole : parts.key = [] <;> simp [parameters, whole]

theorem first?_token (parts : SecretParts)
    : Query.first? "token" parts.parameters = some parts.token := by
  simp [parameters, Query.first?_cons]

theorem first?_path (parts : SecretParts)
    : Query.first? "path" parts.parameters = some parts.path := by
  simp [parameters, Query.first?_cons]

theorem first?_key (parts : SecretParts)
    : Query.first? "key" parts.parameters
      = if parts.key = [] then none else some ("/".intercalate parts.key) := by
  by_cases whole : parts.key = [] <;> simp [parameters, whole, Query.first?]

end SecretParts

namespace BuiltDescriptor

theorem secretAddress?_text (built : BuiltDescriptor)
    : Descriptor.secretAddress? built.text
      = some (built.server
          ++ String.ofList ('?' :: (Text.join '&' built.pieces ++ built.fragment))) := by
  have after (start rest : String) : Descriptor.after? start (start ++ rest) = some rest := by
    simp [Descriptor.after?, Text.dropStart?]
  have other (rest : String) : Descriptor.after? "vault://" ("vaults://" ++ rest) = none := by
    simp [Descriptor.after?, Text.dropStart?, List.isPrefixOf]
  cases secure : built.secure <;>
    simp [Descriptor.secretAddress?, text, scheme, server, secure, after, other,
      String.ofList_append, String.append_assoc]

theorem cutAt (built : BuiltDescriptor)
    : SecretRequest.CutAt
        (built.server ++ String.ofList ('?' :: (Text.join '&' built.pieces ++ built.fragment)))
        built.server.toList (Text.join '&' built.pieces) := by
  refine ⟨built.fragment, by simp, ?_, ?_, built.fragment_mark⟩
  · rw [server, String.toList_append, List.mem_append, not_or, String.toList_ofList]
    exact ⟨by cases built.secure <;> decide, built.base_noMark⟩
  · exact Text.not_mem_join (by decide) fun piece member => (built.arranged.clear piece member).2

/-- Of every name the query states what it has been built to state. -/
theorem first?_pieces (built : BuiltDescriptor) {name : String}
    (known : name ∈ SecretRequest.parameterNames)
    : Query.first? name (Query.parameters (Text.join '&' built.pieces))
      = Query.first? name built.parts.parameters := by
  rw [Query.parameters_join fun piece member => (built.arranged.clear piece member).1,
    built.arranged.first?_eq known List.not_mem_nil]
  refine Query.first?_perm built.ordered_perm ?_
  exact (built.ordered_perm.map _).nodup_iff.mpr built.parts.parameters_distinct

theorem keyStated (built : BuiltDescriptor)
    : SecretRequest.KeyStated (Text.join '&' built.pieces) built.parts.key := by
  have first := built.first?_pieces (show "key" ∈ SecretRequest.parameterNames by decide)
  rw [built.parts.first?_key] at first
  by_cases whole : built.parts.key = []
  · refine Or.inl ⟨whole, fun key states => ?_⟩
    rw [← Query.first?_eq_some_iff, first, if_pos whole] at states
    contradiction
  · refine Or.inr ⟨whole, built.parts.key_proper, Query.first?_eq_some_iff.mp ?_⟩
    rw [first, if_neg whole]

/-- Parsing a built descriptor gives the token, the path and the segments of the key from which it
was built, and the server without the slashes at its end.
-/
theorem parses_to_parts (built : BuiltDescriptor)
    : ∃ address request,
        Descriptor.secretAddress? built.text = some address
        ∧ SecretRequest.ofAddress address = .ok request
        ∧ request.token = built.parts.token
        ∧ request.path = built.parts.path
        ∧ request.key = built.parts.key
        ∧ Text.IsTrimmed '/' built.server.toList request.server.toList := by
  have token := built.first?_pieces (show "token" ∈ SecretRequest.parameterNames by decide)
  have path := built.first?_pieces (show "path" ∈ SecretRequest.parameterNames by decide)
  rw [built.parts.first?_token, Query.first?_eq_some_iff] at token
  rw [built.parts.first?_path, Query.first?_eq_some_iff] at path
  have trimmed := Text.isTrimmed_trimEnd '/' built.server.toList
  refine ⟨_, {
    server := String.ofList (Text.trimEnd '/' built.server.toList)
    token := built.parts.token
    path := built.parts.path
    key := built.parts.key
  }, built.secretAddress?_text, ?_, rfl, rfl, rfl, by simpa using trimmed⟩
  exact built.cutAt.ofAddress_eq_ok_iff.mpr {
    server := by simpa using trimmed
    token := token
    token_filled := built.parts.token_filled
    path := path
    path_filled := built.parts.path_filled
    key := built.keyStated
  }

/-- The key comes first, after another parameter, and each value holds what parts a descriptor.
The token and the key are repeated, the latter with its name encoded.
-/
def tangled : BuiltDescriptor where
  parts := {
    token := "a&b=#"
    path := "/\u00fc?"
    key := ["k%41", "+ l"]
    token_filled := by decide
    path_filled := by decide
    key_proper := by decide
  }
  secure := true
  base := "h:80//".toList
  ordered := [("key", "k%41/+ l"), ("token", "a&b=#"), ("path", "/\u00fc?")]
  pieces := [
    "x=1".toList, Query.written "key" "k%41/+ l", Query.written "token" "a&b=#",
    "token=other".toList, Query.written "path" "/\u00fc?", [], "k%65y=/".toList
  ]
  fragment := "#&path=q".toList
  base_noMark := by decide
  ordered_perm := by decide
  arranged := by
    refine .foreign (by decide) (by decide +kernel) (.own (.own ?_))
    refine .repeated (by decide) (by decide +kernel) (.own (.foreign (by decide) ?_ ?_))
    · decide +kernel
    · exact .repeated (by decide) (by decide +kernel) .done
  fragment_mark := Or.inr rfl

theorem parses_to_parts_tangled
    : tangled.text
        = "vaults://h:80//?x=1&key=k%2541%2F%2B+l&token=a%26b%3D%23&token=other"
          ++ "&path=%2F%C3%BC%3F&&k%65y=/#&path=q"
      ∧ ∃ address request,
          Descriptor.secretAddress? tangled.text = some address
          ∧ SecretRequest.ofAddress address = .ok request
          ∧ request.key = ["k%41", "+ l"] := by
  obtain ⟨address, request, found, accepted, -, -, key, -⟩ := tangled.parses_to_parts
  exact ⟨by decide +kernel, address, request, found, accepted, key⟩

end BuiltDescriptor

end TaggedConfig
