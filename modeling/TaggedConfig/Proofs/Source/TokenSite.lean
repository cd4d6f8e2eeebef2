import TaggedConfig.Proofs.Text.Split
import TaggedConfig.Source.Descriptor
import TaggedConfig.Source.Secret

/-! Where a secret-store descriptor states its access token.
The request takes the first parameter whose decoded name is `token`, so writing another value
there changes the token of the request and nothing else of it.
-/

namespace TaggedConfig

/-- The request that a descriptor states, if it is a well-formed secret-store descriptor. -/
def SecretRequest.ofDescriptor? (descriptor : String) : Option SecretRequest :=
  (Descriptor.secretAddress? descriptor).bind fun address => (ofAddress address).toOption

/-- A secret-store descriptor cut at the value of its access token: the text before the first
question mark, the parameters before the token, its name as it is written, its value, the
parameters after it, and all from a number sign on.
-/
structure TokenSite where
  base : List Char
  earlier : List (List Char)
  name : List Char
  value : List Char
  later : List (List Char)
  fragment : List Char
  base_noMark : '?' ∉ base
  earlier_pieces
    : ∀ piece ∈ earlier,
        '&' ∉ piece ∧ '#' ∉ piece ∧ (Query.parameter piece).1 ≠ "token"
  name_piece : '=' ∉ name ∧ '&' ∉ name ∧ '#' ∉ name
  name_token : Query.decodeText name = "token"
  value_piece : '&' ∉ value ∧ '#' ∉ value
  later_pieces : ∀ piece ∈ later, '&' ∉ piece ∧ '#' ∉ piece
  fragment_mark : fragment = [] ∨ fragment.head? = some '#'

namespace TokenSite

/-- The query with another value of the token. -/
def query (site : TokenSite) (value : List Char) : List Char :=
  site.earlier.flatMap (· ++ ['&'])
    ++ ((site.name ++ '=' :: value) ++ site.later.flatMap ('&' :: ·))

/-- The descriptor with another value of the token. -/
def text (site : TokenSite) (value : List Char) : String :=
  String.ofList (site.base ++ '?' :: (site.query value ++ site.fragment))

/-- The descriptor up to the value of the token. -/
def lead (site : TokenSite) : String :=
  String.ofList
    (site.base ++ '?' :: (site.earlier.flatMap (· ++ ['&']) ++ (site.name ++ ['='])))

end TokenSite

-----------------------------------------------------------------------------------------
-- The scheme lies before the question mark
-----------------------------------------------------------------------------------------

namespace Descriptor

theorem after?_append {c : Char} {start : String} (absent : c ∉ start.toList)
    (text rest : List Char)
    : after? start (String.ofList (text ++ c :: rest))
      = (after? start (String.ofList text)).map
          fun after => String.ofList (after.toList ++ c :: rest) := by
  simp only [after?, String.toList_ofList, Text.dropStart?_append absent, Option.map_map]
  congr 1
  funext after
  simp

/-- The scheme of a descriptor is replaced and the text from a question mark on is kept. -/
theorem secretAddress?_append (base rest : List Char)
    : secretAddress? (String.ofList (base ++ '?' :: rest))
      = (secretAddress? (String.ofList base)).map
          fun server => String.ofList (server.toList ++ '?' :: rest) := by
  simp only [secretAddress?, after?_append (show '?' ∉ "vault://".toList by decide),
    after?_append (show '?' ∉ "vaults://".toList by decide)]
  cases after? "vault://" (String.ofList base) <;>
    cases after? "vaults://" (String.ofList base) <;>
    simp [String.ofList_append, String.append_assoc]

/-- An address has no character that neither its descriptor nor a scheme has. -/
theorem secretAddress?_notMem {descriptor address : String} {c : Char}
    (h : secretAddress? descriptor = some address) (outside : c ∉ "https://".toList)
    (absent : c ∉ descriptor.toList)
    : c ∉ address.toList := by
  have kept {start : String} {rest : String} (found : after? start descriptor = some rest)
      : c ∉ rest.toList := by
    simp only [after?, Text.dropStart?, Option.map_eq_some_iff] at found
    obtain ⟨chars, found, rfl⟩ := found
    split at found
    · simp only [Option.some.injEq] at found
      subst found
      simpa using fun member => absent (List.mem_of_mem_drop member)
    · contradiction
  have plain : c ∉ "http://".toList := fun member =>
    outside ((show "http://".toList ⊆ "https://".toList by decide) member)
  unfold secretAddress? at h
  split at h
  · rename_i rest found
    obtain rfl := Option.some.inj h
    rw [String.toList_append, List.mem_append, not_or]
    exact ⟨plain, kept found⟩
  · obtain ⟨rest, found, rfl⟩ := Option.map_eq_some_iff.mp h
    rw [String.toList_append, List.mem_append, not_or]
    exact ⟨outside, kept found⟩

/-- An address has a question mark only if its descriptor does. -/
theorem secretAddress?_noMark {descriptor address : String}
    (h : secretAddress? descriptor = some address) (noMark : '?' ∉ descriptor.toList)
    : '?' ∉ address.toList :=
  secretAddress?_notMem h (by decide) noMark

end Descriptor

-----------------------------------------------------------------------------------------
-- The parameters of a query with the token singled out
-----------------------------------------------------------------------------------------

namespace Query

/-- The parameters that the pieces of a query are; an empty piece is none. -/
def parametersOf (pieces : List (List Char)) : List (String × String) :=
  (pieces.filter (! ·.isEmpty)).map parameter

theorem decodeText_nil : decodeText [] = "" := by
  simp [decodeText, Utf8.encode, unescape, Utf8.repair, Utf8.characters]

theorem parameter_append {name : List Char} (absent : '=' ∉ name) (value : List Char)
    : parameter (name ++ '=' :: value) = (decodeText name, decodeText value) := by
  rw [parameter, Text.splitFirst?_append absent]

/-- The first parameter of a name counts, whatever comes after it. -/
theorem first?_append_self {name : String} {before : List (String × String)}
    (absent : ∀ parameter ∈ before, parameter.1 ≠ name) (value : String)
    (after : List (String × String))
    : first? name (before ++ (name, value) :: after) = some value := by
  have none : before.find? (·.1 = name) = none := by simpa using absent
  simp [first?, List.find?_append, none]

theorem first?_append_other {name other : String} (differ : other ≠ name)
    (before : List (String × String)) (value : String) (after : List (String × String))
    : first? name (before ++ (other, value) :: after) = first? name (before ++ after) := by
  simp [first?, List.find?_append, differ]

/-- A parameter that counts is the first piece of the query whose decoded name is its own;
an empty piece has no name.
-/
theorem find?_pieces_of_first? {name value : String} {query : List Char} (named : name ≠ "")
    (h : first? name (parameters query) = some value)
    : ∃ before piece after,
        Text.pieces '&' query = before ++ piece :: after
        ∧ (∀ other ∈ before, (parameter other).1 ≠ name)
        ∧ parameter piece = (name, value) := by
  have emptyName : (parameter []).1 = "" := decodeText_nil
  simp only [first?, parameters, List.find?_map, List.find?_filter, Option.map_map] at h
  obtain ⟨piece, found, valued⟩ := Option.map_eq_some_iff.mp h
  obtain ⟨matching, before, after, split, earlier⟩ := List.find?_eq_some_iff_append.mp found
  refine ⟨before, piece, after, split, ?_, ?_⟩
  · intro other member same
    have unmatched := earlier other member
    have filled : other ≠ [] := by
      rintro rfl
      exact named (same.symm.trans emptyName)
    simp [same, filled] at unmatched
  · simp only [Function.comp_apply, decide_eq_true_eq] at matching valued
    exact Prod.ext matching.2 valued

end Query

namespace SecretRequest

/-- The query ends at the number sign with which the rest begins. -/
theorem query_append {text fragment : List Char} (absent : '#' ∉ text)
    (mark : fragment = [] ∨ fragment.head? = some '#')
    : query (text ++ fragment) = text := by
  rcases mark with rfl | mark
  · rw [List.append_nil, query, Text.splitFirst?_eq_none absent]
  · obtain ⟨rest, rfl⟩ := List.head?_eq_some_iff.mp mark
    rw [query, Text.splitFirst?_append absent]

/-- What follows the question mark is the query and perhaps a number sign with its text. -/
theorem query_split (afterMark : List Char)
    : ∃ fragment,
        afterMark = query afterMark ++ fragment
        ∧ '#' ∉ query afterMark
        ∧ (fragment = [] ∨ fragment.head? = some '#') := by
  rcases Text.mem_split_or_not_mem '#' afterMark with ⟨text, rest, rfl, absent⟩ | absent
  · rw [query_append absent (Or.inr rfl)]
    exact ⟨_, rfl, absent, Or.inr rfl⟩
  · rw [query, Text.splitFirst?_eq_none absent]
    exact ⟨[], by simp, absent, Or.inl rfl⟩

/-- The request of a descriptor is that of its parameters at the server of its base. -/
theorem ofDescriptor?_append {base : List Char} (noMark : '?' ∉ base) (rest : List Char)
    : ofDescriptor? (String.ofList (base ++ '?' :: rest))
      = (Descriptor.secretAddress? (String.ofList base)).bind fun server =>
          (ofParameters server.toList (Query.parameters (query rest))).toOption := by
  rw [ofDescriptor?, Descriptor.secretAddress?_append]
  cases found : Descriptor.secretAddress? (String.ofList base) with
  | none => rfl
  | some server =>
      have absent := Descriptor.secretAddress?_noMark found (by simpa using noMark)
      simp [ofAddress, parameters?, Text.splitFirst?_append absent]

/-- A descriptor without a question mark states no request. -/
theorem ofDescriptor?_noMark {descriptor : String} (noMark : '?' ∉ descriptor.toList)
    : ofDescriptor? descriptor = none := by
  rw [ofDescriptor?]
  cases found : Descriptor.secretAddress? descriptor with
  | none => rfl
  | some address =>
      have absent := Descriptor.secretAddress?_noMark found noMark
      simp [ofAddress, parameters?, Text.splitFirst?_eq_none absent, Except.toOption, throw,
        throwThe, MonadExceptOf.throw]

/-- A required parameter counts if it is there and not empty. -/
theorem toOption_required (fault : SourceFault) (value : Option String)
    : (required fault value).toOption = value.filter (! ·.isEmpty) := by
  cases value with
  | none => rfl
  | some value =>
      cases empty : value.isEmpty <;> simp only [required, Option.filter, empty] <;> rfl

/-- The request in terms of its parts, each of which is there or not. -/
theorem toOption_ofParameters (server : List Char) (parameters : List (String × String))
    : (ofParameters server parameters).toOption
      = ((Query.first? "key" parameters).elim (some []) keySegments?).bind fun key =>
          ((Query.first? "token" parameters).filter (! ·.isEmpty)).bind fun token =>
            ((Query.first? "path" parameters).filter (! ·.isEmpty)).map fun path =>
              { server := String.ofList (Text.trimEnd '/' server), token, path, key } := by
  simp only [← toOption_required .secretToken (Query.first? "token" parameters),
    ← toOption_required .secretPath (Query.first? "path" parameters)]
  unfold ofParameters
  generalize required .secretToken (Query.first? "token" parameters) = token
  generalize required .secretPath (Query.first? "path" parameters) = path
  cases Query.first? "key" parameters with
  | none => cases token <;> cases path <;> rfl
  | some key =>
      cases segmented : keySegments? key <;> cases token <;> cases path <;>
        simp only [segmented, Option.elim_some] <;> rfl

/-- With the token singled out, its value decides whether there is a request: the key and the
path are found among the other parameters.
-/
theorem ofParameters_token {server : List Char} {before after : List (String × String)}
    (first : ∀ parameter ∈ before, parameter.1 ≠ "token") {value : String}
    {request : SecretRequest}
    (accepted
      : (ofParameters server (before ++ ("token", value) :: after)).toOption = some request)
    (other : String)
    : (ofParameters server (before ++ ("token", other) :: after)).toOption
      = if other.isEmpty then none else some { request with token := other } := by
  simp only [toOption_ofParameters, Query.first?_append_self first,
    Query.first?_append_other (show "token" ≠ "key" by decide),
    Query.first?_append_other (show "token" ≠ "path" by decide), Option.bind_eq_some_iff,
    Option.map_eq_some_iff] at accepted ⊢
  obtain ⟨key, keyed, -, -, path, located, rfl⟩ := accepted
  simp only [keyed, located, Option.filter_some, Option.bind_some]
  cases other.isEmpty <;> rfl

end SecretRequest

-----------------------------------------------------------------------------------------
-- Writing another value at the site of the token
-----------------------------------------------------------------------------------------

namespace TokenSite

/-- Only the piece of the token changes with its value. -/
theorem pieces_query (site : TokenSite) {value : List Char} (one : '&' ∉ value)
    : Text.pieces '&' (site.query value)
      = site.earlier ++ (site.name ++ '=' :: value) :: site.later := by
  have named : '&' ∉ site.name ++ '=' :: value := by simp [site.name_piece.2.1, one]
  rw [query, Text.pieces_flatMap_append fun piece member => (site.earlier_pieces piece member).1,
    Text.pieces_append_flatMap named fun piece member => (site.later_pieces piece member).1]

/-- The token is the first parameter of its name, and only its value changes. -/
theorem parameters_query (site : TokenSite) {value : List Char} (one : '&' ∉ value)
    : Query.parameters (site.query value)
      = Query.parametersOf site.earlier
        ++ ("token", Query.decodeText value) :: Query.parametersOf site.later := by
  have named := Query.parameter_append site.name_piece.1 value
  rw [site.name_token] at named
  rw [Query.parameters, pieces_query site one]
  simp [Query.parametersOf, named]

theorem query_noSign (site : TokenSite) {value : List Char} (noSign : '#' ∉ value)
    : '#' ∉ site.query value := by
  simp only [query, List.mem_append, List.mem_flatMap, List.mem_cons, List.not_mem_nil,
    or_false, not_or, not_exists, not_and, false_or, Char.reduceEq]
  exact ⟨fun piece member => (site.earlier_pieces piece member).2.1,
    ⟨site.name_piece.2.2, noSign⟩,
    fun piece member => (site.later_pieces piece member).2⟩

/-- The request of a site is that of its parameters at the server of its base. -/
theorem ofDescriptor?_text_eq (site : TokenSite) {value : List Char} (one : '&' ∉ value)
    (noSign : '#' ∉ value)
    : SecretRequest.ofDescriptor? (site.text value)
      = (Descriptor.secretAddress? (String.ofList site.base)).bind fun server =>
          (SecretRequest.ofParameters server.toList
            (Query.parametersOf site.earlier
              ++ ("token", Query.decodeText value)
                :: Query.parametersOf site.later)).toOption := by
  rw [text, SecretRequest.ofDescriptor?_append site.base_noMark,
    SecretRequest.query_append (site.query_noSign noSign) site.fragment_mark,
    site.parameters_query one]

theorem secretAddress?_isSome (site : TokenSite) {request : SecretRequest}
    (accepted : SecretRequest.ofDescriptor? (site.text site.value) = some request)
    : (Descriptor.secretAddress? (String.ofList site.base)).isSome := by
  rw [site.ofDescriptor?_text_eq site.value_piece.1 site.value_piece.2] at accepted
  obtain ⟨server, found, -⟩ := Option.bind_eq_some_iff.mp accepted
  simp [found]

/-- Whatever value is written at the site of a request's token is the token of the request
that is stated then, unless it is empty.
-/
theorem ofDescriptor?_text (site : TokenSite) {request : SecretRequest}
    (accepted : SecretRequest.ofDescriptor? (site.text site.value) = some request)
    {value : List Char} (one : '&' ∉ value) (noSign : '#' ∉ value)
    : SecretRequest.ofDescriptor? (site.text value)
      = if (Query.decodeText value).isEmpty then none
        else some { request with token := Query.decodeText value } := by
  have earlier : ∀ parameter ∈ Query.parametersOf site.earlier, parameter.1 ≠ "token" := by
    intro parameter member
    simp only [Query.parametersOf, List.mem_map, List.mem_filter] at member
    obtain ⟨piece, ⟨member, -⟩, rfl⟩ := member
    exact (site.earlier_pieces piece member).2.2
  rw [site.ofDescriptor?_text_eq site.value_piece.1 site.value_piece.2] at accepted
  obtain ⟨server, found, accepted⟩ := Option.bind_eq_some_iff.mp accepted
  rw [site.ofDescriptor?_text_eq one noSign, found, Option.bind_some]
  exact SecretRequest.ofParameters_token earlier accepted _

/-- Every descriptor that states a request has the site of its token. -/
theorem exists_of_ofDescriptor? {descriptor : String} {request : SecretRequest}
    (accepted : SecretRequest.ofDescriptor? descriptor = some request)
    : ∃ site : TokenSite, site.text site.value = descriptor := by
  rcases Text.mem_split_or_not_mem '?' descriptor.toList with
    ⟨base, rest, whole, noMark⟩ | noMark
  · obtain ⟨fragment, split, noSign, mark⟩ := SecretRequest.query_split rest
    have text : descriptor = String.ofList (base ++ '?' :: rest) := by
      rw [← whole, String.ofList_toList]
    rw [text, SecretRequest.ofDescriptor?_append noMark] at accepted
    obtain ⟨server, -, accepted⟩ := Option.bind_eq_some_iff.mp accepted
    rw [SecretRequest.toOption_ofParameters] at accepted
    simp only [Option.bind_eq_some_iff, Option.filter_eq_some_iff] at accepted
    obtain ⟨-, -, token, ⟨first, filled⟩, -⟩ := accepted
    obtain ⟨before, piece, after, pieces, earlier, named⟩ :=
      Query.find?_pieces_of_first? (by decide) first
    have clear (other : List Char) (member : other ∈ before ++ piece :: after)
        : '&' ∉ other ∧ '#' ∉ other := by
      rw [← pieces] at member
      exact ⟨Text.not_mem_of_mem_pieces member,
        fun inside => noSign (Text.mem_of_mem_pieces member inside)⟩
    -- A piece without an equals sign has no value, which a token must have.
    rcases Text.mem_split_or_not_mem '=' piece with ⟨name, value, rfl, noEquals⟩ | noEquals
    · rw [Query.parameter_append noEquals] at named
      obtain ⟨noAmpersand, noNumber⟩ := clear (name ++ '=' :: value) (by simp)
      simp only [List.mem_append, List.mem_cons, Char.reduceEq, false_or, not_or]
        at noAmpersand noNumber
      refine ⟨{
        base, earlier := before, name, value, later := after, fragment
        base_noMark := noMark
        earlier_pieces := fun other member =>
          have clear := clear other (List.mem_append_left _ member)
          ⟨clear.1, clear.2, earlier other member⟩
        name_piece := ⟨noEquals, noAmpersand.1, noNumber.1⟩
        name_token := (Prod.ext_iff.mp named).1
        value_piece := ⟨noAmpersand.2, noNumber.2⟩
        later_pieces := fun other member => clear other (by simp [member])
        fragment_mark := mark
      }, ?_⟩
      rw [text, TokenSite.text, TokenSite.query, ← Text.eq_of_pieces pieces, ← split]
    · rw [Query.parameter, Text.splitFirst?_eq_none noEquals, Prod.mk.injEq] at named
      simp [← named.2] at filled
  · rw [SecretRequest.ofDescriptor?_noMark noMark] at accepted
    contradiction

end TokenSite

end TaggedConfig
