import Mathlib.Tactic.Common
import TaggedConfig.Proofs.Outcome
import TaggedConfig.Proofs.Source.Parameters

/-! Which addresses state a request for a secret, and what is found wrong with the others.
The defects are looked for in one order, whatever the order of the parameters is, and the first
one found is reported.
-/

namespace TaggedConfig.SecretRequest

/-- The address has a query: what stands before the first question mark is the server, and the
query ends before the first number sign after it.
-/
def CutAt (address : String) (server query : List Char) : Prop :=
  ∃ fragment,
    address.toList = server ++ '?' :: (query ++ fragment)
    ∧ '?' ∉ server
    ∧ '#' ∉ query
    ∧ (fragment = [] ∨ fragment.head? = some '#')

/-- Two slashes of the key have nothing between them, or a slash has nothing before or after it,
or there is nothing at all.
-/
def HasEmptySegment (key : String) : Prop :=
  ∃ before after,
    key.toList = before ++ after
    ∧ (before = [] ∨ before.getLast? = some '/')
    ∧ (after = [] ∨ after.head? = some '/')

/-- What can be wrong with an address. A token or path that is stated counts as missing where its
first value is empty.
-/
inductive Defect (address : String) : SourceFault → Prop where
  | noQuery (noMark : '?' ∉ address.toList) : Defect address .secretAddress
  | emptySegment {server query : List Char} {key : String} (cut : CutAt address server query)
    (states : Query.States query "key" key) (hole : HasEmptySegment key)
    : Defect address .secretKey
  | noToken {server query : List Char} (cut : CutAt address server query)
    (missing : ∀ token, Query.States query "token" token → token = "")
    : Defect address .secretToken
  | noPath {server query : List Char} (cut : CutAt address server query)
    (missing : ∀ path, Query.States query "path" path → path = "")
    : Defect address .secretPath

/-- The order in which defects are looked for. -/
def examined : List SourceFault := [.secretAddress, .secretKey, .secretToken, .secretPath]

/-- Of the faults, the first one that is a defect of the address. -/
inductive FirstDefect (address : String) : List SourceFault → SourceFault → Prop where
  | here {fault : SourceFault} {later : List SourceFault} (defect : Defect address fault)
    : FirstDefect address (fault :: later) fault
  | later {other fault : SourceFault} {later : List SourceFault}
    (passed : ¬Defect address other) (first : FirstDefect address later fault)
    : FirstDefect address (other :: later) fault

/-- The segments are those of the first key of a query, or there are none and no key. -/
def KeyStated (query : List Char) (segments : List String) : Prop :=
  (segments = [] ∧ ∀ key, ¬Query.States query "key" key)
  ∨ (segments ≠ []
    ∧ (∀ segment ∈ segments, segment ≠ "" ∧ '/' ∉ segment.toList)
    ∧ Query.States query "key" ("/".intercalate segments))

/-- The request is what a server and a query state. -/
structure StatedBy (request : SecretRequest) (server query : List Char) : Prop where
  server : Text.IsTrimmed '/' server request.server.toList
  token : Query.States query "token" request.token
  token_filled : request.token ≠ ""
  path : Query.States query "path" request.path
  path_filled : request.path ≠ ""
  key : KeyStated query request.key

/-- The second address differs from the first one in nothing that counts: its query has a parameter
more, which means nothing to a secret store or repeats the name of an earlier one, or only the
text from a number sign on is another.
-/
inductive ChangedIdly : String → String → Prop where
  | parameter {address address' : String} {server piece : List Char}
    {before after : List (List Char)} (clean : ∀ part ∈ before ++ piece :: after, '&' ∉ part)
    (cut : CutAt address server (Text.join '&' (before ++ after)))
    (cut' : CutAt address' server (Text.join '&' (before ++ piece :: after)))
    (idle
      : ∀ name value,
          Query.Writes piece name value
          → name ∉ parameterNames ∨ ∃ earlier ∈ before, ∃ other, Query.Writes earlier name other)
    : ChangedIdly address address'
  | fragment {address address' : String} {server query : List Char}
    (cut : CutAt address server query) (cut' : CutAt address' server query)
    : ChangedIdly address address'

-----------------------------------------------------------------------------------------
-- The query of an address
-----------------------------------------------------------------------------------------

theorem CutAt.parameters? {address : String} {server query : List Char}
    (cut : CutAt address server query)
    : parameters? address = some (server, Query.parameters query) := by
  obtain ⟨fragment, whole, noMark, noSign, marked⟩ := cut
  rw [SecretRequest.parameters?, whole, Text.splitFirst?_append noMark, Option.map_some]
  dsimp only
  rw [query_append noSign marked]

/-- An address has a question mark and a query after it, or it has none. -/
theorem exists_cutAt_or (address : String)
    : (∃ server query, CutAt address server query) ∨ '?' ∉ address.toList := by
  rcases Text.mem_split_or_not_mem '?' address.toList with ⟨server, rest, whole, noMark⟩ | noMark
  · obtain ⟨fragment, split, noSign, marked⟩ := query_split rest
    exact Or.inl ⟨server, query rest, fragment, by rw [whole, ← split], noMark, noSign, marked⟩
  · exact Or.inr noMark

theorem ofAddress_noMark {address : String} (noMark : '?' ∉ address.toList)
    : ofAddress address = .error .secretAddress := by
  simp [ofAddress, parameters?, Text.splitFirst?_eq_none noMark]

theorem CutAt.ofAddress_eq {address : String} {server query : List Char}
    (cut : CutAt address server query)
    : ofAddress address = ofParameters server (Query.parameters query) := by
  rw [ofAddress, cut.parameters?]

theorem CutAt.mark_mem {address : String} {server query : List Char}
    (cut : CutAt address server query)
    : '?' ∈ address.toList := by
  obtain ⟨fragment, whole, -⟩ := cut
  simp [whole]

/-- An address is cut at one place. -/
theorem CutAt.unique {address : String} {server server' query query' : List Char}
    (cut : CutAt address server query) (cut' : CutAt address server' query')
    : server' = server ∧ query' = query := by
  obtain ⟨fragment, whole, noMark, noSign, marked⟩ := cut
  obtain ⟨fragment', whole', noMark', noSign', marked'⟩ := cut'
  have same := Text.splitFirst?_append noMark (query ++ fragment)
  rw [← whole, whole', Text.splitFirst?_append noMark'] at same
  obtain ⟨rfl, rest⟩ := Prod.mk.inj (Option.some.inj same)
  refine ⟨rfl, ?_⟩
  rw [← query_append noSign marked, ← rest, query_append noSign' marked']

-----------------------------------------------------------------------------------------
-- Keys and their segments
-----------------------------------------------------------------------------------------

theorem keySegments?_eq_none_iff {key : String}
    : keySegments? key = none ↔ HasEmptySegment key := by
  rw [HasEmptySegment, ← Text.nil_mem_pieces_iff, keySegments?]
  simp

theorem toList_keyText (segments : List String)
    : ("/".intercalate segments).toList = Text.join '/' (segments.map String.toList) := by
  rw [String.toList_intercalate, Text.join]
  rfl

theorem keySegments?_eq_some_iff {key : String} {segments : List String}
    : keySegments? key = some segments
      ↔ segments ≠ []
        ∧ (∀ segment ∈ segments, segment ≠ "" ∧ '/' ∉ segment.toList)
        ∧ "/".intercalate segments = key := by
  constructor
  · intro cut
    simp only [keySegments?] at cut
    split at cut
    · contradiction
    · rename_i filled
      obtain rfl := Option.some.inj cut
      refine ⟨by simpa using Text.pieces_ne_nil '/' key.toList, ?_, ?_⟩
      · intro segment member
        obtain ⟨piece, inside, rfl⟩ := List.mem_map.mp member
        refine ⟨?_, by simpa using Text.not_mem_of_mem_pieces inside⟩
        rintro empty
        have none : piece = [] := by simpa using empty
        exact filled (List.any_eq_true.mpr ⟨piece, inside, by simp [none]⟩)
      · rw [← String.toList_inj, toList_keyText, List.map_map]
        simpa [Function.comp_def] using Text.join_pieces '/' key.toList
  · rintro ⟨some, proper, rfl⟩
    have cut
        : Text.pieces '/' ("/".intercalate segments).toList = segments.map String.toList := by
      rw [toList_keyText]
      refine Text.pieces_join (by simpa using some) fun part member => ?_
      obtain ⟨segment, inside, rfl⟩ := List.mem_map.mp member
      exact (proper segment inside).2
    have filled : (segments.map String.toList).any (·.isEmpty) = false := by
      rw [List.any_eq_false]
      intro part member
      obtain ⟨segment, inside, rfl⟩ := List.mem_map.mp member
      simpa using (proper segment inside).1
    simp only [keySegments?, cut, filled, List.map_map]
    simp [Function.comp_def]

/-- The key of a request, given the parameter that states it. -/
def keyOf : Option String → Except SourceFault (List String)
  | none => pure []
  | some key =>
      match keySegments? key with
      | some segments => pure segments
      | none => throw .secretKey

theorem ofParameters_eq (server : List Char) (parameters : List (String × String))
    : ofParameters server parameters
      = keyOf (Query.first? "key" parameters) >>= fun key =>
          required .secretToken (Query.first? "token" parameters) >>= fun token =>
            required .secretPath (Query.first? "path" parameters) >>= fun path =>
              pure { server := String.ofList (Text.trimEnd '/' server), token, path, key } := by
  unfold ofParameters keyOf
  cases Query.first? "key" parameters with
  | none => rfl
  | some key => cases segmented : keySegments? key <;> simp only [segmented]

theorem keyOf_eq_ok_iff {query : List Char} {segments : List String}
    : keyOf (Query.first? "key" (Query.parameters query)) = .ok segments
      ↔ KeyStated query segments := by
  cases first : Query.first? "key" (Query.parameters query) with
  | none =>
      have unstated (key : String) : ¬Query.States query "key" key := by
        simp [← Query.first?_eq_some_iff, first]
      simp [keyOf, KeyStated, unstated, eq_comm]
  | some key =>
      have stated := Query.first?_eq_some_iff.mp first
      have same {other : String} : Query.States query "key" other ↔ other = key :=
        ⟨fun states => states.unique stated, fun same => same ▸ stated⟩
      simp only [KeyStated, same, forall_eq, and_false, false_or]
      rw [← keySegments?_eq_some_iff, keyOf]
      cases keySegments? key <;> simp

theorem keyOf_eq_error_iff {query : List Char} {fault : SourceFault}
    : keyOf (Query.first? "key" (Query.parameters query)) = .error fault
      ↔ fault = .secretKey ∧ ∃ key, Query.States query "key" key ∧ HasEmptySegment key := by
  simp only [← Query.first?_eq_some_iff, ← keySegments?_eq_none_iff]
  cases Query.first? "key" (Query.parameters query) with
  | none => simp [keyOf]
  | some key => cases segmented : keySegments? key <;> simp [keyOf, segmented, eq_comm]

-----------------------------------------------------------------------------------------
-- Parameters that must have a value
-----------------------------------------------------------------------------------------

theorem required_some (fault : SourceFault) (value : String)
    : required fault (some value) = if value = "" then .error fault else .ok value := by
  simp [required]

theorem required_eq_ok_iff {fault : SourceFault} {query : List Char} {name value : String}
    : required fault (Query.first? name (Query.parameters query)) = .ok value
      ↔ Query.States query name value ∧ value ≠ "" := by
  rw [← Query.first?_eq_some_iff]
  cases Query.first? name (Query.parameters query) with
  | none => simp [required]
  | some other =>
      rw [required_some]
      by_cases empty : other = ""
      · simp +contextual [empty, eq_comm]
      · simp only [empty, if_false, Except.ok.injEq, Option.some.injEq, iff_self_and]
        exact fun same => same ▸ empty

theorem required_eq_error_iff {fault fault' : SourceFault} {query : List Char} {name : String}
    : required fault (Query.first? name (Query.parameters query)) = .error fault'
      ↔ fault' = fault ∧ ∀ value, Query.States query name value → value = "" := by
  simp only [← Query.first?_eq_some_iff]
  cases Query.first? name (Query.parameters query) with
  | none => simp [required, eq_comm]
  | some other =>
      rw [required_some]
      by_cases empty : other = "" <;> simp [empty, eq_comm]

-----------------------------------------------------------------------------------------
-- The first defect
-----------------------------------------------------------------------------------------

/-- Only one fault is the first defect, by induction on where the first one is. -/
theorem FirstDefect.unique {address : String} {faults : List SourceFault}
    {fault fault' : SourceFault}
    (first : FirstDefect address faults fault) (first' : FirstDefect address faults fault')
    : fault' = fault := by
  induction first with
  | here defect =>
      cases first' with
      | here => rfl
      | later passed => exact absurd defect passed
  | later passed first ih =>
      cases first' with
      | here defect => exact absurd defect passed
      | later passed' first' => exact ih first'

theorem FirstDefect.defect {address : String} {faults : List SourceFault} {fault : SourceFault}
    (first : FirstDefect address faults fault)
    : Defect address fault := by
  induction first with
  | here defect => exact defect
  | later _ _ ih => exact ih

section CutAt

variable {address : String} {server query : List Char}

theorem CutAt.noDefect_address (cut : CutAt address server query)
    : ¬Defect address .secretAddress :=
  fun | .noQuery noMark => noMark cut.mark_mem

theorem CutAt.noDefect_key (cut : CutAt address server query) {segments : List String}
    (stated : KeyStated query segments)
    : ¬Defect address .secretKey := by
  rintro (_ | ⟨cut', states, hole⟩)
  obtain ⟨rfl, rfl⟩ := cut.unique cut'
  have refused := keyOf_eq_error_iff.mpr ⟨rfl, _, states, hole⟩
  rw [keyOf_eq_ok_iff.mpr stated] at refused
  contradiction

theorem CutAt.noDefect_token (cut : CutAt address server query) {token : String}
    (states : Query.States query "token" token) (filled : token ≠ "")
    : ¬Defect address .secretToken := by
  rintro (_ | _ | ⟨cut', missing⟩)
  obtain ⟨rfl, rfl⟩ := cut.unique cut'
  exact filled (missing token states)

theorem CutAt.noDefect_path (cut : CutAt address server query) {path : String}
    (states : Query.States query "path" path) (filled : path ≠ "")
    : ¬Defect address .secretPath := by
  rintro (_ | _ | _ | ⟨cut', missing⟩)
  obtain ⟨rfl, rfl⟩ := cut.unique cut'
  exact filled (missing path states)

/-- A request is refused for the first defect of its address. -/
theorem CutAt.firstDefect_of_error (cut : CutAt address server query) {fault : SourceFault}
    (refused : ofAddress address = .error fault)
    : FirstDefect address examined fault := by
  rw [cut.ofAddress_eq, ofParameters_eq] at refused
  refine .later cut.noDefect_address ?_
  rcases Outcome.bind_eq_error.mp refused with refused | ⟨segments, keyed, refused⟩
  · obtain ⟨rfl, key, states, hole⟩ := keyOf_eq_error_iff.mp refused
    exact .here (.emptySegment cut states hole)
  refine .later (cut.noDefect_key (keyOf_eq_ok_iff.mp keyed)) ?_
  rcases Outcome.bind_eq_error.mp refused with refused | ⟨token, given, refused⟩
  · obtain ⟨rfl, missing⟩ := required_eq_error_iff.mp refused
    exact .here (.noToken cut missing)
  obtain ⟨states, filled⟩ := required_eq_ok_iff.mp given
  refine .later (cut.noDefect_token states filled) ?_
  rcases Outcome.bind_eq_error.mp refused with refused | ⟨path, located, refused⟩
  · obtain ⟨rfl, missing⟩ := required_eq_error_iff.mp refused
    exact .here (.noPath cut missing)
  · contradiction

theorem CutAt.ofAddress_eq_ok_iff (cut : CutAt address server query) {request : SecretRequest}
    : ofAddress address = .ok request ↔ request.StatedBy server query := by
  simp only [cut.ofAddress_eq, ofParameters_eq, Outcome.bind_eq_ok, keyOf_eq_ok_iff,
    required_eq_ok_iff, Outcome.pure_eq_ok, Except.ok.injEq]
  constructor
  · rintro ⟨key, keyed, token, ⟨given, tokenFilled⟩, path, ⟨located, pathFilled⟩, rfl⟩
    exact {
      server := by simpa using Text.isTrimmed_trimEnd '/' server
      token := given
      token_filled := tokenFilled
      path := located
      path_filled := pathFilled
      key := keyed
    }
  · intro stated
    refine ⟨_, stated.key, _, ⟨stated.token, stated.token_filled⟩, _,
      ⟨stated.path, stated.path_filled⟩, ?_⟩
    rw [Text.isTrimmed_iff.mp stated.server, String.ofList_toList]

/-- A request has no defect. -/
theorem CutAt.noDefect_of_statedBy (cut : CutAt address server query) {request : SecretRequest}
    (stated : request.StatedBy server query) (fault : SourceFault)
    : ¬Defect address fault := by
  intro defect
  have shown := defect
  cases defect with
  | noQuery => exact cut.noDefect_address shown
  | emptySegment => exact cut.noDefect_key stated.key shown
  | noToken => exact cut.noDefect_token stated.token stated.token_filled shown
  | noPath => exact cut.noDefect_path stated.path stated.path_filled shown

end CutAt

/-- What is accepted is what the server and the query of an address state. -/
theorem ofAddress_eq_ok_iff {address : String} {request : SecretRequest}
    : ofAddress address = .ok request
      ↔ ∃ server query, CutAt address server query ∧ request.StatedBy server query := by
  constructor
  · intro accepted
    rcases exists_cutAt_or address with ⟨server, query, cut⟩ | noMark
    · exact ⟨server, query, cut, cut.ofAddress_eq_ok_iff.mp accepted⟩
    · rw [ofAddress_noMark noMark] at accepted
      contradiction
  · rintro ⟨server, query, cut, stated⟩
    exact cut.ofAddress_eq_ok_iff.mpr stated

/-- An address is refused for its first defect and for nothing else. -/
theorem ofAddress_eq_error_iff {address : String} {fault : SourceFault}
    : ofAddress address = .error fault ↔ FirstDefect address examined fault := by
  have firstDefect {fault : SourceFault} (refused : ofAddress address = .error fault)
      : FirstDefect address examined fault := by
    rcases exists_cutAt_or address with ⟨server, query, cut⟩ | noMark
    · exact cut.firstDefect_of_error refused
    · rw [ofAddress_noMark noMark] at refused
      cases refused
      exact .here (.noQuery noMark)
  refine ⟨firstDefect, fun first => ?_⟩
  cases given : ofAddress address with
  | error other => rw [first.unique (firstDefect given)]
  | ok request =>
      obtain ⟨server, query, cut, stated⟩ := ofAddress_eq_ok_iff.mp given
      exact absurd first.defect (cut.noDefect_of_statedBy stated fault)

-----------------------------------------------------------------------------------------
-- What makes no difference
-----------------------------------------------------------------------------------------

/-- Of a query only the first parameters of three names count. -/
theorem CutAt.ofAddress_congr {address address' : String} {server query query' : List Char}
    (cut : CutAt address server query) (cut' : CutAt address' server query')
    (same
      : ∀ name ∈ parameterNames,
          Query.first? name (Query.parameters query')
          = Query.first? name (Query.parameters query))
    : ofAddress address' = ofAddress address := by
  rw [cut.ofAddress_eq, cut'.ofAddress_eq, ofParameters_eq, ofParameters_eq,
    same "key" (by decide), same "token" (by decide), same "path" (by decide)]

theorem ChangedIdly.ofAddress_eq {address address' : String}
    (changed : ChangedIdly address address')
    : ofAddress address' = ofAddress address := by
  cases changed with
  | @parameter server piece before after clean cut cut' idle =>
      have shorter : ∀ part ∈ before ++ after, '&' ∉ part := by
        intro part member
        refine clean part ?_
        rw [List.mem_append] at member ⊢
        exact member.imp_right (List.mem_cons_of_mem piece)
      refine cut.ofAddress_congr cut' fun name known => ?_
      rw [Query.parameters_join clean, Query.parameters_join shorter]
      refine Query.first?_insert fun value writes => ?_
      exact (idle name value writes).resolve_left (not_not_intro known)
  | fragment cut cut' => exact cut.ofAddress_congr cut' fun _ _ => rfl

/-- Every address without a defect states a request, and an address with defects is refused for
the first of them. Other parameters, later ones of a name and what stands after a number sign
make no difference.
-/
theorem ofAddress_finds_first_defect (address : String)
    : (∀ request,
          ofAddress address = .ok request
          ↔ ∃ server query, CutAt address server query ∧ request.StatedBy server query)
      ∧ ((∃ request, ofAddress address = .ok request) ↔ ∀ fault, ¬Defect address fault)
      ∧ (∀ fault, ofAddress address = .error fault ↔ FirstDefect address examined fault)
      ∧ ∀ address', ChangedIdly address address' → ofAddress address' = ofAddress address := by
  refine ⟨fun _ => ofAddress_eq_ok_iff, ⟨?_, fun clear => ?_⟩, fun _ => ofAddress_eq_error_iff,
    fun _ changed => changed.ofAddress_eq⟩
  · rintro ⟨request, accepted⟩
    obtain ⟨server, query, cut, stated⟩ := ofAddress_eq_ok_iff.mp accepted
    exact cut.noDefect_of_statedBy stated
  · cases given : ofAddress address with
    | ok request => exact ⟨request, rfl⟩
    | error fault => exact absurd (ofAddress_eq_error_iff.mp given).defect (clear fault)

/-- An address whose first token is empty and whose key has an empty segment, and a request that
is stated with repetitions, another name and a number sign.
-/
theorem ofAddress_finds_first_defect_tangled
    : FirstDefect "http://h/?path=p&token=&key=/a&token=t" examined .secretKey
      ∧ ofAddress "http://h//?x=1&path=p&token=a%26b&token=&path=#&key=/"
        = .ok { server := "http://h", token := "a&b", path := "p", key := [] } := by
  obtain ⟨-, -, refused, -⟩ :=
    ofAddress_finds_first_defect "http://h/?path=p&token=&key=/a&token=t"
  exact ⟨(refused _).mp (by decide +kernel), by decide +kernel⟩

end TaggedConfig.SecretRequest
