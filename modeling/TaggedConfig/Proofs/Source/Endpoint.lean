import Mathlib.Data.List.Infix
import Mathlib.Data.List.TakeWhile
import TaggedConfig.Proofs.Source.Sending
import TaggedConfig.Proofs.Source.TokenSite
import TaggedConfig.Source.Builtin

/-! The URL at which a secret is read.
The decoded path of a secret becomes part of a URL as it is. So a number sign in it ends the URL
that is sent, and a question mark ends the path on the server.
-/

namespace TaggedConfig

open Run

-----------------------------------------------------------------------------------------
-- The final URL of a request
-----------------------------------------------------------------------------------------

namespace Network

/-- Whether a character ends the host of an address. -/
def endsHost (c : Char) : Bool := c = '/' || c = '?'

/-- A host without the default port. -/
def withoutPort (host : List Char) : List Char :=
  if ":80".toList.isSuffixOf host then host.take (host.length - 3) else host

/-- What the URLs of the requests to a server begin with: its address without the port 80. -/
def origin (server : List Char) : List Char :=
  match scheme? server with
  | some (scheme, address) =>
      scheme.toList ++ (withoutPort (cut endsHost address).1 ++ (cut endsHost address).2)
  | none => server

/-- A web address begins with one of two schemes. -/
theorem scheme?_eq_some {address rest : List Char} {scheme : String}
    : scheme? address = some (scheme, rest)
      ↔ (scheme = "http://" ∨ scheme = "https://") ∧ address = scheme.toList ++ rest := by
  constructor
  · intro known
    unfold scheme? at known
    split_ifs at known with plain encrypted <;> cases known
    · obtain ⟨rest, rfl⟩ := List.isPrefixOf_iff_prefix.mp plain
      exact ⟨.inl rfl, rfl⟩
    · obtain ⟨rest, rfl⟩ := List.isPrefixOf_iff_prefix.mp encrypted
      exact ⟨.inr rfl, rfl⟩
  · rintro ⟨rfl | rfl, rfl⟩ <;> rfl

theorem origin_append {scheme : String} (web : scheme = "http://" ∨ scheme = "https://")
    (address : List Char)
    : origin (scheme.toList ++ address)
      = scheme.toList
        ++ (withoutPort (cut endsHost address).1 ++ (cut endsHost address).2) := by
  rw [origin, scheme?_eq_some.mpr ⟨web, rfl⟩]

theorem origin_subset (server : List Char) : origin server ⊆ server := by
  intro c member
  have host {address : List Char} (member : c ∈ withoutPort address) : c ∈ address := by
    unfold withoutPort at member
    split at member
    · exact List.mem_of_mem_take member
    · exact member
  cases known : scheme? server with
  | none => rwa [origin, known] at member
  | some found =>
      obtain ⟨web, rfl⟩ := scheme?_eq_some.mp known
      rw [origin_append web, List.mem_append, List.mem_append] at member
      rcases member with scheme | named | path
      · exact List.mem_append_left _ scheme
      · exact List.mem_append_right _ ((List.takeWhile_prefix _).subset (host named))
      · exact List.mem_append_right _ ((List.dropWhile_suffix _).subset path)

/-- The final URL of a request, in terms of the scheme, the host and the path that it names. -/
theorem target?_eq_some {url sent : String} (h : target? url = some sent)
    : ∃ scheme rest,
        scheme? (cut (· = '#') url.toList).1 = some (scheme, rest)
        ∧ sent.toList
          = scheme.toList
            ++ (withoutPort (cut endsHost rest).1
              ++ if (cut endsHost rest).2.head? = some '/' then (cut endsHost rest).2
                  else '/' :: (cut endsHost rest).2) := by
  unfold target? at h
  simp only [Option.bind_eq_bind] at h
  split at h
  · contradiction
  · obtain ⟨⟨scheme, rest⟩, named, h⟩ := Option.bind_eq_some_iff.mp h
    obtain ⟨-, sentAs⟩ := Option.ite_none_left_eq_some.mp h
    refine ⟨scheme, rest, named, ?_⟩
    rw [← Option.some.inj sentAs, String.toList_append]
    exact congrArg (scheme.toList ++ ·) String.toList_ofList

theorem cut_append_cons {stops : Char → Bool} {c : Char} (stop : stops c = true)
    (text rest : List Char)
    : cut stops (text ++ c :: rest) = ((cut stops text).1, (cut stops text).2 ++ c :: rest) := by
  induction text with
  | nil => simp [cut, stop]
  | cons d text ih =>
      simp only [cut, Prod.mk.injEq] at ih
      cases stopped : stops d <;> simp [cut, stopped, ih]

theorem cut_append_of_notMem {c : Char} {text : List Char} (absent : c ∉ text) (rest : List Char)
    : (cut (· = c) (text ++ rest)).1 = text ++ rest.takeWhile (· ≠ c) := by
  have passed : ∀ d ∈ text, (! decide (d = c)) = true := by
    intro d member
    simp only [Bool.not_eq_true', decide_eq_false_iff_not]
    rintro rfl
    exact absent member
  simp [cut, List.takeWhile_append_of_pos passed]

/-- A server named without a slash at its end is a web address if a path of it is one. -/
theorem prefix_of_prefix_append {scheme : String}
    (web : scheme = "http://" ∨ scheme = "https://") {server rest : List Char}
    (noSlash : server.getLast? ≠ some '/')
    (leads : scheme.toList <+: server ++ "/v1/".toList ++ rest)
    : scheme.toList <+: server := by
  rcases List.prefix_or_prefix_of_prefix leads
    ((List.prefix_append server _).trans (List.prefix_append _ _)) with kept | short
  · exact kept
  · -- the server would end within the scheme, but neither scheme goes on with `/v1/` anywhere
    have inits := (List.mem_inits server _).mpr short
    rcases web with rfl | rfl <;>
      simp only [show "http://".toList = ['h', 't', 't', 'p', ':', '/', '/'] from rfl,
        show "https://".toList = ['h', 't', 't', 'p', 's', ':', '/', '/'] from rfl, List.inits,
        List.map, List.mem_cons, List.not_mem_nil, or_false] at inits <;>
      rcases inits with rfl | rfl | rfl | rfl | rfl | rfl | rfl | rfl | rfl <;>
      simp at noSlash leads

/-- A request to a path of a server is sent to the path up to a number sign. -/
theorem target?_path {server path : List Char} {sent : String} (noMark : '?' ∉ server)
    (noSign : '#' ∉ server) (noSlash : server.getLast? ≠ some '/')
    (reached : target? (String.ofList (server ++ "/v1/".toList ++ path)) = some sent)
    : sent.toList = origin server ++ "/v1/".toList ++ path.takeWhile (· ≠ '#') := by
  obtain ⟨scheme, rest, named, sentAs⟩ := target?_eq_some reached
  obtain ⟨web, whole⟩ := scheme?_eq_some.mp named
  rw [String.toList_ofList, cut_append_of_notMem (by simpa using noSign)] at whole
  obtain ⟨address, rfl⟩ := prefix_of_prefix_append web noSlash ⟨rest, whole.symm⟩
  rw [List.append_assoc, List.append_assoc] at whole
  obtain rfl := List.append_cancel_left whole
  have version : "/v1/".toList = '/' :: "v1/".toList := by decide
  have headed
      : ((cut endsHost address).2 ++ '/' :: ("v1/".toList ++ path.takeWhile (· ≠ '#'))).head?
        = some '/' := by
    cases after : (cut endsHost address).2 with
    | nil => rfl
    | cons c later =>
        have stop : endsHost c = true := by
          have stopped := List.head?_dropWhile_not (! endsHost ·) address
          rw [show address.dropWhile (! endsHost ·) = c :: later from after] at stopped
          simpa using stopped
        have member : c ∈ address :=
          (List.dropWhile_suffix _).subset (after ▸ List.mem_cons_self)
        have other : c ≠ '?' := by
          rintro rfl
          exact noMark (List.mem_append_right _ member)
        simpa [endsHost, other] using stop
  rw [version, List.cons_append, cut_append_cons (show endsHost '/' = true from rfl), if_pos headed]
    at sentAs
  rw [sentAs, version, origin_append web]
  simp only [List.append_assoc, List.cons_append]

/-- What reaches the network is the request itself but for its URL. -/
theorem send_eq_some {network : Network} {request sent : Request}
    (reached : (network.send request).2 = some sent)
    : ∃ url, target? request.url = some url ∧ sent = { request with url } := by
  unfold send at reached
  split at reached
  · rename_i url found _
    split at reached
    · exact ⟨url, found, (Option.some.inj reached).symm⟩
    · contradiction
  · split at reached <;> contradiction

end Network

-----------------------------------------------------------------------------------------
-- The load of a secret
-----------------------------------------------------------------------------------------

namespace Descriptor

theorem head?_of_after? {start descriptor rest : String}
    (found : after? start descriptor = some rest) {c : Char}
    (begins : start.toList.head? = some c)
    : descriptor.toList.head? = some c := by
  simp only [after?, Text.dropStart?, Option.map_eq_some_iff] at found
  obtain ⟨chars, found, -⟩ := found
  split at found
  · rename_i leads
    obtain ⟨tail, whole⟩ := List.isPrefixOf_iff_prefix.mp leads
    rw [← whole, List.head?_append, begins]
    rfl
  · contradiction

theorem isWeb_of_secretAddress? {descriptor address : String}
    (found : secretAddress? descriptor = some address)
    : isWeb descriptor = false := by
  have begins : descriptor.toList.head? = some 'v' := by
    unfold secretAddress? at found
    split at found
    · rename_i known
      exact head?_of_after? known (by decide)
    · obtain ⟨rest, known, -⟩ := Option.map_eq_some_iff.mp found
      exact head?_of_after? known (by decide)
  have other {start : String} (web : start.toList.head? = some 'h')
      : after? start descriptor = none := by
    cases known : after? start descriptor with
    | none => rfl
    | some rest =>
        rw [head?_of_after? known web] at begins
        contradiction
  rw [isWeb, other (by decide), other (by decide)]
  rfl

end Descriptor

namespace SecretRequest

variable {world : World} {request : SecretRequest}

/-- Log records leave a world as it is but for its log, by induction on what they are about. -/
theorem outcome_logs (level : Level) (text : String → String) (names : List String) (world : World)
    : ∃ log,
        outcome
            (ForIn.forIn names PUnit.unit fun name _ => do
              Action.log level (text name)
              pure (ForInStep.yield PUnit.unit)
              : Action (StateM World) PUnit)
            world
          = (.ok PUnit.unit, { world with log }) := by
  induction names generalizing world with
  | nil => exact ⟨world.log, rfl⟩
  | cons name names ih =>
      obtain ⟨log, logged⟩ := ih { world with log := world.log ++ [(level, text name)] }
      refine ⟨log, ?_⟩
      rw [List.forIn_cons]
      exact logged

theorem requests_load {address : String} (parsed : ofAddress address = .ok request)
    (running : world.cancelled = false) (context : Context)
    : (outcome (load context address) world).2.requests
      = world.requests
        ++ (world.network.send
            { url := request.endpoint, token := some request.token }).2.toList := by
  obtain ⟨log, logged⟩ := outcome_logs .warning
    (fun name => s!"Ignoring repeated '{name}' parameter in secret-store URL")
    (repeatedParameters address) world
  have going : { world with log }.cancelled = false := running
  rw [load, outcome_bind, logged, parsed]
  refine holds_bind (P := fun after : World => after.requests = _)
    (World.requests_fetch going context _) fun (status, body) => ?_
  dsimp only
  cases request.answerBytes status body with
  | ok bytes => exact .pure bytes
  | error fault => exact .throw _

end SecretRequest

theorem Chain.requests_load_builtin {descriptor address : String} {request : SecretRequest}
    (found : Descriptor.secretAddress? descriptor = some address)
    (parsed : SecretRequest.ofAddress address = .ok request) {world : World}
    (running : world.cancelled = false) (context : Context)
    : (outcome (Chain.builtin.load context descriptor) world).2.requests
      = world.requests
        ++ (world.network.send
            { url := request.endpoint, token := some request.token }).2.toList := by
  have asked : askToken world = (false, world) := Prod.ext running rfl
  have passed
      : outcome (SourceLoader.web.load context descriptor) world = (.ok .wrongFormat, world) := by
    simp only [SourceLoader.web, Descriptor.isWeb_of_secretAddress? found]
    rfl
  have loads
      : SourceLoader.secretStore.load context descriptor
        = Probe.loaded <$> SecretRequest.load (m := StateM World) context address := by
    simp only [SourceLoader.secretStore, found]
  rw [← SecretRequest.requests_load parsed running context, load, outcome_checked, asked, builtin]
  simp only [Bool.false_eq_true, if_false]
  rw [offer, outcome_bind, outcome_adapt, passed]
  change (outcome (offer context descriptor _) world).2.requests = _
  rw [offer, outcome_bind, outcome_adapt, loads, outcome_map]
  rcases outcome (SecretRequest.load context address) world with ⟨error | bytes, after⟩ <;> rfl

-----------------------------------------------------------------------------------------
-- What a stated request asks for
-----------------------------------------------------------------------------------------

namespace SecretRequest

/-- A descriptor from the text before its first question mark and the text after it. -/
def descriptor (base rest : List Char) : String := String.ofList (base ++ '?' :: rest)

/-- The descriptor states the request, and its server is named without a number sign. -/
structure Stated (base rest : List Char) (request : SecretRequest) : Prop where
  noMark : '?' ∉ base
  noSign : '#' ∉ base
  accepted : ofDescriptor? (descriptor base rest) = some request

/-- The path of a secret on its server. -/
def location (request : SecretRequest) : List Char := request.path.toList.dropWhile (· = '/')

theorem mem_location {request : SecretRequest} {c : Char} (other : c ≠ '/')
    : c ∈ request.location ↔ c ∈ request.path.toList := by
  refine ⟨fun member => (List.dropWhile_suffix _).subset member, fun member => ?_⟩
  have split
      : request.path.toList.takeWhile (· = '/') ++ request.location = request.path.toList :=
    List.takeWhile_append_dropWhile
  rw [← split, List.mem_append] at member
  refine member.resolve_left fun slashes => other ?_
  simpa using List.mem_takeWhile_imp slashes

/-- What is before the path in the URL of a secret. -/
def root (request : SecretRequest) : List Char :=
  Network.origin request.server.toList ++ "/v1/".toList

/-- In a world the load of a descriptor sends this request and no other. -/
def Asks (context : Context) (world : World) (descriptor : String) (sent : Request) : Prop :=
  (outcome (Chain.builtin.load context descriptor) world).2.requests = world.requests ++ [sent]

/-- The load of a descriptor reaches the network. -/
def Reaches (context : Context) (world : World) (descriptor : String) : Prop :=
  (outcome (Chain.builtin.load context descriptor) world).2.requests ≠ world.requests

variable {base rest : List Char} {request : SecretRequest}

/-- The server, the token and the path of a request are those of its descriptor. -/
theorem Stated.parts (stated : Stated base rest request)
    : (∃ address,
        Descriptor.secretAddress? (String.ofList base) = some address
        ∧ request.server = String.ofList (Text.trimEnd '/' address.toList))
      ∧ Query.first? "token" (Query.parameters (query rest)) = some request.token
      ∧ Query.first? "path" (Query.parameters (query rest)) = some request.path := by
  have accepted := stated.accepted
  rw [descriptor, ofDescriptor?_append stated.noMark] at accepted
  obtain ⟨address, found, accepted⟩ := Option.bind_eq_some_iff.mp accepted
  rw [toOption_ofParameters] at accepted
  simp only [Option.bind_eq_some_iff, Option.map_eq_some_iff, Option.filter_eq_some_iff]
    at accepted
  obtain ⟨key, -, token, ⟨tokenFirst, -⟩, path, ⟨pathFirst, -⟩, rfl⟩ := accepted
  exact ⟨⟨address, found, rfl⟩, tokenFirst, pathFirst⟩

theorem Stated.server (stated : Stated base rest request)
    : '?' ∉ request.server.toList
      ∧ '#' ∉ request.server.toList
      ∧ request.server.toList.getLast? ≠ some '/' := by
  obtain ⟨⟨address, found, server⟩, -⟩ := stated.parts
  have noMark := Descriptor.secretAddress?_noMark found (by simpa using stated.noMark)
  have noSign : '#' ∉ address.toList :=
    Descriptor.secretAddress?_notMem found (by decide) (by simpa using stated.noSign)
  rw [server, String.toList_ofList]
  exact ⟨fun member => noMark (Text.mem_of_mem_trimEnd member),
    fun member => noSign (Text.mem_of_mem_trimEnd member), Text.getLast?_trimEnd_ne '/' _⟩

/-- A load that reaches the network asks for the path up to a number sign. -/
theorem Stated.asks (stated : Stated base rest request) {context : Context} {world : World}
    (reaches : Reaches context world (descriptor base rest))
    : ∃ url,
        Asks context world (descriptor base rest) { url, token := some request.token }
        ∧ url.toList = request.root ++ request.location.takeWhile (· ≠ '#') := by
  obtain ⟨address, found, parsed⟩ := Option.bind_eq_some_iff.mp stated.accepted
  have parsed : ofAddress address = .ok request := by
    cases known : ofAddress address <;> rw [known] at parsed
    · contradiction
    · exact congrArg Except.ok (Option.some.inj parsed)
  have running : world.cancelled = false := by
    cases cancelled : world.cancelled with
    | false => rfl
    | true =>
        have asked : askToken world = (true, world) := Prod.ext cancelled rfl
        rw [Reaches, Chain.load, outcome_checked, asked] at reaches
        exact absurd rfl reaches
  have requests := Chain.requests_load_builtin found parsed running context
  rw [Reaches, requests] at reaches
  obtain ⟨sent, reached⟩
      : ∃ sent,
          (world.network.send { url := request.endpoint, token := some request.token }).2
            = some sent :=
    Option.ne_none_iff_exists'.mp fun none => reaches (by simp [none])
  obtain ⟨url, target, rfl⟩ := Network.send_eq_some reached
  refine ⟨url, ?_, ?_⟩
  · rw [Asks, requests, reached]
    rfl
  · obtain ⟨noMark, noSign, noSlash⟩ := stated.server
    have spelled
        : request.endpoint
          = String.ofList (request.server.toList ++ "/v1/".toList ++ request.location) := by
      rw [String.ofList_append, String.ofList_append, String.ofList_toList, String.ofList_toList]
      rfl
    rw [spelled] at target
    exact Network.target?_path noMark noSign noSlash target

/-- The part of a URL before its query. -/
def beforeQuery (url : String) : List Char := url.toList.takeWhile (· ≠ '?')

theorem Stated.beforeQuery_eq (stated : Stated base rest request) {url : String}
    (known : url.toList = request.root ++ request.location.takeWhile (· ≠ '#'))
    : beforeQuery url
      = request.root ++ request.location.takeWhile (fun c => c ≠ '#' ∧ c ≠ '?') := by
  have passed : ∀ c ∈ request.root, decide (c ≠ '?') = true := by
    intro c member
    rw [decide_eq_true_iff]
    rintro rfl
    rcases List.mem_append.mp member with origin | version
    · exact stated.server.1 (Network.origin_subset _ origin)
    · exact absurd version (by decide)
  rw [beforeQuery, known, List.takeWhile_append_of_pos passed, List.takeWhile_takeWhile]
  simp only [decide_eq_true_eq, and_comm]

/-- A load of a secret that reaches the network sends one request, to the server of the
descriptor and with its token. The URL has the whole path exactly if no number sign is in the
path; two secrets of one server are read at the same URL exactly if their paths agree up to a
number sign, and at the same path of the server exactly if they agree up to a number sign or a
question mark.
-/
theorem asks_whole_path_iff (stated : Stated base rest request) {context : Context} {world : World}
    (reaches : Reaches context world (descriptor base rest))
    : ∃ address url,
        Descriptor.secretAddress? (String.ofList base) = some address
        ∧ request.root = Network.origin (Text.trimEnd '/' address.toList) ++ "/v1/".toList
        ∧ Query.first? "token" (Query.parameters (query rest)) = some request.token
        ∧ Query.first? "path" (Query.parameters (query rest)) = some request.path
        ∧ Asks context world (descriptor base rest) { url, token := some request.token }
        ∧ url.toList = request.root ++ request.location.takeWhile (· ≠ '#')
        ∧ (url.toList = request.root ++ request.location ↔ '#' ∉ request.path.toList)
        ∧ ∀ {base' rest' request' context' world' url'},
            Stated base' rest' request' → request'.root = request.root →
              Asks context' world' (descriptor base' rest')
                { url := url', token := some request'.token } →
                (url' = url
                    ↔ request'.location.takeWhile (· ≠ '#')
                      = request.location.takeWhile (· ≠ '#'))
                ∧ (beforeQuery url' = beforeQuery url
                    ↔ request'.location.takeWhile (fun c => c ≠ '#' ∧ c ≠ '?')
                      = request.location.takeWhile (fun c => c ≠ '#' ∧ c ≠ '?')) := by
  obtain ⟨⟨address, found, server⟩, token, path⟩ := stated.parts
  obtain ⟨url, asks, known⟩ := stated.asks reaches
  refine ⟨address, url, found, ?_, token, path, asks, known, ?_, ?_⟩
  · rw [root, server, String.toList_ofList]
  · rw [known, List.append_cancel_left_eq, List.takeWhile_eq_self_iff]
    simp only [decide_eq_true_eq, ← mem_location (show '#' ≠ '/' by decide)]
    exact ⟨fun others member => others '#' member rfl, fun absent c member same =>
      absent (same ▸ member)⟩
  · intro base' rest' request' context' world' url' stated' sameServer asks'
    have reaches' : Reaches context' world' (descriptor base' rest') := by
      rw [Reaches, asks']
      simp
    obtain ⟨other, otherAsks, otherKnown⟩ := stated'.asks reaches'
    obtain rfl : url' = other := by
      simpa using asks'.symm.trans otherAsks
    rw [stated'.beforeQuery_eq otherKnown, stated.beforeQuery_eq known, ← String.toList_inj,
      otherKnown, known, sameServer]
    exact ⟨List.append_right_inj _, List.append_right_inj _⟩

/-- The request for a secret whose path begins with a slash. -/
def slashedRequest (server : String) : SecretRequest where
  server
  token := "t"
  path := "/a"
  key := []

/-- Slashes and the port 80 are left out of the URL that is sent, be it encrypted or not. -/
theorem asks_whole_path_iff_slashed
    : (slashedRequest "http://h:80").Stated "vault://h:80/".toList "token=t&path=%2Fa".toList
      ∧ Asks {} {} "vault://h:80/?token=t&path=%2Fa"
          { url := "http://h/v1/a", token := some "t" }
      ∧ (slashedRequest "https://h:8200").Stated "vaults://h:8200/".toList
          "token=t&path=%2Fa".toList
      ∧ Asks {} {} "vaults://h:8200/?token=t&path=%2Fa"
          { url := "https://h:8200/v1/a", token := some "t" } := by
  have plain
      : (slashedRequest "http://h:80").Stated "vault://h:80/".toList
          "token=t&path=%2Fa".toList :=
    ⟨by decide, by decide, by decide +kernel⟩
  have encrypted
      : (slashedRequest "https://h:8200").Stated "vaults://h:8200/".toList
          "token=t&path=%2Fa".toList :=
    ⟨by decide, by decide, by decide +kernel⟩
  have reaches
      : Reaches {} {} (descriptor "vault://h:80/".toList "token=t&path=%2Fa".toList)
        ∧ Reaches {} {} (descriptor "vaults://h:8200/".toList "token=t&path=%2Fa".toList) := by
    unfold Reaches
    decide +kernel
  obtain ⟨_, url, -, -, -, -, asks, known, -⟩ := asks_whole_path_iff plain reaches.1
  obtain ⟨_, url', -, -, -, -, asks', known', -⟩ := asks_whole_path_iff encrypted reaches.2
  obtain rfl : url = "http://h/v1/a" := String.toList_inj.mp (known.trans (by decide +kernel))
  obtain rfl : url' = "https://h:8200/v1/a" :=
    String.toList_inj.mp (known'.trans (by decide +kernel))
  exact ⟨plain, asks, encrypted, asks'⟩

/-- The request for a secret whose path has a number sign. -/
def signedRequest : SecretRequest where
  server := "http://h"
  token := "t"
  path := "a#b"
  key := []

/-- For a path with a number sign another secret is read. -/
theorem asks_cut_path
    : signedRequest.Stated "vault://h".toList "token=t&path=a%23b".toList
      ∧ Asks {} {} "vault://h?token=t&path=a%23b" { url := "http://h/v1/a", token := some "t" }
      ∧ Asks {} {} "vault://h?token=t&path=a" { url := "http://h/v1/a", token := some "t" } := by
  refine ⟨⟨by decide, by decide, by decide +kernel⟩, ?_, ?_⟩ <;>
    · unfold Asks
      decide +kernel

end SecretRequest

end TaggedConfig
