import TaggedConfig.Proofs.Source.TokenSite
import TaggedConfig.Proofs.Text.Excerpt

/-! What the redacted form of a secret-store descriptor shows of its access token.
The token is found by its decoded name and hidden by its written one, so a name that is
written with escapes is taken and not hidden.
-/

namespace TaggedConfig

open Descriptor

-----------------------------------------------------------------------------------------
-- The masked form of a descriptor with a token
-----------------------------------------------------------------------------------------

namespace Descriptor

theorem maskParameter_append {name : List Char} (absent : '=' ∉ name) (value : List Char)
    : maskParameter (name ++ '=' :: value)
      = if name = "token".toList then "token=***".toList else name ++ '=' :: value := by
  rw [maskParameter, Text.splitFirst?_append absent]

/-- A parameter whose name does not stand for the token is shown as it is. -/
theorem maskParameter_eq_self {piece : List Char} (other : (Query.parameter piece).1 ≠ "token")
    : maskParameter piece = piece := by
  rcases Text.mem_split_or_not_mem '=' piece with ⟨name, value, rfl, absent⟩ | absent
  · rw [Query.parameter_append absent] at other
    rw [maskParameter_append absent, if_neg]
    rintro rfl
    exact other (show Query.decodeText "token".toList = "token" by decide +kernel)
  · rw [maskParameter, Text.splitFirst?_eq_none absent]

/-- Masking keeps the text up to the question mark and treats the pieces of the rest one by
one.
-/
theorem mask_append {base : List Char} (noMark : '?' ∉ base)
    (address : (secretAddress? (String.ofList base)).isSome) (rest : List Char)
    : mask (String.ofList (base ++ '?' :: rest))
      = String.ofList
          (base ++ '?' :: Text.join '&' ((Text.pieces '&' rest).map maskParameter)) := by
  rw [mask, String.toList_ofList, Text.splitFirst?_append noMark, secretAddress?_append]
  simp [address]

end Descriptor

namespace TokenSite

/-- The piece of the token is masked by itself, and the others do not depend on its value. -/
theorem mask_text (site : TokenSite)
    (address : (secretAddress? (String.ofList site.base)).isSome)
    : ∃ close rest,
        ∀ value, '&' ∉ value →
          mask (site.text value)
            = String.ofList
                (site.base
                  ++ '?' :: (site.earlier.flatMap (· ++ ['&'])
                    ++ (maskParameter (site.name ++ '=' :: (value ++ close)) ++ rest))) := by
  obtain ⟨close, others, later⟩ :=
    Text.exists_pieces_append '&' (site.later.flatMap ('&' :: ·) ++ site.fragment)
  have earlier : site.earlier.map maskParameter = site.earlier :=
    (List.map_congr_left fun piece member =>
      maskParameter_eq_self (site.earlier_pieces piece member).2.2).trans (List.map_id _)
  refine ⟨close, (others.map maskParameter).flatMap ('&' :: ·), fun value one => ?_⟩
  have named : '&' ∉ site.name ++ '=' :: value := by simp [site.name_piece.2.1, one]
  have pieces
      : Text.pieces '&' (site.query value ++ site.fragment)
        = site.earlier ++ (site.name ++ '=' :: (value ++ close)) :: others := by
    rw [query, List.append_assoc, List.append_assoc,
      Text.pieces_flatMap_append fun piece member => (site.earlier_pieces piece member).1,
      later _ named, List.append_assoc, List.cons_append]
  rw [text, mask_append site.base_noMark address, pieces, List.map_append, List.map_cons,
    earlier, Text.join_append_cons]

/-- A token whose name is written as it is meant has no part in the redacted form. -/
theorem redact_text_of_named (site : TokenSite)
    (address : (secretAddress? (String.ofList site.base)).isSome)
    (named : site.name = "token".toList) {first second : List Char} (firstOne : '&' ∉ first)
    (secondOne : '&' ∉ second)
    : redact (site.text first) = redact (site.text second) := by
  obtain ⟨close, rest, masked⟩ := site.mask_text address
  simp only [redact, masked _ firstOne, masked _ secondOne,
    maskParameter_append site.name_piece.1, if_pos named]

/-- A token whose name is written in another way stands in the masked form as it is. -/
theorem redact_text_of_unnamed (site : TokenSite)
    (address : (secretAddress? (String.ofList site.base)).isSome)
    (unnamed : site.name ≠ "token".toList)
    : ∃ rest,
        ∀ value, '&' ∉ value →
          redact (site.text value)
            = Text.excerpt shownLimit (String.ofList (site.lead.toList ++ (value ++ rest))) := by
  obtain ⟨close, rest, masked⟩ := site.mask_text address
  refine ⟨close ++ rest, fun value one => ?_⟩
  rw [redact, masked value one, maskParameter_append site.name_piece.1, if_neg unnamed]
  simp [lead]

end TokenSite

-----------------------------------------------------------------------------------------
-- When the redacted form hides the token
-----------------------------------------------------------------------------------------

/-- A descriptor that states a request has a site of its token, where any other value gives
the request that token and changes nothing else of it. The redacted form is the same for all
of these tokens exactly if the name is written as `token` or lies past what is shown. A
visible value is told apart by two tokens of one letter.
-/
theorem Descriptor.redact_conceals_token_iff {descriptor : String} {request : SecretRequest}
    (accepted : SecretRequest.ofDescriptor? descriptor = some request)
    : (∃ site : TokenSite, site.text site.value = descriptor)
      ∧ ∀ site : TokenSite,
          site.text site.value = descriptor →
            (∀ value, '&' ∉ value → '#' ∉ value →
              SecretRequest.ofDescriptor? (site.text value)
                = if (Query.decodeText value).isEmpty then none
                  else some { request with token := Query.decodeText value })
            ∧ ((∀ value, '&' ∉ value → '#' ∉ value →
                  (SecretRequest.ofDescriptor? (site.text value)).isSome →
                    redact (site.text value) = redact descriptor)
                ↔ site.name = "token".toList
                  ∨ shownLimit ≤ site.lead.utf8ByteSize) := by
  refine ⟨TokenSite.exists_of_ofDescriptor? accepted, ?_⟩
  rintro site rfl
  have stated {value : List Char} (one : '&' ∉ value) (noSign : '#' ∉ value) :=
    site.ofDescriptor?_text accepted one noSign
  have address := site.secretAddress?_isSome accepted
  refine ⟨fun value => stated, ?_, ?_⟩
  · intro concealed
    by_cases named : site.name = "token".toList
    · exact Or.inl named
    refine Or.inr (Nat.le_of_not_lt fun short => ?_)
    obtain ⟨rest, shown⟩ := site.redact_text_of_unnamed address named
    have same (c : Char) (one : '&' ∉ [c]) (noSign : '#' ∉ [c])
        (filled : (Query.decodeText [c]).isEmpty = false) :=
      concealed [c] one noSign (by simp [stated one noSign, filled])
    have letters := (same 'a' (by decide) (by decide) (by decide +kernel)).trans
      (same 'b' (by decide) (by decide) (by decide +kernel)).symm
    rw [shown _ (by decide), shown _ (by decide)] at letters
    refine Text.excerpt_append_ne (by decide) (by decide) ?_ letters
    rw [String.ofList_toList]
    exact short
  · intro hidden value one noSign other
    by_cases named : site.name = "token".toList
    · exact site.redact_text_of_named address named one site.value_piece.1
    · obtain ⟨rest, shown⟩ := site.redact_text_of_unnamed address named
      have full := hidden.resolve_left named
      have filled {value : List Char} (one : '&' ∉ value) (noSign : '#' ∉ value)
          (isSome : (SecretRequest.ofDescriptor? (site.text value)).isSome)
          : value ++ rest ≠ [] := by
        intro empty
        obtain ⟨rfl, -⟩ := List.append_eq_nil_iff.mp empty
        simp [stated one noSign, Query.decodeText_nil] at isSome
      rw [shown value one, shown site.value site.value_piece.1]
      refine Text.excerpt_append_eq ?_ (filled one noSign other)
        (filled site.value_piece.1 site.value_piece.2 (by simp [accepted]))
      rw [String.ofList_toList]
      exact full

/-- The name of this token is written with an escape, so the site is not concealed. -/
theorem Descriptor.redact_conceals_token_iff_escaped
    : SecretRequest.ofDescriptor? "vault://h?t%6Fken=S3cret&path=p"
        = some { server := "http://h", token := "S3cret", path := "p", key := [] }
      ∧ ∀ site : TokenSite,
          site.text site.value = "vault://h?t%6Fken=S3cret&path=p" →
            ((∀ value, '&' ∉ value → '#' ∉ value →
                  (SecretRequest.ofDescriptor? (site.text value)).isSome →
                    redact (site.text value) = redact "vault://h?t%6Fken=S3cret&path=p")
                ↔ site.name = "token".toList
                  ∨ shownLimit ≤ site.lead.utf8ByteSize) := by
  have accepted
      : SecretRequest.ofDescriptor? "vault://h?t%6Fken=S3cret&path=p"
        = some { server := "http://h", token := "S3cret", path := "p", key := [] } := by
    decide +kernel
  exact ⟨accepted, fun site text => ((redact_conceals_token_iff accepted).2 site text).2⟩

/-- Two descriptors that differ in the value of their token alone, each with a redacted form
of its own.
-/
theorem Descriptor.redact_shows_escaped_token
    : ∃ site : TokenSite,
        site.text site.value = "vault://h?t%6Fken=S3cret&path=p"
        ∧ site.text "other".toList = "vault://h?t%6Fken=other&path=p"
        ∧ SecretRequest.ofDescriptor? "vault://h?t%6Fken=S3cret&path=p"
          = some { server := "http://h", token := "S3cret", path := "p", key := [] }
        ∧ SecretRequest.ofDescriptor? "vault://h?t%6Fken=other&path=p"
          = some { server := "http://h", token := "other", path := "p", key := [] }
        ∧ redact "vault://h?t%6Fken=S3cret&path=p"
          ≠ redact "vault://h?t%6Fken=other&path=p" :=
  ⟨{
    base := "vault://h".toList, earlier := [], name := "t%6Fken".toList
    value := "S3cret".toList, later := ["path=p".toList], fragment := []
    base_noMark := by decide
    earlier_pieces := by simp
    name_piece := by decide
    name_token := by decide +kernel
    value_piece := by decide
    later_pieces := by decide
    fragment_mark := Or.inl rfl
  }, by decide +kernel, by decide +kernel, by decide +kernel, by decide +kernel,
    by decide +kernel⟩

end TaggedConfig
