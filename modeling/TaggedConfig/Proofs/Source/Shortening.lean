import Mathlib.Data.List.Forall2
import TaggedConfig.Proofs.Source.Redaction
import TaggedConfig.Proofs.Text.Boundary

/-! What is shown of a descriptor: its masked form, or a start of it that ends between two
characters.
Values of parameters spelled `token` are gone before the cut, so they have no part in where it
falls or in what is left.
-/

namespace TaggedConfig.Descriptor

-----------------------------------------------------------------------------------------
-- The parameters of a secret-store descriptor
-----------------------------------------------------------------------------------------

/-- A secret-store descriptor with its parameters: all that stands after its first question
mark, cut at every ampersand.
-/
structure HasParameters (descriptor : String) (base : List Char) (parameters : List (List Char))
    : Prop where
  text : descriptor = String.ofList (base ++ '?' :: Text.join '&' parameters)
  base_noMark : '?' ∉ base
  some : parameters ≠ []
  parts : ∀ parameter ∈ parameters, '&' ∉ parameter
  secretStore : (secretAddress? descriptor).isSome

/-- How a parameter is shown: with its value hidden if it is spelled `token`, else as it is. -/
inductive ShownAs : List Char → List Char → Prop
  | token (value : List Char) : ShownAs ("token=".toList ++ value) "token=***".toList
  | other {parameter : List Char} (plain : ¬ "token=".toList <+: parameter)
    : ShownAs parameter parameter

/-- The parameters are one and the same, or both are spelled `token`. -/
inductive SameButToken : List Char → List Char → Prop
  | token (first second : List Char)
    : SameButToken ("token=".toList ++ first) ("token=".toList ++ second)
  | other (parameter : List Char) : SameButToken parameter parameter

theorem maskParameter_token (value : List Char)
    : maskParameter ("token=".toList ++ value) = "token=***".toList := by
  have noSign : '=' ∉ "token".toList := by decide
  exact (maskParameter_append noSign value).trans (if_pos rfl)

theorem shownAs_maskParameter (parameter : List Char)
    : ShownAs parameter (maskParameter parameter) := by
  by_cases token : "token=".toList <+: parameter
  · obtain ⟨value, rfl⟩ := token
    rw [maskParameter_token]
    exact .token value
  · have kept : maskParameter parameter = parameter := by
      rcases Text.mem_split_or_not_mem '=' parameter with ⟨name, value, rfl, absent⟩ | absent
      · rw [maskParameter_append absent, if_neg]
        rintro rfl
        exact token ⟨value, rfl⟩
      · rw [maskParameter, Text.splitFirst?_eq_none absent]
    rw [kept]
    exact .other token

theorem SameButToken.maskParameter_eq {first second : List Char}
    (same : SameButToken first second)
    : maskParameter first = maskParameter second := by
  cases same with
  | token first second => rw [maskParameter_token, maskParameter_token]
  | other parameter => rfl

/-- Masking shows the parameters one by one. -/
theorem HasParameters.mask_eq {descriptor : String} {base : List Char}
    {parameters : List (List Char)} (states : HasParameters descriptor base parameters)
    : mask descriptor
      = String.ofList (base ++ '?' :: Text.join '&' (parameters.map maskParameter)) := by
  obtain ⟨rfl, noMark, some, parts, secretStore⟩ := states
  rw [secretAddress?_append, Option.isSome_map] at secretStore
  rw [mask_append noMark secretStore, Text.pieces_join some parts]

/-- A descriptor that is no secret-store descriptor with parameters is its own masked form. -/
theorem exists_hasParameters_or_mask_eq (descriptor : String)
    : (∃ base parameters, HasParameters descriptor base parameters)
      ∨ mask descriptor = descriptor := by
  rcases Text.mem_split_or_not_mem '?' descriptor.toList
    with ⟨base, query, whole, noMark⟩ | absent
  · by_cases secretStore : (secretAddress? descriptor).isSome
    · refine Or.inl ⟨base, Text.pieces '&' query, ⟨?_, noMark, Text.pieces_ne_nil '&' query,
        fun parameter => Text.not_mem_of_mem_pieces, secretStore⟩⟩
      rw [Text.join_pieces, ← whole, String.ofList_toList]
    · right
      rw [mask, whole, Text.splitFirst?_append noMark]
      exact if_neg secretStore
  · right
    rw [mask, Text.splitFirst?_eq_none absent]

/-- Descriptors that differ in the values of parameters spelled `token` alone have one masked
form.
-/
theorem HasParameters.mask_eq_mask {descriptor other : String} {base : List Char}
    {parameters others : List (List Char)} (states : HasParameters descriptor base parameters)
    (states' : HasParameters other base others)
    (same : List.Forall₂ SameButToken parameters others)
    : mask other = mask descriptor := by
  have shown : parameters.map maskParameter = others.map maskParameter := by
    rw [← List.forall₂_eq_eq_eq, List.forall₂_map_left_iff, List.forall₂_map_right_iff]
    exact same.imp fun _ _ pair => pair.maskParameter_eq
  rw [states.mask_eq, states'.mask_eq, shown]

-----------------------------------------------------------------------------------------
-- The cut
-----------------------------------------------------------------------------------------

/-- The search for a boundary and the slice that it ends at succeed on every masked descriptor and
give the bytes of its redacted form. These are all of the masked descriptor if it fits, else those
up to the last cut that does. The masked form is the one that hides the values of parameters
spelled `token`, and every other choice of these values gives the same redacted form.
-/
theorem redact_well_cut (descriptor : String)
    : (∃ shown,
        Utf8.truncate? 96 (Utf8.encode (mask descriptor)) = some shown
        ∧ Utf8.decode? shown = some (redact descriptor)
        ∧ shown.length ≤ 99
        ∧ ((Utf8.encode (mask descriptor)).length ≤ 96 → redact descriptor = mask descriptor)
        ∧ (96 < (Utf8.encode (mask descriptor)).length →
            ∃ stop,
              IsGreatest {offset | offset ≤ 96 ∧ Utf8.Cuts (mask descriptor) offset} stop
              ∧ 93 ≤ stop
              ∧ Utf8.boundaryFrom? (Utf8.encode (mask descriptor)) 96 = some stop
              ∧ shown = (Utf8.encode (mask descriptor)).take stop ++ ascii "..."))
      ∧ ((∃ base parameters, HasParameters descriptor base parameters)
        ∨ mask descriptor = descriptor)
      ∧ ∀ base parameters,
          HasParameters descriptor base parameters →
            (∃ shown,
              List.Forall₂ ShownAs parameters shown
              ∧ mask descriptor = String.ofList (base ++ '?' :: Text.join '&' shown))
            ∧ ∀ other others,
                HasParameters other base others →
                List.Forall₂ SameButToken parameters others →
                  redact other = redact descriptor := by
  refine ⟨⟨Utf8.encode (redact descriptor), Text.truncate?_encode shownLimit (mask descriptor),
    Utf8.decode?_eq_some_iff.mpr rfl,
    Text.length_encode_excerpt_le shownLimit (mask descriptor), ?_, ?_⟩,
    exists_hasParameters_or_mask_eq descriptor, ?_⟩
  · intro fits
    rw [Utf8.length_encode] at fits
    exact if_pos fits
  · intro long
    rw [Utf8.length_encode] at long
    obtain ⟨stop, greatest, near, met, shown⟩ := Text.exists_cut_of_long long
    exact ⟨stop, greatest, by omega, met, shown⟩
  · intro base parameters states
    refine ⟨⟨parameters.map maskParameter, ?_, states.mask_eq⟩, fun other others states' same => ?_⟩
    · rw [List.forall₂_map_right_iff]
      exact List.forall₂_same.mpr fun parameter _ => shownAs_maskParameter parameter
    · rw [redact, redact, states.mask_eq_mask states' same]

/-- A descriptor whose masked form has a character of four bytes across the limit. -/
def wideAtLimit (token : List Char) : String :=
  String.ofList
    ("vault://h".toList
      ++ '?' :: Text.join '&'
        ["token=".toList ++ token, "path=".toList ++ List.replicate 68 'x' ++ ['😀']])

theorem hasParameters_wideAtLimit {token : List Char} (one : '&' ∉ token)
    : HasParameters (wideAtLimit token) "vault://h".toList
        ["token=".toList ++ token, "path=".toList ++ List.replicate 68 'x' ++ ['😀']] := by
  have base : (secretAddress? (String.ofList "vault://h".toList)).isSome = true := by
    decide +kernel
  refine ⟨rfl, by decide, by simp, by simp [one], ?_⟩
  unfold wideAtLimit
  rw [secretAddress?_append, Option.isSome_map]
  exact base

/-- The cut gives up the whole of the character across the limit, whatever the token is. -/
theorem redact_well_cut_wide
    : IsGreatest {offset | offset ≤ 96 ∧ Utf8.Cuts (mask (wideAtLimit [])) offset} 93
      ∧ ∀ token, '&' ∉ token →
          redact (wideAtLimit token)
            = "vault://h?token=***&path=" ++ String.ofList (List.replicate 68 'x') ++ "..." := by
  obtain ⟨⟨_, _, _, _, _, cut⟩, _, parameters⟩ := redact_well_cut (wideAtLimit [])
  obtain ⟨stop, greatest, _, met, _⟩ := cut (by decide +kernel)
  have known : Utf8.boundaryFrom? (Utf8.encode (mask (wideAtLimit []))) 96 = some 93 := by
    decide +kernel
  obtain rfl : 93 = stop := Option.some.inj (known.symm.trans met)
  refine ⟨greatest, fun token one => ?_⟩
  have states := hasParameters_wideAtLimit (List.not_mem_nil (a := '&'))
  have states' := hasParameters_wideAtLimit one
  rw [(parameters _ _ states).2 _ _ states' (.cons (.token [] token) (.cons (.other _) .nil))]
  decide +kernel

end TaggedConfig.Descriptor
