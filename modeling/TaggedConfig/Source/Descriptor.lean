import TaggedConfig.Text.Blank
import TaggedConfig.Text.Excerpt
import TaggedConfig.Text.Split

/-! Source descriptors: the schemes they name and how they are shown.
Every text that shows a descriptor shows it redacted.
-/

namespace TaggedConfig.Descriptor

/-- Which loader a descriptor is for. -/
inductive Scheme where
  | web
  | secretStore
  | inline
  | file
  deriving DecidableEq, Repr

/-- The rest of a descriptor after a scheme prefix. -/
def after? (start : String) (descriptor : String) : Option String :=
  (Text.dropStart? start.toList descriptor.toList).map String.ofList

/-- Whether a descriptor is a web address. -/
def isWeb (descriptor : String) : Bool :=
  (after? "http://" descriptor).isSome || (after? "https://" descriptor).isSome

/-- The web address behind a secret-store descriptor. -/
def secretAddress? (descriptor : String) : Option String :=
  match after? "vault://" descriptor with
  | some rest => some ("http://" ++ rest)
  | none => (after? "vaults://" descriptor).map ("https://" ++ ·)

/-- The text of an inline descriptor: what follows `data://`, or a whole descriptor that
begins, white space aside, like a JSON object or array.
-/
def inline? (descriptor : String) : Option String :=
  match after? "data://" descriptor with
  | some text => some text
  | none =>
      match descriptor.toList.dropWhile Text.isBlank with
      | c :: _ => if c = '\x7b' ∨ c = '[' then some descriptor else none
      | [] => none

/-- The path that a file descriptor names; any descriptor names one. -/
def filePath (descriptor : String) : String := (after? "file://" descriptor).getD descriptor

def scheme (descriptor : String) : Scheme :=
  if isWeb descriptor then .web
  else if (secretAddress? descriptor).isSome then .secretStore
  else if (inline? descriptor).isSome then .inline
  else .file

/-- Hides the value of a query parameter spelled `token`. -/
def maskParameter (parameter : List Char) : List Char :=
  match Text.splitFirst? '=' parameter with
  | some (name, _) => if name = "token".toList then "token=***".toList else parameter
  | none => parameter

/-- Hides the values of the parameters spelled `token` in a secret-store descriptor. -/
def mask (descriptor : String) : String :=
  match Text.splitFirst? '?' descriptor.toList with
  | some (base, query) =>
      if (secretAddress? descriptor).isSome then
        let shown := Text.join '&' ((Text.pieces '&' query).map maskParameter)
        String.ofList (base ++ '?' :: shown)
      else descriptor
  | none => descriptor

/-- How many bytes of a masked descriptor are shown. -/
def shownLimit : Nat := 96

/-- The form of a descriptor in logs and errors: access tokens masked, then shortened. -/
def redact (descriptor : String) : String := Text.excerpt shownLimit (mask descriptor)

end TaggedConfig.Descriptor
