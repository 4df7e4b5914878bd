/-
# Capability tokens

A token is a payload in Base64, a point, and the encoded authentication code of
the payload. What is read from a token that carries the right code is what was
issued: the payload survives JSON and Base64, apart from surrogate pairs, which
the JSON reader joins.
-/

import CultureShift.Serialization.Ascii
import Mathlib.Algebra.Order.Floor.Defs
import Mathlib.Algebra.Order.Round
import Mathlib.Data.Finset.Sort
import Mathlib.Data.NNRat.Defs
import Mathlib.Data.Rat.Floor

namespace CultureShift

open Serialization

inductive Capability
  | readProjectRun | analyzeProjectRun | updateProjectRun | deleteAsset
deriving DecidableEq

namespace Capability

def value : Capability → Text
  | .readProjectRun => Text.ofString "project_run:read"
  | .analyzeProjectRun => Text.ofString "project_run:analyze"
  | .updateProjectRun => Text.ofString "project_run:update"
  | .deleteAsset => Text.ofString "asset:delete"

def ofValue? (text : Text) : Option Capability :=
  [readProjectRun, analyzeProjectRun, updateProjectRun, deleteAsset].find? (·.value = text)

theorem ofValue?_value (capability : Capability) :
    ofValue? capability.value.normalize = some capability := by
  cases capability <;> decide

theorem value_injective : Function.Injective value := by
  intro first second heq
  have hsome : some first = some second := by
    rw [← ofValue?_value first, ← ofValue?_value second, heq]
  exact Option.some.inj hsome

end Capability

namespace CapabilityTokens

/-- Exceptions, by class. Every error of encoding or decoding is a `ValueError`. -/
inductive Raised
  | valueError | keyError | typeError | overflowError | capabilityTokenError
deriving DecidableEq

/-- The time of a `datetime` as a timestamp. Only an aware one has it by itself. -/
structure Moment where
  timestamp : ℚ≥0
  aware : Bool

/-- `int(timestamp)` -/
def truncate (timestamp : ℚ) : Int :=
  if 0 ≤ timestamp then ⌊timestamp⌋ else ⌈timestamp⌉

/-- What the libraries do with the parts of a payload that is not one of ours: with
numbers that are no integers, and with bytes that are not plain ASCII. -/
structure Libraries (φ : Type) where
  floats : Document.Floats φ
  eqInt : φ → Int → Bool
  leInt : φ → Int → Bool
  fromtimestamp : φ → Except Raised ℚ
  loads : List Byte → Except Raised (Document φ)

variable {φ : Type}

/-- The claims of a verified token. Subject and audience are what the payload has there. -/
structure CapabilityClaims (φ : Type) where
  subject : Document φ
  audience : Document φ
  capabilities : Finset Capability
  issuedAt : ℚ
  expiresAt : ℚ

def orRaise {α : Type} (error : Raised) : Option α → Except Raised α
  | some value => .ok value
  | none => .error error

/-! ## Encoding -/

/-- `_encode` -/
def encode (value : List Byte) : Text :=
  Text.ofAscii (Base64.strip (Base64.urlsafeEncode value))

/-- `_decode` -/
def decode (value : Text) : Option (List Byte) :=
  value.encodeAscii?.bind fun bytes =>
    Base64.urlsafeDecode (bytes ++ List.replicate (Base64.missing value.length) Base64.pad)

def dot : CodePoint := 0x2E

/-- `token.split(".", maxsplit=1)`, where there are two parts. -/
def split (token : Text) : Option (Text × Text) :=
  match token.dropWhile (· != dot) with
  | [] => none
  | _ :: supplied => some (token.takeWhile (· != dot), supplied)

/-- `hmac.compare_digest` on two strings. -/
def compareDigest (first second : Text) : Except Raised Bool :=
  if first.encodeAscii?.isSome ∧ second.encodeAscii?.isSome then .ok (first = second)
  else .error .typeError

theorem encodeAscii?_encode (value : List Byte) :
    (encode value).encodeAscii? = some (Base64.strip (Base64.urlsafeEncode value)) :=
  Text.encodeAscii?_ofAscii fun c hc => ((Base64.strip_urlsafeEncode value).1 c hc).1

/-- What was encoded is decoded. -/
theorem decode_encode (value : List Byte) : decode (encode value) = some value := by
  have hlength : (encode value).length = (Base64.strip (Base64.urlsafeEncode value)).length :=
    List.length_map ..
  rw [decode, encodeAscii?_encode, Option.bind_some, hlength, (Base64.strip_urlsafeEncode value).2,
    Base64.urlsafeDecode_urlsafeEncode]

theorem ne_dot_of_mem_encode {value : List Byte} {c : CodePoint} (h : c ∈ encode value) :
    c ≠ dot := by
  obtain ⟨b, hb, rfl⟩ := List.mem_map.mp h
  intro heq
  exact ((Base64.strip_urlsafeEncode value).1 b hb).2 (congrArg Fin.val heq)

theorem split_append {encoded : Text} (h : ∀ c ∈ encoded, c ≠ dot) (supplied : Text) :
    split (encoded ++ dot :: supplied) = some (encoded, supplied) := by
  have hpos : ∀ c ∈ encoded, (c != dot) = true := fun c hc => bne_iff_ne.mpr (h c hc)
  have hdrop : (dot :: supplied).dropWhile (· != dot) = dot :: supplied :=
    List.dropWhile_cons_of_neg (by decide)
  have htake : (dot :: supplied).takeWhile (· != dot) = [] :=
    List.takeWhile_cons_of_neg (by decide)
  rw [split, List.dropWhile_append_of_pos hpos, hdrop, List.takeWhile_append_of_pos hpos, htake,
    List.append_nil]

theorem eq_append_of_split {token encoded supplied : Text}
    (h : split token = some (encoded, supplied)) : token = encoded ++ dot :: supplied := by
  unfold split at h
  cases hdrop : token.dropWhile (· != dot) with
  | nil =>
      rw [hdrop] at h
      cases h
  | cons c rest =>
      have hc : c = dot := by
        have hhead := List.head?_dropWhile_not (· != dot) token
        rw [hdrop] at hhead
        simpa using hhead
      rw [hdrop] at h
      cases h
      rw [hc] at hdrop
      rw [← hdrop, List.takeWhile_append_dropWhile]

/-! ## The service -/

structure CapabilityTokenService where
  secret : List Byte
  audience : Text
  secret_length : 32 ≤ secret.length
  audience_required : audience ≠ []

namespace CapabilityTokenService

/-- `__init__` -/
def init (secret : List Byte) (audience : Text) : Except Raised CapabilityTokenService :=
  if hsecret : secret.length < 32 then .error .valueError
  else if haudience : audience = [] then .error .valueError
  else .ok ⟨secret, audience, Nat.le_of_not_lt hsecret, haudience⟩

end CapabilityTokenService

/-- A call of `issue`, with the time that the clock would give. -/
structure IssueCall where
  service : CapabilityTokenService
  subject : Text
  capabilities : Finset Capability
  ttl : ℚ
  now : Option Moment
  utcnow : ℚ≥0

section

variable (digest : List Byte → List Byte → List Byte)

/-- The encoded authentication code of a message. -/
def signature (secret message : List Byte) : Text := encode (digest secret message)

namespace IssueCall

def issuedAt (call : IssueCall) : Moment := call.now.getD ⟨call.utcnow, true⟩

/-- The timestamp of `issued_at + ttl`. -/
def expiry (call : IssueCall) : ℚ := call.issuedAt.timestamp + call.ttl

def payload (call : IssueCall) : Document Empty :=
  .obj
    [(Text.ofString "aud", .str call.service.audience),
      (Text.ofString "cap",
        .arr (((call.capabilities.image Capability.value).sort (· ≤ ·)).map .str)),
      (Text.ofString "exp", .int (truncate call.expiry)),
      (Text.ofString "iat", .int (truncate call.issuedAt.timestamp)),
      (Text.ofString "sub", .str call.subject),
      (Text.ofString "v", .int 1)]

/-- The payload as it stands in the token. -/
def encoded (call : IssueCall) : Text := encode (encodeUtf8 call.payload.dumps)

/-- The bytes that are signed. -/
def message (call : IssueCall) : List Byte :=
  Base64.strip (Base64.urlsafeEncode (encodeUtf8 call.payload.dumps))

/-- `CapabilityTokenService.issue` -/
def issue (call : IssueCall) : Except Raised Text :=
  if call.subject = [] ∨ call.capabilities = ∅ then .error .valueError
  else if call.ttl ≤ 0 then .error .valueError
  else if call.issuedAt.aware = false then .error .valueError
  else .ok (call.encoded ++ dot :: signature digest call.service.secret call.message)

end IssueCall

/-- The members of a payload, where it is a dictionary. -/
def members : Document φ → Except Raised (List (Text × Document φ))
  | .obj members => .ok members
  | _ => .error .typeError

/-- `payload[name]` -/
def item (members : List (Text × Document φ)) (name : String) : Except Raised (Document φ) :=
  orRaise .keyError (Document.get? members (Text.ofString name))

/-- The items of an iteration. A string gives its characters, a dictionary its names. -/
def iterate : Document φ → Except Raised (List (Document φ))
  | .arr items => .ok items
  | .str text => .ok (text.map fun c => .str [c])
  | .obj members => .ok (members.map fun member => .str member.1)
  | _ => .error .typeError

/-- `frozenset(Capability(value) for value in values)` -/
def capabilitiesOf : List (Document φ) → Except Raised (Finset Capability)
  | [] => .ok ∅
  | .str text :: values => do
      let capability ← orRaise .valueError (Capability.ofValue? text)
      let capabilities ← capabilitiesOf values
      pure (insert capability capabilities)
  | _ :: _ => .error .valueError

/-- Is the value equal to the string? -/
def isText (text : Text) : Document φ → Bool
  | .str other => other = text
  | _ => false

/-- Is the value equal to the number one? `True` is. -/
def isOne (libraries : Libraries φ) : Option (Document φ) → Bool
  | some (.int value) => value = 1
  | some (.bool value) => value
  | some (.float value) => libraries.eqInt value 1
  | _ => false

/-- `seconds >= value` -/
def atLeast (libraries : Libraries φ) (seconds : Int) : Document φ → Except Raised Bool
  | .int value => .ok (value ≤ seconds)
  | .bool value => .ok ((if value then 1 else 0) ≤ seconds)
  | .float value => .ok (libraries.leInt value seconds)
  | _ => .error .typeError

/-- `datetime.fromtimestamp(value, UTC)` -/
def fromtimestamp (libraries : Libraries φ) : Document φ → Except Raised ℚ
  | .int value => .ok value
  | .bool value => .ok (if value then 1 else 0)
  | .float value => libraries.fromtimestamp value
  | _ => .error .typeError

/-- `json.loads` on bytes. -/
def loads (libraries : Libraries φ) (bytes : List Byte) : Except Raised (Document φ) :=
  match plainText? bytes with
  | some text => orRaise .valueError (Document.loads libraries.floats text)
  | none => libraries.loads bytes

/-- A check of the claims that fails raises the one error of this module. -/
def reject (failed : Bool) : Except Raised Unit :=
  if failed then .error .capabilityTokenError else .ok ()

/-- `except (KeyError, TypeError, ValueError, json.JSONDecodeError)` -/
def asTokenError {α : Type} : Except Raised α → Except Raised α
  | .error .keyError | .error .typeError | .error .valueError => .error .capabilityTokenError
  | result => result

namespace CapabilityTokenService

variable (libraries : Libraries φ) (service : CapabilityTokenService)

/-- The payload of a token that carries the code of its payload. -/
def checkSignature (token : Text) : Except Raised Text := do
  let (encoded, supplied) ← orRaise .valueError (split token)
  let message ← orRaise .valueError encoded.encodeAscii?
  let equal ← compareDigest supplied (signature digest service.secret message)
  if equal then .ok encoded else .error .capabilityTokenError

/-- The claims of a signed payload. -/
def readClaims (required : Capability) (now : Option Moment) (utcnow : ℚ≥0) (encoded : Text) :
    Except Raised (CapabilityClaims φ) := do
  let bytes ← orRaise .valueError (decode encoded)
  let payload ← loads libraries bytes
  let payload ← members payload
  let values ← iterate (← item payload "cap")
  let capabilities ← capabilitiesOf values
  let verifiedAt := now.getD ⟨utcnow, true⟩
  reject (!verifiedAt.aware)
  reject (!isOne libraries (Document.get? payload (Text.ofString "v")))
  reject (!isText service.audience (← item payload "aud"))
  reject (required ∉ capabilities)
  reject (← atLeast libraries (truncate verifiedAt.timestamp) (← item payload "exp"))
  let subject ← item payload "sub"
  let audience ← item payload "aud"
  let issuedAt ← fromtimestamp libraries (← item payload "iat")
  let expiresAt ← fromtimestamp libraries (← item payload "exp")
  return ⟨subject, audience, capabilities, issuedAt, expiresAt⟩

/-- `CapabilityTokenService.verify` -/
def verify (token : Text) (required : Capability) (now : Option Moment) (utcnow : ℚ≥0) :
    Except Raised (CapabilityClaims φ) :=
  asTokenError <| (service.checkSignature digest token).bind fun encoded =>
    service.readClaims libraries required now utcnow encoded

end CapabilityTokenService

end

/-! ## Reading what was issued -/

theorem capabilitiesOf_values (capabilities : List Capability) :
    capabilitiesOf (Document.normalizeItems (capabilities.map fun capability =>
      .str capability.value) : List (Document φ)) = .ok capabilities.toFinset := by
  induction capabilities with
  | nil => rfl
  | cons capability capabilities ih =>
      rw [List.map_cons, Document.normalizeItems, Document.normalize, capabilitiesOf,
        Capability.ofValue?_value, ih]
      simp [orRaise, pure, Except.pure, bind, Except.bind]

/-- The sorted values of a set are read as the set. -/
theorem capabilitiesOf_sorted (capabilities : Finset Capability) :
    capabilitiesOf (Document.normalizeItems (((capabilities.image Capability.value).sort
      (· ≤ ·)).map .str) : List (Document φ)) = .ok capabilities := by
  obtain ⟨members, hmembers⟩ : ∃ members : List Capability,
      members.map Capability.value = (capabilities.image Capability.value).sort (· ≤ ·) := by
    rw [← Set.mem_range, Set.range_list_map]
    intro text htext
    obtain ⟨capability, -, hvalue⟩ := Finset.mem_image.mp ((Finset.mem_sort _).mp htext)
    exact ⟨capability, hvalue⟩
  have hset : members.toFinset = capabilities := by
    apply Finset.image_injective Capability.value_injective
    rw [← Finset.sort_toFinset (capabilities.image Capability.value) (· ≤ ·), ← hmembers]
    ext text
    simp
  rw [← hmembers, List.map_map]
  exact (capabilitiesOf_values members).trans (congrArg Except.ok hset)

theorem sortItems_map_str (texts : List Text) :
    Document.sortItems (texts.map .str) = texts.map .str := by
  induction texts with
  | nil => rfl
  | cons text texts ih =>
      rw [List.map_cons, Document.sortItems, ih]
      rfl

namespace IssueCall

variable (call : IssueCall)

/-- The payload has its names in order. -/
theorem sortKeys_payload : call.payload.sortKeys = call.payload := by
  rw [payload, Document.sortKeys]
  simp only [Document.sortMembers, Document.sortKeys, sortItems_map_str]
  rw [List.Pairwise.insertionSort_eq]
  simp only [List.pairwise_cons, List.forall_mem_cons, List.not_mem_nil, false_implies,
    implies_true, and_true, List.Pairwise.nil]
  decide

/-- What the members of the payload are read as. -/
def readMembers : List (Text × Document φ) :=
  [(Text.ofString "aud", .str call.service.audience.normalize),
    (Text.ofString "cap", .arr (Document.normalizeItems
      (((call.capabilities.image Capability.value).sort (· ≤ ·)).map .str))),
    (Text.ofString "exp", .int (truncate call.expiry)),
    (Text.ofString "iat", .int (truncate call.issuedAt.timestamp)),
    (Text.ofString "sub", .str call.subject.normalize),
    (Text.ofString "v", .int 1)]

end IssueCall

section

variable (libraries : Libraries φ) (call : IssueCall)

theorem loads_payload :
    loads libraries (encodeUtf8 call.payload.dumps) = .ok (.obj call.readMembers) := by
  have hplain := Document.render_isPlain call.payload.sortKeys
  rw [loads, Document.dumps, plainText?_encodeUtf8 hplain]
  show orRaise .valueError (Document.loads libraries.floats call.payload.dumps) = _
  rw [Document.loads_dumps, call.sortKeys_payload]
  rfl

theorem item_payload (φ : Type) (call : IssueCall) :
    item (call.readMembers : List (Text × Document φ)) "aud" =
        .ok (.str call.service.audience.normalize) ∧
      item (call.readMembers : List (Text × Document φ)) "cap" =
        .ok (.arr (Document.normalizeItems
          (((call.capabilities.image Capability.value).sort (· ≤ ·)).map .str))) ∧
      item (call.readMembers : List (Text × Document φ)) "exp" =
        .ok (.int (truncate call.expiry)) ∧
      item (call.readMembers : List (Text × Document φ)) "iat" =
        .ok (.int (truncate call.issuedAt.timestamp)) ∧
      item (call.readMembers : List (Text × Document φ)) "sub" =
        .ok (.str call.subject.normalize) :=
  ⟨rfl, rfl, rfl, rfl, rfl⟩

/-- What a token of this call claims. -/
def IssueCall.claims : CapabilityClaims φ where
  subject := .str call.subject.normalize
  audience := .str call.service.audience.normalize
  capabilities := call.capabilities
  issuedAt := truncate call.issuedAt.timestamp
  expiresAt := truncate call.expiry

/-- A payload that was issued gives its claims where they are asked for, and no others. -/
theorem readClaims_encoded (service : CapabilityTokenService) (required : Capability)
    (now : Option Moment) (utcnow : ℚ≥0) :
    service.readClaims libraries required now utcnow call.encoded =
      if (now.getD ⟨utcnow, true⟩).aware = true ∧
          call.service.audience.normalize = service.audience ∧ required ∈ call.capabilities ∧
          truncate (now.getD ⟨utcnow, true⟩).timestamp < truncate call.expiry then
        .ok call.claims
      else .error .capabilityTokenError := by
  obtain ⟨haud, hcap, hexp, hiat, hsub⟩ := item_payload φ call
  have hone : isOne libraries
      (Document.get? (call.readMembers : List (Text × Document φ)) (Text.ofString "v")) = true :=
    rfl
  have htext : isText service.audience
      (.str call.service.audience.normalize : Document φ) =
        decide (call.service.audience.normalize = service.audience) := rfl
  have hleast : atLeast libraries (truncate (now.getD ⟨utcnow, true⟩).timestamp)
      (.int (truncate call.expiry)) =
        .ok (decide (truncate call.expiry ≤ truncate (now.getD ⟨utcnow, true⟩).timestamp)) := rfl
  simp only [CapabilityTokenService.readClaims, IssueCall.encoded, decode_encode, orRaise,
    loads_payload, members, haud, hcap, hexp, hiat, hsub, hone, htext, hleast, iterate,
    capabilitiesOf_sorted, bind, Except.bind]
  by_cases haware : (now.getD ⟨utcnow, true⟩).aware = true
  · by_cases haudience : call.service.audience.normalize = service.audience
    · by_cases hrequired : required ∈ call.capabilities
      · by_cases htime : truncate (now.getD ⟨utcnow, true⟩).timestamp < truncate call.expiry
        · have hnot : ¬truncate call.expiry ≤ truncate (now.getD ⟨utcnow, true⟩).timestamp :=
            not_le.mpr htime
          rw [if_pos ⟨haware, haudience, hrequired, htime⟩]
          simp only [haware, haudience, hrequired, hnot, reject]
          simp [IssueCall.claims, fromtimestamp, haudience]
          rfl
        · have hle := not_lt.mp htime
          rw [if_neg fun h => htime h.2.2.2]
          simp [haware, haudience, hrequired, hle, reject]
      · rw [if_neg fun h => hrequired h.2.2.1]
        simp [haware, haudience, hrequired, reject]
    · rw [if_neg fun h => haudience h.2.1]
      simp [haware, haudience, reject]
  · rw [if_neg fun h => haware h.1]
    simp [haware, reject]

end

/-! ## Soundness and completeness -/

theorem truncate_of_nonneg {timestamp : ℚ} (h : 0 ≤ timestamp) : truncate timestamp = ⌊timestamp⌋ :=
  if_pos h

section

variable (digest : List Byte → List Byte → List Byte)

/-- The call of `issue` signed the message with the secret. -/
def IssueCall.Signed (call : IssueCall) (secret message : List Byte) : Prop :=
  call.service.secret = secret ∧ call.message = message ∧ ∃ token, call.issue digest = .ok token

/-- The signature of the token is the code of its message only if one of the calls
signed that message with the secret of the service. -/
def Unforgeable (calls : Set IssueCall) (service : CapabilityTokenService) (token : Text) : Prop :=
  ∀ encoded message, split token = some (encoded, signature digest service.secret message) →
    encoded.encodeAscii? = some message → ∃ call ∈ calls, call.Signed digest service.secret message

variable {digest} {call : IssueCall} {token : Text}

theorem issue_eq_ok (h : call.issue digest = .ok token) :
    0 < call.ttl ∧
      token = call.encoded ++ dot :: signature digest call.service.secret call.message := by
  unfold IssueCall.issue at h
  split_ifs at h with hempty httl haware
  cases h
  exact ⟨not_le.mp httl, rfl⟩

/-- Both parts of an issued token are found again. -/
theorem split_issued (h : call.issue digest = .ok token) :
    split token =
      some (call.encoded, signature digest call.service.secret call.message) := by
  rw [(issue_eq_ok h).2]
  exact split_append (fun c hc => ne_dot_of_mem_encode hc) _

theorem encodeAscii?_encoded : call.encoded.encodeAscii? = some call.message :=
  encodeAscii?_encode _

theorem signature_isAscii (secret message : List Byte) :
    (signature digest secret message).encodeAscii?.isSome = true := by
  rw [signature, encodeAscii?_encode]
  rfl

namespace CapabilityTokenService

variable (service : CapabilityTokenService)

theorem checkSignature_signed {encoded : Text} {message : List Byte}
    (hsplit : split token = some (encoded, signature digest service.secret message))
    (hmessage : encoded.encodeAscii? = some message) :
    service.checkSignature digest token = .ok encoded := by
  simp [checkSignature, hsplit, hmessage, orRaise, compareDigest, signature_isAscii, bind,
    Except.bind]

/-- Without the right signature there is an error that `verify` turns into its own. -/
theorem checkSignature_cases :
    (∃ encoded message,
      split token = some (encoded, signature digest service.secret message) ∧
        encoded.encodeAscii? = some message) ∨
      service.checkSignature digest token = .error .valueError ∨
      service.checkSignature digest token = .error .typeError ∨
      service.checkSignature digest token = .error .capabilityTokenError := by
  unfold checkSignature
  cases hsplit : split token with
  | none => exact Or.inr (Or.inl rfl)
  | some parts =>
      obtain ⟨encoded, supplied⟩ := parts
      cases hmessage : encoded.encodeAscii? with
      | none =>
          right
          left
          simp [orRaise, hmessage, bind, Except.bind]
      | some message =>
          by_cases hsupplied : supplied.encodeAscii?.isSome = true
          · by_cases hequal : supplied = signature digest service.secret message
            · exact Or.inl ⟨encoded, message, by rw [hequal], hmessage⟩
            · right
              right
              right
              simp [orRaise, hmessage, bind, Except.bind, compareDigest, hsupplied, hequal,
                signature_isAscii]
          · right
            right
            left
            simp [orRaise, hmessage, bind, Except.bind, compareDigest, hsupplied]

variable (libraries : Libraries φ) {required : Capability} {now : Option Moment} {utcnow : ℚ≥0}

/-- A token that was issued under the secret of the service. -/
theorem verify_issued (h : call.issue digest = .ok token)
    (hsecret : call.service.secret = service.secret) :
    service.verify digest libraries token required now utcnow =
      if (now.getD ⟨utcnow, true⟩).aware = true ∧
          call.service.audience.normalize = service.audience ∧ required ∈ call.capabilities ∧
          truncate (now.getD ⟨utcnow, true⟩).timestamp < truncate call.expiry then
        .ok call.claims
      else .error .capabilityTokenError := by
  have hsplit := split_issued h
  rw [hsecret] at hsplit
  rw [verify, service.checkSignature_signed hsplit encodeAscii?_encoded]
  dsimp only [Except.bind]
  rw [readClaims_encoded]
  split_ifs <;> rfl

/-- Any other token is refused. -/
theorem verify_eq_error_or_issued {calls : Set IssueCall}
    (h : Unforgeable digest calls service token) :
    service.verify digest libraries token required now utcnow = .error .capabilityTokenError ∨
      ∃ call ∈ calls, call.issue digest = .ok token ∧ call.service.secret = service.secret := by
  rcases service.checkSignature_cases with ⟨encoded, message, hsplit, hmessage⟩ | herror
  · right
    obtain ⟨call, hcall, hsecret, rfl, token', hissue⟩ := h encoded message hsplit hmessage
    have hencoded : encoded = call.encoded := by
      rw [← Text.ofAscii_of_encodeAscii? hmessage,
        ← Text.ofAscii_of_encodeAscii? encodeAscii?_encoded]
    have htoken : token' = token := by
      rw [(issue_eq_ok hissue).2, eq_append_of_split hsplit, hencoded, hsecret]
    exact ⟨call, hcall, htoken ▸ hissue, hsecret⟩
  · left
    rcases herror with herror | herror | herror
    · rw [verify, herror]
      rfl
    · rw [verify, herror]
      rfl
    · rw [verify, herror]
      rfl

end CapabilityTokenService

end

/-- A token with the code of an issued payload meets the assumption. -/
theorem unforgeable_issued {digest : List Byte → List Byte → List Byte} {call : IssueCall}
    {token : Text} (h : call.issue digest = .ok token) :
    Unforgeable digest {call} call.service token := by
  intro encoded message hsplit hmessage
  rw [split_issued h, Option.some.injEq, Prod.mk.injEq] at hsplit
  obtain ⟨rfl, -⟩ := hsplit
  obtain rfl := Option.some.inj (encodeAscii?_encoded.symm.trans hmessage)
  exact ⟨call, rfl, rfl, rfl, token, h⟩

/-- `verify` gives claims for exactly the tokens that were issued under its secret, to its
audience, with the capability, and whose second of expiry has not begun; every other token
is a `CapabilityTokenError`. Subject and audience are compared and returned as the JSON
reader returns them, which is as they are if they have no surrogate pair. -/
theorem verify_iff_issued (digest : List Byte → List Byte → List Byte) (libraries : Libraries φ)
    (calls : Set IssueCall) (service : CapabilityTokenService) (token : Text)
    (required : Capability) (now : Option Moment) (utcnow : ℚ≥0)
    (haware : (now.getD ⟨utcnow, true⟩).aware = true)
    (hunforgeable : Unforgeable digest calls service token) :
    ((∃ claims, service.verify digest libraries token required now utcnow = .ok claims) ∨
      service.verify digest libraries token required now utcnow = .error .capabilityTokenError) ∧
    (∀ claims, service.verify digest libraries token required now utcnow = .ok claims ↔
      ∃ call ∈ calls, call.issue digest = .ok token ∧ call.service.secret = service.secret ∧
        call.service.audience.normalize = service.audience ∧ required ∈ call.capabilities ∧
        ⌊((now.getD ⟨utcnow, true⟩).timestamp : ℚ)⌋ < ⌊call.expiry⌋ ∧
        claims.subject = .str call.subject.normalize ∧
        claims.audience = .str service.audience ∧
        claims.capabilities = call.capabilities ∧
        claims.issuedAt = ⌊(call.issuedAt.timestamp : ℚ)⌋ ∧ claims.expiresAt = ⌊call.expiry⌋) ∧
    (∀ call : IssueCall, call.issue digest = .ok token →
      call.service.secret = service.secret →
        call.expiry ≤ (now.getD ⟨utcnow, true⟩).timestamp →
          service.verify digest libraries token required now utcnow =
            .error .capabilityTokenError) ∧
    ∀ text : Text, text.PairFree → text.normalize = text := by
  have hnow : truncate (now.getD ⟨utcnow, true⟩).timestamp =
      ⌊((now.getD ⟨utcnow, true⟩).timestamp : ℚ)⌋ := truncate_of_nonneg (NNRat.cast_nonneg _)
  have hexpiry : ∀ call : IssueCall, call.issue digest = .ok token →
      truncate call.expiry = ⌊call.expiry⌋ := by
    intro call hissue
    apply truncate_of_nonneg
    exact add_nonneg (NNRat.cast_nonneg _) (le_of_lt (issue_eq_ok hissue).1)
  have hissued : ∀ call : IssueCall, truncate call.issuedAt.timestamp =
      ⌊(call.issuedAt.timestamp : ℚ)⌋ := fun call => truncate_of_nonneg (NNRat.cast_nonneg _)
  refine ⟨?_, ?_, ?_, fun text htext => Text.normalize_of_pairFree htext⟩
  · rcases service.verify_eq_error_or_issued libraries hunforgeable with
      herror | ⟨call, -, hissue, hsecret⟩
    · exact Or.inr herror
    · rw [service.verify_issued libraries hissue hsecret]
      split_ifs
      · exact Or.inl ⟨_, rfl⟩
      · exact Or.inr rfl
  · intro claims
    constructor
    · intro hclaims
      rcases service.verify_eq_error_or_issued libraries hunforgeable with
        herror | ⟨call, hcall, hissue, hsecret⟩
      · rw [herror] at hclaims
        cases hclaims
      · rw [service.verify_issued libraries hissue hsecret] at hclaims
        split_ifs at hclaims with hgrant
        obtain ⟨-, haudience, hrequired, htime⟩ := hgrant
        cases hclaims
        rw [hnow, hexpiry call hissue] at htime
        refine ⟨call, hcall, hissue, hsecret, haudience, hrequired, htime, rfl, ?_, rfl, ?_, ?_⟩
        · rw [← haudience]
          rfl
        · rw [← hissued]
          rfl
        · rw [← hexpiry call hissue]
          rfl
    · rintro ⟨call, -, hissue, hsecret, haudience, hrequired, htime, hsubject, haud, hcap, hiat,
        hexp⟩
      rw [← hnow, ← hexpiry call hissue] at htime
      rw [service.verify_issued libraries hissue hsecret,
        if_pos ⟨haware, haudience, hrequired, htime⟩]
      rw [← haudience] at haud
      rw [← hissued] at hiat
      rw [← hexpiry call hissue] at hexp
      obtain ⟨subject, audience, capabilities, issuedAt, expiresAt⟩ := claims
      cases hsubject
      cases haud
      cases hcap
      cases hiat
      cases hexp
      rfl
  · intro call hissue hsecret hlate
    have hfloor : ⌊call.expiry⌋ ≤ ⌊((now.getD ⟨utcnow, true⟩).timestamp : ℚ)⌋ :=
      Int.floor_mono hlate
    rw [service.verify_issued libraries hissue hsecret, hnow, hexpiry call hissue,
      if_neg fun h => absurd h.2.2.2 (not_lt.mpr hfloor)]

/-! ## Two calls -/

namespace Demo

def service : CapabilityTokenService :=
  ⟨List.replicate 32 Base64.pad, Text.ofString "cultureshift-api", by decide, by decide⟩

/-- A code of the message that shows the secret. -/
def digest (secret message : List Byte) : List Byte := secret ++ message

/-- No number but an integer is told from another. -/
def libraries : Libraries Unit where
  floats := ⟨fun _ _ _ => (), (), (), ()⟩
  eqInt _ _ := false
  leInt _ _ := true
  fromtimestamp _ := .error .valueError
  loads _ := .error .valueError

/-- A call for five minutes. -/
def issueCall (subject : Text) : IssueCall where
  service := service
  subject := subject
  capabilities := {.readProjectRun}
  ttl := 300
  now := some ⟨1767225600, true⟩
  utcnow := 0

def token (subject : Text) : Text :=
  (issueCall subject).encoded ++ dot ::
    signature digest service.secret (issueCall subject).message

/-- A minute later. -/
def laterTime : ℚ≥0 := 1767225660

def later : Option Moment := some ⟨laterTime, true⟩

theorem issue_issueCall {subject : Text} (h : subject ≠ []) :
    (issueCall subject).issue digest = .ok (token subject) := by
  have hcap : (issueCall subject).capabilities ≠ ∅ := Finset.singleton_ne_empty _
  have httl : ¬(issueCall subject).ttl ≤ 0 := by
    show ¬(300 : ℚ) ≤ 0
    norm_num
  have hsubject : ¬((issueCall subject).subject = [] ∨ (issueCall subject).capabilities = ∅) :=
    not_or.mpr ⟨h, hcap⟩
  rw [IssueCall.issue, if_neg hsubject, if_neg httl, if_neg Bool.noConfusion]
  rfl

/-- The first moment lies before the expiry, in whole seconds. -/
theorem later_lt_expiry (subject : Text) :
    ⌊((later.getD ⟨0, true⟩).timestamp : ℚ)⌋ < ⌊(issueCall subject).expiry⌋ := by
  have hlater : ((later.getD ⟨0, true⟩).timestamp : ℚ) = ((1767225660 : ℤ) : ℚ) := by
    norm_num [later, laterTime]
  have hexpiry : (issueCall subject).expiry = ((1767225900 : ℤ) : ℚ) := by
    simp only [IssueCall.expiry, IssueCall.issuedAt, issueCall, Option.getD_some]
    norm_num
  rw [hlater, hexpiry, Int.floor_intCast, Int.floor_intCast]
  decide

end Demo

/-- A subject without surrogates comes back. -/
theorem verify_run123 :
    ∃ claims : CapabilityClaims Unit,
      Demo.service.verify Demo.digest Demo.libraries (Demo.token (Text.ofString "run-123"))
          .readProjectRun Demo.later 0 = .ok claims ∧
        claims.subject = .str (Text.ofString "run-123") := by
  have hissue := Demo.issue_issueCall (by decide : Text.ofString "run-123" ≠ [])
  obtain ⟨-, hiff, -, hnormal⟩ := verify_iff_issued Demo.digest Demo.libraries
    {Demo.issueCall (Text.ofString "run-123")} Demo.service (Demo.token (Text.ofString "run-123"))
    .readProjectRun Demo.later 0 rfl (unforgeable_issued hissue)
  refine ⟨⟨.str (Text.ofString "run-123").normalize, .str Demo.service.audience,
    {.readProjectRun}, ⌊((1767225600 : ℚ≥0) : ℚ)⌋,
    ⌊(Demo.issueCall (Text.ofString "run-123")).expiry⌋⟩, ?_,
    congrArg Document.str (hnormal _ (by decide))⟩
  rw [hiff]
  exact ⟨_, rfl, hissue, rfl, hnormal _ (by decide), Finset.mem_singleton_self _,
    Demo.later_lt_expiry _, rfl, rfl, rfl, rfl, rfl⟩

/-- A subject of two surrogates that are a pair comes back as one character. -/
theorem not_subject_preserved :
    ¬∀ (digest : List Byte → List Byte → List Byte) (call : IssueCall) (token : Text)
      (required : Capability) (now : Option Moment) (claims : CapabilityClaims Unit),
      Unforgeable digest {call} call.service token → call.issue digest = .ok token →
        (now.getD ⟨0, true⟩).aware = true →
          call.service.verify digest Demo.libraries token required now 0 = .ok claims →
            claims.subject = .str call.subject := by
  intro hclaim
  have hissue := Demo.issue_issueCall (by decide : ([0xD83D, 0xDE00] : Text) ≠ [])
  have haudience : Demo.service.audience.normalize = Demo.service.audience :=
    Text.normalize_of_pairFree (by decide)
  have hnow : truncate ((Demo.later.getD ⟨0, true⟩).timestamp) <
      truncate (Demo.issueCall [0xD83D, 0xDE00]).expiry := by
    have hexpiry : 0 ≤ (Demo.issueCall [0xD83D, 0xDE00]).expiry :=
      add_nonneg (NNRat.cast_nonneg _) (le_of_lt (issue_eq_ok hissue).1)
    rw [truncate_of_nonneg (NNRat.cast_nonneg _), truncate_of_nonneg hexpiry]
    exact Demo.later_lt_expiry _
  have hverify : Demo.service.verify Demo.digest Demo.libraries (Demo.token [0xD83D, 0xDE00])
      .readProjectRun Demo.later 0 = _ := Demo.service.verify_issued Demo.libraries hissue rfl
  rw [if_pos ⟨rfl, haudience, Finset.mem_singleton_self _, hnow⟩] at hverify
  have heq := hclaim Demo.digest (Demo.issueCall [0xD83D, 0xDE00]) _ .readProjectRun Demo.later _
    (unforgeable_issued hissue) hissue rfl hverify
  injection heq with heq
  exact absurd heq (by decide)

end CapabilityTokens

end CultureShift
