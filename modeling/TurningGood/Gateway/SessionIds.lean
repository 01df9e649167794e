import TurningGood.Foundation.PrefixCodes
import TurningGood.Foundation.Fallible
import TurningGood.Foundation.Utf8

/-!
# Session ids of routes

`derive_session_id` hashes the principal, the channel and the conversation of
a route, each behind its length in eight bytes.  The length tells where a part
ends, whatever the part contains, so that the hashed bytes name one route.

The hash function is a parameter.
-/

namespace TurningGood.Gateway

open TurningGood.Foundation

variable {value principalId channel conversationId : CodePoints}

/-- What `derive_session_id` raises. -/
inductive DerivationError where
  | valueError (message : String)
  /-- a part has lone surrogates -/
  | unicodeEncodeError
  /-- the length of a part does not fit into eight bytes -/
  | overflowError
  deriving DecidableEq, Repr

/-- `_DOMAIN_SEPARATOR`. -/
def domainSeparator : List UInt8 := Utf8.encodeChars ("tga-gateway-session-v1".toList ++ ['\x00'])

/-- `_encode_part`. -/
def encodePart (value : CodePoints) :
    Except DerivationError (List UInt8) :=
  match Utf8.encode? value with
  | none => .error .unicodeEncodeError
  | some encoded =>
    if encoded.length < 256 ^ 8 then
      .ok (bigEndian 8 encoded.length ++ encoded)
    else
      .error .overflowError

/-- The bytes that `derive_session_id` hashes. -/
def sessionPayload (principalId channel conversationId : CodePoints) :
    Except DerivationError (List UInt8) :=
  let parts := [principalId, channel, conversationId]
  if parts.all fun part => !part.isEmpty then do
    let encoded ← parts.mapM encodePart
    return domainSeparator ++ encoded.flatten
  else
    .error (.valueError "principal_id、channel 和 conversation_id 必须是非空字符串")

/-- `derive_session_id`, with the digest of its payload. -/
def deriveSessionId (sha256 : List UInt8 → String)
    (principalId channel conversationId : CodePoints) :
    Except DerivationError String :=
  (sessionPayload principalId channel conversationId).map sha256

theorem encode?_injective {first second : CodePoints} {bytes : List UInt8}
    (one : Utf8.encode? first = some bytes)
    (two : Utf8.encode? second = some bytes) : first = second := by
  rcases Option.map_eq_some_iff.mp one with ⟨chars, scalars, rfl⟩
  rcases Option.map_eq_some_iff.mp two with ⟨others, found, same⟩
  cases Utf8.encodeChars_injective same
  rw [← Utf8.textOf_of_scalars? scalars, Utf8.textOf_of_scalars? found]

theorem encodePart_eq_ok {text : List UInt8} : encodePart value = .ok text ↔
      ∃ encoded, Utf8.encode? value = some encoded ∧ encoded.length < 256 ^ 8 ∧
        text = bigEndian 8 encoded.length ++ encoded := by
  unfold encodePart
  constructor
  · intro written
    split at written
    · cases written
    · next encoded found =>
        split_ifs at written with fits
        cases written
        exact ⟨encoded, found, fits, rfl⟩
  · rintro ⟨encoded, found, fits, rfl⟩
    simp only [found, if_pos fits]

theorem lengths_prefixCode : PrefixCode fun (size : Nat) text =>
      size < 256 ^ 8 ∧ text = bigEndian 8 size := by
  apply PrefixCode.of_length
  · rintro size text ⟨-, rfl⟩
    exact length_bigEndian 8 size
  · rintro first second text ⟨firstFits, one⟩ ⟨secondFits, two⟩
    exact bigEndian_injective firstFits secondFits (one.symm.trans two)

theorem parts_prefixCode :
    PrefixCode fun value text => encodePart value = .ok text := by
  have framed := lengths_prefixCode.framed (Function.injective_id :
    Function.Injective (id : List UInt8 → List UInt8))
  intro first second one two rest others wroteOne wroteTwo same
  rcases encodePart_eq_ok.mp wroteOne with ⟨encoded, found, fits, rfl⟩
  rcases encodePart_eq_ok.mp wroteTwo with ⟨other, there, alsoFits, rfl⟩
  have sameBytes := framed encoded other _ _ rest others
    ⟨_, ⟨fits, rfl⟩, rfl⟩ ⟨_, ⟨alsoFits, rfl⟩, rfl⟩ same
  rcases sameBytes with ⟨rfl, sameRest⟩
  exact ⟨encode?_injective found there, sameRest⟩

theorem forall₂_of_mapM {parts : List CodePoints}
    {encoded : List (List UInt8)}
    (written : parts.mapM encodePart = .ok encoded) :
    List.Forall₂ (fun value text => encodePart value = .ok text) parts
      encoded := by
  induction parts generalizing encoded with
  | nil =>
    cases written
    exact .nil
  | cons part rest induction =>
    rw [List.mapM_cons] at written
    rcases bind_eq_ok.mp written with ⟨text, wrote, written⟩
    rcases bind_eq_ok.mp written with ⟨texts, later, same⟩
    cases same
    exact .cons wrote (induction later)

/-! ## Payloads -/

theorem sessionPayload_eq_ok {payload : List UInt8}
    (derived : sessionPayload principalId channel conversationId =
      .ok payload) :
    ∃ encoded, List.Forall₂ (fun value text => encodePart value = .ok text)
          [principalId, channel, conversationId] encoded ∧
        payload = domainSeparator ++ encoded.flatten := by
  unfold sessionPayload at derived
  dsimp only at derived
  split_ifs at derived
  rcases bind_eq_ok.mp derived with ⟨encoded, written, same⟩
  cases same
  exact ⟨encoded, forall₂_of_mapM written, rfl⟩

/-- A text whose encoding has a length of eight bytes. -/
def FitsPart (value : CodePoints) : Prop := value ≠ [] ∧
    ∃ encoded, Utf8.encode? value = some encoded ∧ encoded.length < 2 ^ 64

theorem FitsPart.encodePart (fits : FitsPart value) : ∃ text, encodePart value = .ok text := by
  rcases fits.2 with ⟨encoded, found, short⟩
  exact ⟨_, encodePart_eq_ok.mpr ⟨encoded, found, short, rfl⟩⟩

theorem FitsPart.nonempty (fits : FitsPart value) : (!value.isEmpty) = true := by
  cases value with
  | nil => exact absurd rfl fits.1
  | cons first rest => rfl

theorem exists_sessionPayload (principalFits : FitsPart principalId)
    (channelFits : FitsPart channel)
    (conversationFits : FitsPart conversationId) :
    ∃ payload,
      sessionPayload principalId channel conversationId = .ok payload := by
  rcases principalFits.encodePart with ⟨first, wroteFirst⟩
  rcases channelFits.encodePart with ⟨second, wroteSecond⟩
  rcases conversationFits.encodePart with ⟨third, wroteThird⟩
  refine ⟨domainSeparator ++ [first, second, third].flatten, ?_⟩
  simp only [sessionPayload, List.all_cons, List.all_nil,
    principalFits.nonempty, channelFits.nonempty, conversationFits.nonempty,
    Bool.and_self, if_true, List.mapM_cons, List.mapM_nil, wroteFirst,
    wroteSecond, wroteThird]
  rfl

theorem sessionPayload_injective
    {otherPrincipal otherChannel otherConversation : CodePoints}
    {payload : List UInt8}
    (one : sessionPayload principalId channel conversationId = .ok payload)
    (two : sessionPayload otherPrincipal otherChannel otherConversation = .ok payload) :
    principalId = otherPrincipal ∧ channel = otherChannel ∧
      conversationId = otherConversation := by
  rcases sessionPayload_eq_ok one with ⟨encoded, wroteOne, rfl⟩
  rcases sessionPayload_eq_ok two with ⟨others, wroteTwo, same⟩
  have parts := parts_prefixCode.flatten wroteOne wroteTwo rfl
    (List.append_cancel_left same)
  cases parts
  exact ⟨rfl, rfl, rfl⟩

/--
The bytes that are hashed name the route: every route has some, no other route
has the same, and two routes with one session id have two payloads with one
digest.
-/
theorem sessionIds_unambiguous (sha256 : List UInt8 → String) :
    (∀ principalId channel conversationId,
      FitsPart principalId → FitsPart channel → FitsPart conversationId →
        ∃ payload, sessionPayload principalId channel conversationId =
            .ok payload) ∧
    (∀ principalId channel conversationId otherPrincipal otherChannel
        otherConversation payload,
      sessionPayload principalId channel conversationId = .ok payload →
        sessionPayload otherPrincipal otherChannel otherConversation = .ok payload →
        (principalId, channel, conversationId) =
          (otherPrincipal, otherChannel, otherConversation)) ∧
    ∀ principalId channel conversationId otherPrincipal otherChannel
        otherConversation sessionId,
      deriveSessionId sha256 principalId channel conversationId =
          .ok sessionId →
        deriveSessionId sha256 otherPrincipal otherChannel otherConversation = .ok sessionId →
        (principalId, channel, conversationId) =
            (otherPrincipal, otherChannel, otherConversation) ∨
          ∃ payload other, payload ≠ other ∧ sha256 payload = sha256 other ∧
            sessionPayload principalId channel conversationId =
              .ok payload ∧
            sessionPayload otherPrincipal otherChannel otherConversation =
              .ok other := by
  have injective : ∀ principalId channel conversationId otherPrincipal
      otherChannel otherConversation payload,
      sessionPayload principalId channel conversationId = .ok payload →
        sessionPayload otherPrincipal otherChannel otherConversation = .ok payload →
        (principalId, channel, conversationId) =
          (otherPrincipal, otherChannel, otherConversation) := by
    intro _ _ _ _ _ _ payload one two
    rcases sessionPayload_injective one two with ⟨rfl, rfl, rfl⟩
    rfl
  refine ⟨?_, injective, ?_⟩
  · intro _ _ _ principalFits channelFits conversationFits
    exact exists_sessionPayload principalFits channelFits conversationFits
  · intro principalId channel conversationId otherPrincipal otherChannel
      otherConversation sessionId one two
    rcases map_eq_ok.mp one with ⟨payload, found, rfl⟩
    rcases map_eq_ok.mp two with ⟨other, there, digests⟩
    by_cases same : payload = other
    · subst same
      exact .inl (injective _ _ _ _ _ _ payload found there)
    · exact .inr ⟨payload, other, same, digests.symm, found, there⟩

/-- Moving a character from one part to the next changes the payload. -/
theorem sessionIds_unambiguous_moved :
    sessionPayload (textOf ['a', 'b']) (textOf ['c']) (textOf ['d']) ≠
      sessionPayload (textOf ['a']) (textOf ['b', 'c']) (textOf ['d']) := by
  intro same
  have routes := (sessionIds_unambiguous fun _ => "").2.1 _ _ _ _ _ _ _
    (rfl : sessionPayload (textOf ['a', 'b']) (textOf ['c'])
      (textOf ['d']) = .ok _) (same.symm.trans rfl)
  exact absurd routes (by decide)

end TurningGood.Gateway
