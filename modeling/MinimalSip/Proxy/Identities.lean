import MinimalSip.Proxy.SipProxy
import MinimalSip.Proxy.RegistrationHistory

/-!
# One user, one identity

The grammar notes show three ways to write a user in a From or To header:
with a display name, in brackets, and bare; parameters may follow.  Three
copies of one search read the identity back: the router's, the register
handler's, and the check that the proxy makes before it routes an INVITE.
They look for the first `sip:` and the next `>`, so a display name that
itself mentions `sip:` and the parameters of a bare address get in the way.
-/

namespace MinimalSip.Proxy

open MinimalSip.Lib.Cpp
open MinimalSip.Lib.Search
open MinimalSip.Common
open MinimalSip.Common.SIPMessage
open MinimalSip.Proxy.SIPRouter

/-! ## Addresses -/

/-- The characters that delimit an address inside a header value. -/
def addressDelimiters : CppString :=
  ['<', '>', ';', '"', ' ', '\t']

/-- A user of a domain, written without delimiters. -/
structure SipUser where
  user : CppString
  domain : CppString
  userPlain : ∀ char ∈ user, char ∉ addressDelimiters
  domainPlain : ∀ char ∈ domain, char ∉ addressDelimiters

/-- The ways to write an address in a From or To header. -/
inductive AddressForm where
  | named (display : CppString)
  | bracketed
  | bare

namespace SipUser

def identity (user : SipUser) : CppString :=
  user.user ++ "@".toList ++ user.domain

theorem identity_nonempty (user : SipUser) : user.identity ≠ [] := by
  unfold identity
  simp

theorem not_mem_identity
    (user : SipUser) {char : Char} (delimits : char ∈ addressDelimiters)
    (notAt : char ≠ '@') :
    char ∉ user.identity := by
  intro member
  simp only [identity, List.mem_append] at member
  rcases member with (inUser | inAt) | inDomain
  · exact user.userPlain char inUser delimits
  · exact notAt (List.mem_singleton.mp inAt)
  · exact user.domainPlain char inDomain delimits

theorem noClose (user : SipUser) : '>' ∉ user.identity :=
  user.not_mem_identity (by decide) (by decide)

theorem noBlank (user : SipUser) : ' ' ∉ user.identity :=
  user.not_mem_identity (by decide) (by decide)

end SipUser

/-- `;name=value` for each parameter. -/
def writeParameters (parameters : List CppString) : CppString :=
  parameters.flatMap (fun parameter => ';' :: parameter)

namespace AddressForm

/-- The header value that names a user in this form. -/
def write
    (form : AddressForm) (user : SipUser) (parameters : List CppString) :
    CppString :=
  match form with
  | named display =>
      display ++ " <sip:".toList ++ user.identity ++ ">".toList ++
        writeParameters parameters
  | bracketed =>
      "<sip:".toList ++ user.identity ++ ">".toList ++
        writeParameters parameters
  | bare => "sip:".toList ++ user.identity ++ writeParameters parameters

/--
The header values out of which the user can be read.  A display name must not
mention `sip:`, unless what follows there spells the user as well; a bare
address must not have parameters.
-/
def Readable
    (form : AddressForm) (user : SipUser) (parameters : List CppString) :
    Prop :=
  match form with
  | named display => ∀ position ∈ find "sip:" display,
      user.identity ++ ">".toList <+: display.drop (position + 4)
  | bracketed => True
  | bare => parameters = []

instance
    (form : AddressForm) (user : SipUser) (parameters : List CppString) :
    Decidable (form.Readable user parameters) :=
  match form with
  | named display =>
      inferInstanceAs (Decidable (∀ position ∈ find "sip:" display,
        user.identity ++ ">".toList <+: display.drop (position + 4)))
  | bracketed => inferInstanceAs (Decidable True)
  | bare => inferInstanceAs (Decidable (parameters = []))

end AddressForm

/-! ## Reading an identity back -/

/-- A display name is skipped unless it mentions `sip:` itself. -/
theorem sipIdentity_display (display after : CppString) :
    sipIdentity (display ++ ' ' :: '<' :: ("sip:".toList ++ after)) =
      match find "sip:" display with
      | none => sipIdentity ('<' :: ("sip:".toList ++ after))
      | some position =>
          (display.drop (position + 4) ++
            ' ' :: '<' :: ("sip:".toList ++ after)).takeWhile
              (fun char => char ≠ '>') := by
  have separated : ' ' ∉ "sip:".toList := by decide
  unfold sipIdentity
  rw [find_append_cons separated, find_sip_bracket]
  cases found : find "sip:" display with
  | none =>
      have skipped : 1 + (display.length + 1) + 4 =
          display.length + (1 + 1 + 4) := by omega
      simp only [Option.none_or, Option.map_some]
      rw [skipped, List.drop_length_add_append]
      rfl
  | some position =>
      have inside : position + 4 ≤ display.length := find_add_length_le found
      simp only [Option.some_or]
      rw [List.drop_append_of_le_length inside]

/-- What is taken from a mention of `sip:` inside the display name. -/
theorem takeWhile_mention_iff
    {identity : CppString}
    (noClose : '>' ∉ identity)
    (noBlank : ' ' ∉ identity)
    (mention after : CppString) :
    (mention ++ ' ' :: after).takeWhile (fun char => char ≠ '>') = identity ↔
      identity ++ ">".toList <+: mention := by
  constructor
  · intro taken
    by_cases closed : '>' ∈ mention
    · obtain ⟨before, rest, rfl, absent⟩ :=
        List.eq_append_cons_of_mem closed
      rw [List.append_assoc, List.cons_append,
        takeWhile_ne_append_cons absent] at taken
      exact ⟨rest, by rw [taken, List.append_assoc]; rfl⟩
    · rw [takeWhile_ne_append closed] at taken
      exact absurd (taken ▸ by simp) noBlank
  · rintro ⟨rest, rfl⟩
    have shape : identity ++ ">".toList ++ rest ++ ' ' :: after =
        identity ++ '>' :: (rest ++ ' ' :: after) := by
      simp
    rw [shape, takeWhile_ne_append_cons noClose]

/-- The parameters of a bare address are taken into the identity. -/
theorem sipIdentity_bare_iff
    (user : SipUser) (parameters : List CppString) :
    sipIdentity ("sip:".toList ++ user.identity ++
        writeParameters parameters) = user.identity ↔ parameters = [] := by
  have found : find "sip:" ("sip:".toList ++ user.identity ++
      writeParameters parameters) = some 0 := by
    rw [List.append_assoc]
    exact find_of_starts (List.prefix_append _ _)
  have dropped : ("sip:".toList ++ user.identity ++
      writeParameters parameters).drop (0 + 4) =
        user.identity ++ writeParameters parameters := by
    rw [List.append_assoc]
    rfl
  rw [sipIdentity, found]
  dsimp only
  rw [dropped, takeWhile_ne_append user.noClose, List.append_right_eq_self]
  cases parameters with
  | nil => simp [writeParameters]
  | cons first others => simp [writeParameters]

theorem append_nested (before opening identity after : CppString) :
    before ++ opening ++ identity ++ ">".toList ++ after =
      before ++ (opening ++ (identity ++ '>' :: after)) := by
  rw [List.append_assoc, List.append_assoc, List.append_assoc]
  rfl

/-- The identity is read back exactly from the readable header values. -/
theorem sipIdentity_write_iff
    (form : AddressForm) (user : SipUser) (parameters : List CppString) :
    sipIdentity (form.write user parameters) = user.identity ↔
      form.Readable user parameters := by
  cases form with
  | named display =>
      have shape : (AddressForm.named display).write user parameters =
          display ++ ' ' :: '<' :: ("sip:".toList ++ (user.identity ++
            '>' :: writeParameters parameters)) :=
        append_nested display " <sip:".toList user.identity _
      rw [shape, sipIdentity_display]
      cases found : find "sip:" display with
      | none =>
          have readable : (AddressForm.named display).Readable user
              parameters := by
            intro position mention
            rw [found] at mention
            cases mention
          exact iff_of_true (sipIdentity_bracket user.noClose _) readable
      | some position =>
          have readable : (AddressForm.named display).Readable user
              parameters ↔ user.identity ++ ">".toList <+:
                display.drop (position + 4) := by
            constructor
            · intro readable
              exact readable position found
            · intro spelled mention here
              have same : position = mention :=
                Option.some.inj (found.symm.trans here)
              exact same ▸ spelled
          exact (takeWhile_mention_iff user.noClose user.noBlank
            (display.drop (position + 4)) _).trans readable.symm
  | bracketed =>
      have shape : AddressForm.bracketed.write user parameters =
          '<' :: ("sip:".toList ++ (user.identity ++
            '>' :: writeParameters parameters)) :=
        append_nested [] "<sip:".toList user.identity _
      rw [shape, sipIdentity_bracket user.noClose]
      exact iff_of_true rfl trivial
  | bare => exact sipIdentity_bare_iff user parameters

/-! ## Who a header value is for the proxy -/

/-- The check before routing searches for the bracket from `sip:` on. -/
theorem substr_from_sip
    {value : CppString} {position : Nat}
    (found : find "sip:" value = some position) :
    substr value (position + 4)
        ((findAfter ">" value (some position)).map
          (fun close => close - position - 4)) =
      .ok (sipIdentity value) := by
  have inside : position + 4 ≤ value.length := find_add_length_le found
  have fromSip : value.drop position =
      "sip:".toList ++ value.drop (position + 4) := by
    obtain ⟨-, ⟨rest, split⟩, -⟩ := find_spec found
    rw [← List.drop_drop, ← split]
    rfl
  have noClose : '>' ∉ "sip:".toList := by decide
  have close : (findAfter ">" value (some position)).map
      (fun close => close - position - 4) =
        find ['>'] (value.drop (position + 4)) := by
    have start : position ≤ value.length := by omega
    rw [findAfter, findFrom, if_pos start, fromSip,
      show ">".toList = ['>'] from rfl, find_append_of_not_mem noClose]
    cases find ['>'] (value.drop (position + 4)) with
    | none => rfl
    | some inner => simp
  have taken := take_find_singleton '>' (value.drop (position + 4))
  rw [close, sipIdentity, found]
  dsimp only
  rw [← taken]
  cases find ['>'] (value.drop (position + 4)) with
  | none => rw [substr_none inside, Option.getD_none, List.take_length]
  | some inner => rw [substr_some inside, Option.getD_some]

theorem SIPProxy.diagnoseInvite_eq
    {message : SIPMessage}
    (request : message.isRequest = true)
    (method : message.getMethod = "INVITE".toList)
    (contact : message.getHeader "Contact" ≠ [])
    (caller : sipIdentity (message.getHeader "From") ≠ [])
    (router : SIPRouter) :
    SIPProxy.diagnoseInvite router message =
      .ok (router.table.getContact
        (sipIdentity (message.getHeader "From"))) := by
  unfold SIPProxy.diagnoseInvite
  cases found : find "sip:" (message.getHeader "From") with
  | none =>
      rw [sipIdentity, found] at caller
      exact absurd rfl caller
  | some position =>
      simp only [if_pos (And.intro request method), found, if_pos contact,
        substr_from_sip found, ok_bind, pure_eq_ok]

/--
The proxy takes a header value for this user wherever it reads one: as the
key of the table, as either party of a new call, and as the sender of a
request in a call.
-/
structure ResolvesTo (value identity : CppString) : Prop where
  router : SIPRouter.extractSipIdentity value = .ok identity
  registerHandler : RegisterHandler.extractSipIdentity value = .ok identity
  packetCheck : ∀ (router : SIPRouter) (message : SIPMessage),
    message.getHeader "From" = value → message.isRequest = true →
    message.getMethod = "INVITE".toList →
    message.getHeader "Contact" ≠ [] →
      SIPProxy.diagnoseInvite router message =
        .ok (router.table.getContact identity)
  registers : ∀ (config : RouterConfig) (router : SIPRouter)
    (received : Received),
    received.message.getHeader "From" = value → Registers received →
      ∃ result next, step config router received = .ok (result, next) ∧
        next.table = router.table.registerUser identity
          (received.message.getHeader "Contact") received.transport
  caller : ∀ (config : RouterConfig) (router next : SIPRouter)
    (received : Received) (result : RoutingResult),
    received.message.getHeader "From" = value →
    received.method = "INVITE".toList →
    step config router received = .ok (result, next) →
    result.action = .forwardRequest →
      ∃ context, next.callContexts.lookup received.callId = some context ∧
        context.caller = identity
  callee : ∀ (config : RouterConfig) (router next : SIPRouter)
    (received : Received) (result : RoutingResult),
    received.message.getHeader "To" = value →
    received.method = "INVITE".toList →
    step config router received = .ok (result, next) →
    result.action = .forwardRequest →
      ∃ entry context, router.table.lookup identity = some entry ∧
        result.contact = some entry.contact ∧ result.user = identity ∧
        next.callContexts.lookup received.callId = some context ∧
        context.callee = identity
  inCall : ∀ (config : RouterConfig) (router : SIPRouter)
    (received : Received) (context : CallContext),
    received.message.getHeader "From" = value →
    received.method = "ACK".toList ∨ received.method = "BYE".toList →
    router.callContexts.lookup received.callId = some context →
      ∃ next, step config router received =
        .ok (inCallResult config context identity received.message, next)

/-- All of this rests on the identity that is read out of the value. -/
theorem resolvesTo_iff
    {value identity : CppString} (nonempty : identity ≠ []) :
    ResolvesTo value identity ↔ sipIdentity value = identity := by
  constructor
  · intro resolves
    have extracted := resolves.router
    rw [SIPRouter.extractSipIdentity_eq] at extracted
    exact Except.ok.inj extracted
  rintro rfl
  refine
    { router := SIPRouter.extractSipIdentity_eq value
      registerHandler := RegisterHandler.extractSipIdentity_eq value
      packetCheck := ?_
      registers := ?_
      caller := ?_
      callee := ?_
      inCall := ?_ }
  · rintro router message rfl request method contact
    exact SIPProxy.diagnoseInvite_eq request method contact nonempty router
  · rintro config router received rfl accepted
    exact ⟨_, _, step_registers accepted, rfl⟩
  · rintro config router next received result rfl method stepped forwarded
    obtain ⟨entry, address, accepted, -, rfl, rfl⟩ :=
      (outcome_of_step stepped).invite_forwarded method forwarded
    exact ⟨openedContext received entry address, Finmap.lookup_insert _, rfl⟩
  · rintro config router next received result rfl method stepped forwarded
    obtain ⟨entry, address, accepted, -, rfl, rfl⟩ :=
      (outcome_of_step stepped).invite_forwarded method forwarded
    exact ⟨entry, openedContext received entry address, accepted.registered,
      rfl, rfl, Finmap.lookup_insert _, rfl⟩
  · rintro config router received context rfl (ack | bye) held
    · exact ⟨_, step_ack_held ack held⟩
    · exact ⟨_, step_bye_held bye held⟩

/--
However an address is written, the proxy knows its user exactly if the value
is readable: always with brackets, behind a display name unless the name
mentions `sip:`, and bare as long as no parameter follows.
-/
theorem resolvesTo_write_iff
    (form : AddressForm) (user : SipUser) (parameters : List CppString) :
    ResolvesTo (form.write user parameters) user.identity ↔
      form.Readable user parameters :=
  (resolvesTo_iff user.identity_nonempty).trans
    (sipIdentity_write_iff form user parameters)

/-- Alice of the grammar notes. -/
def aliceOfAtlanta : SipUser where
  user := "alice"
  domain := "atlanta.com"
  userPlain := by decide
  domainPlain := by decide

/-- The tag of a bare From becomes part of the identity. -/
theorem extractSipIdentity_tagged_alice :
    AddressForm.bare.write aliceOfAtlanta ["tag=1928301774"] =
      "sip:alice@atlanta.com;tag=1928301774".toList ∧
    SIPRouter.extractSipIdentity "sip:alice@atlanta.com;tag=1928301774" =
      .ok "alice@atlanta.com;tag=1928301774".toList ∧
    aliceOfAtlanta.identity = "alice@atlanta.com".toList ∧
    ¬ ∀ (form : AddressForm) (user : SipUser) (parameters : List CppString),
      ResolvesTo (form.write user parameters) user.identity := by
  refine ⟨by decide, ?_, by decide, ?_⟩
  · rw [SIPRouter.extractSipIdentity_eq]
    exact congrArg _ (by decide)
  · intro claimed
    have resolves := (claimed .bare aliceOfAtlanta ["tag=1928301774"]).router
    rw [SIPRouter.extractSipIdentity_eq] at resolves
    exact absurd (Except.ok.inj resolves) (by decide)

/-- So does the name of a display name that mentions `sip:`. -/
example :
    sipIdentity ((AddressForm.named "Alice (sip:office)").write aliceOfAtlanta
      []) = "office) <sip:alice@atlanta.com".toList := by
  decide

end MinimalSip.Proxy
