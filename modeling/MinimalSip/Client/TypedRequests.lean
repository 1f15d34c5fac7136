import MinimalSip.Client.CallState
import MinimalSip.Client.CliHandler
import MinimalSip.Client.HeaderInjection
import MinimalSip.Client.Notifications

/-!
# What a user can make the client send from the command line

The operands of a command are words, and nothing on the command line sets
extra headers.  So the client behind it only goes through runs of the client
machine on typable events, and every REGISTER and INVITE of such a run is read
by the proxy's parser as a request with the six headers of its frame and
Content-Length, and nothing else.
-/

namespace MinimalSip.Client

open MinimalSip.Lib.Cpp
open MinimalSip.Lib.Machine
open MinimalSip.Lib.Search
open MinimalSip.Common
open MinimalSip.Common.SIPMessage
open MinimalSip.Proxy.SIPParser

/-! ## Requests without extras -/

/-- Reading keeps the names of bare headers. -/
theorem names_filterMap_readHeader
    {headers : List SIPHeader}
    (bare : ∀ header ∈ headers, Bare blanks header.name ∧
      header.name ≠ []) :
    (headers.filterMap readHeader).map SIPHeader.name =
      headers.map SIPHeader.name := by
  induction headers with
  | nil => rfl
  | cons header rest ih =>
      have first := readHeader_of_bare (bare header List.mem_cons_self)
      rw [List.filterMap_cons_some first, List.map_cons, List.map_cons,
        ih (fun other member =>
          bare other (List.mem_cons_of_mem _ member))]

/-- A text that the parser reads as a request without anything added. -/
def ReadAs (method text : CppString) : Prop :=
  ∃ message, parse text = .ok message ∧ message.getMethod = method ∧
    message.headers.map SIPHeader.name =
      frameNames ++ ["Content-Length".toList] ∧
    message.body = []

section Requests

variable {factory : SIPMessageFactory}
  {method fromUser fromDomain toUser toDomain callId : CppString}

theorem baseNames_of_carriesContact (carries : CarriesContact method) :
    baseNames method = frameNames := by
  unfold baseNames
  rw [if_pos (show method = "REGISTER".toList ∨ method = "INVITE".toList
    from carries)]
  rfl

theorem readAs_request
    (carries : CarriesContact method)
    (unbroken : Unbroken factory fromUser fromDomain toUser toDomain
      callId) :
    ReadAs method (SIPMessageFactory.serialize (factory.request method
      fromUser fromDomain toUser toDomain callId [])) := by
  have nonempty : method ≠ [] := by
    rcases carries with rfl | rfl <;> decide
  have methodUnbroken : '\n' ∉ method := by
    rcases carries with rfl | rfl <;> decide
  have known : method ∈ builtMethods := by
    rcases carries with rfl | rfl <;> decide
  obtain ⟨startLine, rfl, parsed⟩ := parse_request nonempty methodUnbroken
    unbroken (factory.build_eq_request nonempty fromUser fromDomain toUser
      toDomain callId [])
  have bare : ∀ header ∈ factory.baseHeaders method fromUser fromDomain
      toUser toDomain callId ++ [⟨"Content-Length", stdToString 0⟩],
      Bare blanks header.name ∧ header.name ≠ [] := by
    intro header member
    have name := List.mem_map_of_mem (f := SIPHeader.name) member
    rw [List.map_append, names_baseHeaders,
      baseNames_of_carriesContact carries] at name
    have checked : ∀ name ∈ frameNames ++ ["Content-Length".toList],
        Bare blanks name ∧ name ≠ [] := by
      decide
    exact checked _ name
  refine ⟨_, parsed, getMethod_of_built known _ _ _, ?_, rfl⟩
  have names := names_filterMap_readHeader bare
  rw [List.map_append, names_baseHeaders,
    baseNames_of_carriesContact carries] at names
  exact names

end Requests

namespace SIPClient

/-! ## The client under typable events -/

/-- An event whose operands are words, or parts of one, without extras. -/
def Typable {ω : Type} : Event ω → Prop
  | .doRegister username domain extraHeaders =>
      Word username ∧ Word domain ∧ extraHeaders = []
  | .doInvite _ fromUser fromDomain toUser toDomain =>
      Solid fromUser ∧ Solid fromDomain ∧ Word toUser ∧ Word toDomain
  | .doBye extraHeaders => extraHeaders = []
  | .setPendingHeaders _ _ => False
  | _ => True

/-- How the proxy reads what the client sends on an event. -/
def ReadFor (event : Event CppString) (text : CppString) : Prop :=
  match event with
  | .doRegister _ _ _ => ReadAs "REGISTER" text
  | .registerWaited => ReadAs "REGISTER" text
  | .doInvite _ _ _ _ _ => ReadAs "INVITE" text
  | _ => True

/-- What typable events keep of a client. -/
structure Spoken (client : SIPClient CppString) : Prop where
  user : Solid client.state.registeredUser
  headers : ∀ method, client.pendingHeaders method = []
  localIp : '\n' ∉ client.factory.localIp
  registering : ∀ registration, client.registration = some registration →
    Solid registration.username ∧ Solid registration.domain ∧
      ReadAs "REGISTER" registration.message

variable {client next : SIPClient CppString}

theorem Spoken.changesCall
    (spoken : Spoken client) (changes : ChangesCall client next) :
    Spoken next where
  user := changes.registeredUser ▸ spoken.user
  headers := fun method => by
    rw [changes.pendingHeaders]
    exact spoken.headers method
  localIp := changes.localIp ▸ spoken.localIp
  registering := changes.registration ▸ spoken.registering

theorem Spoken.setNoHeaders
    (spoken : Spoken client) (method : CppString) :
    Spoken (client.setPendingHeaders method []) :=
  { spoken with
    headers := fun other => by
      unfold setPendingHeaders
      dsimp only
      split_ifs
      · rfl
      · exact spoken.headers other }

theorem Spoken.handleReceive
    (spoken : Spoken client) (data : CppString) :
    Spoken (client.handleReceive data) := by
  obtain ⟨reply, kept⟩ := handleReceive_eq client data
  rw [kept]
  exact { spoken with }

theorem solid_identity
    {username domain : CppString}
    (user : Solid username) (host : Solid domain) :
    Solid (username ++ "@".toList ++ domain) := by
  intro char member
  rcases List.mem_append.mp member with front | back
  · rcases List.mem_append.mp front with inUser | at'
    · exact user char inUser
    · obtain rfl : char = '@' := by simpa using at'
      decide
  · exact host char back

theorem Spoken.doRegister
    {username domain : CppString}
    (spoken : Spoken client) (user : Word username) (host : Word domain) :
    Spoken (client.doRegister username domain []).2 ∧
      ∀ text ∈ (client.doRegister username domain []).1,
        ReadAs "REGISTER" text := by
  unfold SIPClient.doRegister
  cases waiting : client.registration with
  | some registration => exact ⟨spoken, List.forall_mem_nil _⟩
  | none =>
      dsimp only
      have noHeaders := spoken.setNoHeaders "REGISTER"
      have read : ReadAs "REGISTER" (SIPMessageFactory.serialize
          (client.factory.request "REGISTER" username domain username domain
            [] ((client.setPendingHeaders "REGISTER" []).pendingHeaders
              "REGISTER"))) := by
        rw [noHeaders.headers]
        exact readAs_request (Or.inl rfl)
          ⟨spoken.localIp, user.solid.unbroken, host.solid.unbroken,
            user.solid.unbroken, host.solid.unbroken, List.not_mem_nil⟩
      refine ⟨⟨spoken.user, noHeaders.headers, spoken.localIp, ?_⟩,
        List.forall_mem_singleton.mpr read⟩
      rintro registration ⟨⟩
      exact ⟨user.solid, host.solid, read⟩

theorem Spoken.registerWaited (spoken : Spoken client) :
    Spoken client.registerWaited.2 ∧
      ∀ text ∈ client.registerWaited.1, ReadAs "REGISTER" text := by
  unfold SIPClient.registerWaited
  cases waiting : client.registration with
  | none => exact ⟨spoken, List.forall_mem_nil _⟩
  | some registration =>
      obtain ⟨user, host, read⟩ := spoken.registering registration waiting
      dsimp only
      split_ifs
      · refine ⟨{ spoken with registering := ?_ },
          List.forall_mem_singleton.mpr read⟩
        rintro _ ⟨⟩
        exact ⟨user, host, read⟩
      · refine ⟨{ spoken with user := ?_, registering := nofun },
          List.forall_mem_nil _⟩
        dsimp only
        unfold registerOutcome
        split
        · exact spoken.user
        · split_ifs
          · exact solid_identity user host
          · exact spoken.user

theorem newCallId_unbroken
    {factory : SIPMessageFactory} (localIp : '\n' ∉ factory.localIp)
    (drawn : UInt64) : '\n' ∉ factory.newCallId drawn := by
  have number := stdToString_unbroken drawn.toNat
  unfold SIPMessageFactory.newCallId
  simp only [List.mem_append, not_or]
  exact ⟨⟨number, by decide⟩, localIp⟩

theorem Spoken.handleInvite
    {fromUser fromDomain toUser toDomain : CppString}
    (spoken : Spoken client) (drawn : UInt64)
    (user : Solid fromUser) (host : Solid fromDomain)
    (callee : Word toUser) (calleeHost : Word toDomain) :
    ∀ text ∈ (client.handleInvite drawn fromUser fromDomain toUser
      toDomain).1, ReadAs "INVITE" text := by
  unfold SIPClient.handleInvite
  split_ifs
  · exact List.forall_mem_nil _
  · dsimp only
    rw [spoken.headers]
    exact List.forall_mem_singleton.mpr (readAs_request (Or.inr rfl)
      ⟨spoken.localIp, user.unbroken, host.unbroken, callee.solid.unbroken,
        calleeHost.solid.unbroken, newCallId_unbroken spoken.localIp drawn⟩)
  · exact List.forall_mem_nil _

theorem Spoken.step
    {event : Event CppString} {effects : Effects CppString}
    (spoken : Spoken client) (typable : Typable event)
    (stepped : client.step event = .ok (effects, next)) :
    Spoken next ∧ ∀ text ∈ effects.sent, ReadFor event text := by
  cases event with
  | doRegister username domain extraHeaders =>
      obtain ⟨user, host, rfl⟩ := typable
      cases stepped
      exact spoken.doRegister user host
  | registerWaited =>
      cases stepped
      exact spoken.registerWaited
  | doInvite drawn fromUser fromDomain toUser toDomain =>
      obtain ⟨user, host, callee, calleeHost⟩ := typable
      cases stepped
      exact ⟨spoken.changesCall (handleInvite_changesCall client drawn
          fromUser fromDomain toUser toDomain),
        spoken.handleInvite drawn user host callee calleeHost⟩
  | doBye extraHeaders =>
      obtain rfl : extraHeaders = [] := typable
      rw [SIPClient.step] at stepped
      cases handled : (client.setPendingHeaders "BYE" []).handleBye with
      | error thrown =>
          rw [handled] at stepped
          cases stepped
      | ok result =>
          rw [handled] at stepped
          cases stepped
          exact ⟨(spoken.setNoHeaders "BYE").changesCall
            (handleBye_changesCall handled), fun _ _ => trivial⟩
  | doAnswer =>
      cases stepped
      exact ⟨spoken.changesCall (handleAnswer_changesCall client),
        fun _ _ => trivial⟩
  | doReject =>
      cases stepped
      exact ⟨spoken.changesCall (handleReject_changesCall client),
        fun _ _ => trivial⟩
  | setPendingHeaders method headers => cases typable
  | received data =>
      have handled := (onPacketReceived_ok_iff.mp stepped).1
      exact ⟨(spoken.handleReceive data).changesCall
        (onMessage_changesCall handled), fun _ _ => trivial⟩

/-- Over a run on typable events, everything sent is read as it is meant. -/
theorem Spoken.run
    {events : List (Event CppString)}
    {history : List (Event CppString × Effects CppString)}
    (spoken : Spoken client)
    (ran : run SIPClient.step client events = .ok (history, next))
    (typable : ∀ event ∈ events, Typable event) :
    Spoken next ∧
      ∀ entry ∈ history, ∀ text ∈ entry.2.sent, ReadFor entry.1 text := by
  induction events generalizing client history with
  | nil =>
      cases ran
      exact ⟨spoken, List.forall_mem_nil _⟩
  | cons event rest ih =>
      obtain ⟨effects, middle, later, stepped, restRan, rfl⟩ :=
        run_cons_ok_iff.mp ran
      obtain ⟨here, others⟩ := List.forall_mem_cons.mp typable
      obtain ⟨middleSpoken, read⟩ := spoken.step here stepped
      obtain ⟨nextSpoken, restRead⟩ := ih middleSpoken restRan others
      exact ⟨nextSpoken, List.forall_mem_cons.mpr ⟨read, restRead⟩⟩

/-- What a client does on typable events, and the texts that it sends. -/
abbrev TypableRun (client next : SIPClient CppString)
    (sent : List CppString) : Prop :=
  Produces SIPClient.step Effects.sent Typable client next sent

theorem typableRun_quiet
    (event : Event CppString) (result : List CppString × SIPClient CppString)
    (stepped : client.step event = .ok (quiet result))
    (typable : Typable event) :
    TypableRun client result.2 result.1 :=
  Produces.one event stepped typable

theorem Spoken.typableRun
    {sent : List CppString}
    (spoken : Spoken client) (ran : TypableRun client next sent) :
    Spoken next := by
  obtain ⟨events, history, clientRan, typable, -⟩ := ran
  exact (spoken.run clientRan typable).1

theorem solid_substr
    {text part : CppString} {start : Nat} {count : Option Nat}
    (solid : Solid text) (read : substr text start count = .ok part) :
    Solid part := by
  unfold MinimalSip.Lib.Cpp.substr at read
  split_ifs at read
  cases count with
  | none =>
      cases read
      exact solid.drop start
  | some count =>
      cases read
      exact (solid.drop start).take count

/-- The parts of a text without white space have none either. -/
theorem solid_splitLocal
    {registeredUser user domain : CppString}
    (solid : Solid registeredUser)
    (split : splitLocal registeredUser = .ok (user, domain)) :
    Solid user ∧ Solid domain := by
  unfold splitLocal at split
  dsimp only at split
  cases userRead : substr registeredUser 0 (find "@" registeredUser) with
  | error thrown =>
      rw [userRead] at split
      cases split
  | ok first =>
      cases domainRead : substr registeredUser
          (next (find "@" registeredUser)) none with
      | error thrown =>
          rw [userRead, ok_bind, domainRead] at split
          cases split
      | ok second =>
          rw [userRead, ok_bind, domainRead] at split
          cases split
          exact ⟨solid_substr solid userRead, solid_substr solid domainRead⟩

end SIPClient

namespace CliProgram

open SIPClient

variable {program next : CliProgram CppString} {sent : List CppString}

/-! ## The commands -/

/-- The operands that have been typed so far. -/
def PointTyped : CliPoint → Prop
  | .domain username => Word username
  | .calleeUsername fromUser fromDomain => Solid fromUser ∧ Solid fromDomain
  | .calleeDomain fromUser fromDomain toUser =>
      Solid fromUser ∧ Solid fromDomain ∧ Word toUser
  | _ => True

/-- A turn is a run of the client on typable events, and asks for words. -/
def Typing (program next : CliProgram CppString) (sent : List CppString) :
    Prop :=
  TypableRun program.client next.client sent ∧ PointTyped next.point ∧
    next.autoRegister = program.autoRegister

theorem typing_prompt
    (accept : CppString → CliProgram CppString →
      List CppString × CliProgram CppString)
    (accepts : ∀ word rest, Word word →
      Typing program (accept word { program with input := rest }).2
        (accept word { program with input := rest }).1) :
    Typing program (program.prompt accept).2 (program.prompt accept).1 := by
  unfold prompt
  dsimp only
  split_ifs with empty
  · exact ⟨Produces.refl _, trivial, rfl⟩
  · exact accepts _ _ ⟨empty, solid_extractWord program.input⟩

theorem typing_runCommand
    {command : CppString}
    (solid : Solid program.client.state.registeredUser)
    (atCommand : program.point = .command)
    (ran : program.runCommand command = .ok (sent, next)) :
    Typing program next sent := by
  have stays : PointTyped program.point := by
    rw [atCommand]
    trivial
  unfold runCommand at ran
  split_ifs at ran with asksUser exits calls unregistered hangsUp answers
    rejects
  · cases ran
    exact ⟨Produces.refl _, trivial, rfl⟩
  · cases ran
    exact ⟨Produces.refl _, trivial, rfl⟩
  · cases ran
    exact ⟨Produces.refl _, stays, rfl⟩
  · obtain ⟨⟨fromUser, fromDomain⟩, split⟩ :=
      splitLocal_total program.client.state.registeredUser
    rw [split, ok_bind] at ran
    cases ran
    exact ⟨Produces.refl _, solid_splitLocal solid split, rfl⟩
  · cases handled :
        (program.client.setPendingHeaders "BYE" []).handleBye with
    | error thrown =>
        rw [handled] at ran
        cases ran
    | ok result =>
        rw [handled] at ran
        cases ran
        have stepped : SIPClient.step program.client (.doBye []) =
            .ok (quiet result) := by
          rw [SIPClient.step, handled]
          rfl
        exact ⟨typableRun_quiet _ result stepped rfl, stays, rfl⟩
  · cases ran
    exact ⟨typableRun_quiet .doAnswer program.client.handleAnswer rfl trivial,
      stays, rfl⟩
  · cases ran
    exact ⟨typableRun_quiet .doReject program.client.handleReject rfl trivial,
      stays, rfl⟩
  · cases ran
    exact ⟨Produces.refl _, stays, rfl⟩

theorem typing_read
    {drawn : UInt64}
    (solid : Solid program.client.state.registeredUser)
    (typed : PointTyped program.point)
    (ran : program.read drawn = .ok (sent, next)) :
    Typing program next sent := by
  unfold read at ran
  cases stands : program.point with
  | command =>
      rw [stands] at ran
      dsimp only at ran
      unfold readCommand at ran
      split at ran
      · cases ran
        exact ⟨Produces.refl _, trivial, rfl⟩
      · rename_i line rest got
        dsimp only at ran
        split_ifs at ran with empty
        · cases ran
          refine ⟨Produces.refl _, ?_, rfl⟩
          rw [stands]
          trivial
        · have typing : Typing { program with input := rest } next sent :=
            typing_runCommand solid stands ran
          exact typing
  | username =>
      rw [stands] at ran
      have typing : Typing program _ _ := typing_prompt
        (fun username program =>
          ([], { program with point := .domain username }))
        (fun word rest isWord => ⟨Produces.refl _, isWord, rfl⟩)
      rwa [Except.ok.inj ran] at typing
  | domain username =>
      rw [stands] at ran typed
      have typing : Typing program _ _ := typing_prompt
        (fun domain program =>
          ((program.client.doRegister username domain []).1,
            { program with
              client := (program.client.doRegister username domain []).2
              point := .command }))
        (fun word rest isWord =>
          ⟨typableRun_quiet (.doRegister username word [])
            (program.client.doRegister username word []) rfl
            ⟨typed, isWord, rfl⟩, trivial, rfl⟩)
      rwa [Except.ok.inj ran] at typing
  | calleeUsername fromUser fromDomain =>
      rw [stands] at ran typed
      have typing : Typing program _ _ := typing_prompt
        (fun toUser program => ([], { program with
          point := .calleeDomain fromUser fromDomain toUser }))
        (fun word rest isWord =>
          ⟨Produces.refl _, ⟨typed.1, typed.2, isWord⟩, rfl⟩)
      rwa [Except.ok.inj ran] at typing
  | calleeDomain fromUser fromDomain toUser =>
      rw [stands] at ran typed
      have typing : Typing program _ _ := typing_prompt
        (fun toDomain program =>
          ((program.client.handleInvite drawn fromUser fromDomain toUser
            toDomain).1,
            { program with
              client := (program.client.handleInvite drawn fromUser
                fromDomain toUser toDomain).2
              point := .command }))
        (fun word rest isWord =>
          ⟨typableRun_quiet (.doInvite drawn fromUser fromDomain toUser word)
            (program.client.handleInvite drawn fromUser fromDomain toUser
              word) rfl ⟨typed.1, typed.2.1, typed.2.2, isWord⟩, trivial,
            rfl⟩)
      rwa [Except.ok.inj ran] at typing
  | exited =>
      rw [stands] at ran
      cases ran
      exact ⟨Produces.refl _, by rw [stands]; trivial, rfl⟩

/-! ## Every run -/

/-- What holds of the program between two events. -/
structure Typed (program : CliProgram CppString) : Prop where
  spoken : Spoken program.client
  point : PointTyped program.point
  given : ∀ username domain,
    program.autoRegister = some (username, domain) →
      Word username ∧ Word domain

theorem Typed.typing
    (typed : Typed program) (typing : Typing program next sent) :
    Typed next where
  spoken := typed.spoken.typableRun typing.1
  point := typing.2.1
  given := typing.2.2 ▸ typed.given

theorem Typed.step
    {event : CliEvent CppString}
    (typed : Typed program)
    (stepped : program.step event = .ok (sent, next)) :
    TypableRun program.client next.client sent ∧ Typed next := by
  cases event with
  | autoRegister =>
      rw [CliProgram.step] at stepped
      split at stepped
      · cases stepped
        exact ⟨Produces.refl _, typed⟩
      · rename_i username domain given
        cases stepped
        obtain ⟨user, host⟩ := typed.given username domain given
        have ran := typableRun_quiet (.doRegister username domain [])
          (program.client.doRegister username domain []) rfl
          ⟨user, host, rfl⟩
        exact ⟨ran, typed.spoken.typableRun ran, typed.point, nofun⟩
  | reads drawn =>
      rw [CliProgram.step] at stepped
      split_ifs at stepped
      · have typing := typing_read typed.spoken.user typed.point stepped
        exact ⟨typing.1, typed.typing typing⟩
      · cases stepped
        exact ⟨Produces.refl _, typed⟩
  | registerWaited =>
      cases stepped
      have ran := typableRun_quiet .registerWaited
        program.client.registerWaited rfl trivial
      exact ⟨ran, typed.spoken.typableRun ran, typed.point, typed.given⟩
  | received data =>
      rw [CliProgram.step] at stepped
      cases handled : program.client.onPacketReceived data with
      | error thrown =>
          rw [handled] at stepped
          cases stepped
      | ok result =>
          obtain ⟨effects, client⟩ := result
          rw [handled] at stepped
          cases stepped
          have received : SIPClient.step program.client (.received data) =
              .ok (effects, client) :=
            handled
          have ran : TypableRun program.client client effects.sent :=
            Produces.one _ received trivial
          exact ⟨ran, typed.spoken.typableRun ran, typed.point, typed.given⟩

/-- The client has come here on typable events and has sent these texts. -/
def Speaks (start : SIPClient CppString)
    (past : List (CliEvent CppString × List CppString))
    (program : CliProgram CppString) : Prop :=
  Typed program ∧ TypableRun start program.client (past.flatMap Prod.snd)

theorem Speaks.step
    {start : SIPClient CppString}
    {past : List (CliEvent CppString × List CppString)}
    {event : CliEvent CppString}
    (stepped : program.step event = .ok (sent, next))
    (speaks : Speaks start past program) :
    Speaks start (past ++ [(event, sent)]) next := by
  obtain ⟨typed, ran⟩ := speaks
  obtain ⟨goesOn, nextTyped⟩ := typed.step stepped
  have whole : TypableRun start next.client (past.flatMap Prod.snd ++ sent) :=
    Produces.trans ran goesOn
  exact ⟨nextTyped, by simpa using whole⟩

theorem spoken_initial
    {factory : SIPMessageFactory} (localIp : '\n' ∉ factory.localIp) :
    Spoken (SIPClient.initial factory false) where
  user := List.forall_mem_nil _
  headers := fun _ => rfl
  localIp := localIp
  registering := nofun

/-- Bob registers and calls alice. -/
def typedSession : List (CliEvent CppString) :=
  [.reads 1, .reads 2, .reads 3,
    .received "SIP/2.0 200 OK\r\nCSeq: 1 REGISTER\r\n\r\n".toList,
    .registerWaited, .reads 4, .reads 5, .reads 6]

end CliProgram

end MinimalSip.Client
