import MinimalSip.Client.SipClient

/-!
# The command line

`CLIHandler` reads commands from standard input, one a line, and asks for the
operands of `register` and `call` with prompts of their own.  While it waits
for input, or `do_register` blocks it, packets keep coming in.

Standard input is the text that is still to be read.  Reading fails at its end
only, where every later read fails as well, so the flags of the stream add
nothing to the text.  What is printed is left out, and so is the time that
`sleep` takes.
-/

namespace MinimalSip.Client

open MinimalSip.Lib.Cpp

/-! ## Standard input -/

/-- `stream >> word`: the next word, empty at the end, and what follows it. -/
def extractWord (input : CppString) : CppString × CppString :=
  let input := input.dropWhile isSpace
  (input.takeWhile (fun char => !isSpace char),
    input.dropWhile (fun char => !isSpace char))

/-- `ignore(max, '\n')` -/
def ignoreLine (input : CppString) : CppString :=
  (input.dropWhile (fun char => char ≠ '\n')).drop 1

/-- `std::getline`, which fails if nothing is left. -/
def getline (input : CppString) : Option (CppString × CppString) :=
  if input = [] then none
  else some (input.takeWhile (fun char => char ≠ '\n'), ignoreLine input)

/-- A text without white space. -/
def Solid (text : CppString) : Prop :=
  ∀ char ∈ text, isSpace char = false

/-- What a prompt accepts. -/
structure Word (text : CppString) : Prop where
  nonempty : text ≠ []
  solid : Solid text

theorem solid_extractWord (input : CppString) :
    Solid (extractWord input).1 := by
  intro char member
  simpa using List.mem_takeWhile_imp member

theorem Solid.take {text : CppString} (solid : Solid text) (count : Nat) :
    Solid (text.take count) :=
  fun char member => solid char (List.mem_of_mem_take member)

theorem Solid.drop {text : CppString} (solid : Solid text) (count : Nat) :
    Solid (text.drop count) :=
  fun char member => solid char (List.mem_of_mem_drop member)

theorem Solid.unbroken {text : CppString} (solid : Solid text) :
    '\n' ∉ text := by
  intro member
  have space := solid '\n' member
  revert space
  decide

/-! ## The commands -/

/-- Where the loop stands: at a command, or at one of the prompts. -/
inductive CliPoint where
  | command
  | username
  | domain (username : CppString)
  | calleeUsername (fromUser fromDomain : CppString)
  | calleeDomain (fromUser fromDomain toUser : CppString)
  | exited

/-- The program without a window. -/
structure CliProgram (ω : Type) where
  client : SIPClient ω
  input : CppString
  point : CliPoint := .command
  autoRegister : Option (CppString × CppString) := none

/-- What can happen to it. -/
inductive CliEvent (ω : Type) where
  | autoRegister
  | reads (drawn : UInt64)
  | registerWaited
  | received (data : ω)

namespace CliProgram

variable {ω : Type} [Wire ω]

/-- `prompt`, with the point that a word leads to. -/
def prompt (program : CliProgram ω)
    (accept : CppString → CliProgram ω → List ω × CliProgram ω) :
    List ω × CliProgram ω :=
  let (word, rest) := extractWord program.input
  let program := { program with input := ignoreLine rest }
  if word = [] then ([], { program with point := .command })
  else accept word program

/-- The commands that end at once, on the line after the prompt. -/
def runCommand (program : CliProgram ω) (command : CppString) :
    Except StdException (List ω × CliProgram ω) :=
  if command = "register".toList then
    .ok ([], { program with point := .username })
  else if command = "exit".toList ∨ command = "quit".toList then
    .ok ([], { program with point := .exited })
  else if command = "call".toList then
    if program.client.state.registeredUser = [] then .ok ([], program)
    else do
      let (fromUser, fromDomain) ←
        SIPClient.splitLocal program.client.state.registeredUser
      pure ([],
        { program with point := .calleeUsername fromUser fromDomain })
  else if command = "hangup".toList then do
    let (sent, client) ←
      (program.client.setPendingHeaders "BYE" []).handleBye
    pure (sent, { program with client := client })
  else if command = "answer".toList then
    let (sent, client) := program.client.handleAnswer
    .ok (sent, { program with client := client })
  else if command = "reject".toList then
    let (sent, client) := program.client.handleReject
    .ok (sent, { program with client := client })
  else
    -- `status`, `sleep`, `help` and unknown commands leave the client alone
    .ok ([], program)

def readCommand (program : CliProgram ω) :
    Except StdException (List ω × CliProgram ω) :=
  match getline program.input with
  | none => .ok ([], { program with point := .exited })
  | some (line, rest) =>
      let program := { program with input := rest }
      let command := (extractWord line).1
      if command = [] then .ok ([], program)
      else program.runCommand command

/-- One turn of `run`, up to the next read. -/
def read (program : CliProgram ω) (drawn : UInt64) :
    Except StdException (List ω × CliProgram ω) :=
  match program.point with
  | .command => program.readCommand
  | .username => .ok (program.prompt fun username program =>
      ([], { program with point := .domain username }))
  | .domain username => .ok (program.prompt fun domain program =>
      let (sent, client) := program.client.doRegister username domain []
      (sent, { program with client := client, point := .command }))
  | .calleeUsername fromUser fromDomain =>
      .ok (program.prompt fun toUser program =>
        ([], { program with
          point := .calleeDomain fromUser fromDomain toUser }))
  | .calleeDomain fromUser fromDomain toUser =>
      .ok (program.prompt fun toDomain program =>
        let (sent, client) := program.client.handleInvite drawn fromUser
          fromDomain toUser toDomain
        (sent, { program with client := client, point := .command }))
  | .exited => .ok ([], program)

/-- The output is what the client sends. -/
def step (program : CliProgram ω) :
    CliEvent ω → Except StdException (List ω × CliProgram ω)
  | .autoRegister =>
      match program.autoRegister with
      | none => .ok ([], program)
      | some (username, domain) =>
          let (sent, client) := program.client.doRegister username domain []
          .ok (sent, { program with client := client, autoRegister := none })
  | .reads drawn =>
      if program.autoRegister.isNone &&
          program.client.registration.isNone then program.read drawn
      else .ok ([], program)
  | .registerWaited =>
      let (sent, client) := program.client.registerWaited
      .ok (sent, { program with client := client })
  | .received data => do
      let (effects, client) ← program.client.onPacketReceived data
      pure (effects.sent, { program with client := client })

/-- The program once the transport is started. -/
def initial (factory : SIPMessageFactory) (input : CppString)
    (autoRegister : Option (CppString × CppString)) : CliProgram ω where
  client := SIPClient.initial factory false
  input := input
  autoRegister := autoRegister

end CliProgram

end MinimalSip.Client
