import MinimalSip.Client.CliHandler
import MinimalSip.Client.Notifications

/-!
# The command line comes to an end

The main thread reads a line, reads an operand, or waits for the reply to a
REGISTER.  A read shortens standard input or ends a prompt, and a registration
gives up after five attempts.  So one weight falls with every step of the main
thread, whatever packets come in between, and until the loop is left one of
these steps can be taken.
-/

namespace MinimalSip.Client

open MinimalSip.Lib.Cpp
open MinimalSip.Lib.Machine
open SIPClient

/-! ## What a read takes -/

theorem length_ignoreLine_le (input : CppString) :
    (ignoreLine input).length ≤ input.length := by
  have kept := (List.dropWhile_sublist (fun char => char ≠ '\n')
    (l := input)).length_le
  unfold ignoreLine
  rw [List.length_drop]
  omega

theorem getline_shortens
    {input line rest : CppString}
    (read : getline input = some (line, rest)) :
    rest.length < input.length := by
  unfold getline at read
  split_ifs at read with empty
  cases read
  have kept := (List.dropWhile_sublist (fun char => char ≠ '\n')
    (l := input)).length_le
  have nonempty := List.length_pos_iff.mpr empty
  unfold ignoreLine
  rw [List.length_drop]
  omega

theorem length_extractWord_le (input : CppString) :
    (extractWord input).2.length ≤ input.length := by
  have left := (List.dropWhile_sublist isSpace (l := input)).length_le
  exact (List.dropWhile_sublist _).length_le.trans left

theorem extractWord_shortens
    {input : CppString} (present : (extractWord input).1 ≠ []) :
    (extractWord input).2.length < input.length := by
  unfold extractWord at present ⊢
  dsimp only at present ⊢
  have kept := (List.dropWhile_sublist isSpace (l := input)).length_le
  cases text : input.dropWhile isSpace with
  | nil =>
      rw [text] at present
      exact absurd rfl present
  | cons first after =>
      have solid : isSpace first = false := by
        have head := List.head?_dropWhile_not isSpace input
        rw [text] at head
        simpa using head
      rw [text] at kept
      have dropped := (List.dropWhile_sublist (fun char => !isSpace char)
        (l := after)).length_le
      rw [List.dropWhile_cons_of_pos (by rw [solid]; rfl)]
      simp only [List.length_cons] at kept
      omega

/-! ## The weight of a program -/

/-- The returns of `wait_for_response` that a registration still waits for. -/
def SIPClient.waitsLeft {ω : Type} (client : SIPClient ω) : Nat :=
  match client.registration with
  | some registration => 1 + (maxAttempts - registration.attempts)
  | none => 0

/-- How many reads the point is away from the end of the loop, at least. -/
def CliPoint.weight : CliPoint → Nat
  | .exited => 0
  | .command => 1
  | .username | .domain _ | .calleeUsername _ _ | .calleeDomain _ _ _ => 2

theorem CliPoint.weight_le (point : CliPoint) : point.weight ≤ 2 := by
  cases point <;> simp [CliPoint.weight]

theorem CliPoint.weight_pos {point : CliPoint} (inside : point ≠ .exited) :
    0 < point.weight := by
  cases point with
  | exited => exact absurd rfl inside
  | _ => simp [CliPoint.weight]

namespace SIPClient

variable {ω : Type} [Wire ω]

theorem waitsLeft_doRegister_le
    (client : SIPClient ω) (username domain extraHeaders : CppString) :
    (client.doRegister username domain extraHeaders).2.waitsLeft ≤
      client.waitsLeft + maxAttempts := by
  unfold doRegister
  split
  · exact Nat.le_add_right _ _
  · exact Nat.le_add_left _ _

theorem waitsLeft_registerWaited_lt
    {client : SIPClient ω} (registering : client.registration ≠ none) :
    client.registerWaited.2.waitsLeft < client.waitsLeft := by
  unfold registerWaited waitsLeft
  cases waiting : client.registration with
  | none => exact absurd waiting registering
  | some registration =>
      dsimp only
      split_ifs with again
      · dsimp only
        omega
      · dsimp only
        omega

omit [Wire ω] in
theorem ChangesCall.waitsLeft
    {client next : SIPClient ω} (changes : ChangesCall client next) :
    next.waitsLeft = client.waitsLeft := by
  unfold SIPClient.waitsLeft
  rw [changes.registration]

theorem onPacketReceived_waitsLeft
    {client next : SIPClient ω} {data : ω} {effects : Effects ω}
    (handled : client.onPacketReceived data = .ok (effects, next)) :
    next.waitsLeft = client.waitsLeft := by
  obtain ⟨messaged, -⟩ := onPacketReceived_ok_iff.mp handled
  obtain ⟨reply, kept⟩ := handleReceive_eq client data
  rw [kept] at messaged
  exact (onMessage_changesCall messaged).waitsLeft

theorem handleBye_total (client : SIPClient ω) :
    ∃ result, client.handleBye = .ok result := by
  obtain ⟨parts, split⟩ := splitLocal_total client.state.registeredUser
  unfold handleBye
  rw [split]
  split_ifs
  · exact ⟨_, rfl⟩
  · exact ⟨_, rfl⟩

end SIPClient

namespace CliProgram

variable {ω : Type} [Wire ω] {program next : CliProgram ω} {sent : List ω}

omit [Wire ω] in
/--
A read counts for one registration and all of its waits; the automatic
registration counts for as much.
-/
def weight (program : CliProgram ω) : Nat :=
  (maxAttempts + 1) * (2 * program.input.length + program.point.weight +
    if program.autoRegister.isSome then 1 else 0) + program.client.waitsLeft

/-! ## One turn -/

/-- What a turn does to the weight, once it has read. -/
structure Turn (program next : CliProgram ω) : Prop where
  input : next.input = program.input
  autoRegister : next.autoRegister = program.autoRegister
  waits : next.client.waitsLeft ≤ program.client.waitsLeft + maxAttempts

omit [Wire ω] in
theorem Turn.weight_lt
    {rest : CppString} (turn : Turn { program with input := rest } next)
    (shorter : rest.length < program.input.length)
    (inside : program.point ≠ .exited) :
    next.weight < program.weight := by
  have here := CliPoint.weight_pos inside
  have there := next.point.weight_le
  have waits := turn.waits
  unfold weight
  rw [turn.input, turn.autoRegister]
  dsimp only at waits ⊢
  simp only [maxAttempts] at waits ⊢
  omega

omit [Wire ω] in
theorem Turn.of_changesCall
    {client : SIPClient ω} (changes : ChangesCall program.client client) :
    Turn program { program with client := client } :=
  ⟨rfl, rfl, changes.waitsLeft.trans_le (Nat.le_add_right _ _)⟩

theorem turn_runCommand
    {command : CppString}
    (ran : program.runCommand command = .ok (sent, next)) :
    Turn program next := by
  have same : program.client.waitsLeft ≤
      program.client.waitsLeft + maxAttempts := Nat.le_add_right _ _
  unfold runCommand at ran
  split_ifs at ran with asksUser exits calls unregistered hangsUp answers
    rejects
  · cases ran
    exact ⟨rfl, rfl, same⟩
  · cases ran
    exact ⟨rfl, rfl, same⟩
  · cases ran
    exact ⟨rfl, rfl, same⟩
  · obtain ⟨parts, split⟩ :=
      splitLocal_total program.client.state.registeredUser
    rw [split] at ran
    cases ran
    exact ⟨rfl, rfl, same⟩
  · cases ended : (program.client.setPendingHeaders "BYE" []).handleBye with
    | error thrown =>
        rw [ended] at ran
        cases ran
    | ok result =>
        rw [ended] at ran
        cases ran
        have changes := handleBye_changesCall ended
        exact ⟨rfl, rfl, changes.waitsLeft.trans_le same⟩
  · cases ran
    exact .of_changesCall (handleAnswer_changesCall program.client)
  · cases ran
    exact .of_changesCall (handleReject_changesCall program.client)
  · cases ran
    exact ⟨rfl, rfl, same⟩

omit [Wire ω] in
/-- A prompt that gets no word gives up, and one that gets a word goes on. -/
theorem weight_prompt_lt
    {accept : CppString → CliProgram ω → List ω × CliProgram ω}
    (answered : program.prompt accept = (sent, next))
    (asking : program.point.weight = 2)
    (accepts : ∀ word rest,
      Turn { program with input := rest }
        (accept word { program with input := rest }).2) :
    next.weight < program.weight := by
  unfold prompt at answered
  dsimp only at answered
  split_ifs at answered with empty
  · cases answered
    have kept := length_ignoreLine_le (extractWord program.input).2
    have read := length_extractWord_le program.input
    unfold weight
    rw [asking]
    dsimp only [CliPoint.weight]
    simp only [maxAttempts]
    omega
  · have inside : program.point ≠ .exited := by
      intro exited
      rw [exited] at asking
      cases asking
    have turn := accepts (extractWord program.input).1
      (ignoreLine (extractWord program.input).2)
    rw [answered] at turn
    exact turn.weight_lt
      ((length_ignoreLine_le _).trans_lt (extractWord_shortens empty)) inside

theorem weight_readCommand_lt
    (atCommand : program.point = .command)
    (ran : program.readCommand = .ok (sent, next)) :
    next.weight < program.weight := by
  have inside : program.point ≠ .exited := by
    rw [atCommand]
    exact CliPoint.noConfusion
  unfold readCommand at ran
  cases line : getline program.input with
  | none =>
      rw [line] at ran
      cases ran
      unfold weight
      rw [atCommand]
      dsimp only [CliPoint.weight]
      simp only [maxAttempts]
      omega
  | some read =>
      obtain ⟨text, rest⟩ := read
      rw [line] at ran
      dsimp only at ran
      split_ifs at ran with empty
      · cases ran
        exact Turn.weight_lt ⟨rfl, rfl, Nat.le_add_right _ _⟩
          (getline_shortens line) inside
      · exact (turn_runCommand ran).weight_lt (getline_shortens line) inside

theorem weight_read_lt
    {drawn : UInt64} (inside : program.point ≠ .exited)
    (ran : program.read drawn = .ok (sent, next)) :
    next.weight < program.weight := by
  unfold read at ran
  cases point : program.point with
  | command =>
      rw [point] at ran
      exact weight_readCommand_lt point ran
  | username =>
      rw [point] at ran
      exact weight_prompt_lt (Except.ok.inj ran) (by rw [point]; rfl)
        fun word rest => ⟨rfl, rfl, Nat.le_add_right _ _⟩
  | domain username =>
      rw [point] at ran
      exact weight_prompt_lt (Except.ok.inj ran) (by rw [point]; rfl)
        fun word rest => ⟨rfl, rfl, waitsLeft_doRegister_le program.client username word []⟩
  | calleeUsername fromUser fromDomain =>
      rw [point] at ran
      exact weight_prompt_lt (Except.ok.inj ran) (by rw [point]; rfl)
        fun word rest => ⟨rfl, rfl, Nat.le_add_right _ _⟩
  | calleeDomain fromUser fromDomain toUser =>
      rw [point] at ran
      exact weight_prompt_lt (Except.ok.inj ran) (by rw [point]; rfl)
        fun word rest => ⟨rfl, rfl, (handleInvite_changesCall program.client drawn fromUser
          fromDomain toUser word).waitsLeft.trans_le (Nat.le_add_right _ _)⟩
  | exited => exact absurd point inside

theorem read_total (program : CliProgram ω) (drawn : UInt64) :
    ∃ result, program.read drawn = .ok result := by
  unfold read
  cases program.point with
  | command =>
      dsimp only
      unfold readCommand
      cases getline program.input with
      | none => exact ⟨_, rfl⟩
      | some read =>
          dsimp only
          split_ifs with empty
          · exact ⟨_, rfl⟩
          · unfold runCommand
            split_ifs
            · exact ⟨_, rfl⟩
            · exact ⟨_, rfl⟩
            · exact ⟨_, rfl⟩
            · obtain ⟨parts, split⟩ :=
                splitLocal_total program.client.state.registeredUser
              rw [split]
              exact ⟨_, rfl⟩
            · obtain ⟨result, ended⟩ :=
                handleBye_total (program.client.setPendingHeaders "BYE" [])
              rw [ended]
              exact ⟨_, rfl⟩
            · exact ⟨_, rfl⟩
            · exact ⟨_, rfl⟩
            · exact ⟨_, rfl⟩
  | _ => exact ⟨_, rfl⟩

/-! ## Every run -/

omit [Wire ω] in
/-- A step of the main thread, and not of the one that receives. -/
def isMain : CliEvent ω → Bool
  | .received _ => false
  | _ => true

omit [Wire ω] in
/-- The main thread has come to this step. -/
def Reached (program : CliProgram ω) : CliEvent ω → Prop
  | .autoRegister => program.autoRegister ≠ none
  | .reads _ =>
      program.autoRegister = none ∧ program.client.registration = none ∧
        program.point ≠ .exited
  | .registerWaited => program.client.registration ≠ none
  | .received _ => True

/-- Every step of the main thread lowers the weight, no packet raises it. -/
theorem weight_step
    {event : CliEvent ω}
    (stepped : program.step event = .ok (sent, next))
    (reached : Reached program event) :
    next.weight + (if isMain event then 1 else 0) ≤ program.weight := by
  cases event with
  | autoRegister =>
      cases given : program.autoRegister with
      | none => exact absurd given reached
      | some names =>
          obtain ⟨username, domain⟩ := names
          simp only [step, given] at stepped
          cases stepped
          have waits :=
            waitsLeft_doRegister_le program.client username domain []
          change weight _ + 1 ≤ weight _
          unfold weight
          dsimp only
          rw [given, if_pos Option.isSome_some, Option.isSome_none,
            if_neg Bool.false_ne_true]
          simp only [maxAttempts] at waits ⊢
          omega
  | reads drawn =>
      obtain ⟨done, idle, inside⟩ := reached
      simp only [step, done, idle, Option.isNone_none, Bool.and_self,
        if_true] at stepped
      exact weight_read_lt inside stepped
  | registerWaited =>
      have fewer := waitsLeft_registerWaited_lt reached
      have after : { program with client := program.client.registerWaited.2 } =
          next := congrArg Prod.snd (Except.ok.inj stepped)
      rw [← after]
      change weight _ + 1 ≤ weight _
      unfold weight
      dsimp only
      omega
  | received data =>
      cases handled : program.client.onPacketReceived data with
      | error thrown =>
          rw [step, handled] at stepped
          cases stepped
      | ok result =>
          obtain ⟨effects, client⟩ := result
          rw [step, handled] at stepped
          cases stepped
          have same := onPacketReceived_waitsLeft handled
          change weight _ + 0 ≤ weight _
          unfold weight
          rw [same]
          exact le_rfl

/-- Until the loop is left, the main thread has come to a step. -/
theorem exists_reached (inside : program.point ≠ .exited) :
    ∃ event result, isMain event = true ∧ Reached program event ∧
      program.step event = .ok result := by
  cases given : program.autoRegister with
  | some names =>
      have stepped : ∃ result, program.step .autoRegister = .ok result := by
        rw [step, given]
        exact ⟨_, rfl⟩
      obtain ⟨result, stepped⟩ := stepped
      refine ⟨.autoRegister, result, rfl, ?_, stepped⟩
      rw [Reached, given]
      exact Option.some_ne_none names
  | none =>
      cases waiting : program.client.registration with
      | some registration =>
          refine ⟨.registerWaited, _, rfl, ?_, rfl⟩
          rw [Reached, waiting]
          exact Option.some_ne_none registration
      | none =>
          obtain ⟨result, ran⟩ := program.read_total 0
          refine ⟨.reads 0, result, rfl, ⟨given, waiting, inside⟩, ?_⟩
          simp only [step, given, waiting, Option.isNone_none, Bool.and_self,
            if_true]
          exact ran

/--
The command line comes to an end.  In every run, whatever is typed and
whenever packets come in, the main thread takes at most twelve steps for each
character on standard input and twelve more, and until it has left its loop it
can take another one, which does not throw.
-/
theorem commandLine_ends
    (factory : SIPMessageFactory) (input : CppString)
    (autoRegister : Option (CppString × CppString))
    {events : List (CliEvent ω)}
    {history : List (CliEvent ω × List ω)} {final : CliProgram ω}
    (ran : run step (initial factory input autoRegister) events =
      .ok (history, final))
    (inTurn : Along step Reached (initial factory input autoRegister)
      events) :
    events.countP isMain ≤ 12 * input.length + 12 ∧
    (final.point ≠ .exited →
      ∃ event result, isMain event = true ∧ Reached final event ∧
        final.step event = .ok result) := by
  refine ⟨?_, exists_reached⟩
  have bounded : (initial (ω := ω) factory input autoRegister).weight ≤
      12 * input.length + 12 := by
    unfold weight initial SIPClient.initial SIPClient.waitsLeft
    dsimp only [CliPoint.weight]
    simp only [maxAttempts]
    split_ifs
    · omega
    · omega
  have spent : ∀ {budget : Nat} {program : CliProgram ω} {event output next},
      step program event = .ok (output, next) → Reached program event →
        program.weight ≤ budget →
          ∃ left, next.weight ≤ left ∧
            left + (if isMain event then 1 else 0) ≤ budget := by
    intro budget program event output next stepped reached enough
    exact ⟨_, le_rfl, (weight_step stepped reached).trans enough⟩
  exact run_countP_le spent ran inTurn bounded

/-- A client that registers nobody. -/
def idleProgram : CliProgram CppString :=
  initial (SIPMessageFactory.create "10.0.0.2" 5080 7)
    "status\nexit\n".toList none

theorem commandLine_ends_idle :
    ∃ history final,
      run step idleProgram [.reads 0, .reads 0] = .ok (history, final) ∧
      2 ≤ 12 * "status\nexit\n".toList.length + 12 ∧
      (final.point ≠ .exited →
        ∃ event result, isMain event = true ∧ Reached final event ∧
          final.step event = .ok result) := by
  have first : idleProgram.step (.reads 0) =
      .ok ([], { idleProgram with input := "exit\n".toList }) := rfl
  have second :
      step { idleProgram with input := "exit\n".toList } (.reads 0) =
        .ok ([], { idleProgram with input := [], point := .exited }) := rfl
  have ran : run step idleProgram [.reads 0, .reads 0] =
      .ok ([(.reads 0, []), (.reads 0, [])],
        { idleProgram with input := [], point := .exited }) :=
    run_cons_ok_iff.mpr ⟨_, _, _, first,
      run_cons_ok_iff.mpr ⟨_, _, _, second, rfl, rfl⟩, rfl⟩
  have inTurn : Along step Reached idleProgram [.reads 0, .reads 0] := by
    refine ⟨⟨rfl, rfl, CliPoint.noConfusion⟩, ?_⟩
    intro output middle stepped
    cases first.symm.trans stepped
    exact ⟨⟨rfl, rfl, CliPoint.noConfusion⟩, fun _ _ _ => trivial⟩
  exact ⟨_, _, ran, commandLine_ends (SIPMessageFactory.create "10.0.0.2"
    5080 7) "status\nexit\n".toList none ran inTurn⟩

end CliProgram

end MinimalSip.Client
