import MinimalSip.Client.Notifications
import Mathlib.Data.List.DropRight

/-!
# The window

`MainWindow` shows the state of the client and offers its actions as buttons;
`HeaderInjectionWidget`, at its foot, holds the extra headers that the user
has typed for each kind of message.

A text field holds a `CppString` like everything else.  What a widget looks
like, and where it stands, is left out.
-/

namespace MinimalSip.Ui

open MinimalSip.Lib.Cpp
open MinimalSip.Lib.Search
open MinimalSip.Client

/-! ## Texts -/

/-- `QChar::isSpace` -/
def isQtSpace (char : Char) : Bool :=
  let code := char.toNat
  code = 0x20 || (0x09 ≤ code && code ≤ 0x0d) || code = 0x85 ||
    code = 0xa0 || code = 0x1680 || (0x2000 ≤ code && code ≤ 0x200a) ||
    code = 0x2028 || code = 0x2029 || code = 0x202f || code = 0x205f ||
    code = 0x3000

/-- `QString::trimmed` -/
def trimmed (text : CppString) : CppString :=
  (text.dropWhile isQtSpace).rdropWhile isQtSpace

/-! ## The extra headers -/

structure HeaderInjectionWidget where
  toggle : Bool := false
  editors : CppString → CppString := fun _ => []

namespace HeaderInjectionWidget

def methods : List CppString :=
  ["REGISTER".toList, "INVITE".toList, "ACK".toList, "BYE".toList,
    "100".toList, "180".toList, "200".toList]

def headersFor (widget : HeaderInjectionWidget) (method : CppString) :
    CppString :=
  if methods.contains method then trimmed (widget.editors method) else []

def isEnabled (widget : HeaderInjectionWidget) : Bool :=
  widget.toggle

def setPlainText (widget : HeaderInjectionWidget)
    (method text : CppString) : HeaderInjectionWidget :=
  { widget with
    editors := fun other =>
      if other = method then text else widget.editors other }

/-- What the handlers for the user's actions put into a message. -/
def injected (widget : HeaderInjectionWidget) (method : CppString) :
    CppString :=
  if widget.isEnabled then widget.headersFor method else []

end HeaderInjectionWidget

/-! ## The window -/

/-- Which of the call buttons are enabled. -/
structure Buttons where
  call : Bool := false
  hangup : Bool := false
  answer : Bool := false
  reject : Bool := false
deriving DecidableEq, Repr

/-- The callee can be edited exactly if the call section is not locked. -/
structure MainWindow where
  registered : Bool := false
  statusLabel : CppString := "Not registered"
  callIdLabel : CppString := []
  usernameEdit : CppString := []
  domainEdit : CppString := []
  registerEnabled : Bool := true
  calleeEdit : CppString := []
  callSectionLocked : Bool := true
  buttons : Buttons := {}
  headerInjection : HeaderInjectionWidget := {}

/-- A message box. -/
inductive Dialog (ω : Type) where
  | warning (title text : CppString)
  | information (title : CppString) (text : ω)

namespace MainWindow

variable {ω : Type}

/-- The buttons for a state, which `update_button_states` sets. -/
def buttonsFor (registered : Bool) (state : SIPClientStateManager) :
    Buttons :=
  let idle := state.state = .registered
  let inCall := state.state = .inCall
  let incoming := state.state = .ringing && state.activeCallId ≠ [] &&
    state.isIncomingCall
  { call := registered && idle
    hangup := registered && inCall
    answer := registered && incoming
    reject := registered && incoming }

def updateButtonStates (window : MainWindow)
    (state : SIPClientStateManager) : MainWindow :=
  { window with buttons := buttonsFor window.registered state }

def setCallSectionLocked (window : MainWindow) (locked : Bool) :
    MainWindow :=
  { window with callSectionLocked := locked }

/-- The user as the two fields have it. -/
def userText (window : MainWindow) : CppString :=
  trimmed window.usernameEdit ++ "@".toList ++ trimmed window.domainEdit

/-- The label of a registered user. -/
def registeredText (window : MainWindow) : CppString :=
  "✓ Registered as ".toList ++ window.userText

/-! ## Slots for the client's notifications -/

def onRegisterResponse (window : MainWindow)
    (state : SIPClientStateManager) (success : Bool) (rawMessage : ω) :
    Option (Dialog ω) × MainWindow :=
  let window := { window with registerEnabled := true }
  if success then
    let window := { window with
      registered := true
      statusLabel := window.registeredText }
    (none, (window.setCallSectionLocked false).updateButtonStates state)
  else
    (some (.information "SIP Response" rawMessage),
      { window with statusLabel := "✗ Registration failed" })

/-- The text without a leading `sip:`. -/
def displayUri (remoteUri : CppString) : CppString :=
  if "SIP:".toList.isPrefixOf (toUpper remoteUri) then remoteUri.drop 4
  else remoteUri

def onCallStateChanged (window : MainWindow)
    (current : SIPClientStateManager) (state callId remoteUri : CppString) :
    MainWindow :=
  let atRest := state = "Idle".toList || state = "Registered".toList
  let window :=
    if window.registered then
      { window with
        statusLabel := if atRest then window.registeredText else state }
    else window
  let window := { window with
    callIdLabel :=
      if atRest || callId = [] then []
      else "[".toList ++ callId ++ "]".toList }
  let window :=
    if remoteUri = [] then window
    else { window with calleeEdit := displayUri remoteUri }
  window.updateButtonStates current

def onIncomingCall (window : MainWindow) (state : SIPClientStateManager)
    (callId caller : CppString) : MainWindow :=
  { window with
    statusLabel := "Incoming call from ".toList ++ caller
    callIdLabel := "[".toList ++ callId ++ "]".toList
  }.updateButtonStates state

def onCallError (window : MainWindow) (state : SIPClientStateManager)
    (code : Int) (reason : CppString) : Option (Dialog ω) × MainWindow :=
  let message := "Call failed ".toList ++ stdToString code ++
    ": ".toList ++ reason
  let window := { window with
    statusLabel := "✗ ".toList ++ message }.updateButtonStates state
  if code = 404 then
    (some (.warning "Call Failed" "User does not exist."), window)
  else if code = 486 then
    (some (.warning "Call Failed" "User is busy."), window)
  else (none, window)

end MainWindow

end MinimalSip.Ui
