import GuestBridge.Capability
/-!
What a page offers to a guest: a console, a document of elements and a clipboard.
-/

set_option autoImplicit false

namespace GuestBridge.Host.Page

/-- The argument at a position; a missing one is `undefined`. -/
def argument (args : List Value) (i : Nat) : Value := args.getD i .undefined

/-- The argument as text; anything else counts as empty text. -/
def textArgument (args : List Value) (i : Nat) : String := ((argument args i).asString?).getD ""

/-- The argument as an element. -/
def elementArgument (args : List Value) (i : Nat) : HostCall Nat :=
  match (argument args i).asElement? with
  | some e => return e
  | none => throw ((argument args i).notA "an element")

def logTo (level : ConsoleLevel) (args : List Value) : HostCall Value := do
  let entries ← HostCall.facility .console #[]
  HostCall.setFacility .console (entries.push (level, textArgument args 0))
  return .undefined

/-- The body of the document, which is made when it is first asked for. -/
def bodyElement : HostCall Nat := do
  match (← get).extensions.get? .document with
  | some body => return body
  | none =>
    let body ← HostCall.inRealm (·.newElement "body")
    HostCall.setFacility .document body
    return body

def body (_ : List Value) : HostCall Value := do
  HostCall.sharing (.element (← bodyElement))

/-- A letter, then letters, digits and hyphens, all of them ASCII. -/
def isTagName (tag : String) : Bool :=
  match tag.toList with
  | [] => false
  | c :: rest => c.isAlpha && rest.all fun c => c.isAlphanum || c == '-'

def createElement (args : List Value) : HostCall Value := do
  let tag := textArgument args 0
  if isTagName tag then return .element (← HostCall.inRealm (·.newElement tag))
  throw ⟨"InvalidCharacterError", "The tag name provided ('" ++ tag ++ "') is not a valid name."⟩

/-- Only elements connected to the body are found, and none by the empty id. -/
def getElementById (args : List Value) : HostCall Value := do
  let body ← bodyElement
  let id := textArgument args 0
  if id.isEmpty then return .null
  match (← HostCall.getRealm).elements.findById body id with
  | some e => HostCall.sharing (.element e)
  | none => return .null

def setElementId (args : List Value) : HostCall Value := do
  let e ← elementArgument args 0
  HostCall.changeRealm fun r => { r with elements := r.elements.setId e (textArgument args 1) }
  return .undefined

/-- Replaces the content of an element by text and lets go of its former children. -/
def replaceContent (r : Realm) (e : Nat) (text : String) : Realm :=
  let (elements, children) := r.elements.setText e text
  { r with elements := elements }.run (children.map fun c => .letGo (.element c))

def setTextContent (args : List Value) : HostCall Value := do
  let e ← elementArgument args 0
  HostCall.changeRealm (replaceContent · e (textArgument args 1))
  return .undefined

def textContent (args : List Value) : HostCall Value := do
  let e ← elementArgument args 0
  return .string ((← HostCall.getRealm).elements.textContent e)

def appendChild (args : List Value) : HostCall Value := do
  let parent ← elementArgument args 0
  let child ← elementArgument args 1
  match (← HostCall.getRealm).elements.append parent child with
  | .ok elements =>
    HostCall.changeRealm fun r => { r with elements := elements }
    HostCall.sharing (.element child)
  | .error failure => throw failure

def childCount (args : List Value) : HostCall Value := do
  let e ← elementArgument args 0
  return .number (Double.ofNat ((← HostCall.getRealm).elements.get e).children.length)

def tagName (args : List Value) : HostCall Value := do
  let e ← elementArgument args 0
  return .string ((← HostCall.getRealm).elements.get e).tag

def emptyClipboard : Clipboard := ⟨"", false⟩

def clipboardDenied : Promise :=
  .settled (.rejected ⟨"NotAllowedError", "Clipboard access denied"⟩)

def writeClipboard (args : List Value) : HostCall Value := do
  let clipboard ← HostCall.facility .clipboard emptyClipboard
  if clipboard.denied then HostCall.newPromise clipboardDenied
  else
    HostCall.setFacility .clipboard { clipboard with text := textArgument args 0 }
    HostCall.newPromise (.settled (.fulfilled .undefined))

def readClipboard (_ : List Value) : HostCall Value := do
  let clipboard ← HostCall.facility .clipboard emptyClipboard
  HostCall.newPromise
    (if clipboard.denied then clipboardDenied
    else .settled (.fulfilled (.string clipboard.text)))

def capabilities : List Capability := [
  ⟨"console_log", [.text], .unit, false, logTo .log⟩,
  ⟨"console_warn", [.text], .unit, false, logTo .warn⟩,
  ⟨"console_error", [.text], .unit, false, logTo .error⟩,
  ⟨"document_body", [], .handle, false, body⟩,
  ⟨"document_create_element", [.text], .handle, true, createElement⟩,
  ⟨"document_get_element_by_id", [.text], .optionalHandle, false, getElementById⟩,
  ⟨"element_set_id", [.handle, .text], .unit, false, setElementId⟩,
  ⟨"element_set_text_content", [.handle, .text], .unit, false, setTextContent⟩,
  ⟨"element_text_content", [.handle], .text, false, textContent⟩,
  ⟨"element_append_child", [.handle, .handle], .handle, true, appendChild⟩,
  ⟨"element_child_count", [.handle], .i32, false, childCount⟩,
  ⟨"element_tag_name", [.handle], .text, false, tagName⟩,
  ⟨"clipboard_write_text", [.text], .handle, false, writeClipboard⟩,
  ⟨"clipboard_read_text", [], .handle, false, readClipboard⟩]

end GuestBridge.Host.Page
